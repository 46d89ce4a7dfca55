import EntityForge.Json.Writer
import EntityForge.Log.Event

/-!
# Log lines

An event is written as a line of text or as a line of JSON, each after the time of the event. In a
line of text the characters that steer a terminal are spelled out, so that a message cannot do more
than be read; JSON has its own way to spell them.
-/

set_option autoImplicit false

namespace EntityForge.Event

/-- The hexadecimal digits of a number below 256. -/
def hexPair (n : Nat) : List Char :=
  [Nat.digitChar (n / 16), Nat.digitChar (n % 16)]

/-- A character of a message; a character that steers a terminal is spelled out. -/
def visibleChar (c : Char) : List Char :=
  if c ∈ ['\x1b', '\x07', '\x08', '\x0c', '\x7f'] then '\\' :: 'x' :: hexPair c.toNat
  else if 0x80 ≤ c.toNat ∧ c.toNat ≤ 0x9f then
    '\\' :: 'u' :: '\x7b' :: (hexPair c.toNat ++ ['\x7d'])
  else [c]

/-- A message with the characters spelled out that steer a terminal. -/
def visible (message : String) : String := String.ofList (message.toList.flatMap visibleChar)

/-- A level's name, padded on the left to the longest one. -/
def levelColumn (level : Level) : String :=
  String.ofList (List.replicate (5 - level.name.length) ' ') ++ level.name

/-- An event as a line of text. -/
def textLine (time : String) (event : Event) : String :=
  time ++ " " ++ levelColumn event.level ++ " " ++ visible event.message ++ "\n"

/-- An event as JSON. -/
def toJson (time : String) (event : Event) : Json :=
  .object [("timestamp", .text time), ("level", .text event.level.name),
    ("fields", .object [("message", .text event.message)]), ("target", .text event.target)]

/-- An event as a line of JSON. -/
def jsonLine (time : String) (event : Event) : String := Json.compact (event.toJson time) ++ "\n"

end EntityForge.Event

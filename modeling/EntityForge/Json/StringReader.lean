import EntityForge.Json.Reading
import EntityForge.Text.Bytes
import EntityForge.Text.Hexadecimal

/-!
# Reading string literals

`textBody` reads a literal after its opening quote; it undoes `escaped`. A pair of escapes that
names the two halves of a character beyond `U+FFFF` stands for that character, and a half alone is
refused. `skipText` passes over a literal that nobody asked for and checks only its form.
-/

set_option autoImplicit false

namespace EntityForge.Json

/-- The value of four hexadecimal digits. -/
def fourHex? (a b c d : Char) : Option Nat :=
  match Text.hexValue? a, Text.hexValue? b, Text.hexValue? c, Text.hexValue? d with
  | some a, some b, some c, some d => some (((a * 16 + b) * 16 + c) * 16 + d)
  | _, _, _, _ => none

/-- Reads the four digits of an escape; fewer than four bytes cannot hold them. -/
def hexCode : List Char → Step Nat
  | a :: b :: c :: d :: rest =>
    match fourHex? a b c d with
    | some code => .ok (code, rest)
    | none => .error ⟨.badEscape, a :: b :: c :: d :: rest, 4⟩
  | rest => if Text.byteLength rest < 4 then haltAt .endInText [] else .error ⟨.badEscape, rest, 4⟩

/-- Whether a code is the first half of a pair. -/
def isHighHalf (code : Nat) : Bool := 0xD800 ≤ code && code ≤ 0xDBFF

/-- Whether a code is the second half of a pair. -/
def isLowHalf (code : Nat) : Bool := 0xDC00 ≤ code && code ≤ 0xDFFF

/-- The character that two halves name. -/
def pairedChar (high low : Nat) : Char :=
  Char.ofNat ((high - 0xD800) * 0x400 + (low - 0xDC00) + 0x10000)

/-- Reads the second half of a pair, which is another escape. -/
def lowHalf (high : Nat) : List Char → Step Char
  | [] => haltAt .endInText []
  | '\\' :: [] => haltAt .endInText []
  | '\\' :: 'u' :: rest =>
    (hexCode rest).andThen fun low after =>
      if isLowHalf low then .ok (pairedChar high low, after) else haltAt .loneSurrogate after
  | '\\' :: rest => haltPast .truncatedSurrogatePair rest
  | rest => haltPast .truncatedSurrogatePair rest

/-- Reads the code of an escape and, after a first half, the second one. -/
def unicodeEscape (rest : List Char) : Step Char :=
  (hexCode rest).andThen fun code after =>
    if isLowHalf code then haltAt .loneSurrogate after
    else if isHighHalf code then lowHalf code after
    else .ok (Char.ofNat code, after)

/-- The character that a letter after a backslash names. -/
def shortEscape? (c : Char) : Option Char :=
  if c = '"' then some '"'
  else if c = '\\' then some '\\'
  else if c = '/' then some '/'
  else if c = 'b' then some (Char.ofNat 8)
  else if c = 'f' then some (Char.ofNat 12)
  else if c = 'n' then some '\n'
  else if c = 'r' then some '\r'
  else if c = 't' then some '\t'
  else none

/-- Reads an escape after its backslash. -/
def escape : List Char → Step Char
  | [] => haltAt .endInText []
  | c :: rest =>
    match shortEscape? c with
    | some meant => .ok (meant, rest)
    | none => if c = 'u' then unicodeEscape rest else haltPast .badEscape (c :: rest)

/-- Reads a literal after its opening quote, up to and with the closing one. -/
def textLoop : Nat → List Char → Step (List Char)
  | 0, rest => haltAt .endInText rest
  | _ + 1, [] => haltAt .endInText []
  | fuel + 1, c :: rest =>
    if c = '"' then .ok ([], rest)
    else if c = '\\' then
      (escape rest).andThen fun meant after =>
        (textLoop fuel after).andThen fun more after => .ok (meant :: more, after)
    else if c.toNat < 32 then haltPast .rawControl (c :: rest)
    else (textLoop fuel rest).andThen fun more after => .ok (c :: more, after)

/-- Reads a literal after its opening quote; every step takes a character. -/
def textBody (rest : List Char) : Step (List Char) := textLoop (rest.length + 1) rest

/-- Reads a literal after its opening quote as a string. -/
def stringBody (rest : List Char) : Step String :=
  (textBody rest).andThen fun chars after => .ok (String.ofList chars, after)

/-! ## Literals that nobody asked for -/

/-- Passes over an escape after its backslash. -/
def skipEscape : List Char → Pass
  | [] => haltAt .endInText []
  | c :: rest =>
    if (shortEscape? c).isSome then .ok rest
    else if c = 'u' then (hexCode rest).map (·.2)
    else haltPast .badEscape (c :: rest)

/-- Passes over a literal after its opening quote. -/
def skipTextLoop : Nat → List Char → Pass
  | 0, rest => haltAt .endInText rest
  | _ + 1, [] => haltAt .endInText []
  | fuel + 1, c :: rest =>
    if c = '"' then .ok rest
    else if c = '\\' then (skipEscape rest).andThen (skipTextLoop fuel)
    else if c.toNat < 32 then haltAt .rawControl (c :: rest)
    else skipTextLoop fuel rest

/-- Passes over a literal after its opening quote; every step takes a character. -/
def skipText (rest : List Char) : Pass := skipTextLoop (rest.length + 1) rest

end EntityForge.Json

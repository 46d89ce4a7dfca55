/-!
# String literals

A text becomes a JSON string literal by escaping character by character: quotes and backslashes take
a backslash, the usual controls have a letter, other characters below the space are given by four
hexadecimal digits, and everything else stands for itself. No literal contains a control character,
and none is the beginning of another one, because a quote inside always follows a backslash.
-/

set_option autoImplicit false

namespace EntityForge.Json

/-- The hexadecimal digit of a number below sixteen. -/
def hexDigit (n : Nat) : Char := if n < 10 then Char.ofNat (48 + n) else Char.ofNat (87 + n)

/-- What stands for one character inside a literal. -/
def escapedChar (c : Char) : List Char :=
  if c = '"' then ['\\', '"']
  else if c = '\\' then ['\\', '\\']
  else if c = '\n' then ['\\', 'n']
  else if c = '\r' then ['\\', 'r']
  else if c = '\t' then ['\\', 't']
  else if c.toNat = 8 then ['\\', 'b']
  else if c.toNat = 12 then ['\\', 'f']
  else if c.toNat < 32 then ['\\', 'u', '0', '0', hexDigit (c.toNat / 16), hexDigit (c.toNat % 16)]
  else [c]

/-- The inside of a literal. -/
def escaped (text : List Char) : List Char := text.flatMap escapedChar

/-- The characters of a literal, quotes included. -/
def literalChars (text : List Char) : List Char := '"' :: (escaped text ++ ['"'])

/-- The literal of a text. -/
def literal (text : String) : String := String.ofList (literalChars text.toList)

@[simp] theorem escaped_cons (c : Char) (text : List Char) :
    escaped (c :: text) = escapedChar c ++ escaped text := rfl

@[simp] theorem toList_literal (text : String) :
    (literal text).toList = literalChars text.toList := by
  simp [literal]

end EntityForge.Json

import EntityForge.Text.Boundaries
import EntityForge.Text.HiddenData

/-!
# Text quoted in a diagnostic

A diagnostic shows a text between double quotes with everything invisible spelled out: quotes and
backslashes take a backslash, the usual controls have a letter, and any other character without a
shape of its own is given by its code in braces.
-/

set_option autoImplicit false

namespace EntityForge.Text

/-- Whether a character is shown by its code. -/
def isHidden (c : Char) : Bool := within hiddenBoundaries c.toNat

/-- A character by its code, in lower-case hexadecimal digits between braces. -/
def codeInBraces (c : Char) : List Char :=
  '\\' :: 'u' :: '\x7b' :: (Nat.toDigits 16 c.toNat ++ ['\x7d'])

/-- What stands for one character inside the quotes. -/
def quotedChar (c : Char) : List Char :=
  if c = '"' then ['\\', '"']
  else if c = '\\' then ['\\', '\\']
  else if c = '\n' then ['\\', 'n']
  else if c = '\r' then ['\\', 'r']
  else if c = '\t' then ['\\', 't']
  else if c.toNat = 0 then ['\\', '0']
  else if isHidden c then codeInBraces c
  else [c]

/-- A text as a diagnostic shows it. -/
def quoted (text : String) : String :=
  String.ofList ('"' :: (text.toList.flatMap quotedChar ++ ['"']))

end EntityForge.Text

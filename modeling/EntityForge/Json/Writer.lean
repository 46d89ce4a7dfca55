import EntityForge.Decimal
import EntityForge.Json.Basic
import EntityForge.Json.Literal

/-!
# Writing JSON

Two forms are written: the compact one without any blank (`compact`), and the spread one with an
entry per line, indented by two spaces per level, where empty arrays and objects stay on one line
(`spread`).
-/

set_option autoImplicit false

namespace EntityForge.Json

/-- Numbers from `10 ^ -5` up to `10 ^ 16` are written with a point; an exponent has its sign. -/
def numberLayout : Decimal.Layout :=
  ⟨fun exponent => decide (-5 ≤ exponent) && decide (exponent < 16), true⟩

/-- The decimal text of an integer. -/
def integerChars : Int → List Char
  | .ofNat n => Nat.toDigits 10 n
  | .negSucc n => '-' :: Nat.toDigits 10 (n + 1)

/-- The text of a truth value. -/
def boolChars : Bool → List Char
  | true => ['t', 'r', 'u', 'e']
  | false => ['f', 'a', 'l', 's', 'e']

/-- The text of `null`. -/
def nullChars : List Char := ['n', 'u', 'l', 'l']

/-- The text of a binary64 number. -/
def realChars (x : Binary64) : List Char := Decimal.text numberLayout x

mutual

/-- The compact text of a value. -/
def compactChars : Json → List Char
  | .null => nullChars
  | .bool value => boolChars value
  | .integer value => integerChars value
  | .real value => realChars value
  | .text value => literalChars value.toList
  | .list [] => ['[', ']']
  | .list (item :: items) => '[' :: (compactChars item ++ compactItems items)
  | .object [] => ['\x7b', '\x7d']
  | .object (entry :: entries) =>
    '\x7b' ::
      (literalChars entry.1.toList ++ ':' :: (compactChars entry.2 ++ compactEntries entries))

/-- The items after the first one, up to the end of the array. -/
def compactItems : List Json → List Char
  | [] => [']']
  | item :: items => ',' :: (compactChars item ++ compactItems items)

/-- The entries after the first one, up to the end of the object. -/
def compactEntries : List (String × Json) → List Char
  | [] => ['\x7d']
  | entry :: entries =>
    ',' :: (literalChars entry.1.toList ++ ':' :: (compactChars entry.2 ++ compactEntries entries))

end

/-- A line end and the indentation of a level. -/
def newLine (level : Nat) : List Char := '\n' :: List.replicate (2 * level) ' '

mutual

/-- The spread text of a value that stands at a level. -/
def spreadChars (level : Nat) : Json → List Char
  | .null => nullChars
  | .bool value => boolChars value
  | .integer value => integerChars value
  | .real value => realChars value
  | .text value => literalChars value.toList
  | .list [] => ['[', ']']
  | .list (item :: items) =>
    '[' :: (newLine (level + 1) ++ (spreadChars (level + 1) item ++ spreadItems level items))
  | .object [] => ['\x7b', '\x7d']
  | .object (entry :: entries) =>
    '\x7b' :: (newLine (level + 1) ++ (literalChars entry.1.toList ++ ':' :: ' ' ::
      (spreadChars (level + 1) entry.2 ++ spreadEntries level entries)))

/-- The items after the first one, up to the end of the array. -/
def spreadItems (level : Nat) : List Json → List Char
  | [] => newLine level ++ [']']
  | item :: items =>
    ',' :: (newLine (level + 1) ++ (spreadChars (level + 1) item ++ spreadItems level items))

/-- The entries after the first one, up to the end of the object. -/
def spreadEntries (level : Nat) : List (String × Json) → List Char
  | [] => newLine level ++ ['\x7d']
  | entry :: entries =>
    ',' :: (newLine (level + 1) ++ (literalChars entry.1.toList ++ ':' :: ' ' ::
      (spreadChars (level + 1) entry.2 ++ spreadEntries level entries)))

end

/-- The text of a value without blanks. -/
def compact (value : Json) : String := String.ofList (compactChars value)

/-- The text of a value with an entry per line. -/
def spread (value : Json) : String := String.ofList (spreadChars 0 value)

end EntityForge.Json

import EntityForge.Text.Boundaries

/-!
# Blank characters

The characters that count as blank: tabs, line ends and form feeds, spaces of every width, and the
line and paragraph separators. A text of blanks only is treated as empty where a value is required.
-/

set_option autoImplicit false

namespace EntityForge.Text

/-- Boundaries of the blank characters. -/
def blankBoundaries : List Nat :=
  [9, 14, 32, 33, 133, 134, 160, 161, 5760, 5761, 8192, 8203, 8232, 8234, 8239, 8240, 8287, 8288,
   12288, 12289]

/-- Whether a character is blank. -/
def isBlank (c : Char) : Bool := within blankBoundaries c.toNat

/-- Whether a text holds nothing but blanks. -/
def allBlank (text : String) : Bool := text.toList.all isBlank

/-- The text without blanks at either end. -/
def trimmed (text : List Char) : List Char :=
  ((text.dropWhile isBlank).reverse.dropWhile isBlank).reverse

end EntityForge.Text

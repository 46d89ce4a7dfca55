import EntityForge.Text.Boundaries
import EntityForge.Text.LetterData

/-!
# Letters and numerals

Names may be written in any script. Their characters are told by two sets, of letters and of
numerals, which extend the letters and the digits of ASCII.
-/

set_option autoImplicit false

namespace EntityForge.Text

/-- Whether a character is a letter of some script. -/
def isLetter (c : Char) : Bool := within letterBoundaries c.toNat

/-- Whether a character is a digit or another numeral of some script. -/
def isNumeral (c : Char) : Bool := within numeralBoundaries c.toNat

/-- Whether a character is a letter or a numeral. -/
def isLetterOrNumeral (c : Char) : Bool := isLetter c || isNumeral c

end EntityForge.Text

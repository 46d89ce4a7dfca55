import EntityForge.Binary64

/-!
# JSON values

A numeral without a fraction and an exponent is an integer if it fits 64 bits, and every other
numeral is a binary64 number. An object is a list of entries: a value that was read lists each key
once and in ascending order, a value that is to be written lists them as they are to be written.
-/

set_option autoImplicit false

namespace EntityForge

/-- A JSON value. -/
inductive Json where
  /-- The value `null`. -/
  | null
  /-- A truth value. -/
  | bool (value : Bool)
  /-- A numeral of an integer. -/
  | integer (value : Int)
  /-- Any other numeral. -/
  | real (value : Binary64)
  /-- A string. -/
  | text (value : String)
  /-- An array. -/
  | list (items : List Json)
  /-- An object. -/
  | object (entries : List (String × Json))
deriving Inhabited

namespace Json

/-- The entries of an object. -/
def entries? : Json → Option (List (String × Json))
  | .object entries => some entries
  | _ => none

/-- The characters of a string value. -/
def text? : Json → Option String
  | .text value => some value
  | _ => none

/-- The array of string values. -/
def texts (values : List String) : Json := .list (values.map .text)

end Json

end EntityForge

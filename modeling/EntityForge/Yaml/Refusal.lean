import EntityForge.Text.Quoted

/-!
# Why a YAML text is refused

A text may be malformed: then it is no single document at all. A document may be well formed and
still not hold the settings that are wanted; such a refusal has a cause, the path of the value
inside the document, and the mark of the node where it was noticed.
-/

set_option autoImplicit false

namespace EntityForge.Yaml

/-- A place in a text; everything counts from zero. -/
structure Mark where
  /-- The characters before the place. -/
  index : Nat
  /-- The line. -/
  line : Nat
  /-- The characters before the place on its line. -/
  column : Nat
deriving DecidableEq, Repr, Inhabited

/-- What was found where something else was needed. -/
inductive Found where
  | nothing
  | boolean (value : Bool)
  | integer (value : Int)
  | wideNatural (value : Nat)
  | wideInteger (value : Int)
  | number (decimal : String)
  | text (value : String)
  | list
  | mapping
deriving DecidableEq, Repr

/-- A diagnostic's words for what was found. -/
def Found.describe : Found → String
  | .nothing => "unit value"
  | .boolean value => "boolean `" ++ toString value ++ "`"
  | .integer value => "integer `" ++ toString value ++ "`"
  | .wideNatural value => "integer `" ++ toString value ++ "` as u128"
  | .wideInteger value => "integer `" ++ toString value ++ "` as i128"
  | .number decimal => "floating point `" ++ decimal ++ "`"
  | .text value => "string " ++ Text.quoted value
  | .list => "sequence"
  | .mapping => "map"

/-- What a tag promises of a scalar. -/
inductive Promise where
  | boolean
  | integer
  | number
  | nothing
deriving DecidableEq, Repr

/-- A diagnostic's words for a promise. -/
def Promise.describe : Promise → String
  | .boolean => "a boolean"
  | .integer => "an integer"
  | .number => "a float"
  | .nothing => "null"

/-- What was needed. -/
inductive Needed where
  | text
  | fieldName
  | record (name : String)
deriving DecidableEq, Repr

/-- A diagnostic's words for what was needed. -/
def Needed.describe : Needed → String
  | .text => "a string"
  | .fieldName => "field identifier"
  | .record name => "struct " ++ name

/-- Why a document does not hold what is wanted. -/
inductive Cause where
  | wrongType (found : Found) (needed : Needed)
  | brokenPromise (text : String) (promise : Promise)
  | repeatedField (name : String)
deriving DecidableEq, Repr

/-- A diagnostic's words for a cause. -/
def Cause.describe : Cause → String
  | .wrongType found needed =>
    "invalid type: " ++ found.describe ++ ", expected " ++ needed.describe
  | .brokenPromise text promise =>
    "invalid value: string " ++ Text.quoted text ++ ", expected " ++ promise.describe
  | .repeatedField name => "duplicate field `" ++ name ++ "`"

/-- Why a YAML text is refused. -/
inductive Refusal where
  /-- The text is not one well-formed document. -/
  | malformed
  /-- The document does not hold what is wanted. -/
  | unfit (cause : Cause) (path : Option String) (mark : Mark)
deriving DecidableEq, Repr

/-- The text of a refusal; a mark at the very beginning is not worth mentioning. -/
def Refusal.message : Refusal → String
  | .malformed => "malformed document"
  | .unfit cause path mark =>
    let place :=
      match path with
      | some path => path ++ ": "
      | none => ""
    let whereabouts :=
      if mark.line = 0 ∧ mark.column = 0 then ""
      else " at line " ++ toString (mark.line + 1) ++ " column " ++ toString (mark.column + 1)
    place ++ cause.describe ++ whereabouts

end EntityForge.Yaml

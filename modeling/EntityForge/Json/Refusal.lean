import EntityForge.Decimal
import EntityForge.Json.Writer
import EntityForge.Text.Quoted

/-!
# Why a JSON text is refused

A refusal has a cause and the position where it was noticed. Lines count from one; the column is
the number of bytes between the last line end and the position.
-/

set_option autoImplicit false

namespace EntityForge.Json

/-! ## Positions -/

/-- A place in a text. -/
structure Position where
  /-- The line, counted from one. -/
  line : Nat
  /-- The bytes on that line before the place. -/
  column : Nat
deriving DecidableEq, Repr, Inhabited

namespace Position

/-- The beginning of a text. -/
def start : Position := ⟨1, 0⟩

/-- The place after a character. -/
def after (p : Position) (c : Char) : Position :=
  if c = '\n' then ⟨p.line + 1, 0⟩ else ⟨p.line, p.column + c.utf8Size⟩

/-- The place some bytes further, at most at the end of the text. -/
def ahead (p : Position) (bytes : Nat) : List Char → Position
  | [] => p
  | c :: rest =>
    if bytes = 0 then p
    else if c.utf8Size ≤ bytes then (p.after c).ahead (bytes - c.utf8Size) rest
    else ⟨p.line, p.column + bytes⟩

end Position

/-! ## Causes -/

/-- What was found where something else was needed. -/
inductive Found where
  | null
  | boolean (value : Bool)
  | integer (value : Int)
  | real (value : Binary64)
  | text (value : String)
  | list
  | object

/-- A diagnostic's words for what was found. -/
def Found.describe : Found → String
  | .null => "null"
  | .boolean value => "boolean `" ++ String.ofList (boolChars value) ++ "`"
  | .integer value => "integer `" ++ String.ofList (integerChars value) ++ "`"
  | .real value => "floating point `" ++ String.ofList (realChars value) ++ "`"
  | .text value => "string " ++ Text.quoted value
  | .list => "sequence"
  | .object => "map"

/-- What was needed. -/
inductive Needed where
  | text
  | list
  | object
  | null
  | record (name : String)

/-- A diagnostic's words for what was needed. -/
def Needed.describe : Needed → String
  | .text => "a string"
  | .list => "a sequence"
  | .object => "a map"
  | .null => "unit"
  | .record name => "struct " ++ name

/-- Why reading stopped. -/
inductive Cause where
  | endInValue
  | endInText
  | endInList
  | endInObject
  | missingColon
  | listUnseparated
  | objectUnseparated
  | misspelledWord
  | noValue
  | badEscape
  | badNumber
  | numberTooLarge
  | rawControl
  | keyNotText
  | loneSurrogate
  | truncatedSurrogatePair
  | trailingComma
  | trailingText
  | tooDeep
  | wrongType (found : Found) (needed : Needed)
  | tooShort (length : Nat) (record : String) (fields : Nat)
  | missingField (name : String)
  | repeatedField (name : String)
  | unknownVariant (name : String) (variants : List String)

/-- The variants, each between back quotes, with commas between them. -/
def listVariants (variants : List String) : String :=
  String.intercalate ", " (variants.map (fun variant => "`" ++ variant ++ "`"))

/-- A diagnostic's words for a cause. -/
def Cause.describe : Cause → String
  | .endInValue => "EOF while parsing a value"
  | .endInText => "EOF while parsing a string"
  | .endInList => "EOF while parsing a list"
  | .endInObject => "EOF while parsing an object"
  | .missingColon => "expected `:`"
  | .listUnseparated => "expected `,` or `]`"
  | .objectUnseparated => "expected `,` or `\x7d`"
  | .misspelledWord => "expected ident"
  | .noValue => "expected value"
  | .badEscape => "invalid escape"
  | .badNumber => "invalid number"
  | .numberTooLarge => "number out of range"
  | .rawControl => "control character (\\u0000-\\u001F) found while parsing a string"
  | .keyNotText => "key must be a string"
  | .loneSurrogate => "lone leading surrogate in hex escape"
  | .truncatedSurrogatePair => "unexpected end of hex escape"
  | .trailingComma => "trailing comma"
  | .trailingText => "trailing characters"
  | .tooDeep => "recursion limit exceeded"
  | .wrongType found needed =>
    "invalid type: " ++ found.describe ++ ", expected " ++ needed.describe
  | .tooShort length record fields =>
    "invalid length " ++ String.ofList (Nat.toDigits 10 length) ++ ", expected struct " ++ record
      ++ " with " ++ String.ofList (Nat.toDigits 10 fields)
      ++ (if fields = 1 then " element" else " elements")
  | .missingField name => "missing field `" ++ name ++ "`"
  | .repeatedField name => "duplicate field `" ++ name ++ "`"
  | .unknownVariant name variants =>
    "unknown variant `" ++ name ++ "`, expected one of " ++ listVariants variants

/-- Why and where a JSON text was refused. -/
structure Refusal where
  /-- Why the text was refused. -/
  cause : Cause
  /-- Where that was noticed. -/
  position : Position

/-- The text of a refusal. -/
def Refusal.message (refusal : Refusal) : String :=
  refusal.cause.describe ++ " at line " ++ String.ofList (Nat.toDigits 10 refusal.position.line)
    ++ " column " ++ String.ofList (Nat.toDigits 10 refusal.position.column)

end EntityForge.Json

import EntityForge.ShapeKind

/-!
# Target types

A field of an entity gets one of six TypeScript types. Lists, maps and nested structures stay
shallow: an entity is stored as a flat record, so the types of elements are not looked into.
-/

set_option autoImplicit false

namespace EntityForge

/-- The TypeScript type of a field. -/
inductive TargetType where
  | text
  | number
  | boolean
  | anyArray
  | record
  | any
deriving DecidableEq, Repr, Inhabited

namespace TargetType

/-- All types, in the order in which a diagnostic lists them. -/
def all : List TargetType := [.text, .number, .boolean, .anyArray, .record, .any]

/-- The name under which a type is stored. -/
def name : TargetType → String
  | .text => "String"
  | .number => "Number"
  | .boolean => "Boolean"
  | .anyArray => "AnyArray"
  | .record => "Record"
  | .any => "Any"

/-- The types under the names by which they are stored. -/
def named : List (String × TargetType) := all.map (fun type => (type.name, type))

/-- The type as TypeScript source. -/
def source : TargetType → String
  | .text => "string"
  | .number => "number"
  | .boolean => "boolean"
  | .anyArray => "any[]"
  | .record => "Record<string, any>"
  | .any => "any"

/-- The type of a field whose member has a kind; a timestamp travels as text. -/
def ofKind : ShapeKind → TargetType
  | .string | .timestamp => .text
  | .integer | .long | .byte | .short | .double | .float => .number
  | .boolean => .boolean
  | .list | .set => .anyArray
  | .map | .structured => .record
  | .blob | .bigInteger | .bigDecimal | .document | .enum | .intEnum | .union | .member
  | .service | .resource | .operation => .any

theorem source_injective {a b : TargetType} (h : a.source = b.source) : a = b := by
  revert h
  cases a <;> cases b <;> decide

end TargetType

end EntityForge

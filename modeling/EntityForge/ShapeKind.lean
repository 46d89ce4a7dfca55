/-!
# Shape kinds

Every shape of an interface model has one of a fixed set of kinds, named in model documents by its
type name. The prelude provides shapes for the simple kinds under names of its own; some of them
have a second, primitive variant of the same kind.
-/

set_option autoImplicit false

namespace EntityForge

/-- The kind of a shape. -/
inductive ShapeKind where
  | blob
  | boolean
  | string
  | timestamp
  | byte
  | short
  | integer
  | long
  | float
  | double
  | bigInteger
  | bigDecimal
  | document
  | enum
  | intEnum
  | list
  | set
  | map
  | structured
  | union
  | member
  | service
  | resource
  | operation
deriving DecidableEq, Repr, Inhabited

namespace ShapeKind

/-- All kinds, in the order in which a diagnostic lists them. -/
def all : List ShapeKind :=
  [.blob, .boolean, .string, .timestamp, .byte, .short, .integer, .long, .float, .double,
   .bigInteger, .bigDecimal, .document, .enum, .intEnum, .list, .set, .map, .structured, .union,
   .member, .service, .resource, .operation]

/-- The type name of a kind. -/
def name : ShapeKind → String
  | .blob => "blob"
  | .boolean => "boolean"
  | .string => "string"
  | .timestamp => "timestamp"
  | .byte => "byte"
  | .short => "short"
  | .integer => "integer"
  | .long => "long"
  | .float => "float"
  | .double => "double"
  | .bigInteger => "bigInteger"
  | .bigDecimal => "bigDecimal"
  | .document => "document"
  | .enum => "enum"
  | .intEnum => "intEnum"
  | .list => "list"
  | .set => "set"
  | .map => "map"
  | .structured => "structure"
  | .union => "union"
  | .member => "member"
  | .service => "service"
  | .resource => "resource"
  | .operation => "operation"

/-- The kinds under their type names. -/
def named : List (String × ShapeKind) := all.map (fun kind => (kind.name, kind))

/-- The kind with a type name. -/
def ofName? (name : String) : Option ShapeKind := all.find? (fun kind => kind.name == name)

/-- The kind of a prelude shape, by its name without the namespace. -/
def ofPrelude? (name : String) : Option ShapeKind :=
  match name with
  | "String" => some .string
  | "Blob" => some .blob
  | "Boolean" | "PrimitiveBoolean" => some .boolean
  | "Byte" | "PrimitiveByte" => some .byte
  | "Short" | "PrimitiveShort" => some .short
  | "Integer" | "PrimitiveInteger" => some .integer
  | "Long" | "PrimitiveLong" => some .long
  | "Float" | "PrimitiveFloat" => some .float
  | "Double" | "PrimitiveDouble" => some .double
  | "BigInteger" => some .bigInteger
  | "BigDecimal" => some .bigDecimal
  | "Timestamp" => some .timestamp
  | "Document" => some .document
  | "Unit" => some .structured
  | _ => none

end ShapeKind

end EntityForge

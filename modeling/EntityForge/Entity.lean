import EntityForge.Marker
import EntityForge.TargetType
import EntityForge.Text.Lowercase

/-!
# Entities

An entity is what the generator knows of a marked structure: its name, where it is stored, and its
fields in the order of their names. Every member becomes a field, the identifying one too, and two
members of one name stay in the order in which they came.

Five handlers serve an entity; each is exported under a symbol made of a verb and the name.
-/

set_option autoImplicit false

namespace EntityForge

/-- A field of an entity. -/
structure Field where
  /-- The name of the field. -/
  name : String
  /-- Its type in the generated source. -/
  type : TargetType
deriving DecidableEq, Repr, Inhabited

/-- The field that a member becomes. -/
def Field.ofMember (member : Member) : Field := ⟨member.name, .ofKind member.kind⟩

/-- Whether a field may stand before another one. -/
def Field.precedes (a b : Field) : Bool := decide (a.name ≤ b.name)

/-- A marked structure, ready to be written out. -/
structure Entity where
  /-- The name of the structure. -/
  name : String
  /-- The name with its first character lowered, for messages. -/
  label : String
  /-- The table that holds the entity. -/
  table : String
  /-- The field that identifies a record. -/
  hashKey : String
  /-- The fields in the order of their names. -/
  fields : List Field
deriving DecidableEq, Repr, Inhabited

namespace Entity

/-- The entity of a declaration with its marker and its members. -/
def build (decl : Declaration) (marker : EntityMarker) (members : List Member) : Entity where
  name := decl.name
  label := Text.lowerFirst decl.name
  table := marker.table
  hashKey := marker.hashKey
  fields := (members.map Field.ofMember).mergeSort Field.precedes

/-- The symbol of the handler that creates a record. -/
def createSymbol (entity : Entity) : String := "create" ++ entity.name

/-- The symbol of the handler that lists all records. -/
def listSymbol (entity : Entity) : String := "list" ++ entity.name ++ "s"

/-- The symbol of the handler that gets a record. -/
def getSymbol (entity : Entity) : String := "get" ++ entity.name

/-- The symbol of the handler that changes a record. -/
def updateSymbol (entity : Entity) : String := "update" ++ entity.name

/-- The symbol of the handler that deletes a record. -/
def deleteSymbol (entity : Entity) : String := "delete" ++ entity.name

end Entity

end EntityForge

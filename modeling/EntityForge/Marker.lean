import EntityForge.Declaration
import EntityForge.Dictionary
import EntityForge.Fault

/-!
# Markers

A marker makes a structure an entity and says where it is stored. Its values are looked up by key
through `MarkerNode`, whatever holds them; `Json.markerNode` looks them up in an object.

A marker names its table under `tableName`, which must be there, and its key under `hashKey`, which
is `id` unless stated otherwise. Anything else in it is ignored.
-/

set_option autoImplicit false

namespace EntityForge

/-- Look-up of the values of an applied marker. -/
structure MarkerNode where
  /-- The text under a key; it is refused if it is absent, empty or no text. -/
  requireText : String → Except Fault String
  /-- The text under a key, or the given one if it is absent; any other value is refused. -/
  textOr : String → String → Except Fault String

namespace Json

/-- The value under a key of an object, where `null` counts as absent. -/
def present? (entries : List (String × Json)) (key : String) : Option Json :=
  match lookupEntry key entries with
  | some .null => none
  | other => other

/-- The refusal of a marker's member that is no text. -/
def memberNotText (key : String) (value : Json) : Fault :=
  .configuration (.markerMemberNotText key value.compact)

/-- The text under a key that must be there. -/
def requireText (value : Json) (key : String) : Except Fault String :=
  match value.entries? with
  | none => .error (.configuration .markerNotObject)
  | some entries =>
    match present? entries key with
    | none => .error (.configuration (.markerMemberMissing key))
    | some (.text found) =>
      if found.isEmpty then .error (.configuration (.markerMemberEmpty key)) else .ok found
    | some other => .error (memberNotText key other)

/-- The text under a key that may be absent. -/
def textOr (value : Json) (key fallback : String) : Except Fault String :=
  match value.entries? with
  | none => .error (.configuration .markerNotObject)
  | some entries =>
    match present? entries key with
    | none => .ok fallback
    | some (.text found) => .ok found
    | some other => .error (memberNotText key other)

/-- A JSON value as a marker. -/
def markerNode (value : Json) : MarkerNode := ⟨value.requireText, value.textOr⟩

end Json

/-- Where an entity is stored. -/
structure EntityMarker where
  /-- The table that holds the entity. -/
  table : String
  /-- The field that identifies a record. -/
  hashKey : String
deriving DecidableEq, Repr, Inhabited

namespace EntityMarker

/-- The key of the table's name. -/
def tableKey : String := "tableName"

/-- The key of the identifying field. -/
def hashKeyKey : String := "hashKey"

/-- The identifying field of a marker that names none. -/
def defaultHashKey : String := "id"

/-- Says in which shape a configuration fault lies; other faults stay as they are. -/
def inShape (shape : String) : Fault → Fault
  | .configuration cause => .configuration (.inShape shape cause)
  | other => other

/-- Reads a marker; `shape` only says where a fault lies. -/
def ofNode (shape : String) (node : MarkerNode) : Except Fault EntityMarker :=
  match node.requireText tableKey with
  | .error fault => .error (inShape shape fault)
  | .ok table =>
    match node.textOr hashKeyKey defaultHashKey with
    | .error fault => .error (inShape shape fault)
    | .ok hashKey => .ok ⟨table, hashKey⟩

end EntityMarker

end EntityForge

import EntityForge.Fault
import EntityForge.Model.Basic
import EntityForge.Json.Record

/-!
# Merging documents

A document is merged record by record in ascending order of the ids. A definition is stored; if
traits for it are pending, they win over its own. A record that only adds traits adds them to what
is stored, or waits. A definition of a shape that is already defined is refused: the merge ends
there, and the records before it stay merged.
-/

set_option autoImplicit false

namespace EntityForge

open Json (Fields Reader)

/-! ## Reading -/

/-- Reads a reference to a shape. -/
def Shape.targetReader : Reader String :=
  Reader.record "AstReference" (.cons "target" none Reader.text .nil) fun (target, _) => target

/-- Reads a record of a model. -/
def Shape.reader : Reader Shape :=
  Reader.record "AstShape"
    (.cons "type" none Reader.text <|
      .cons "members" (some Dictionary.empty) (Reader.dictionary targetReader) <|
      .cons "mixins" (some []) (Reader.list targetReader) <|
      .cons "traits" (some Dictionary.empty) (Reader.dictionary Reader.value) .nil)
    fun (type, members, mixins, traits, _) => ⟨type, members, mixins, traits⟩

/-- Reads a document. -/
def Document.reader : Reader Document :=
  Reader.record "AstDocument"
    (.cons "smithy" none Reader.text <|
      .cons "shapes" (some Dictionary.empty) (Reader.dictionary Shape.reader) .nil)
    fun (version, shapes, _) => ⟨version, shapes⟩

/-- Reads a document from its text. -/
def Document.read (text : String) : Except Fault Document :=
  match Json.read Document.reader text with
  | .ok document => .ok document
  | .error refusal => .error (.json refusal)

namespace Model

/-! ## Merging -/

/-- The record that is stored once another one of its id has come; none if both are definitions. -/
def combine (stored : Option Shape) (record : Shape) : Option Shape :=
  match stored with
  | none => some record
  | some shape =>
    if record.isPending then some (shape.withTraits record.traits)
    else if shape.isPending then some (record.withTraits shape.traits)
    else none

@[simp] theorem combine_none (record : Shape) : combine none record = some record := rfl

/-- A record that waits for its definition adds its traits, and they win. -/
@[simp] theorem combine_of_pending {shape record : Shape} (h : record.isPending = true) :
    combine (some shape) record = some (shape.withTraits record.traits) := if_pos h

/-- A definition takes over from a record that waits for it, whose traits win. -/
@[simp] theorem combine_of_definition {shape record : Shape} (hrecord : record.isPending = false)
    (hshape : shape.isPending = true) :
    combine (some shape) record = some (record.withTraits shape.traits) := by
  simp [combine, hrecord, hshape]

/-- Of two definitions neither is stored. -/
@[simp] theorem combine_of_definitions {shape record : Shape} (hrecord : record.isPending = false)
    (hshape : shape.isPending = false) : combine (some shape) record = none := by
  simp [combine, hrecord, hshape]

/-- Merges records in order, up to the first one that is refused. -/
def mergeRecords (model : Model) : List (String × Shape) → Model × Except Fault Unit
  | [] => (model, .ok ())
  | (id, record) :: records =>
    match combine (model.shape? id) record with
    | some shape => mergeRecords ⟨model.shapes.insert id shape⟩ records
    | none => (model, .error (.model (.definedTwice id)))

/-- Merges a document. -/
def mergeDocument (model : Model) (document : Document) : Model × Except Fault Unit :=
  if document.isSupported then model.mergeRecords document.shapes.entries
  else (model, .error (.model (.unsupportedVersion document.version)))

/-- Merges a document given as text. -/
def merge (model : Model) (text : String) : Model × Except Fault Unit :=
  match Document.read text with
  | .ok document => model.mergeDocument document
  | .error fault => (model, .error fault)

/-- The model of a single document. -/
def ofText (text : String) : Except Fault Model :=
  match empty.merge text with
  | (model, .ok ()) => .ok model
  | (_, .error fault) => .error fault

end Model

end EntityForge

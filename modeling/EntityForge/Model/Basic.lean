import EntityForge.Dictionary
import EntityForge.Json.Basic

/-!
# Models

A model holds shapes under their absolute ids. A shape has the name of its type, the targets of its
members, the mixins from which it takes members and traits, and its own traits.

A record of the type `apply` is no definition: it adds traits to the shape of its id, whichever
document defines it. As long as no definition has come, it is kept as a pending record.
-/

set_option autoImplicit false

namespace EntityForge

/-- A record of a model under a shape id. -/
structure Shape where
  /-- The name of the shape's type. -/
  type : String
  /-- The target of every member. -/
  members : Dictionary String
  /-- The shapes that lend their members and traits, in order. -/
  mixins : List String
  /-- The values of the shape's own traits. -/
  traits : Dictionary Json
deriving Inhabited

namespace Shape

/-- The type of records that only add traits. -/
def applyType : String := "apply"

/-- The type of shapes that may become entities. -/
def structureType : String := "structure"

/-- Whether a record only adds traits. -/
def isPending (shape : Shape) : Bool := shape.type == applyType

/-- The shape with further traits, which win over its own. -/
def withTraits (shape : Shape) (traits : Dictionary Json) : Shape :=
  { shape with traits := shape.traits.union traits }

@[simp] theorem isPending_withTraits (shape : Shape) (traits : Dictionary Json) :
    (shape.withTraits traits).isPending = shape.isPending := rfl

end Shape

/-- A model document: its version and its records. -/
structure Document where
  /-- The version of the document's format. -/
  version : String
  /-- The records under their ids. -/
  shapes : Dictionary Shape
deriving Inhabited

/-- Whether documents of a version can be read. -/
def Document.isSupported (document : Document) : Bool :=
  match document.version.toList with
  | '1' :: _ => true
  | '2' :: _ => true
  | _ => false

/-- The shapes of one or more documents. -/
structure Model where
  /-- The records under their ids. -/
  shapes : Dictionary Shape
deriving Inhabited

namespace Model

/-- The model without shapes. -/
def empty : Model := ⟨Dictionary.empty⟩

/-- The record under an id. -/
def shape? (model : Model) (id : String) : Option Shape := model.shapes.get? id

/-- The definition under an id, if there is one. -/
def definition? (model : Model) (id : String) : Option Shape :=
  (model.shape? id).filter (fun shape => !shape.isPending)

/-- The number of definitions. -/
def shapeCount (model : Model) : Nat :=
  (model.shapes.values.filter (fun shape => !shape.isPending)).length

end Model

end EntityForge

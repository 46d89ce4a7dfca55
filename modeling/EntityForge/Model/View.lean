import EntityForge.ModelView
import EntityForge.Model.Merge
import EntityForge.Model.Traits

/-!
# Models as the generator sees them

The entities of a model are its structures that carry the marker, their own or lent, in ascending
order of their ids. A structure that is itself a mixin only lends.
-/

set_option autoImplicit false

namespace EntityForge.Model

/-- Whether a record is a structure that carries a trait and is no mixin. -/
def isAnnotated (model : Model) (markerId id : String) (shape : Shape) : Bool :=
  shape.type == Shape.structureType && !shape.traits.contains mixinTrait
    && (model.trait? id markerId).isSome

/-- The structures that carry a marker. -/
def annotated (model : Model) (markerId : String) : List Declaration :=
  (model.shapes.entries.filter fun entry => model.isAnnotated markerId entry.1 entry.2).map
    fun entry => .ofId entry.1

/-- The value of a marker on a declaration. -/
def marker (model : Model) (decl : Declaration) (markerId : String) : Option MarkerNode :=
  (model.trait? decl.id markerId).map Json.markerNode

/-- What the generator needs to know of the model. -/
def view (model : Model) : ModelView := ⟨model.annotated, model.marker, model.members⟩

end EntityForge.Model

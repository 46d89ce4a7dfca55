import EntityForge.Entity

/-!
# Views of a model

The generator sees a model only through a view: it lists the structures that carry a marker, gives
the marker of one of them, and lists its members. Whatever provides these three can be generated
from.
-/

set_option autoImplicit false

namespace EntityForge

/-- What the generator needs to know of a model. -/
structure ModelView where
  /-- The structures that carry a marker, in the order in which they are to be generated. -/
  annotated : String → List Declaration
  /-- The marker of an id on a declaration. -/
  marker : Declaration → String → Option MarkerNode
  /-- All members of a declaration. -/
  members : Declaration → Except Fault (List Member)

/-- The entity of a declaration: its marker is read first, then its members. -/
def ModelView.entity (view : ModelView) (decl : Declaration) (markerId : String) :
    Except Fault Entity :=
  match view.marker decl markerId with
  | none => .error (.configuration (.markerNotApplied decl.id markerId))
  | some node =>
    match EntityMarker.ofNode decl.id node with
    | .error fault => .error fault
    | .ok marker =>
      match view.members decl with
      | .error fault => .error fault
      | .ok members => .ok (Entity.build decl marker members)

end EntityForge

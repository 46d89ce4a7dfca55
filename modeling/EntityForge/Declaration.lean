import EntityForge.ShapeKind

/-!
# Declarations and members

A declaration is a structure that may become an entity. Its simple name is what follows the last
`#` of its absolute shape id.
-/

set_option autoImplicit false

namespace EntityForge

/-- The characters after the last `#`; all of them if there is none. -/
def afterLastHash (id : List Char) : List Char :=
  (id.reverse.takeWhile (fun c => c != '#')).reverse

/-- A structure that may become an entity. -/
structure Declaration where
  /-- The absolute shape id. -/
  id : String
  /-- The simple name. -/
  name : String
deriving DecidableEq, Repr, Inhabited

/-- The declaration of a shape id, named by the part after the last `#`. -/
def Declaration.ofId (id : String) : Declaration :=
  ⟨id, String.ofList (afterLastHash id.toList)⟩

/-- A member of a structure with the kind of its target. -/
structure Member where
  /-- The member's name. -/
  name : String
  /-- The kind of the shape that the member refers to. -/
  kind : ShapeKind
deriving DecidableEq, Repr, Inhabited

end EntityForge

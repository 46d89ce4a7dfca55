import EntityForge.Declaration
import EntityForge.Fault
import EntityForge.Model.Basic

/-!
# Members of a shape

A shape has the members of its mixins and its own; of members with one name its own wins over those
of mixins, and a later mixin wins over an earlier one. Every target must resolve, also that of a
member that is overridden.

Mixins are followed along a path: an id that is already on the path is a cycle. The path is handed
on from visit to visit, and a visit gives it back as it was. As no id comes twice on a path and an
id without a shape ends it, no path is longer than the number of shapes and one more.
-/

set_option autoImplicit false

namespace EntityForge.Model

/-- The namespace of the shapes that every model has. -/
def preludeNamespace : List Char := "smithy.api".toList

/-- The name of a prelude shape, if the target is in the prelude's namespace. -/
def preludeName? (target : String) : Option String :=
  match target.toList.span (fun c => c != '#') with
  | (space, _ :: name) => if space = preludeNamespace then some (String.ofList name) else none
  | (_, []) => none

/-- The kind of the shape that a target names. -/
def resolveKind (model : Model) (target : String) : Except Fault ShapeKind :=
  match model.shape? target with
  | some shape =>
    match ShapeKind.ofName? shape.type with
    | some kind => .ok kind
    | none => .error (.model (.unknownType target shape.type))
  | none =>
    match preludeName? target with
    | some name =>
      match ShapeKind.ofPrelude? name with
      | some kind => .ok kind
      | none => .error (.model (.unknownPrelude target))
    | none => .error (.model (.unresolvedTarget target))

/-- The kinds of members found so far. -/
abbrev Kinds : Type := Dictionary ShapeKind

/-- Adds members with their kinds, in place of earlier ones of the same names. -/
def addMembers (model : Model) : List (String × String) → Kinds → Except Fault Kinds
  | [], kinds => .ok kinds
  | (name, target) :: members, kinds =>
    match model.resolveKind target with
    | .error fault => .error fault
    | .ok kind => addMembers model members (kinds.insert name kind)

/-- Why collecting members ends early. -/
inductive Interruption where
  /-- A fault of the model. -/
  | fault (fault : Fault)
  /-- The allowance for nested visits is used up. -/
  | tooDeep

/-- A visit of a shape: takes the path and the kinds so far and gives both back. -/
abbrev Visit : Type := String → List String → Kinds → Except Interruption (List String × Kinds)

/-- Visits shapes one after another. -/
def visitAll (visit : Visit) : List String → List String → Kinds →
    Except Interruption (List String × Kinds)
  | [], path, kinds => .ok (path, kinds)
  | id :: ids, path, kinds =>
    match visit id path kinds with
    | .error interruption => .error interruption
    | .ok (path, kinds) => visitAll visit ids path kinds

/-- Collects the members of a shape with at most the given number of nested visits. -/
def collectMembers (model : Model) : Nat → Visit
  | 0, _, _, _ => .error .tooDeep
  | depth + 1, id, path, kinds =>
    if id ∈ path then .error (.fault (.model (.mixinCycle id)))
    else
      match model.definition? id with
      | none => .error (.fault (.model (.notDefined id)))
      | some shape =>
        match visitAll (collectMembers model depth) shape.mixins (id :: path) kinds with
        | .error interruption => .error interruption
        | .ok (path, kinds) =>
          match model.addMembers shape.members.entries kinds with
          | .error fault => .error (.fault fault)
          | .ok kinds => .ok (path.erase id, kinds)

/-- The nested visits that are ever needed. -/
def visitLimit (model : Model) : Nat := model.shapes.size + 1

/-- The kinds of all members of a shape. -/
def memberKinds (model : Model) (id : String) : Except Fault Kinds :=
  match model.collectMembers model.visitLimit id [] Dictionary.empty with
  | .ok (_, kinds) => .ok kinds
  | .error (.fault fault) => .error fault
  | .error .tooDeep => .error (.model (.mixinCycle id))

/-- All members of a declaration, in ascending order of their names. -/
def members (model : Model) (decl : Declaration) : Except Fault (List Member) :=
  match model.memberKinds decl.id with
  | .ok kinds => .ok (kinds.entries.map fun entry => ⟨entry.1, entry.2⟩)
  | .error fault => .error fault

end EntityForge.Model

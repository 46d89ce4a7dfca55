import EntityForge.Model.Members

/-!
# Traits of a shape

A shape has its own traits and those that its mixins lend; its own win, and a later mixin wins over
an earlier one. A mixin keeps to itself the traits that its `mixin` trait lists as local, and a
cycle of mixins lends nothing.

The mixins are followed along a path in the same way as for members.
-/

set_option autoImplicit false

namespace EntityForge.Model

/-- The trait that makes a structure a mixin. -/
def mixinTrait : String := "smithy.api#mixin"

/-- The member of that trait that lists the traits that are not lent. -/
def localTraitsKey : String := "localTraits"

/-- The items under a key of an object, if an array is there. -/
def itemsUnder (value : Json) (key : String) : List Json :=
  match value.entries? with
  | none => []
  | some entries =>
    match lookupEntry key entries with
    | some (.list items) => items
    | _ => []

/-- Whether a mixin keeps a trait to itself. -/
def isLocalTrait (model : Model) (mixin traitId : String) : Bool :=
  match model.shape? mixin with
  | none => false
  | some shape =>
    match shape.traits.get? mixinTrait with
    | none => false
    | some value =>
      (itemsUnder value localTraitsKey).any (fun item => item.text? == some traitId)

/-- The mixins of a shape that lend a trait, the last one first. -/
def lenders (model : Model) (shape : Shape) (traitId : String) : List String :=
  shape.mixins.reverse.filter (fun mixin => !model.isLocalTrait mixin traitId)

/-- A search at a shape: takes the path and gives it back with what was found. None means that the
allowance for nested searches is used up. -/
abbrev Search : Type := String → List String → Option (Option Json × List String)

/-- Searches at shapes one after another until something is found. -/
def searchFirst (search : Search) : List String → List String → Option (Option Json × List String)
  | [], path => some (none, path)
  | id :: ids, path =>
    match search id path with
    | none => none
    | some (some value, path) => some (some value, path)
    | some (none, path) => searchFirst search ids path

/-- Searches for a trait with at most the given number of nested searches. -/
def searchTrait (model : Model) (traitId : String) : Nat → Search
  | 0, _, _ => none
  | depth + 1, id, path =>
    if id ∈ path then some (none, path)
    else
      match model.shape? id with
      | none => some (none, (id :: path).erase id)
      | some shape =>
        match shape.traits.get? traitId with
        | some value => some (some value, (id :: path).erase id)
        | none =>
          match searchFirst (searchTrait model traitId depth) (model.lenders shape traitId)
              (id :: path) with
          | none => none
          | some (found, path) => some (found, path.erase id)

section Search

variable {search : Search} {model : Model} {traitId id : String} {ids path : List String}
  {shape : Shape} {value : Json} {found : Option Json}

theorem searchFirst_of_found (h : search id path = some (some value, path)) :
    searchFirst search (id :: ids) path = some (some value, path) := by
  rw [searchFirst, h]

theorem searchFirst_of_none (h : search id path = some (none, path)) :
    searchFirst search (id :: ids) path = searchFirst search ids path := by
  rw [searchFirst, h]

theorem searchTrait_of_mem (depth : Nat) (h : id ∈ path) :
    model.searchTrait traitId (depth + 1) id path = some (none, path) := by
  rw [searchTrait, if_pos h]

theorem searchTrait_of_absent (depth : Nat) (hfresh : id ∉ path) (h : model.shape? id = none) :
    model.searchTrait traitId (depth + 1) id path = some (none, path) := by
  simp [searchTrait, hfresh, h]

theorem searchTrait_of_own (depth : Nat) (hfresh : id ∉ path)
    (hshape : model.shape? id = some shape) (h : shape.traits.get? traitId = some value) :
    model.searchTrait traitId (depth + 1) id path = some (some value, path) := by
  simp [searchTrait, hfresh, hshape, h]

/-- A shape without the trait has what the first lender has that has it. -/
theorem searchTrait_of_lenders {depth : Nat} (hfresh : id ∉ path)
    (hshape : model.shape? id = some shape) (hown : shape.traits.get? traitId = none)
    (h : searchFirst (model.searchTrait traitId depth) (model.lenders shape traitId) (id :: path)
      = some (found, id :: path)) :
    model.searchTrait traitId (depth + 1) id path = some (found, path) := by
  simp [searchTrait, hfresh, hshape, hown, h]

end Search

/-- The value of a trait on a shape, its own or lent. -/
def trait? (model : Model) (id traitId : String) : Option Json :=
  match model.searchTrait traitId model.visitLimit id [] with
  | some (found, _) => found
  | none => none

end EntityForge.Model

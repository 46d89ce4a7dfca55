import EntityForge.Model.Traits
import EntityForge.Proofs.Model.MixinGraph

/-!
# Traits that mixins lend

A shape has the traits that it carries itself and those that its mixins lend. In the graph of mixins
this is a matter of chains: `Model.Inherits` says that a chain of mixins, none of which keeps the
trait to itself, leads from a shape to one that carries the trait.

The search walks this graph depth first. It cuts a branch that meets the path it is on, and takes an
id off the path on its way back, so in a graph with cycles it sees some shapes many times and others
only from some of the places that lead to them. It still misses nothing
(`Model.trait?_isSome_iff`): a chain that comes back to its start can be entered at the last return
(`avoiding_iff`), so what is sought below an id can be sought outside the path and the id.
-/

set_option autoImplicit false

namespace EntityForge.Model

variable {model : Model} {id mixin traitId : String} {shape : Shape} {path : List String}

/-! ## Lending -/

/-- A shape carries a trait itself. -/
def Carries (model : Model) (traitId id : String) : Prop :=
  ∃ shape, model.shape? id = some shape ∧ (shape.traits.get? traitId).isSome

/-- A shape lists a trait among the local traits of its `mixin` trait. -/
def KeepsLocal (model : Model) (traitId id : String) : Prop :=
  ∃ shape entries items, model.shape? id = some shape ∧
    shape.traits.get? mixinTrait = some (.object entries) ∧
    lookupEntry localTraitsKey entries = some (.list items) ∧ .text traitId ∈ items

/-- A shape uses a mixin that does not keep a trait to itself. -/
def Lends (model : Model) (traitId id mixin : String) : Prop :=
  model.MixinEdge id mixin ∧ ¬ model.KeepsLocal traitId mixin

/-- A chain of mixins, none of which keeps a trait to itself, leads from an id to a shape that
carries the trait. The chain may be empty. -/
def Inherits (model : Model) (traitId id : String) : Prop :=
  ∃ carrier, Relation.ReflTransGen (model.Lends traitId) id carrier ∧ model.Carries traitId carrier

theorem text?_eq_some_iff {item : Json} {text : String} :
    item.text? = some text ↔ item = .text text := by
  cases item <;> simp [Json.text?]

theorem mem_itemsUnder_iff {value item : Json} {key : String} :
    item ∈ itemsUnder value key ↔
      ∃ entries items, value = .object entries ∧ lookupEntry key entries = some (.list items) ∧
        item ∈ items := by
  cases value with
  | object entries =>
    simp only [itemsUnder, Json.entries?]
    cases hfound : lookupEntry key entries with
    | none => simp [hfound]
    | some found => cases found <;> simp [hfound]
  | null | bool | integer | real | text | list => simp [itemsUnder, Json.entries?]

theorem isLocalTrait_iff : model.isLocalTrait id traitId = true ↔ model.KeepsLocal traitId id := by
  unfold isLocalTrait KeepsLocal
  cases hshape : model.shape? id with
  | none => simp
  | some shape =>
    cases hvalue : shape.traits.get? mixinTrait with
    | none => simp [hvalue]
    | some value =>
      simp only [hvalue, List.any_eq_true, beq_iff_eq, text?_eq_some_iff, mem_itemsUnder_iff]
      constructor
      · rintro ⟨_, ⟨entries, items, rfl, hitems, hmem⟩, rfl⟩
        exact ⟨shape, entries, items, rfl, hvalue, hitems, hmem⟩
      · rintro ⟨_, entries, items, ⟨⟩, hobject, hitems, hmem⟩
        rw [hvalue] at hobject
        cases hobject
        exact ⟨_, ⟨entries, items, rfl, hitems, hmem⟩, rfl⟩

theorem mem_lenders_iff (hshape : model.shape? id = some shape) :
    mixin ∈ model.lenders shape traitId ↔ model.Lends traitId id mixin := by
  have hedge : mixin ∈ shape.mixins ↔ model.MixinEdge id mixin := by
    simp [MixinEdge, hshape]
  rw [lenders, List.mem_filter, List.mem_reverse, hedge, Bool.not_eq_true', ← Bool.not_eq_true,
    isLocalTrait_iff, Lends]

/-! ## Chains outside a path -/

/-- A step of a relation to something that is not on a path. -/
def Outside {α : Type} (r : α → α → Prop) (path : List α) (a b : α) : Prop := r a b ∧ b ∉ path

/-- A chain outside a path stays where it starts, or else it can be entered at its last return to
the start, from where it does not come back. -/
theorem avoiding_iff {α : Type} {r : α → α → Prop} {path : List α} {a c : α} :
    Relation.ReflTransGen (Outside r path) a c ↔
      c = a ∨ ∃ b, Outside r (a :: path) a b ∧
        Relation.ReflTransGen (Outside r (a :: path)) b c := by
  have hweaken : ∀ x y, Outside r (a :: path) x y → Outside r path x y :=
    fun x y h => ⟨h.1, fun hmem => h.2 (List.mem_cons_of_mem a hmem)⟩
  constructor
  · intro h
    induction h with
    | refl => exact .inl rfl
    | @tail b c hchain hstep ih =>
      obtain ⟨hr, hout⟩ := hstep
      by_cases hreturn : c = a
      · -- the chain is back at its start, and what came before does not matter
        exact .inl hreturn
      · have hfresh : c ∉ a :: path := by simp [hreturn, hout]
        rcases ih with rfl | ⟨first, hfirst, hrest⟩
        · exact .inr ⟨c, ⟨hr, hfresh⟩, .refl⟩
        · exact .inr ⟨first, hfirst, hrest.tail ⟨hr, hfresh⟩⟩
  · rintro (rfl | ⟨b, hfirst, hrest⟩)
    · exact .refl
    · exact .head (hweaken a b hfirst) (Relation.ReflTransGen.mono hweaken b c hrest)

/-- A trait is inherited over a chain that meets nothing on a path. -/
def InheritsOutside (model : Model) (traitId : String) (path : List String) (id : String) : Prop :=
  id ∉ path ∧ ∃ carrier,
    Relation.ReflTransGen (Outside (model.Lends traitId) path) id carrier ∧
      model.Carries traitId carrier

theorem inheritsOutside_nil : model.InheritsOutside traitId [] id ↔ model.Inherits traitId id := by
  have hsame : Outside (model.Lends traitId) [] = model.Lends traitId := by
    funext a b
    simp [Outside]
  simp [InheritsOutside, Inherits, hsame]

/-- Nothing is inherited by an id without a record. -/
theorem not_inheritsOutside_of_absent (hshape : model.shape? id = none) :
    ¬ model.InheritsOutside traitId path id := by
  rintro ⟨-, carrier, hchain, stored, hstored, -⟩
  rcases hchain.cases_head with rfl | ⟨mixin, ⟨⟨⟨user, huser, -⟩, -⟩, -⟩, -⟩
  · rw [hshape] at hstored
    cases hstored
  · rw [hshape] at huser
    cases huser

/-- Outside a path, a shape inherits a trait that it carries, and one that a mixin inherits outside
the path and the shape. -/
theorem inheritsOutside_iff (hshape : model.shape? id = some shape) (hfresh : id ∉ path) :
    model.InheritsOutside traitId path id ↔
      (shape.traits.get? traitId).isSome ∨ ∃ mixin ∈ model.lenders shape traitId,
        model.InheritsOutside traitId (id :: path) mixin := by
  have hcarries : model.Carries traitId id ↔ (shape.traits.get? traitId).isSome := by
    simp [Carries, hshape]
  rw [InheritsOutside, and_iff_right hfresh]
  constructor
  · rintro ⟨carrier, hchain, hcarrier⟩
    rcases avoiding_iff.1 hchain with rfl | ⟨mixin, ⟨hlends, hout⟩, hrest⟩
    · exact .inl (hcarries.1 hcarrier)
    · exact .inr ⟨mixin, (mem_lenders_iff hshape).2 hlends, hout, carrier, hrest, hcarrier⟩
  · rintro (hown | ⟨mixin, hmem, hout, carrier, hrest, hcarrier⟩)
    · exact ⟨id, .refl, hcarries.2 hown⟩
    · have hlends := (mem_lenders_iff hshape).1 hmem
      exact ⟨carrier, avoiding_iff.2 (.inr ⟨mixin, ⟨hlends, hout⟩, hrest⟩), hcarrier⟩

/-! ## The search -/

/-- Searches that give their path back and find something exactly at certain ids find something one
after another exactly if there is such an id. -/
theorem searchFirst_eq {search : Search} {has : String → Prop} {ids : List String}
    (h : ∀ id ∈ ids, ∃ found, search id path = some (found, path) ∧ (found.isSome ↔ has id)) :
    ∃ found, searchFirst search ids path = some (found, path) ∧
      (found.isSome ↔ ∃ id ∈ ids, has id) := by
  induction ids with
  | nil => exact ⟨none, rfl, by simp⟩
  | cons id ids ih =>
    obtain ⟨found, hsearch, hfound⟩ := h id List.mem_cons_self
    cases found with
    | some value =>
      refine ⟨some value, searchFirst_of_found hsearch, ?_⟩
      exact ⟨fun _ => ⟨id, List.mem_cons_self, hfound.1 rfl⟩, fun _ => rfl⟩
    | none =>
      obtain ⟨later, hlater, hiff⟩ := ih fun other hmem => h other (List.mem_cons_of_mem id hmem)
      have hnot : ¬ has id := fun hhas => by simpa using hfound.2 hhas
      refine ⟨later, (searchFirst_of_none hsearch).trans hlater, ?_⟩
      simp [hiff, hnot]

/-- Along a trail, with depth for all shapes that are not on it, a search ends, gives the path back
as it was, and finds something exactly if the trait is inherited outside the path. -/
theorem searchTrait_eq (traitId : String) (depth : Nat) : ∀ {id path},
    model.Trail path id → path.length + depth = model.visitLimit →
      ∃ found, model.searchTrait traitId depth id path = some (found, path) ∧
        (found.isSome ↔ model.InheritsOutside traitId path id) := by
  -- on the depth; every mixin is one place further on the trail
  induction depth with
  | zero =>
    intro id path htrail hlength
    have hle := htrail.length_le
    unfold visitLimit at hlength
    omega
  | succ depth ih =>
    intro id path htrail hlength
    by_cases hmem : id ∈ path
    · exact ⟨none, searchTrait_of_mem depth hmem, by simp [InheritsOutside, hmem]⟩
    cases hshape : model.shape? id with
    | none =>
      refine ⟨none, searchTrait_of_absent depth hmem hshape, ?_⟩
      simp [not_inheritsOutside_of_absent hshape]
    | some shape =>
      rw [inheritsOutside_iff hshape hmem]
      cases hown : shape.traits.get? traitId with
      | some value =>
        exact ⟨some value, searchTrait_of_own depth hmem hshape hown, by simp⟩
      | none =>
        have hlength' : (id :: path).length + depth = model.visitLimit := by
          rw [List.length_cons]
          omega
        have hmixins : ∀ mixin ∈ model.lenders shape traitId,
            ∃ found, model.searchTrait traitId depth mixin (id :: path) = some (found, id :: path) ∧
              (found.isSome ↔ model.InheritsOutside traitId (id :: path) mixin) := by
          intro mixin hmixin
          obtain ⟨⟨stored, hstored, hused⟩, -⟩ := (mem_lenders_iff hshape).1 hmixin
          exact ih (htrail.cons hmem hstored hused) hlength'
        obtain ⟨found, hsearch, hfound⟩ := searchFirst_eq hmixins
        exact ⟨found, searchTrait_of_lenders hmem hshape hown hsearch, by simp [hfound]⟩

/-- A trait is found exactly where it is inherited, whatever cycles the mixins have. -/
theorem trait?_isSome_iff : (model.trait? id traitId).isSome ↔ model.Inherits traitId id := by
  obtain ⟨found, hsearch, hfound⟩ :=
    searchTrait_eq traitId model.visitLimit (.nil model id) (Nat.zero_add _)
  rw [← inheritsOutside_nil, ← hfound]
  simp [trait?, hsearch]

end EntityForge.Model

import Mathlib.Logic.Relation
import EntityForge.Model.Members
import EntityForge.Proofs.Dictionary

/-!
# The graph of mixins

The mixins of the shapes of a model are a graph, of which nothing is known: it may have cycles, and
edges to ids without a definition. This module says what the members of a shape are in terms of the
graph alone, without a traversal.

* `Model.AcyclicBelow`: no cycle of mixins can be reached from an id.
* `Model.Composable`: what is below an id can be put together. This is a condition on every id that
  can be reached, and it composes edge by edge (`Composable.of_mixins`, `Composable.of_edge`).
* `Model.HasMember`: some shape that can be reached declares a member of a name.
* `Model.MemberKind`: the kind of a member by precedence. A name has at most one
  (`MemberKind.unique`).
* `Model.Trail`: the ids between a start and an id. In a model without a cycle there, a trail never
  comes back, so it is no longer than the model has shapes (`Trail.length_le`).
-/

set_option autoImplicit false

namespace EntityForge.Model

variable {model : Model} {id other mixin name : String} {shape : Shape} {kind : ShapeKind}

theorem definition?_eq_some_iff :
    model.definition? id = some shape ↔
      model.shape? id = some shape ∧ shape.type ≠ Shape.applyType := by
  simp [definition?, Option.filter_eq_some_iff, Shape.isPending]

/-- A shape uses another one as a mixin. -/
def MixinEdge (model : Model) (id mixin : String) : Prop :=
  ∃ shape, model.shape? id = some shape ∧ mixin ∈ shape.mixins

/-- Mixins lead from one id to another one, in any number of steps. -/
def Reaches (model : Model) : String → String → Prop :=
  Relation.ReflTransGen model.MixinEdge

theorem Reaches.refl (model : Model) (id : String) : model.Reaches id id :=
  Relation.ReflTransGen.refl

theorem MixinEdge.reaches (hedge : model.MixinEdge id mixin) (h : model.Reaches mixin other) :
    model.Reaches id other :=
  Relation.ReflTransGen.head hedge h

/-- From a shape one stays there or goes on from one of its mixins. -/
theorem reaches_iff (hshape : model.shape? id = some shape) :
    model.Reaches id other ↔ other = id ∨ ∃ mixin ∈ shape.mixins, model.Reaches mixin other := by
  rw [Reaches, Relation.ReflTransGen.cases_head_iff, eq_comm]
  refine or_congr Iff.rfl (exists_congr fun mixin => and_congr_left fun _ => ?_)
  constructor
  · rintro ⟨stored, hstored, hmem⟩
    rw [hshape] at hstored
    cases hstored
    exact hmem
  · exact fun hmem => ⟨shape, hshape, hmem⟩

/-! ## Graphs without cycles -/

/-- No cycle of mixins can be reached from an id. -/
def AcyclicBelow (model : Model) (id : String) : Prop :=
  ∀ other, model.Reaches id other → ¬ Relation.TransGen model.MixinEdge other other

theorem AcyclicBelow.of_edge (h : model.AcyclicBelow id) (hedge : model.MixinEdge id mixin) :
    model.AcyclicBelow mixin :=
  fun other hreach => h other (hedge.reaches hreach)

theorem AcyclicBelow.of_reaches (h : model.AcyclicBelow id) (hreaches : model.Reaches id mixin) :
    model.AcyclicBelow mixin :=
  fun other hreach => h other (hreaches.trans hreach)

/-- There is no cycle below a shape if there is none below its mixins. -/
theorem AcyclicBelow.of_mixins (hshape : model.shape? id = some shape)
    (hmixins : ∀ mixin ∈ shape.mixins, model.AcyclicBelow mixin) : model.AcyclicBelow id := by
  intro other hreach hcycle
  -- a cycle through the shape itself also goes through one of its mixins
  have hafter : ∃ mixin ∈ shape.mixins, model.Reaches mixin other := by
    rcases (reaches_iff hshape).1 hreach with rfl | hafter
    · obtain ⟨mixin, ⟨stored, hstored, hmem⟩, hback⟩ := Relation.TransGen.head'_iff.1 hcycle
      rw [hshape] at hstored
      cases hstored
      exact ⟨mixin, hmem, hback⟩
    · exact hafter
  obtain ⟨mixin, hmem, hrest⟩ := hafter
  exact hmixins mixin hmem other hrest hcycle

/-! ## Graphs that can be put together -/

/-- The shapes that can be reached from an id can be put together. -/
structure Composable (model : Model) (id : String) : Prop where
  /-- All of them are defined. -/
  defined : ∀ other, model.Reaches id other →
    ∃ shape, model.shape? other = some shape ∧ shape.type ≠ Shape.applyType
  /-- None of them is its own mixin, directly or by way of others. -/
  acyclic : ∀ other, model.Reaches id other → ¬ Relation.TransGen model.MixinEdge other other
  /-- The targets of all their members resolve. -/
  resolved : ∀ other shape, model.Reaches id other → model.shape? other = some shape →
    ∀ entry ∈ shape.members.entries, ∃ kind, model.resolveKind entry.2 = .ok kind

theorem Composable.of_edge (h : model.Composable id) (hedge : model.MixinEdge id mixin) :
    model.Composable mixin where
  defined other hreach := h.defined other (hedge.reaches hreach)
  acyclic other hreach := h.acyclic other (hedge.reaches hreach)
  resolved other shape hreach := h.resolved other shape (hedge.reaches hreach)

/-- A defined shape can be put together if its mixins can and its own targets resolve. -/
theorem Composable.of_mixins (hshape : model.shape? id = some shape)
    (htype : shape.type ≠ Shape.applyType)
    (hmixins : ∀ mixin ∈ shape.mixins, model.Composable mixin)
    (htargets : ∀ entry ∈ shape.members.entries, ∃ kind, model.resolveKind entry.2 = .ok kind) :
    model.Composable id where
  defined other hreach := by
    rcases (reaches_iff hshape).1 hreach with rfl | ⟨mixin, hmem, hrest⟩
    · exact ⟨shape, hshape, htype⟩
    · exact (hmixins mixin hmem).defined other hrest
  acyclic := AcyclicBelow.of_mixins hshape fun mixin hmem => (hmixins mixin hmem).acyclic
  resolved other stored hreach hstored := by
    rcases (reaches_iff hshape).1 hreach with rfl | ⟨mixin, hmem, hrest⟩
    · rw [hshape] at hstored
      cases hstored
      exact htargets
    · exact (hmixins mixin hmem).resolved other stored hrest hstored

/-! ## Members by precedence -/

/-- Some shape that can be reached declares a member of a name. -/
def HasMember (model : Model) (id name : String) : Prop :=
  ∃ other shape, model.Reaches id other ∧ model.shape? other = some shape ∧
    name ∈ shape.members.keys

theorem hasMember_iff (hshape : model.shape? id = some shape) :
    model.HasMember id name ↔
      name ∈ shape.members.keys ∨ ∃ mixin ∈ shape.mixins, model.HasMember mixin name := by
  constructor
  · rintro ⟨other, stored, hreach, hstored, hname⟩
    rcases (reaches_iff hshape).1 hreach with rfl | ⟨mixin, hmem, hrest⟩
    · rw [hshape] at hstored
      cases hstored
      exact .inl hname
    · exact .inr ⟨mixin, hmem, other, stored, hrest, hstored, hname⟩
  · rintro (hname | ⟨mixin, hmem, other, stored, hrest, hstored, hname⟩)
    · exact ⟨id, shape, .refl model id, hshape, hname⟩
    · exact ⟨other, stored, (reaches_iff hshape).2 (.inr ⟨mixin, hmem, hrest⟩), hstored, hname⟩

/-- The kind of a member by precedence: the member of the shape itself, or else that of the last
mixin that has one of this name. -/
inductive MemberKind (model : Model) : String → String → ShapeKind → Prop where
  | own {id name target : String} {shape : Shape} {kind : ShapeKind} :
      model.shape? id = some shape →
      shape.members.get? name = some target →
      model.resolveKind target = .ok kind →
      MemberKind model id name kind
  | lent {id name mixin : String} {shape : Shape} {before after : List String}
      {kind : ShapeKind} :
      model.shape? id = some shape →
      shape.members.get? name = none →
      shape.mixins = before ++ mixin :: after →
      (∀ later ∈ after, ¬ model.HasMember later name) →
      MemberKind model mixin name kind →
      MemberKind model id name kind

theorem MemberKind.hasMember (h : model.MemberKind id name kind) : model.HasMember id name := by
  induction h with
  | own hshape htarget _ =>
    exact (hasMember_iff hshape).2 (.inl (Dictionary.mem_keys_iff.2 (by simp [htarget])))
  | lent hshape _ hmixins _ _ ih =>
    exact (hasMember_iff hshape).2 (.inr ⟨_, by simp [hmixins], ih⟩)

/-- Of two places in a list one is behind the other, or they are the same. -/
theorem eq_or_mem_of_append_cons_eq {α : Type} {a b : α} {before before' after after' : List α}
    (h : before ++ a :: after = before' ++ b :: after') : a = b ∨ b ∈ after ∨ a ∈ after' := by
  rcases List.append_eq_append_iff.1 h with ⟨middle, -, hrest⟩ | ⟨middle, -, hrest⟩
  · cases middle with
    | nil => exact .inl (List.cons.inj hrest).1
    | cons c middle => exact .inr (.inl (by rw [(List.cons.inj hrest).2]; simp))
  · cases middle with
    | nil => exact .inl (List.cons.inj hrest).1.symm
    | cons c middle => exact .inr (.inr (by rw [(List.cons.inj hrest).2]; simp))

/-- The last item with a property is at one place only. -/
theorem last_unique {α : Type} {p : α → Prop} {a b : α} {before before' after after' : List α}
    (h : before ++ a :: after = before' ++ b :: after') (ha : p a) (hb : p b)
    (hafter : ∀ c ∈ after, ¬ p c) (hafter' : ∀ c ∈ after', ¬ p c) : a = b := by
  rcases eq_or_mem_of_append_cons_eq h with heq | hmem | hmem
  · exact heq
  · exact absurd hb (hafter b hmem)
  · exact absurd ha (hafter' a hmem)

/-- A name has at most one kind. -/
theorem MemberKind.unique (h : model.MemberKind id name kind) :
    ∀ {kind' : ShapeKind}, model.MemberKind id name kind' → kind' = kind := by
  induction h with
  | own hshape htarget hkind =>
    intro kind' h'
    cases h' with
    | own hshape' htarget' hkind' => simp_all
    | lent hshape' hnone' => simp_all
  | lent hshape hnone hmixins hafter hlent ih =>
    intro kind' h'
    -- both kinds come from the last mixin with the name, so from one and the same
    cases h' with
    | own hshape' htarget' _ => simp_all
    | lent hshape' _ hmixins' hafter' hlent' =>
      rw [hshape] at hshape'
      cases hshape'
      obtain rfl := last_unique (p := fun mixin => model.HasMember mixin _)
        (hmixins.symm.trans hmixins') hlent.hasMember hlent'.hasMember hafter hafter'
      exact ih hlent'

/-! ## Trails -/

/-- The ids between a start and an id, without repetition; from each of them mixins lead to it. -/
structure Trail (model : Model) (path : List String) (id : String) : Prop where
  /-- No id comes twice. -/
  nodup : path.Nodup
  /-- Every id has a record. -/
  stored : ∀ earlier ∈ path, earlier ∈ model.shapes.keys
  /-- Mixins lead from every id to the next one. -/
  leads : ∀ earlier ∈ path, Relation.TransGen model.MixinEdge earlier id

theorem Trail.nil (model : Model) (id : String) : model.Trail [] id := ⟨.nil, nofun, nofun⟩

theorem Trail.cons {path : List String} (h : model.Trail path id) (hfresh : id ∉ path)
    (hshape : model.shape? id = some shape) (hmem : mixin ∈ shape.mixins) :
    model.Trail (id :: path) mixin where
  nodup := List.nodup_cons.2 ⟨hfresh, h.nodup⟩
  stored := by
    intro earlier hearlier
    rcases List.mem_cons.1 hearlier with rfl | hearlier
    · exact Dictionary.mem_keys_iff.2 (Option.isSome_iff_exists.2 ⟨shape, hshape⟩)
    · exact h.stored earlier hearlier
  leads := by
    intro earlier hearlier
    have hedge : model.MixinEdge id mixin := ⟨shape, hshape, hmem⟩
    rcases List.mem_cons.1 hearlier with rfl | hearlier
    · exact .single hedge
    · exact .tail (h.leads earlier hearlier) hedge

/-- No trail is longer than the model has shapes. -/
theorem Trail.length_le {path : List String} (h : model.Trail path id) :
    path.length ≤ model.shapes.size := by
  have hkeys : model.shapes.keys.length = model.shapes.size := List.length_map _
  rw [← hkeys]
  exact h.nodup.length_le_of_subset h.stored

/-- Only a cycle leads back to an id of the trail. -/
theorem Trail.notMem_of_acyclic {path : List String} (h : model.Trail path id)
    (hacyclic : model.AcyclicBelow id) : id ∉ path :=
  fun hmem => hacyclic id (.refl model id) (h.leads id hmem)

end EntityForge.Model

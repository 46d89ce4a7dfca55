import EntityForge.Model.View
import EntityForge.Proofs.Model.TraitInheritance

/-!
# Traits by precedence

Where no cycle of mixins can be reached, the value of a trait on a shape is given by a rule that
knows of no search: it is the shape's own value, or else the value that the same rule gives for the
last mixin that does not keep the trait to itself and has a value (`Model.TraitValue`). The rule
gives one answer for every id (`Model.TraitValue.unique`), so the answer for a mixin is the same
wherever the mixin is used.

The search follows the rule (`Model.searchTrait_value`). It hands its path on from shape to shape
and cuts a branch that meets the path; on a trail without a cycle no branch does, and every visit
gives the path back as it was. So what it finds at a mixin does not depend on how it came there
(`Model.trait_precedence`).
-/

set_option autoImplicit false

namespace EntityForge.Model

variable {model : Model} {id mixin traitId : String} {shape : Shape} {path : List String}

/-! ## The rule -/

/-- The value of a trait under an id by precedence, or none. The shape's own value wins; after it
comes the value of the last mixin that does not keep the trait to itself and has one. -/
inductive TraitValue (model : Model) (traitId : String) : String → Option Json → Prop where
  /-- Nothing is found under an id without a record. -/
  | absent {id : String} :
      model.shape? id = none →
      TraitValue model traitId id none
  /-- The shape carries the trait itself. -/
  | own {id : String} {shape : Shape} {value : Json} :
      model.shape? id = some shape →
      shape.traits.get? traitId = some value →
      TraitValue model traitId id (some value)
  /-- A mixin lends its value, and no later one has a value to lend. -/
  | lent {id mixin : String} {shape : Shape} {before after : List String} {value : Json} :
      model.shape? id = some shape →
      shape.traits.get? traitId = none →
      shape.mixins = before ++ mixin :: after →
      ¬ model.KeepsLocal traitId mixin →
      TraitValue model traitId mixin (some value) →
      (∀ later ∈ after, ¬ model.KeepsLocal traitId later → TraitValue model traitId later none) →
      TraitValue model traitId id (some value)
  /-- No mixin has a value to lend. -/
  | unlent {id : String} {shape : Shape} :
      model.shape? id = some shape →
      shape.traits.get? traitId = none →
      (∀ mixin ∈ shape.mixins, ¬ model.KeepsLocal traitId mixin →
        TraitValue model traitId mixin none) →
      TraitValue model traitId id none

/-- The rule gives at most one answer. -/
theorem TraitValue.unique {found : Option Json} (h : model.TraitValue traitId id found) :
    ∀ {other : Option Json}, model.TraitValue traitId id other → other = found := by
  induction h with
  | absent hshape =>
    intro other h'
    cases h' with
    | absent => rfl
    | own hshape' | lent hshape' | unlent hshape' => simp_all
  | own hshape hown =>
    intro other h'
    cases h' with
    | own hshape' hown' => simp_all
    | absent hshape' | lent hshape' hnone' | unlent hshape' hnone' => simp_all
  | lent hshape hnone hmixins hlends hvalue hafter ihvalue ihafter =>
    intro other h'
    cases h' with
    | absent hshape' => simp_all
    | own hshape' hown' => simp_all
    | lent hshape' _ hmixins' hlends' hvalue' hafter' =>
      rw [hshape] at hshape'
      cases hshape'
      -- the two mixins are the same one, as neither is behind the other
      rcases eq_or_mem_of_append_cons_eq (hmixins.symm.trans hmixins') with rfl | hmem | hmem
      · exact ihvalue hvalue'
      · cases ihafter _ hmem hlends' hvalue'
      · cases ihvalue (hafter' _ hmem hlends)
    | unlent hshape' _ hall' =>
      rw [hshape] at hshape'
      cases hshape'
      cases ihvalue (hall' _ (by simp [hmixins]) hlends)
  | unlent hshape hnone hall ih =>
    intro other h'
    cases h' with
    | absent hshape' => rfl
    | own hshape' hown' => simp_all
    | lent hshape' _ hmixins' hlends' hvalue' =>
      rw [hshape] at hshape'
      cases hshape'
      cases ih _ (by simp [hmixins']) hlends' hvalue'
    | unlent => rfl

/-! ## The search -/

/-- Searches that give their path back find one after another what the first of them finds that
finds something. -/
theorem searchFirst_cases {search : Search} {value : String → Option Json → Prop}
    {ids : List String}
    (h : ∀ id ∈ ids, ∃ found, search id path = some (found, path) ∧ value id found) :
    (searchFirst search ids path = some (none, path) ∧ ∀ id ∈ ids, value id none) ∨
      ∃ before id after found, ids = before ++ id :: after ∧
        searchFirst search ids path = some (some found, path) ∧ value id (some found) ∧
        ∀ earlier ∈ before, value earlier none := by
  induction ids with
  | nil => exact .inl ⟨rfl, nofun⟩
  | cons id ids ih =>
    obtain ⟨found, hsearch, hvalue⟩ := h id List.mem_cons_self
    cases found with
    | some found =>
      exact .inr ⟨[], id, ids, found, rfl, searchFirst_of_found hsearch, hvalue, nofun⟩
    | none =>
      rw [searchFirst_of_none hsearch]
      rcases ih fun other hmem => h other (List.mem_cons_of_mem id hmem) with
        ⟨hlater, hnone⟩ | ⟨before, other, after, found, rfl, hlater, hfound, hbefore⟩
      · exact .inl ⟨hlater, List.forall_mem_cons.2 ⟨hvalue, hnone⟩⟩
      · exact .inr ⟨id :: before, other, after, found, rfl, hlater, hfound,
          List.forall_mem_cons.2 ⟨hvalue, hbefore⟩⟩

/-- What comes before a lender among the lenders of a shape comes behind it among the mixins. -/
theorem mixins_of_lenders {before after : List String}
    (h : model.lenders shape traitId = before ++ mixin :: after) :
    ¬ model.KeepsLocal traitId mixin ∧
      ∃ earlier later, shape.mixins = earlier ++ mixin :: later ∧
        ∀ other ∈ later, ¬ model.KeepsLocal traitId other → other ∈ before := by
  obtain ⟨front, back, hmixins, hfront, hback⟩ := List.filter_eq_append_iff.1 h
  obtain ⟨kept, rest, rfl, hkept, hlends, -⟩ := List.filter_eq_cons_iff.1 hback
  simp only [Bool.not_eq_true', Bool.not_eq_false, isLocalTrait_iff] at hkept
  rw [Bool.not_eq_true', ← Bool.not_eq_true, isLocalTrait_iff] at hlends
  refine ⟨hlends, rest.reverse, (front ++ kept).reverse, ?_, ?_⟩
  · rw [← List.reverse_reverse shape.mixins, hmixins]
    simp
  · intro other hmem hother
    rcases List.mem_append.1 (List.mem_reverse.1 hmem) with hmem | hmem
    · rw [← hfront, List.mem_filter, Bool.not_eq_true', ← Bool.not_eq_true, isLocalTrait_iff]
      exact ⟨hmem, hother⟩
    · exact absurd (hkept other hmem) hother

/-- Along a trail below which there is no cycle, with depth for all shapes that are not on it, a
search finds what the rule gives and gives the path back as it was. -/
theorem searchTrait_value (traitId : String) (depth : Nat) : ∀ {id path},
    model.Trail path id → model.AcyclicBelow id → path.length + depth = model.visitLimit →
      ∃ found, model.searchTrait traitId depth id path = some (found, path) ∧
        model.TraitValue traitId id found := by
  -- on the depth; every mixin is one place further on the trail
  induction depth with
  | zero =>
    intro id path htrail _ hlength
    have hle := htrail.length_le
    unfold visitLimit at hlength
    omega
  | succ depth ih =>
    intro id path htrail hacyclic hlength
    have hfresh := htrail.notMem_of_acyclic hacyclic
    cases hshape : model.shape? id with
    | none => exact ⟨none, searchTrait_of_absent depth hfresh hshape, .absent hshape⟩
    | some shape =>
      cases hown : shape.traits.get? traitId with
      | some value =>
        exact ⟨some value, searchTrait_of_own depth hfresh hshape hown, .own hshape hown⟩
      | none =>
        have hlength' : (id :: path).length + depth = model.visitLimit := by
          rw [List.length_cons]
          omega
        have hmixins : ∀ mixin ∈ model.lenders shape traitId, ∃ found,
            model.searchTrait traitId depth mixin (id :: path) = some (found, id :: path) ∧
              model.TraitValue traitId mixin found := by
          intro mixin hmixin
          have hedge := ((mem_lenders_iff hshape).1 hmixin).1
          have htrail' : model.Trail (id :: path) mixin := by
            obtain ⟨stored, hstored, hused⟩ := hedge
            exact htrail.cons hfresh hstored hused
          exact ih htrail' (hacyclic.of_edge hedge) hlength'
        rcases searchFirst_cases hmixins with
          ⟨hsearch, hnone⟩ | ⟨before, mixin, after, found, hlenders, hsearch, hfound, hbefore⟩
        · refine ⟨none, searchTrait_of_lenders hfresh hshape hown hsearch,
            .unlent hshape hown fun mixin hmem hlends => hnone mixin ?_⟩
          exact (mem_lenders_iff hshape).2 ⟨⟨shape, hshape, hmem⟩, hlends⟩
        · obtain ⟨hlends, earlier, later, hsplit, hlater⟩ := mixins_of_lenders hlenders
          refine ⟨some found, searchTrait_of_lenders hfresh hshape hown hsearch,
            .lent hshape hown hsplit hlends hfound fun other hmem hother => ?_⟩
          exact hbefore other (hlater other hmem hother)

/-- Where no cycle can be reached, the value that is found is the one that the rule gives. -/
theorem traitValue_iff (h : model.AcyclicBelow id) {found : Option Json} :
    model.TraitValue traitId id found ↔ model.trait? id traitId = found := by
  obtain ⟨value, hsearch, hvalue⟩ :=
    searchTrait_value traitId model.visitLimit (.nil model id) h (Nat.zero_add _)
  have htrait : model.trait? id traitId = value := by simp [trait?, hsearch]
  rw [htrait]
  constructor
  · intro hfound
    exact (hvalue.unique hfound).symm
  · rintro rfl
    exact hvalue

/-- Traits follow precedence. Where no cycle of mixins can be reached from a shape, the value of a
trait, from which its marker is made, is the one that the rule gives: the shape's own, or else that
of the last mixin that does not keep the trait to itself and has one by the same rule, or else none.
A search that comes to any shape below, along any trail of shapes that use it, finds there what a
search that begins there finds. -/
theorem trait_precedence (h : model.AcyclicBelow id) (traitId : String) :
    (∀ found, model.TraitValue traitId id found ↔ model.trait? id traitId = found) ∧
    (∀ decl : Declaration, decl.id = id →
      ∃ found, model.TraitValue traitId id found ∧
        model.marker decl traitId = found.map Json.markerNode) ∧
    ∀ mixin path depth, model.Reaches id mixin → model.Trail path mixin →
      path.length + depth = model.visitLimit →
        model.searchTrait traitId depth mixin path
          = some (model.trait? mixin traitId, path) := by
  refine ⟨fun found => traitValue_iff h, ?_, ?_⟩
  · rintro decl rfl
    exact ⟨model.trait? decl.id traitId, (traitValue_iff h).2 rfl, rfl⟩
  · intro mixin path depth hreaches htrail hlength
    have hbelow := h.of_reaches hreaches
    obtain ⟨found, hsearch, hvalue⟩ := searchTrait_value traitId depth htrail hbelow hlength
    rw [hsearch, (traitValue_iff hbelow).1 hvalue]

/-- A structure that comes to one mixin in three ways: by way of a mixin with a value of its own,
of one without, and of one that keeps the trait to itself. -/
def diamond : Model :=
  let keeping : Json := .object [(localTraitsKey, .list [.text "demo#crud"])]
  ⟨.ofList
    [("base", ⟨Shape.structureType, .empty, [], .ofList [("demo#crud", .text "base")]⟩),
     ("left", ⟨Shape.structureType, .empty, ["base"], .ofList [("demo#crud", .text "left")]⟩),
     ("right", ⟨Shape.structureType, .empty, ["base"], .empty⟩),
     ("keeper", ⟨Shape.structureType, .empty, ["base"],
       .ofList [(mixinTrait, keeping), ("demo#crud", .text "keeper")]⟩),
     ("Pet", ⟨Shape.structureType, .empty, ["left", "right", "keeper"], .empty⟩)]⟩

/-- The last mixin that lends the trait has it from the common one, where the search finds the same
value when it comes by way of the others. -/
theorem trait_precedence_diamond :
    diamond.AcyclicBelow "Pet" ∧
    diamond.TraitValue "demo#crud" "Pet" (some (.text "base")) ∧
    diamond.searchTrait "demo#crud" 4 "base" ["right", "Pet"]
      = some (some (.text "base"), ["right", "Pet"]) := by
  have hbase : diamond.AcyclicBelow "base" := .of_mixins rfl nofun
  have hfirst : ∀ id ∈ ["left", "right", "keeper"], diamond.AcyclicBelow id := by
    intro id hmem
    simp only [List.mem_cons, List.not_mem_nil, or_false] at hmem
    rcases hmem with rfl | rfl | rfl <;> exact .of_mixins rfl (List.forall_mem_singleton.2 hbase)
  have hacyclic : diamond.AcyclicBelow "Pet" := .of_mixins rfl hfirst
  have hright : diamond.Trail ["Pet"] "right" :=
    (Trail.nil diamond "Pet").cons (by decide) rfl (by decide)
  have htrail : diamond.Trail ["right", "Pet"] "base" := hright.cons (by decide) rfl (by decide)
  have hfrom : diamond.Reaches "right" "base" :=
    MixinEdge.reaches ⟨_, rfl, by decide⟩ (.refl diamond "base")
  have hreaches : diamond.Reaches "Pet" "base" := MixinEdge.reaches ⟨_, rfl, by decide⟩ hfrom
  obtain ⟨hvalue, -, hsearch⟩ := trait_precedence hacyclic "demo#crud"
  exact ⟨hacyclic, (hvalue _).2 rfl, hsearch "base" _ 4 hreaches htrail rfl⟩

end EntityForge.Model

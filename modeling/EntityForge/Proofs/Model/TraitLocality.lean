import EntityForge.Proofs.Model.TraitInheritance

/-!
# What traits depend on

The search for a trait looks only at the records that mixins lead to. So two models that hold the
same records there find the same value, or both none, however they differ elsewhere and however many
shapes they have (`Model.trait?_eq`): a search ends within the allowance of its own model, and with
a larger one it does the same (`Model.searchTrait_extends`).
-/

set_option autoImplicit false

namespace EntityForge.Model

variable {model other : Model} {id mixin traitId : String} {shape : Shape}

/-- Another model holds the same records as a model at all ids that mixins lead to. -/
def SameBelow (model other : Model) (id : String) : Prop :=
  ∀ below, model.Reaches id below → other.shape? below = model.shape? below

theorem SameBelow.of_edge (h : model.SameBelow other id) (hedge : model.MixinEdge id mixin) :
    model.SameBelow other mixin :=
  fun below hreach => h below (hedge.reaches hreach)

/-- The same mixins lend a trait, as each of them says itself what it keeps. -/
theorem SameBelow.lenders_eq (h : model.SameBelow other id)
    (hshape : model.shape? id = some shape) :
    other.lenders shape traitId = model.lenders shape traitId := by
  unfold lenders
  apply List.filter_congr
  intro mixin hmem
  have hedge : model.MixinEdge id mixin := ⟨shape, hshape, List.mem_reverse.1 hmem⟩
  have hsame := h mixin (hedge.reaches (.refl model mixin))
  simp only [isLocalTrait, hsame]

/-! ## Searches -/

/-- A search does what another one does, where the other one ends. -/
def Search.Extends (later earlier : Search) (id : String) : Prop :=
  ∀ path result, earlier id path = some result → later id path = some result

theorem searchFirst_extends {earlier later : Search} {ids : List String}
    (h : ∀ id ∈ ids, later.Extends earlier id) : ∀ path result,
      searchFirst earlier ids path = some result → searchFirst later ids path = some result := by
  induction ids with
  | nil => exact fun _ _ hresult => hresult
  | cons id ids ih =>
    intro path result hresult
    cases hfirst : earlier id path with
    | none => simp [searchFirst, hfirst] at hresult
    | some first =>
      obtain ⟨found, path'⟩ := first
      have hlater := h id List.mem_cons_self path _ hfirst
      rw [searchFirst, hfirst] at hresult
      rw [searchFirst, hlater]
      cases found with
      | some value => exact hresult
      | none =>
        -- nothing is found at the first id, so both go on with the others
        exact ih (fun next hmem => h next (List.mem_cons_of_mem id hmem)) path' result hresult

/-- In a model that holds the same records below an id, and with more depth, a search at the id does
the same. -/
theorem searchTrait_extends (traitId : String) (extra depth : Nat) : ∀ {id : String},
    model.SameBelow other id →
      Search.Extends (other.searchTrait traitId (depth + extra)) (model.searchTrait traitId depth)
        id := by
  -- on the depth; a mixin is one edge further, where the records are the same too
  induction depth with
  | zero =>
    intro id _ path result hresult
    cases hresult
  | succ depth ih =>
    intro id hsame path result hresult
    rw [Nat.succ_add]
    unfold searchTrait at hresult ⊢
    rw [hsame id (.refl model id)]
    by_cases hmem : id ∈ path
    · simpa only [if_pos hmem] using hresult
    · simp only [if_neg hmem] at hresult ⊢
      cases hshape : model.shape? id with
      | none => simpa only [hshape] using hresult
      | some shape =>
        simp only [hshape] at hresult ⊢
        cases hown : shape.traits.get? traitId with
        | some value => simpa only [hown] using hresult
        | none =>
          simp only [hown, hsame.lenders_eq hshape] at hresult ⊢
          cases hmixins : searchFirst (model.searchTrait traitId depth)
              (model.lenders shape traitId) (id :: path) with
          | none => simp [hmixins] at hresult
          | some found =>
            have hextends : ∀ mixin ∈ model.lenders shape traitId,
                Search.Extends (other.searchTrait traitId (depth + extra))
                  (model.searchTrait traitId depth) mixin := by
              intro mixin hmixin
              exact ih (hsame.of_edge ((mem_lenders_iff hshape).1 hmixin).1)
            rw [searchFirst_extends hextends _ _ hmixins]
            rwa [hmixins] at hresult

/-- Models that hold the same records below an id find the same value of a trait there. -/
theorem trait?_eq (hsame : model.SameBelow other id) (hlimit : model.visitLimit ≤ other.visitLimit)
    (traitId : String) : other.trait? id traitId = model.trait? id traitId := by
  obtain ⟨extra, hextra⟩ := Nat.exists_eq_add_of_le hlimit
  obtain ⟨found, hfound, -⟩ :=
    searchTrait_eq traitId model.visitLimit (.nil model id) (Nat.zero_add _)
  have hlater := searchTrait_extends traitId extra model.visitLimit hsame [] _ hfound
  simp only [trait?, hextra, hlater, hfound]

end EntityForge.Model

import EntityForge.Proofs.Model.MemberResolution

/-!
# What members depend on

Collecting the members of a shape looks only at the shapes that mixins lead to, at nothing of them
but their members and mixins, and at the targets of these members. So two models that agree there
give the same members, or the same fault (`Model.members_eq`), however they differ elsewhere and
however many shapes they have: the allowance for nested visits is never used up, and a larger one
changes nothing (`Model.collectMembers_eq`).
-/

set_option autoImplicit false

namespace EntityForge

/-- What of a shape decides on members: its own members and its mixins. -/
def Shape.body (shape : Shape) : Dictionary String × List String := (shape.members, shape.mixins)

namespace Model

variable {model other : Model} {id mixin : String}

/-- Another model agrees with a model below an id: it defines the same shapes there, with the same
members and mixins, and resolves the targets of the members in the same way. -/
structure AgreesBelow (model other : Model) (id : String) : Prop where
  /-- The definitions have the same members and mixins. -/
  bodies : ∀ below, model.Reaches id below →
    (other.definition? below).map Shape.body = (model.definition? below).map Shape.body
  /-- The targets of the members are resolved in the same way. -/
  targets : ∀ below shape, model.Reaches id below → model.shape? below = some shape →
    ∀ entry ∈ shape.members.entries, other.resolveKind entry.2 = model.resolveKind entry.2

theorem AgreesBelow.of_edge (h : model.AgreesBelow other id) (hedge : model.MixinEdge id mixin) :
    model.AgreesBelow other mixin where
  bodies below hreach := h.bodies below (hedge.reaches hreach)
  targets below shape hreach := h.targets below shape (hedge.reaches hreach)

theorem addMembers_eq {members : List (String × String)}
    (h : ∀ entry ∈ members, other.resolveKind entry.2 = model.resolveKind entry.2) :
    ∀ kinds : Kinds, other.addMembers members kinds = model.addMembers members kinds := by
  induction members with
  | nil => exact fun _ => rfl
  | cons entry members ih =>
    intro kinds
    have hrest := ih fun later hmem => h later (List.mem_cons_of_mem entry hmem)
    simp only [addMembers, h entry List.mem_cons_self, hrest]

/-! ## Visits -/

/-- A visit does what another one does, where the other one does not run out of depth. -/
def Visit.Extends (later earlier : Visit) (id : String) : Prop :=
  ∀ path kinds, earlier id path kinds ≠ .error .tooDeep →
    later id path kinds = earlier id path kinds

theorem visitAll_eq {earlier later : Visit} {ids : List String}
    (h : ∀ id ∈ ids, later.Extends earlier id) : ∀ (path : List String) (kinds : Kinds),
      visitAll earlier ids path kinds ≠ .error .tooDeep →
        visitAll later ids path kinds = visitAll earlier ids path kinds := by
  induction ids with
  | nil => exact fun _ _ _ => rfl
  | cons id ids ih =>
    intro path kinds hdeep
    have hfirst : earlier id path kinds ≠ .error .tooDeep := by
      intro htoo
      simp [visitAll, htoo] at hdeep
    have hsame := h id List.mem_cons_self path kinds hfirst
    cases hresult : earlier id path kinds with
    | error interruption => simp [visitAll, hsame, hresult]
    | ok result =>
      obtain ⟨path', kinds'⟩ := result
      simp only [visitAll, hresult] at hdeep
      simp only [visitAll, hsame, hresult]
      exact ih (fun later hmem => h later (List.mem_cons_of_mem id hmem)) path' kinds' hdeep

/-- In a model that agrees below an id, and with more depth, a visit of the id does the same. -/
theorem collectMembers_eq (extra depth : Nat) : ∀ {id : String}, model.AgreesBelow other id →
    Visit.Extends (other.collectMembers (depth + extra)) (model.collectMembers depth) id := by
  induction depth with
  | zero => exact fun _ _ _ hdeep => absurd rfl hdeep
  | succ depth ih =>
    intro id hagrees path kinds hdeep
    have hbodies := hagrees.bodies id (.refl model id)
    rw [Nat.succ_add]
    unfold collectMembers at hdeep ⊢
    by_cases hmem : id ∈ path
    · simp only [if_pos hmem]
    · simp only [if_neg hmem] at hdeep ⊢
      cases hdefinition : model.definition? id with
      | none =>
        rw [hdefinition, Option.map_none, Option.map_eq_none_iff] at hbodies
        rw [hbodies]
      | some shape =>
        rw [hdefinition, Option.map_some, Option.map_eq_some_iff] at hbodies
        obtain ⟨stored, hstored, hbody⟩ := hbodies
        obtain ⟨hmembers, hmixins⟩ := Prod.mk.inj hbody
        rw [hdefinition] at hdeep
        have hshape := (definition?_eq_some_iff.1 hdefinition).1
        simp only [hstored, hmembers, hmixins] at hdeep ⊢
        have hvisits : visitAll (other.collectMembers (depth + extra)) shape.mixins (id :: path)
            kinds = visitAll (model.collectMembers depth) shape.mixins (id :: path) kinds := by
          refine visitAll_eq (fun mixin hmixin => ?_) _ _ fun htoo => ?_
          · exact ih (hagrees.of_edge ⟨shape, hshape, hmixin⟩)
          · simp [htoo] at hdeep
        have hown := addMembers_eq (hagrees.targets id shape (.refl model id) hshape)
        simp only [hvisits, hown]

/-! ## All members -/

/-- The allowance for nested visits is never used up. -/
theorem collectMembers_ne_tooDeep (model : Model) (id : String) :
    model.collectMembers model.visitLimit id [] .empty ≠ .error .tooDeep := by
  intro h
  obtain ⟨⟨cause, hcause⟩, -⟩ := collectMembers_error _ (.nil model id) (Nat.zero_add _) h
  cases hcause

/-- A model with at least the same ids has at least the same allowance. -/
theorem visitLimit_le (h : ∀ id, (model.shape? id).isSome → (other.shape? id).isSome) :
    model.visitLimit ≤ other.visitLimit := by
  have hsize : ∀ model : Model, model.shapes.keys.length = model.shapes.size :=
    fun _ => List.length_map _
  unfold visitLimit
  rw [← hsize, ← hsize]
  apply Nat.succ_le_succ
  apply model.shapes.keys_nodup.length_le_of_subset
  intro id hmem
  exact Dictionary.mem_keys_iff.2 (h id (Dictionary.mem_keys_iff.1 hmem))

/-- Models that agree below a declaration give it the same members or the same fault. -/
theorem members_eq {decl : Declaration} (hagrees : model.AgreesBelow other decl.id)
    (hlimit : model.visitLimit ≤ other.visitLimit) : other.members decl = model.members decl := by
  obtain ⟨extra, hextra⟩ := Nat.exists_eq_add_of_le hlimit
  have hcollect := collectMembers_eq extra model.visitLimit hagrees [] .empty
    (collectMembers_ne_tooDeep model decl.id)
  have hkinds : other.memberKinds decl.id = model.memberKinds decl.id := by
    simp only [memberKinds, hextra, hcollect]
  simp only [members, hkinds]

end Model

end EntityForge

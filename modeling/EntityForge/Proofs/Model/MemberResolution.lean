import EntityForge.Proofs.ByteOrder
import EntityForge.Proofs.Model.MixinGraph

/-!
# Members of a shape with mixins

Collecting members writes into one dictionary: a visit first visits all mixins in order and then
writes the members of the shape itself. What is written late wins. Here this is shown to be the
precedence rule of the graph of mixins, `Model.MemberKind`, and a visit is shown to fail exactly
where the graph cannot be put together.

* A visit that succeeds gives its path back, the graph below can be put together, and the dictionary
  is overlaid with the members by precedence (`collectMembers_ok`).
* A visit that fails along a trail, with enough depth left, fails with a fault of the model, and the
  graph below cannot be put together (`collectMembers_error`). So the allowance for nested visits is
  never used up.

`members_resolve` puts both together.
-/

set_option autoImplicit false

namespace EntityForge.Model

variable {model : Model} {id : String} {shape : Shape} {path path' : List String}
  {kinds kinds' : Kinds} {depth : Nat} {visit : Visit} {interruption : Interruption}

/-! ## Own members -/

theorem resolveKind_error {target : String} {fault : Fault}
    (h : model.resolveKind target = .error fault) : ∃ cause, fault = .model cause := by
  unfold resolveKind at h
  split at h
  · split at h
    · cases h
    · cases h
      exact ⟨_, rfl⟩
  · split at h
    · split at h
      · cases h
      · cases h
        exact ⟨_, rfl⟩
    · cases h
      exact ⟨_, rfl⟩

/-- Added members have the kinds of their targets; other names keep theirs. -/
theorem addMembers_ok {members : List (String × String)} (hasc : Ascending members)
    (h : model.addMembers members kinds = .ok kinds') :
    (∀ entry ∈ members, ∃ kind, model.resolveKind entry.2 = .ok kind ∧
      kinds'.get? entry.1 = some kind) ∧
    ∀ name, name ∉ members.map (·.1) → kinds'.get? name = kinds.get? name := by
  induction members generalizing kinds with
  | nil =>
    cases h
    exact ⟨nofun, fun _ _ => rfl⟩
  | cons head rest ih =>
    obtain ⟨hhead, hrest⟩ := List.pairwise_cons.1 hasc
    cases hkind : model.resolveKind head.2 with
    | error fault => simp [addMembers, hkind] at h
    | ok kind =>
      simp only [addMembers, hkind] at h
      obtain ⟨hadded, hkept⟩ := ih hrest h
      -- nothing later writes over the first member, as the names ascend
      have hlast : head.1 ∉ rest.map (·.1) := by
        intro hmem
        obtain ⟨entry, hentry, hsame⟩ := List.mem_map.1 hmem
        exact String.lt_irrefl head.1 (by simpa [hsame] using hhead entry hentry)
      constructor
      · intro entry hentry
        rcases List.mem_cons.1 hentry with rfl | hentry
        · exact ⟨kind, hkind, by rw [hkept _ hlast, Dictionary.get?_insert, if_pos rfl]⟩
        · exact hadded entry hentry
      · intro name hname
        simp only [List.map_cons, List.mem_cons, not_or] at hname
        rw [hkept name hname.2, Dictionary.get?_insert, if_neg (Ne.symm hname.1)]

/-- Members are refused only for a target that does not resolve. -/
theorem addMembers_error {members : List (String × String)} {fault : Fault}
    (h : model.addMembers members kinds = .error fault) :
    (∃ cause, fault = .model cause) ∧
      ∃ entry ∈ members, ∀ kind, model.resolveKind entry.2 ≠ .ok kind := by
  induction members generalizing kinds with
  | nil => cases h
  | cons head rest ih =>
    cases hkind : model.resolveKind head.2 with
    | error reason =>
      simp only [addMembers, hkind] at h
      cases h
      exact ⟨resolveKind_error hkind, head, List.mem_cons_self, fun kind => by simp [hkind]⟩
    | ok kind =>
      simp only [addMembers, hkind] at h
      obtain ⟨hcause, entry, hentry, hbad⟩ := ih h
      exact ⟨hcause, entry, List.mem_cons_of_mem _ hentry, hbad⟩

/-! ## Overlays -/

/-- Kinds that have been overlaid: certain names have a kind given to them, all others keep what
they had. -/
structure Overlaid (has : String → Prop) (given : String → ShapeKind → Prop)
    (before after : Kinds) : Prop where
  /-- Every name that is to have a kind has one that is given to it. -/
  written : ∀ name, has name → ∃ kind, given name kind ∧ after.get? name = some kind
  /-- Nothing else changes. -/
  kept : ∀ name, ¬ has name → after.get? name = before.get? name

/-- Kinds overlaid with the members of a shape by precedence. -/
abbrev Collected (model : Model) (id : String) : Kinds → Kinds → Prop :=
  Overlaid (model.HasMember id) (model.MemberKind id)

/-- The kind that the last of some mixins with a member of a name lends to it. -/
def LentKind (model : Model) (mixins : List String) (name : String) (kind : ShapeKind) : Prop :=
  ∃ before mixin after, mixins = before ++ mixin :: after ∧
    (∀ later ∈ after, ¬ model.HasMember later name) ∧ model.MemberKind mixin name kind

/-- Kinds overlaid with the members of mixins, of which later ones win. -/
abbrev CollectedAll (model : Model) (mixins : List String) : Kinds → Kinds → Prop :=
  Overlaid (fun name => ∃ mixin ∈ mixins, model.HasMember mixin name) (model.LentKind mixins)

theorem collectedAll_nil (model : Model) (kinds : Kinds) : model.CollectedAll [] kinds kinds :=
  ⟨fun _ h => by simp at h, fun _ _ => rfl⟩

/-- One mixin is overlaid by all later ones. -/
theorem collectedAll_cons {mixin : String} {mixins : List String} {middle : Kinds}
    (hhead : model.Collected mixin kinds middle) (hrest : model.CollectedAll mixins middle kinds') :
    model.CollectedAll (mixin :: mixins) kinds kinds' where
  written name hname := by
    -- a later mixin with the name writes over whatever the first one wrote
    by_cases hlater : ∃ other ∈ mixins, model.HasMember other name
    · obtain ⟨kind, ⟨before, last, after, rfl, hafter, hkind⟩, hget⟩ := hrest.written name hlater
      exact ⟨kind, ⟨mixin :: before, last, after, rfl, hafter, hkind⟩, hget⟩
    · have hfirst : model.HasMember mixin name := by
        obtain ⟨other, hother, hhas⟩ := hname
        rcases List.mem_cons.1 hother with rfl | hother
        · exact hhas
        · exact absurd ⟨other, hother, hhas⟩ hlater
      obtain ⟨kind, hkind, hget⟩ := hhead.written name hfirst
      refine ⟨kind, ⟨[], mixin, mixins, rfl, ?_, hkind⟩, ?_⟩
      · exact fun later hmem hhas => hlater ⟨later, hmem, hhas⟩
      · rw [hrest.kept name hlater, hget]
  kept name hname := by
    have hlater : ¬ ∃ other ∈ mixins, model.HasMember other name :=
      fun ⟨other, hother, hhas⟩ => hname ⟨other, List.mem_cons_of_mem _ hother, hhas⟩
    have hfirst : ¬ model.HasMember mixin name :=
      fun hhas => hname ⟨mixin, List.mem_cons_self, hhas⟩
    rw [hrest.kept name hlater, hhead.kept name hfirst]

/-- The members of the shape itself overlay those of its mixins. -/
theorem collected_of_mixins {middle : Kinds} (hshape : model.shape? id = some shape)
    (hmixins : model.CollectedAll shape.mixins kinds middle)
    (hown : model.addMembers shape.members.entries middle = .ok kinds') :
    model.Collected id kinds kinds' := by
  obtain ⟨hadded, hkept⟩ := addMembers_ok shape.members.ascending hown
  constructor
  · intro name hname
    cases htarget : shape.members.get? name with
    | some target =>
      obtain ⟨kind, hkind, hget⟩ := hadded (name, target) (Dictionary.mem_entries_iff.2 htarget)
      exact ⟨kind, .own hshape htarget hkind, hget⟩
    | none =>
      have hnotOwn : name ∉ shape.members.keys := by simp [Dictionary.mem_keys_iff, htarget]
      obtain ⟨kind, ⟨before, mixin, after, hsplit, hafter, hkind⟩, hget⟩ :=
        hmixins.written name (((hasMember_iff hshape).1 hname).resolve_left hnotOwn)
      refine ⟨kind, .lent hshape htarget hsplit hafter hkind, ?_⟩
      rw [hkept name hnotOwn, hget]
  · intro name hname
    rw [hasMember_iff hshape, not_or] at hname
    rw [hkept name hname.1, hmixins.kept name hname.2]

/-! ## Visits -/

/-- What a visit that succeeds has done. -/
theorem collectMembers_succ_ok
    (h : model.collectMembers (depth + 1) id path kinds = .ok (path', kinds')) :
    id ∉ path ∧ ∃ shape trail middle, model.definition? id = some shape ∧
      visitAll (model.collectMembers depth) shape.mixins (id :: path) kinds = .ok (trail, middle) ∧
      model.addMembers shape.members.entries middle = .ok kinds' ∧ path' = trail.erase id := by
  unfold collectMembers at h
  split at h
  · cases h
  · rename_i hfresh
    split at h
    · cases h
    · rename_i shape hshape
      split at h
      · cases h
      · rename_i trail middle hmixins
        split at h
        · cases h
        · rename_i hown
          cases h
          exact ⟨hfresh, shape, trail, middle, hshape, hmixins, hown, rfl⟩

/-- Why a visit fails: the id is on the path, it is not defined, the visit of a mixin fails, or a
member cannot be added. -/
theorem collectMembers_succ_error
    (h : model.collectMembers (depth + 1) id path kinds = .error interruption) :
    (id ∈ path ∧ interruption = .fault (.model (.mixinCycle id))) ∨
    id ∉ path ∧
      ((model.definition? id = none ∧ interruption = .fault (.model (.notDefined id))) ∨
      ∃ shape, model.definition? id = some shape ∧
        (visitAll (model.collectMembers depth) shape.mixins (id :: path) kinds
            = .error interruption ∨
        ∃ trail middle fault, visitAll (model.collectMembers depth) shape.mixins (id :: path) kinds
            = .ok (trail, middle) ∧
          model.addMembers shape.members.entries middle = .error fault ∧
          interruption = .fault fault)) := by
  unfold collectMembers at h
  split at h
  · rename_i hmem
    cases h
    exact .inl ⟨hmem, rfl⟩
  · rename_i hfresh
    refine .inr ⟨hfresh, ?_⟩
    split at h
    · rename_i hshape
      cases h
      exact .inl ⟨hshape, rfl⟩
    · rename_i shape hshape
      refine .inr ⟨shape, hshape, ?_⟩
      split at h
      · rename_i hmixins
        cases h
        exact .inl hmixins
      · rename_i trail middle hmixins
        split at h
        · rename_i fault hown
          cases h
          exact .inr ⟨trail, middle, fault, hmixins, hown, rfl⟩
        · cases h

/-- Visits go on from where the first one has led. -/
theorem visitAll_cons_ok {ids : List String}
    (h : visitAll visit (id :: ids) path kinds = .ok (path', kinds')) :
    ∃ trail middle, visit id path kinds = .ok (trail, middle) ∧
      visitAll visit ids trail middle = .ok (path', kinds') := by
  unfold visitAll at h
  split at h
  · cases h
  · exact ⟨_, _, ‹_›, h⟩

/-- Visits fail at the first one or after it. -/
theorem visitAll_cons_error {ids : List String}
    (h : visitAll visit (id :: ids) path kinds = .error interruption) :
    visit id path kinds = .error interruption ∨
      ∃ trail middle, visit id path kinds = .ok (trail, middle) ∧
        visitAll visit ids trail middle = .error interruption := by
  unfold visitAll at h
  split at h
  · cases h
    exact .inl ‹_›
  · exact .inr ⟨_, _, ‹_›, h⟩

/-- Visits that each overlay the members of their id overlay those of all ids. -/
theorem visitAll_ok {ids : List String}
    (hvisit : ∀ id ∈ ids, ∀ kinds path' kinds', visit id path kinds = .ok (path', kinds') →
      path' = path ∧ model.Composable id ∧ model.Collected id kinds kinds')
    (h : visitAll visit ids path kinds = .ok (path', kinds')) :
    path' = path ∧ (∀ id ∈ ids, model.Composable id) ∧ model.CollectedAll ids kinds kinds' := by
  induction ids generalizing kinds with
  | nil =>
    cases h
    exact ⟨rfl, nofun, collectedAll_nil model _⟩
  | cons id ids ih =>
    obtain ⟨trail, middle, hfirst, hothers⟩ := visitAll_cons_ok h
    obtain ⟨rfl, hcomposable, hcollected⟩ := hvisit id List.mem_cons_self _ _ _ hfirst
    obtain ⟨rfl, hcomposables, hcollecteds⟩ :=
      ih (fun other hmem => hvisit other (List.mem_cons_of_mem _ hmem)) hothers
    exact ⟨rfl, List.forall_mem_cons.2 ⟨hcomposable, hcomposables⟩,
      collectedAll_cons hcollected hcollecteds⟩

/-- Visits fail only where one of them fails, on the same path. -/
theorem visitAll_error {ids : List String}
    (hvisit : ∀ id ∈ ids, ∀ kinds path' kinds', visit id path kinds = .ok (path', kinds') →
      path' = path)
    (h : visitAll visit ids path kinds = .error interruption) :
    ∃ id ∈ ids, ∃ middle, visit id path middle = .error interruption := by
  induction ids generalizing kinds with
  | nil => cases h
  | cons id ids ih =>
    rcases visitAll_cons_error h with hfirst | ⟨trail, middle, hfirst, hothers⟩
    · exact ⟨id, List.mem_cons_self, kinds, hfirst⟩
    · obtain rfl := hvisit id List.mem_cons_self _ _ _ hfirst
      obtain ⟨other, hmem, middle, hother⟩ :=
        ih (fun other hmem => hvisit other (List.mem_cons_of_mem _ hmem)) hothers
      exact ⟨other, List.mem_cons_of_mem _ hmem, middle, hother⟩

/-- A visit that succeeds gives its path back and overlays the members of the shape by precedence,
and the shape can be put together. -/
theorem collectMembers_ok (depth : Nat) : ∀ {id path kinds path' kinds'},
    model.collectMembers depth id path kinds = .ok (path', kinds') →
      path' = path ∧ model.Composable id ∧ model.Collected id kinds kinds' := by
  induction depth with
  | zero =>
    intro id path kinds path' kinds' h
    cases h
  | succ depth ih =>
    intro id path kinds path' kinds' h
    obtain ⟨-, shape, trail, middle, hdefinition, hmixins, hown, rfl⟩ := collectMembers_succ_ok h
    obtain ⟨hshape, htype⟩ := definition?_eq_some_iff.1 hdefinition
    obtain ⟨rfl, hcomposables, hcollected⟩ := visitAll_ok (fun _ _ _ _ _ => ih) hmixins
    refine ⟨List.erase_cons_head .., ?_, collected_of_mixins hshape hcollected hown⟩
    refine .of_mixins hshape htype hcomposables fun entry hentry => ?_
    obtain ⟨kind, hkind, -⟩ := (addMembers_ok shape.members.ascending hown).1 entry hentry
    exact ⟨kind, hkind⟩

/-- Along a trail, with depth for all shapes that are not on it, a visit fails only with a fault of
the model, and only if the shape cannot be put together. -/
theorem collectMembers_error (depth : Nat) : ∀ {id path kinds interruption},
    model.Trail path id → path.length + depth = model.visitLimit →
      model.collectMembers depth id path kinds = .error interruption →
        (∃ cause, interruption = .fault (.model cause)) ∧ ¬ model.Composable id := by
  induction depth with
  | zero =>
    intro id path kinds interruption htrail hlength h
    -- a trail would have to be longer than the model has shapes
    have hle := htrail.length_le
    unfold visitLimit at hlength
    omega
  | succ depth ih =>
    intro id path kinds interruption htrail hlength h
    rcases collectMembers_succ_error h with
      ⟨hmem, rfl⟩ | ⟨hfresh, ⟨hnone, rfl⟩ | ⟨shape, hdefinition, hlater⟩⟩
    · -- the id closes a cycle
      exact ⟨⟨_, rfl⟩, fun hcomposable => htrail.notMem_of_acyclic hcomposable.acyclic hmem⟩
    · -- the id has no definition
      refine ⟨⟨_, rfl⟩, fun hcomposable => ?_⟩
      obtain ⟨shape, hshape⟩ := hcomposable.defined id (.refl model id)
      rw [definition?_eq_some_iff.2 hshape] at hnone
      cases hnone
    · obtain ⟨hshape, -⟩ := definition?_eq_some_iff.1 hdefinition
      rcases hlater with hmixins | ⟨-, middle, fault, -, hown, rfl⟩
      · -- a mixin fails, which is one edge further and has one visit less
        obtain ⟨mixin, hmem, middle, hmixin⟩ :=
          visitAll_error (fun _ _ _ _ _ h => (collectMembers_ok depth h).1) hmixins
        have hlength' : (id :: path).length + depth = model.visitLimit := by
          rw [List.length_cons]
          omega
        obtain ⟨hcause, hbad⟩ := ih (htrail.cons hfresh hshape hmem) hlength' hmixin
        exact ⟨hcause, fun hcomposable => hbad (hcomposable.of_edge ⟨shape, hshape, hmem⟩)⟩
      · -- a target of the shape itself does not resolve
        obtain ⟨⟨cause, rfl⟩, entry, hentry, hbad⟩ := addMembers_error hown
        refine ⟨⟨cause, rfl⟩, fun hcomposable => ?_⟩
        obtain ⟨kind, hkind⟩ := hcomposable.resolved id shape (.refl model id) hshape entry hentry
        exact hbad kind hkind

/-! ## All members -/

/-- What the list of all members of a shape is. -/
structure Resolution (model : Model) (id : String) (members : List Member) : Prop where
  /-- The bytes of the names ascend, so no name comes twice. -/
  ascending : members.Pairwise fun a b => Text.utf8 a.name < Text.utf8 b.name
  /-- The names are those of all shapes that can be reached. -/
  names : ∀ name, name ∈ members.map (·.name) ↔ model.HasMember id name
  /-- The kinds are those by precedence. -/
  kinds : ∀ name kind, ⟨name, kind⟩ ∈ members ↔ model.MemberKind id name kind

theorem memberKinds_ok (h : model.memberKinds id = .ok kinds) :
    model.Composable id ∧ model.Collected id .empty kinds := by
  unfold memberKinds at h
  split at h
  · rename_i hcollect
    cases h
    exact (collectMembers_ok _ hcollect).2
  · cases h
  · cases h

theorem memberKinds_error {fault : Fault} (h : model.memberKinds id = .error fault) :
    (∃ cause, fault = .model cause) ∧ ¬ model.Composable id := by
  have hlength : ([] : List String).length + model.visitLimit = model.visitLimit := Nat.zero_add _
  unfold memberKinds at h
  split at h
  · cases h
  · rename_i hcollect
    cases h
    obtain ⟨⟨cause, hcause⟩, hbad⟩ := collectMembers_error _ (.nil model id) hlength hcollect
    cases hcause
    exact ⟨⟨cause, rfl⟩, hbad⟩
  · -- there was depth enough
    rename_i hcollect
    obtain ⟨⟨cause, hcause⟩, -⟩ := collectMembers_error _ (.nil model id) hlength hcollect
    cases hcause

/-- Members that cannot be listed are the model's fault. -/
theorem members_error {decl : Declaration} {fault : Fault}
    (h : model.members decl = .error fault) : ∃ cause, fault = .model cause := by
  unfold members at h
  split at h
  · cases h
  · rename_i hkinds
    cases h
    exact (memberKinds_error hkinds).1

/-- Kinds that overlay nothing with the members of a shape list its members. -/
theorem resolution_of_collected (h : model.Collected id .empty kinds) :
    Resolution model id (kinds.entries.map fun entry => ⟨entry.1, entry.2⟩) where
  ascending := by
    rw [List.pairwise_map]
    exact kinds.ascending.imp Text.utf8_lt_iff.2
  names name := by
    have hmem : name ∈ (kinds.entries.map fun entry => (⟨entry.1, entry.2⟩ : Member)).map (·.name)
        ↔ name ∈ kinds.keys := by
      simp only [List.map_map, Function.comp_def, Dictionary.keys]
    rw [hmem, Dictionary.mem_keys_iff]
    by_cases hname : model.HasMember id name
    · obtain ⟨kind, -, hget⟩ := h.written name hname
      simp [hname, hget]
    · simp [hname, h.kept name hname]
  kinds name kind := by
    have hmem : (⟨name, kind⟩ : Member) ∈ kinds.entries.map (fun entry => ⟨entry.1, entry.2⟩)
        ↔ kinds.get? name = some kind := by
      rw [← Dictionary.mem_entries_iff]
      simp
    rw [hmem]
    constructor
    · intro hget
      by_cases hname : model.HasMember id name
      · obtain ⟨kind', hkind, hget'⟩ := h.written name hname
        rw [hget] at hget'
        cases hget'
        exact hkind
      · rw [h.kept name hname] at hget
        cases hget
    · intro hkind
      obtain ⟨kind', hkind', hget⟩ := h.written name hkind.hasMember
      rw [hget, hkind.unique hkind']

/-- Members are resolved exactly if the shapes that can be reached over mixins can be put together;
otherwise the fault is one of the model. -/
theorem members_resolve (model : Model) (decl : Declaration) :
    ((∃ members, model.members decl = .ok members) ↔ model.Composable decl.id) ∧
    (¬ model.Composable decl.id → ∃ cause, model.members decl = .error (.model cause)) ∧
    ∀ members, model.members decl = .ok members → Resolution model decl.id members := by
  cases hkinds : model.memberKinds decl.id with
  | ok kinds =>
    obtain ⟨hcomposable, hcollected⟩ := memberKinds_ok hkinds
    have hmembers : model.members decl
        = .ok (kinds.entries.map fun entry => ⟨entry.1, entry.2⟩) := by
      simp only [members, hkinds]
    refine ⟨⟨fun _ => hcomposable, fun _ => ⟨_, hmembers⟩⟩, absurd hcomposable, ?_⟩
    intro members hresult
    rw [hmembers] at hresult
    cases hresult
    exact resolution_of_collected hcollected
  | error fault =>
    obtain ⟨⟨cause, rfl⟩, hbad⟩ := memberKinds_error hkinds
    have hmembers : model.members decl = .error (.model cause) := by
      simp only [members, hkinds]
    refine ⟨⟨?_, fun hcomposable => absurd hcomposable hbad⟩, fun _ => ⟨cause, hmembers⟩, ?_⟩
    · rintro ⟨members, hresult⟩
      rw [hmembers] at hresult
      cases hresult
    · intro members hresult
      rw [hmembers] at hresult
      cases hresult

/-- A mixin that is lent twice is accepted, and its later place decides. -/
example :
    (⟨.ofList
      [("base", ⟨"structure", .ofList [("id", "smithy.api#String")], [], .empty⟩),
       ("left", ⟨"structure", .ofList [("id", "smithy.api#Long")], ["base"], .empty⟩),
       ("right", ⟨"structure", .ofList [("size", "smithy.api#Long")], ["base"], .empty⟩),
       ("top", ⟨"structure", .empty, ["left", "right"], .empty⟩)]⟩ : Model).members ⟨"top", "top"⟩
      = .ok [⟨"id", .string⟩, ⟨"size", .long⟩] := by
  rfl

end EntityForge.Model

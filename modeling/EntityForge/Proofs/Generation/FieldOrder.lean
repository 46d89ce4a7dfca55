import EntityForge.Proofs.ByteOrder
import EntityForge.Proofs.Generation.Directory
import EntityForge.RouteMap
import Mathlib.Data.List.Nodup

/-!
# The order of fields

An entity lists its fields in the order of their names, whatever order the members came in. Every
member is listed once, and members of one name stay in their order (`Entity.build_listed`). If no
name comes twice, the order of the members leaves no trace at all (`Entity.build_eq_of_perm`).

Runs and route maps see a model only through the entities of its declarations
(`Generation.run_congr`, `RouteMap.ofView_congr`). So views of which one lists members in a
different order give the same runs, into any sink, and the same route map
(`Generation.run_eq_of_reordered`).
-/

set_option autoImplicit false

namespace EntityForge

/-! ## The fields of an entity -/

namespace Field

theorem precedes_iff {a b : Field} : a.precedes b = true ↔ a.name ≤ b.name := by
  simp [precedes]

theorem precedes_trans (a b c : Field) (h : a.precedes b = true) (h' : b.precedes c = true) :
    a.precedes c = true :=
  precedes_iff.2 (String.le_trans (precedes_iff.1 h) (precedes_iff.1 h'))

theorem precedes_total (a b : Field) : (a.precedes b || b.precedes a) = true := by
  rw [Bool.or_eq_true, precedes_iff, precedes_iff]
  exact String.le_total a.name b.name

theorem pairwise_mergeSort (fields : List Field) :
    (fields.mergeSort precedes).Pairwise fun a b => a.name ≤ b.name :=
  (List.pairwise_mergeSort precedes_trans precedes_total fields).imp precedes_iff.1

/-- Sorting leaves fields of one name in their order. -/
theorem filter_mergeSort (fields : List Field) (name : String) :
    (fields.mergeSort precedes).filter (fun field => field.name = name)
      = fields.filter fun field => field.name = name := by
  -- the fields of the name are sorted already, so they are found again in this order
  have hsorted : (fields.filter fun field => field.name = name).Pairwise
      fun a b => a.precedes b = true := by
    refine List.pairwise_of_forall_mem_list fun a ha b hb => precedes_iff.2 ?_
    have hsame : a.name = b.name := (of_decide_eq_true (List.mem_filter.1 ha).2).trans
      (of_decide_eq_true (List.mem_filter.1 hb).2).symm
    exact hsame ▸ String.le_refl a.name
  have hsublist := (List.sublist_mergeSort precedes_trans precedes_total hsorted
    List.filter_sublist).filter fun field => field.name = name
  rw [List.filter_filter] at hsublist
  simp only [Bool.and_self] at hsublist
  refine (hsublist.eq_of_length ?_).symm
  exact ((List.mergeSort_perm fields precedes).filter _).length_eq.symm

end Field

namespace Entity

/-- How an entity lists members. -/
structure Listed (members : List Member) (fields : List Field) : Prop where
  /-- Every member is listed once, with the type of its kind. -/
  once : fields.Perm (members.map fun member => ⟨member.name, .ofKind member.kind⟩)
  /-- The bytes of the names ascend. -/
  ascending : fields.Pairwise fun a b => Text.utf8 a.name ≤ Text.utf8 b.name
  /-- Members of one name stay in their order. -/
  stable : ∀ name, fields.filter (fun field => field.name = name)
    = (members.filter fun member => member.name = name).map
        fun member => ⟨member.name, .ofKind member.kind⟩

variable (decl : Declaration) (marker : EntityMarker)

theorem build_listed (members : List Member) :
    Listed members (build decl marker members).fields where
  once := List.mergeSort_perm _ _
  ascending := (Field.pairwise_mergeSort _).imp Text.utf8_le_iff.2
  stable name := by
    rw [build, Field.filter_mergeSort, List.filter_map]
    rfl

/-- Members with different names give one entity, whatever their order. -/
theorem build_eq_of_perm {members members' : List Member} (hperm : members.Perm members')
    (hnodup : (members.map (·.name)).Nodup) :
    build decl marker members' = build decl marker members := by
  have hfields : (members'.map Field.ofMember).mergeSort Field.precedes
      = (members.map Field.ofMember).mergeSort Field.precedes := by
    have hsorted : ((members'.map Field.ofMember).mergeSort Field.precedes).Perm
        ((members.map Field.ofMember).mergeSort Field.precedes) :=
      (List.mergeSort_perm _ _).trans ((hperm.symm.map _).trans (List.mergeSort_perm _ _).symm)
    refine hsorted.eq_of_pairwise ?_ (Field.pairwise_mergeSort _) (Field.pairwise_mergeSort _)
    -- a name belongs to one field only
    intro a b ha hb hab hba
    have hname := String.le_antisymm hab hba
    obtain ⟨member, hmember, rfl⟩ := List.mem_map.1 (List.mem_mergeSort.1 ha)
    obtain ⟨other, hother, rfl⟩ := List.mem_map.1 (List.mem_mergeSort.1 hb)
    rw [List.inj_on_of_nodup_map hnodup (hperm.mem_iff.2 hmember) hother hname]
  simp only [build, hfields]

end Entity

/-! ## What runs and route maps see of a model -/

variable {view view' : ModelView} {settings : Settings}

namespace Generation

variable {σ : Type} {sink : Sink σ}

theorem step_congr {decl : Declaration}
    (h : view'.entity decl settings.markerId = view.entity decl settings.markerId)
    (report : Report) (state : σ) :
    step settings view' sink decl report state = step settings view sink decl report state := by
  simp only [step, h]

theorem entities_congr {decls : List Declaration}
    (h : ∀ decl ∈ decls,
      view'.entity decl settings.markerId = view.entity decl settings.markerId) :
    ∀ (report : Report) (state : σ), entities settings view' sink decls report state
      = entities settings view sink decls report state := by
  induction decls with
  | nil => exact fun _ _ => rfl
  | cons decl decls ih =>
    intro report state
    have hrest := ih fun other hmem => h other (List.mem_cons_of_mem decl hmem)
    simp only [entities, step_congr (h decl List.mem_cons_self), hrest]

/-- A run sees of a model only which declarations are marked and what their entities are. -/
theorem run_congr
    (hdecls : view'.annotated settings.markerId = view.annotated settings.markerId)
    (hentities : ∀ decl ∈ view.annotated settings.markerId,
      view'.entity decl settings.markerId = view.entity decl settings.markerId)
    (sink : Sink σ) (state : σ) :
    run settings view' sink state = run settings view sink state := by
  unfold run
  rw [hdecls]
  split
  · rfl
  · rename_i hmarked
    exact entities_congr hentities .empty state

end Generation

namespace RouteMap

theorem ofDeclarations_congr {decls : List Declaration}
    (h : ∀ decl ∈ decls,
      view'.entity decl settings.markerId = view.entity decl settings.markerId) :
    ofDeclarations settings view' decls = ofDeclarations settings view decls := by
  induction decls with
  | nil => rfl
  | cons decl decls ih =>
    have hrest := ih fun other hmem => h other (List.mem_cons_of_mem decl hmem)
    simp only [ofDeclarations, h decl List.mem_cons_self, hrest]

/-- A route map sees of a model only what a run sees of it. -/
theorem ofView_congr
    (hdecls : view'.annotated settings.markerId = view.annotated settings.markerId)
    (hentities : ∀ decl ∈ view.annotated settings.markerId,
      view'.entity decl settings.markerId = view.entity decl settings.markerId) :
    ofView settings view' = ofView settings view := by
  rw [ofView, hdecls, ofDeclarations_congr hentities, ofView]

end RouteMap

/-! ## Members in a different order -/

/-- Listing members has the same fault, or it gives the same members, whose names are different, in
any order. -/
inductive Reordered : Except Fault (List Member) → Except Fault (List Member) → Prop where
  | refused (fault : Fault) : Reordered (.error fault) (.error fault)
  | listed {members members' : List Member} : members.Perm members' →
      (members.map (·.name)).Nodup → Reordered (.ok members) (.ok members')

/-- Views that show the same declarations with the same markers and, but for the order, the same
members. -/
structure ModelView.Reordered (markerId : String) (view view' : ModelView) : Prop where
  /-- The same declarations are marked, in the same order. -/
  annotated : view'.annotated markerId = view.annotated markerId
  /-- They have the same markers. -/
  marker : ∀ decl ∈ view.annotated markerId, view'.marker decl markerId = view.marker decl markerId
  /-- They have the same members in any order. -/
  members : ∀ decl ∈ view.annotated markerId,
    EntityForge.Reordered (view.members decl) (view'.members decl)

theorem ModelView.Reordered.entity_eq {markerId : String} (h : view.Reordered markerId view')
    {decl : Declaration} (hmem : decl ∈ view.annotated markerId) :
    view'.entity decl markerId = view.entity decl markerId := by
  have hmembers := h.members decl hmem
  unfold ModelView.entity
  rw [h.marker decl hmem]
  split
  · rfl
  · split
    · rfl
    · generalize view.members decl = result at hmembers ⊢
      generalize view'.members decl = result' at hmembers ⊢
      cases hmembers with
      | refused fault => rfl
      | listed hperm hnodup => simp only [Entity.build_eq_of_perm decl _ hperm hnodup]

namespace Generation

/-- The order in which a model lists members leaves no trace. Views that show the same members in
different orders give the same run into any sink, with the same artifacts in the same order and the
same report or fault, and the same route map. Of any members at all, also of several with one name,
an entity lists every one once with its type, in the order of the bytes of their names, and those of
one name in the order in which they came. -/
theorem run_eq_of_reordered :
    (∀ (settings : Settings) (view view' : ModelView), view.Reordered settings.markerId view' →
      (∀ (σ : Type) (sink : Sink σ) (state : σ),
        run settings view' sink state = run settings view sink state ∧
        attempted settings view' sink state = attempted settings view sink state) ∧
      RouteMap.ofView settings view' = RouteMap.ofView settings view) ∧
    ∀ (decl : Declaration) (marker : EntityMarker) (members : List Member),
      Entity.Listed members (Entity.build decl marker members).fields := by
  refine ⟨fun settings view view' h => ⟨fun σ sink state => ⟨?_, ?_⟩, ?_⟩, Entity.build_listed⟩
  · exact run_congr h.annotated (fun _ => h.entity_eq) sink state
  · rw [attempted, run_congr h.annotated (fun _ => h.entity_eq), attempted]
  · exact RouteMap.ofView_congr h.annotated fun _ => h.entity_eq

/-- A view of one marked declaration with members. -/
def listingView (members : List Member) : ModelView :=
  ⟨fun _ => [⟨"demo#Pet", "Pet"⟩],
    fun _ _ => some (Json.markerNode (.object [(EntityMarker.tableKey, .text "Pets")])),
    fun _ => .ok members⟩

/-- Three members in two orders, of which neither is that of the bytes. -/
theorem run_eq_of_reordered_sample :
    let view := listingView [⟨"id", .string⟩, ⟨"😀", .blob⟩, ⟨"Age", .integer⟩]
    let view' := listingView [⟨"😀", .blob⟩, ⟨"Age", .integer⟩, ⟨"id", .string⟩]
    view.Reordered Settings.standard.markerId view' ∧
      run .standard view' MemoryManifest.sink .empty
        = run .standard view MemoryManifest.sink .empty ∧
      RouteMap.ofView .standard view' = RouteMap.ofView .standard view := by
  intro view view'
  have hreordered : view.Reordered Settings.standard.markerId view' :=
    ⟨rfl, fun _ _ => rfl, fun _ _ => .listed (by decide) (by decide)⟩
  obtain ⟨hrun, hmap⟩ := run_eq_of_reordered.1 .standard view view' hreordered
  exact ⟨hreordered, (hrun _ MemoryManifest.sink .empty).1, hmap⟩

end Generation

end EntityForge

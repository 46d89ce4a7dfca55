import EntityForge.DirectoryManifest
import EntityForge.MemoryManifest
import EntityForge.Model.View
import EntityForge.Proofs.Generation.Emission
import EntityForge.Proofs.Model.MemberResolution
import EntityForge.Proofs.Model.TraitInheritance

/-!
# The structures that become entities

A model lists as entities exactly its structures that are no mixins and have the marker, their own
or lent, in the order of the bytes of their ids (`Model.annotated_exact`). Each of them has a marker
to be read. So generating from a model can find a marker malformed and members unresolved, but never
a marker missing.
-/

set_option autoImplicit false

namespace EntityForge

namespace EntityMarker

/-- A marker cannot be read because its table or its key is refused, and the fault says in which
shape. -/
theorem ofNode_eq_error {shape : String} {node : MarkerNode} {fault : Fault}
    (h : ofNode shape node = .error fault) :
    ∃ reason, fault = inShape shape reason ∧ (node.requireText tableKey = .error reason ∨
      node.textOr hashKeyKey defaultHashKey = .error reason) := by
  unfold ofNode at h
  split at h
  · cases h
    exact ⟨_, rfl, .inl ‹_›⟩
  · split at h
    · cases h
      exact ⟨_, rfl, .inr ‹_›⟩
    · cases h

/-- Reading a marker that is there never finds it missing. -/
theorem ofNode_ne_notApplied (shape : String) (node : MarkerNode) (id markerId : String) :
    ofNode shape node ≠ .error (.configuration (.markerNotApplied id markerId)) := by
  intro h
  -- a configuration fault always names the shape around its cause
  obtain ⟨reason, hreason, -⟩ := ofNode_eq_error h
  cases reason <;> simp [inShape] at hreason

end EntityMarker

/-- A directory refuses an artifact for its path or because of the files. -/
theorem DirectoryManifest.write_error {base : String} {artifact : Artifact}
    {workspace : Files.Workspace} {fault : Fault}
    (h : ((sink base).write artifact workspace).outcome = .error fault) :
    fault = .configuration (.pathOutside artifact.path) ∨ ∃ cause, fault = .io cause := by
  simp only [sink, write] at h
  split at h
  · split at h
    · cases h
    · cases h
      exact .inr ⟨_, rfl⟩
  · cases h
    exact .inl rfl

namespace Model

variable {model : Model} {markerId : String}

/-- An id holds a structure that is no mixin and has a marker, its own or lent. -/
def HoldsEntity (model : Model) (markerId id : String) : Prop :=
  ∃ shape, model.shape? id = some shape ∧ shape.type = Shape.structureType ∧
    shape.traits.get? mixinTrait = none ∧ model.Inherits markerId id

theorem mem_annotated_iff {decl : Declaration} :
    decl ∈ model.annotated markerId ↔ ∃ id, decl = .ofId id ∧ model.HoldsEntity markerId id := by
  simp only [annotated, List.mem_map, List.mem_filter, Prod.exists, HoldsEntity, isAnnotated,
    Bool.and_eq_true, Bool.not_eq_true', beq_iff_eq, trait?_isSome_iff, Dictionary.contains,
    Option.isSome_eq_false_iff, Option.isNone_iff_eq_none, Dictionary.mem_entries_iff, shape?]
  constructor
  · rintro ⟨id, shape, ⟨hshape, ⟨htype, hmixin⟩, hmarker⟩, rfl⟩
    exact ⟨id, rfl, shape, hshape, htype, hmixin, hmarker⟩
  · rintro ⟨id, rfl, shape, hshape, htype, hmixin, hmarker⟩
    exact ⟨id, shape, ⟨hshape, ⟨htype, hmixin⟩, hmarker⟩, rfl⟩

theorem annotated_pairwise (model : Model) (markerId : String) :
    ((model.annotated markerId).map (·.id)).Pairwise
      fun a b => Text.utf8 a < Text.utf8 b := by
  rw [annotated, List.map_map, List.pairwise_map]
  exact (model.shapes.ascending.filter _).imp Text.utf8_lt_iff.2

theorem marker_isSome {decl : Declaration} (h : decl ∈ model.annotated markerId) :
    (model.marker decl markerId).isSome := by
  obtain ⟨id, rfl, _, -, -, -, hmarker⟩ := mem_annotated_iff.1 h
  rw [marker, Option.isSome_map]
  exact trait?_isSome_iff.2 hmarker

/-- The entity of a listed structure is at fault only in its marker or its members. -/
theorem entity_ne_notApplied {decl : Declaration} (h : decl ∈ model.annotated markerId)
    (id other : String) :
    model.view.entity decl markerId ≠ .error (.configuration (.markerNotApplied id other)) := by
  have hmarked : (model.view.marker decl markerId).isSome := marker_isSome h
  intro hfault
  rcases ModelView.entity_error hfault with ⟨hnone, -⟩ | ⟨node, -, hmarker | ⟨_, -, hmembers⟩⟩
  · rw [hnone] at hmarked
    cases hmarked
  · exact EntityMarker.ofNode_ne_notApplied _ _ _ _ hmarker
  · obtain ⟨cause, hcause⟩ := members_error hmembers
    cases hcause

/-- A run ends with a missing marker only if the sink itself refuses a write with that fault. -/
theorem run_ne_notApplied {σ : Type} {settings : Settings} {sink : Sink σ} {state : σ}
    {id other : String}
    (h : (Generation.run settings model.view sink state).outcome
      = .error (.configuration (.markerNotApplied id other))) :
    ∃ artifact before, (sink.write artifact before).outcome
      = .error (.configuration (.markerNotApplied id other)) := by
  obtain ⟨attempted, refusal, hemits, houtcome⟩ :=
    Generation.run_emits settings model.view sink state
  rw [houtcome] at h
  cases refusal with
  | some fault =>
    cases h
    exact hemits.exists_refused
  | none =>
    cases hfirst : model.view.firstFault? settings.markerId
        (model.view.annotated settings.markerId) with
    | none =>
      rw [hfirst] at h
      cases h
    | some fault =>
      rw [hfirst] at h
      cases h
      obtain ⟨decl, hmem, hentity⟩ := ModelView.exists_of_firstFault? hfirst
      exact absurd hentity (entity_ne_notApplied hmem id other)

/-- Exactly the right structures are entities. They are listed in strictly ascending order of the
bytes of their ids; an id is listed exactly if it holds a structure that is no mixin and from which
a chain of mixins, none of which keeps the marker to itself, leads to a shape that carries the
marker. Every listed structure has its marker, so no run into memory or into a directory fails
because a marker is not applied, and a run into any other sink only if the sink itself says so. -/
theorem annotated_exact (model : Model) (markerId : String) :
    ((model.annotated markerId).map (·.id)).Pairwise
        (fun a b => Text.utf8 a < Text.utf8 b) ∧
    (∀ decl, decl ∈ model.annotated markerId ↔
      ∃ id, decl = .ofId id ∧ model.HoldsEntity markerId id) ∧
    (∀ decl ∈ model.annotated markerId, (model.marker decl markerId).isSome) ∧
    ∀ settings id other,
      (∀ files, (Generation.run settings model.view MemoryManifest.sink files).outcome
        ≠ .error (.configuration (.markerNotApplied id other))) ∧
      (∀ base workspace,
        (Generation.run settings model.view (DirectoryManifest.sink base) workspace).outcome
          ≠ .error (.configuration (.markerNotApplied id other))) ∧
      ∀ {σ : Type} (sink : Sink σ) (state : σ),
        (Generation.run settings model.view sink state).outcome
            = .error (.configuration (.markerNotApplied id other)) →
          ∃ artifact before, (sink.write artifact before).outcome
            = .error (.configuration (.markerNotApplied id other)) := by
  refine ⟨annotated_pairwise model markerId, fun _ => mem_annotated_iff, fun _ => marker_isSome, ?_⟩
  intro settings id other
  refine ⟨fun files h => ?_, fun base workspace h => ?_, fun sink state => run_ne_notApplied⟩
  · obtain ⟨artifact, before, hwrite⟩ := run_ne_notApplied h
    cases hwrite
  · obtain ⟨artifact, before, hwrite⟩ := run_ne_notApplied h
    rcases DirectoryManifest.write_error hwrite with hfault | ⟨cause, hfault⟩
    · cases hfault
    · cases hfault

/-- A cycle of mixins hides no carrier behind it, and a mixin that keeps the marker lends nobody
the marker of its own mixins either. -/
example :
    let mixin : Json := .object []
    let keeping : Json := .object [("localTraits", .list [.text "demo#crud"])]
    (⟨.ofList
      [("carrier", ⟨"structure", .empty, [], .ofList [("smithy.api#mixin", mixin),
          ("demo#crud", .null)]⟩),
       ("keeper", ⟨"structure", .empty, ["carrier"], .ofList [("smithy.api#mixin", keeping),
          ("demo#crud", .null)]⟩),
       ("loop", ⟨"structure", .empty, ["carrier", "turn"], .ofList [("smithy.api#mixin", mixin)]⟩),
       ("turn", ⟨"structure", .empty, ["loop"], .ofList [("smithy.api#mixin", mixin)]⟩),
       ("Pet", ⟨"structure", .empty, ["turn"], .empty⟩),
       ("Owner", ⟨"structure", .empty, ["keeper"], .empty⟩)]⟩ : Model).annotated "demo#crud"
      = [⟨"Pet", "Pet"⟩] := by
  decide +kernel

end Model

end EntityForge

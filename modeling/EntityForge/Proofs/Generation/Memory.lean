import EntityForge.MemoryManifest
import EntityForge.Proofs.Generation.Emission

/-!
# Runs into memory

A memory manifest refuses nothing, so a run into one writes all of its sequence
(`Generation.run_memory_from`) and a path holds the last artifact that was written to it. Entities
of one name share their paths and no other entities do, so each path of an entity holds the
artifact of some entity of its name (`Generation.get?_written`).
-/

set_option autoImplicit false

namespace EntityForge

/-- The entry that an artifact becomes. -/
def Artifact.entry (artifact : Artifact) : String × String := (artifact.path, artifact.content)

/-- What is in memory once artifacts have been written to an empty manifest. -/
def MemoryManifest.ofArtifacts (artifacts : List Artifact) : MemoryManifest :=
  Dictionary.ofList (artifacts.map Artifact.entry)

theorem MemoryManifest.emits (artifacts : List Artifact) : ∀ files : MemoryManifest,
    Emits MemoryManifest.sink artifacts files artifacts
      (files.insertAll (artifacts.map Artifact.entry)) none := by
  induction artifacts with
  | nil => exact .done
  | cons artifact artifacts ih => exact fun files => .written rfl (ih _)

/-- A path that was written to holds one of the artifacts with this path. -/
theorem MemoryManifest.get?_ofArtifacts {artifacts : List Artifact} {path : String}
    (h : path ∈ artifacts.map (·.path)) :
    ∃ artifact ∈ artifacts, artifact.path = path ∧
      (ofArtifacts artifacts).get? path = some artifact.content := by
  -- the last of several artifacts with this path decides, whichever it is
  have hkeys : path ∈ (artifacts.map Artifact.entry).reverse.map (·.1) := by
    simpa [Artifact.entry] using h
  obtain ⟨content, hcontent⟩ := Option.isSome_iff_exists.1 (lookupEntry_isSome_iff.2 hkeys)
  obtain ⟨artifact, hmem, hentry⟩ :=
    List.mem_map.1 (List.mem_reverse.1 (mem_of_lookupEntry hcontent))
  cases hentry
  refine ⟨artifact, hmem, rfl, ?_⟩
  rw [ofArtifacts, Dictionary.get?_ofList, hcontent]

namespace Generation

variable (settings : Settings) (view : ModelView)

/-- A run into memory writes its whole sequence and fails only where the model is at fault. -/
theorem run_memory_from (files : MemoryManifest) :
    (run settings view MemoryManifest.sink files).state
        = files.insertAll ((sequence settings view).map Artifact.entry) ∧
      (run settings view MemoryManifest.sink files).outcome
        = outcomeOf (view.firstFault? settings.markerId (view.annotated settings.markerId))
            (.ok ⟨(view.annotated settings.markerId).map (·.name),
              (sequence settings view).map (·.path)⟩) := by
  obtain ⟨attempted, refusal, hemits, houtcome⟩ :=
    run_emits settings view MemoryManifest.sink files
  obtain ⟨-, hstate, hrefusal⟩ :=
    (MemoryManifest.emits (sequence settings view) files).unique hemits
  subst hrefusal
  exact ⟨hstate, houtcome⟩

theorem run_memory :
    (run settings view MemoryManifest.sink .empty).state
        = MemoryManifest.ofArtifacts (sequence settings view) ∧
      (run settings view MemoryManifest.sink .empty).outcome
        = outcomeOf (view.firstFault? settings.markerId (view.annotated settings.markerId))
            (.ok ⟨(view.annotated settings.markerId).map (·.name),
              (sequence settings view).map (·.path)⟩) :=
  run_memory_from settings view .empty

variable {settings}

/-- A path of an entity holds what is written for some entity of its name. -/
theorem get?_written {entities : List Entity} {entity : Entity} (hmem : entity ∈ entities)
    (stem : Stem) :
    ∃ twin ∈ entities, twin.name = entity.name ∧
      (MemoryManifest.ofArtifacts (entities.flatMap (Artifact.emitted settings))).get?
          (settings.artifactPath entity.name stem.name)
        = some (String.ofList (Artifact.rendered twin stem)) := by
  have hpath : settings.artifactPath entity.name stem.name
      ∈ (entities.flatMap (Artifact.emitted settings)).map (·.path) := by
    simp only [List.mem_map, List.mem_flatMap, Artifact.emitted]
    exact ⟨_, ⟨entity, hmem, stem, Stem.mem_all stem, rfl⟩, rfl⟩
  obtain ⟨artifact, hartifact, hsame, hget⟩ := MemoryManifest.get?_ofArtifacts hpath
  obtain ⟨twin, htwin, hemitted⟩ := List.mem_flatMap.1 hartifact
  obtain ⟨other, -, rfl⟩ := List.mem_map.1 hemitted
  -- one path means one name and one stem
  obtain ⟨hname, rfl⟩ := Settings.artifactPath_inj.1 hsame
  exact ⟨twin, htwin, hname, hget⟩

end Generation

end EntityForge

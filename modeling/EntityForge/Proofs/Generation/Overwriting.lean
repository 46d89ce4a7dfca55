import EntityForge.Proofs.Generation.Regeneration
import Mathlib.Data.List.Dedup
import Mathlib.Data.List.Forall2
import Mathlib.Data.List.Nodup

/-!
# Entities of one name

Declarations of different namespaces may have one name, and with it the paths of their artifacts. In
memory the last of them wins, and nothing else is lost (`Generation.run_overwrites_exactly`): two
artifacts share a path exactly if they share the name of their entity and their stem, every name has
six files, each with the text of the last declaration of the name, and every declaration whose name
an earlier one has is warned of once.

`Generation.origins` lists what the artifacts of a run come from, and `Generation.Renders` says
which artifact an origin has. The files are read off the declarations from the last one
(`Generation.get?_of_last`), the warnings from the first one (`Generation.warnings_entities`).
-/

set_option autoImplicit false

namespace EntityForge

namespace Generation

variable {settings : Settings} {view : ModelView}

/-! ## Where artifacts come from -/

/-- The artifact of an origin: that of the stem for the entity of the declaration. -/
def Renders (settings : Settings) (view : ModelView) (origin : Declaration × Stem)
    (artifact : Artifact) : Prop :=
  ∃ entity, view.entity origin.1 settings.markerId = .ok entity ∧
    Artifact.ofEntity settings entity origin.2 = .ok artifact

/-- The declarations that have the name of an earlier one, in order. -/
def repeated (decls : List Declaration) : List Declaration :=
  (decls.zipIdx.filter fun entry => entry.1.name ∈ (decls.take entry.2).map (·.name)).map (·.1)

/-- The artifacts of a declaration, none if it is at fault. -/
def block (settings : Settings) (view : ModelView) (decl : Declaration) : List Artifact :=
  match view.entity decl settings.markerId with
  | .ok entity => Artifact.emitted settings entity
  | .error _ => []

theorem renders_iff {decl : Declaration} {stem : Stem} {artifact : Artifact} :
    Renders settings view (decl, stem) artifact ↔
      ∃ entity, view.entity decl settings.markerId = .ok entity ∧
        artifact = ⟨settings.artifactPath decl.name stem.name,
          String.ofList (Artifact.rendered entity stem)⟩ := by
  constructor
  · rintro ⟨entity, hentity, hartifact⟩
    refine ⟨entity, hentity, ?_⟩
    rw [← ModelView.name_of_entity hentity]
    simpa [Artifact.ofEntity, Artifact.text_eq_ok] using hartifact.symm
  · rintro ⟨entity, hentity, rfl⟩
    refine ⟨entity, hentity, ?_⟩
    rw [← ModelView.name_of_entity hentity]
    simp [Artifact.ofEntity, Artifact.text_eq_ok]

/-- An origin has at most one artifact. -/
theorem Renders.unique {origin : Declaration × Stem} {a b : Artifact}
    (ha : Renders settings view origin a) (hb : Renders settings view origin b) : a = b := by
  obtain ⟨entity, hentity, rfl⟩ := renders_iff.1 ha
  obtain ⟨other, hother, rfl⟩ := renders_iff.1 hb
  rw [hentity] at hother
  cases hother
  rfl

/-- What is written later decides. -/
theorem get?_append (earlier later : List Artifact) (path : String) :
    (MemoryManifest.ofArtifacts (earlier ++ later)).get? path
      = ((MemoryManifest.ofArtifacts later).get? path).or
          ((MemoryManifest.ofArtifacts earlier).get? path) := by
  simp only [MemoryManifest.get?_eq_last, List.reverse_append, List.find?_append, Option.map_or]

/-- The warnings among events. -/
def warnings (events : List Event) : List Event := events.filter fun event => event.level = .warn

end Generation

end EntityForge

import EntityForge.DirectoryManifest
import EntityForge.Proofs.Files.Changes
import EntityForge.Proofs.Generation.Memory

/-!
# Runs into a directory

A run into a directory writes its artifacts below a base, in a tree without links. Whatever the
artifacts are called and however far the run gets, it changes nothing but the files of the artifacts
that it attempts, and makes only directories that lead to them (`Generation.run_stays_below`).

A write leaves a tree without links as one, so the same writes go on among workspaces without links
(`DirectoryManifest.plainSink`, `Emits.plain`), and nothing has to be said of links from there on.
What a run changes follows from what one write changes (`DirectoryManifest.write_evolves`) by
induction on what becomes of a sequence of artifacts (`Emits.evolves`). That what is made lies below
the base rests on the base being there, for then the directories on the way to it are there too.
-/

set_option autoImplicit false

namespace EntityForge

open Files

/-! ## One artifact -/

/-- An artifact lies at a location below a directory. One whose path leaves the directory lies
nowhere. -/
def Artifact.LiesAt (top : Location) (artifact : Artifact) (location : Location) : Prop :=
  Path.staysInside artifact.path = true ∧ location = top ++ Path.normal artifact.path

namespace DirectoryManifest

/-- A write of an artifact may make a directory at a location. -/
def Makes (base : String) (here : Location) (artifact : Artifact) (location : Location) : Prop :=
  Path.staysInside artifact.path = true ∧
    Path.EnclosedAt here (Path.join base artifact.path) location

/-- A write of an artifact may write bytes at a location. -/
def Writes (base : String) (here : Location) (artifact : Artifact) (location : Location)
    (bytes : ByteArray) : Prop :=
  artifact.LiesAt (Path.location here base) location ∧ bytes = artifact.content.toByteArray

/-- A write of an artifact makes only directories that lead to it and changes only its own file,
which holds the content of the artifact if the write is accepted. -/
theorem write_evolves (workspace : PlainWorkspace) (base : String) (artifact : Artifact) :
    Workspace.Evolves (Makes base workspace.here artifact) (Writes base workspace.here artifact)
        workspace.toWorkspace ((sink base).write artifact workspace.toWorkspace).state ∧
      (((sink base).write artifact workspace.toWorkspace).outcome = .ok () →
        ((sink base).write artifact workspace.toWorkspace).state.tree.get?
            (Path.location workspace.here base ++ Path.normal artifact.path)
          = some (.file artifact.content.toByteArray)) := by
  simp only [sink, write]
  split
  · rename_i hstays
    obtain ⟨hchange, hfile⟩ := workspace.writeIfChanged_evolves
      (Path.join base artifact.path) artifact.content
    rw [Path.location_join hstays] at hfile
    have hmakes : ∀ location,
        Path.EnclosedAt workspace.here (Path.join base artifact.path) location →
          Makes base workspace.here artifact location := fun _ h => ⟨hstays, h⟩
    have hwrites : ∀ location bytes,
        Workspace.Receives workspace.here (Path.join base artifact.path) artifact.content location
            bytes → Writes base workspace.here artifact location bytes := by
      intro location bytes hreceives
      rw [Workspace.Receives, Path.location_join hstays] at hreceives
      exact ⟨⟨hstays, hreceives.1⟩, hreceives.2⟩
    have hevolves := hchange.imp hmakes hwrites
    split
    · rename_i next changed hresult
      rw [hresult] at hevolves hfile
      exact ⟨hevolves, fun _ => hfile changed rfl⟩
    · rename_i next fault hresult
      rw [hresult] at hevolves
      exact ⟨hevolves, nofun⟩
  · exact ⟨.refl _ _ workspace.toWorkspace, nofun⟩

/-- Writes into a base directory of a workspace without links, which never gets one. -/
def plainSink (base : String) : Sink PlainWorkspace where
  write artifact workspace :=
    let written := (sink base).write artifact workspace.toWorkspace
    ⟨(write_evolves workspace base artifact).1.plain, written.events, written.outcome⟩

@[simp] theorem toWorkspace_plainSink (base : String) (artifact : Artifact)
    (workspace : PlainWorkspace) :
    ((plainSink base).write artifact workspace).state.toWorkspace
      = ((sink base).write artifact workspace.toWorkspace).state := rfl

@[simp] theorem outcome_plainSink (base : String) (artifact : Artifact)
    (workspace : PlainWorkspace) :
    ((plainSink base).write artifact workspace).outcome
      = ((sink base).write artifact workspace.toWorkspace).outcome := rfl

theorem plainSink_represents (base : String) :
    (plainSink base).Represents PlainWorkspace.toWorkspace (sink base) where
  state := toWorkspace_plainSink base
  outcome := outcome_plainSink base

end DirectoryManifest

/-! ## Sequences of artifacts -/

section Sequences

variable {base : String} {artifacts attempted : List Artifact} {refusal : Option Fault}

/-- In a workspace without links a sequence goes on among such workspaces. -/
theorem Emits.plain {workspace : PlainWorkspace} {final : Workspace}
    (h : Emits (DirectoryManifest.sink base) artifacts workspace.toWorkspace attempted final
      refusal) :
    ∃ last : PlainWorkspace, last.toWorkspace = final ∧
      Emits (DirectoryManifest.plainSink base) artifacts workspace attempted last refusal :=
  h.lift (DirectoryManifest.plainSink_represents base) rfl

/-- Whatever becomes of a sequence, only what was attempted has left traces. -/
theorem Emits.evolves {workspace final : PlainWorkspace}
    (h : Emits (DirectoryManifest.plainSink base) artifacts workspace attempted final refusal) :
    Workspace.Evolves
      (fun location => ∃ artifact ∈ attempted,
        DirectoryManifest.Makes base workspace.here artifact location)
      (fun location bytes => ∃ artifact ∈ attempted,
        DirectoryManifest.Writes base workspace.here artifact location bytes)
      workspace.toWorkspace final.toWorkspace := by
  -- every write starts where the ones before have led
  induction h with
  | done state => exact .refl _ _ state.toWorkspace
  | @written artifact artifacts attempted state final refusal _ _ ih =>
    have hfirst := (DirectoryManifest.write_evolves state base artifact).1
    rw [DirectoryManifest.toWorkspace_plainSink, hfirst.here] at ih
    refine (hfirst.imp ?_ ?_).trans (ih.imp ?_ ?_)
    · exact fun _ hmakes => ⟨artifact, List.mem_cons_self, hmakes⟩
    · exact fun _ _ hwrites => ⟨artifact, List.mem_cons_self, hwrites⟩
    · rintro _ ⟨other, hmem, hmakes⟩
      exact ⟨other, List.mem_cons_of_mem artifact hmem, hmakes⟩
    · rintro _ _ ⟨other, hmem, hwrites⟩
      exact ⟨other, List.mem_cons_of_mem artifact hmem, hwrites⟩
  | @refused artifact artifacts state fault _ =>
    refine (DirectoryManifest.write_evolves state base artifact).1.imp ?_ ?_
    · exact fun _ hmakes => ⟨artifact, List.mem_singleton_self artifact, hmakes⟩
    · exact fun _ _ hwrites => ⟨artifact, List.mem_singleton_self artifact, hwrites⟩

end Sequences

namespace Generation

/-- The artifacts that a run asks a sink to write, in order. -/
def attempted {σ : Type} (settings : Settings) (view : ModelView) (sink : Sink σ) (state : σ) :
    List Artifact :=
  (run settings view sink.noting ([], state)).state.1

/-- A run emits its sequence as far as the artifacts that it attempts. -/
theorem run_emits_attempted {σ : Type} (settings : Settings) (view : ModelView) (sink : Sink σ)
    (state : σ) :
    ∃ refusal,
      Emits sink (sequence settings view) state (attempted settings view sink state)
          (run settings view sink state).state refusal ∧
        (run settings view sink state).outcome = outcomeOf refusal
          (outcomeOf (view.firstFault? settings.markerId (view.annotated settings.markerId))
            (.ok ⟨(view.annotated settings.markerId).map (·.name),
              (sequence settings view).map (·.path)⟩)) := by
  obtain ⟨noted, refusal, hemits, houtcome⟩ := run_emits settings view sink state
  obtain ⟨noted', refusal', hnoting, -⟩ := run_emits settings view sink.noting ([], state)
  -- the sink decides what becomes of the sequence, so both runs attempt the same
  obtain ⟨hsame, hnotes⟩ := hnoting.of_noting
  obtain ⟨rfl, -, -⟩ := hemits.unique hsame
  rw [List.nil_append] at hnotes
  exact ⟨refusal, by rw [attempted, hnotes]; exact hemits, houtcome⟩

/-! ## Nothing else is touched -/

/-- What writing artifacts below a directory may do to the files. -/
structure StaysBelow (top : Location) (artifacts : List Artifact) (before after : Tree) : Prop where
  /-- What is not below the directory is as it was. -/
  outside : ∀ location, ¬ top <+: location → after.get? location = before.get? location
  /-- A file keeps its bytes, unless one of the artifacts lies there. -/
  files : ∀ location bytes, before.get? location = some (.file bytes) →
    (∀ artifact ∈ artifacts, ¬ artifact.LiesAt top location) →
      after.get? location = some (.file bytes)
  /-- Nothing is removed: files stay files and directories stay directories. -/
  kept : ∀ location, (before.get? location = some .directory →
      after.get? location = some .directory) ∧
    ((∃ bytes, before.get? location = some (.file bytes)) →
      ∃ bytes, after.get? location = some (.file bytes))
  /-- A new directory leads to one of the artifacts. -/
  directories : ∀ location, before.get? location = none →
    after.get? location = some .directory →
      ∃ artifact ∈ artifacts, ∃ place, artifact.LiesAt top place ∧
        location <+: place ∧ location ≠ place
  /-- A file that is new or has other bytes is one of the artifacts. -/
  written : ∀ location bytes, after.get? location = some (.file bytes) →
    before.get? location ≠ some (.file bytes) →
      ∃ artifact ∈ artifacts, artifact.LiesAt top location ∧
        bytes = artifact.content.toByteArray

/-- Changes by writes of artifacts below a base that is there stay below the base. -/
theorem staysBelow_of_evolves {base : String} {artifacts : List Artifact}
    {before after : Workspace}
    (hpasses : before.tree.Passes (Path.start before.here base) (Path.names base))
    (h : before.Evolves
      (fun location => ∃ artifact ∈ artifacts,
        DirectoryManifest.Makes base before.here artifact location)
      (fun location bytes => ∃ artifact ∈ artifacts,
        DirectoryManifest.Writes base before.here artifact location bytes) after) :
    StaysBelow (Path.location before.here base) artifacts before.tree after.tree := by
  -- what is made was not there, so it lies below the base and leads to an artifact
  have hmade : ∀ location, before.tree.get? location = none →
      (∃ artifact ∈ artifacts, DirectoryManifest.Makes base before.here artifact location) →
        ∃ artifact ∈ artifacts, ∃ inner rest, rest ≠ [] ∧
          Path.staysInside artifact.path = true ∧ Path.normal artifact.path = inner ++ rest ∧
          location = Path.location before.here base ++ inner := by
    rintro location hvacant ⟨artifact, hmem, hstays, henclosed⟩
    obtain ⟨inner, rest, hrest, hnormal, hlocation⟩ :=
      hpasses.exists_inner hstays henclosed hvacant
    exact ⟨artifact, hmem, inner, rest, hrest, hstays, hnormal, hlocation⟩
  constructor
  case outside =>
    intro location hout
    -- the directories on the way to the base are there, and nothing else outside can be made
    refine (h.change location).eq ?_ ?_
    · intro hvacant hmakes
      obtain ⟨_, -, inner, _, -, -, -, rfl⟩ := hmade location hvacant hmakes
      exact hout (List.prefix_append _ _)
    · rintro bytes ⟨artifact, -, ⟨-, rfl⟩, -⟩
      exact hout (List.prefix_append _ _)
  case files =>
    intro location bytes hfile hnone
    have hchange := h.change location
    rw [hfile] at hchange
    rcases hchange.of_file with hsame | ⟨_, ⟨artifact, hmem, hlies, -⟩, -⟩
    · exact hsame
    · exact absurd hlies (hnone artifact hmem)
  case kept =>
    refine fun location => ⟨fun hdirectory => ?_, ?_⟩
    · have hchange := h.change location
      rw [hdirectory] at hchange
      exact hchange.of_directory
    · rintro ⟨bytes, hfile⟩
      have hchange := h.change location
      rw [hfile] at hchange
      rcases hchange.of_file with hsame | ⟨later, -, hlater⟩
      · exact ⟨bytes, hsame⟩
      · exact ⟨later, hlater⟩
  case directories =>
    intro location hvacant hnew
    have hchange := h.change location
    rw [hvacant, hnew] at hchange
    rcases hchange.to_directory with hold | ⟨-, hmakes⟩
    · cases hold
    · obtain ⟨artifact, hmem, inner, rest, hrest, hstays, hnormal, rfl⟩ :=
        hmade location hvacant hmakes
      refine ⟨artifact, hmem, _, ⟨hstays, rfl⟩, ?_, ?_⟩
      · rw [hnormal, ← List.append_assoc]
        exact List.prefix_append _ _
      · rw [hnormal, ← List.append_assoc]
        simpa using hrest
  case written =>
    -- whatever differs was written
    intro location bytes hnew hold
    have hchange := h.change location
    rw [hnew] at hchange
    exact hchange.to_file.resolve_left hold

/-- A run touches nothing outside its output. Whatever the names of the entities and the settings
are, and whether the run succeeds or fails: below a base that is a directory it only writes the
files of the artifacts that it attempts and makes directories that lead to them, and everything
else is as it was. The empty base is the working directory. -/
theorem run_stays_below (settings : Settings) (view : ModelView) (base : String)
    (workspace : Workspace) (hlinkless : workspace.tree.Linkless)
    (hbase : base = "" ∨ workspace.isDirectory base = true) :
    StaysBelow (Path.location workspace.here base)
      (attempted settings view (DirectoryManifest.sink base) workspace) workspace.tree
      (run settings view (DirectoryManifest.sink base) workspace).state.tree := by
  lift workspace to PlainWorkspace using hlinkless
  have hpasses : workspace.tree.Passes (Path.start workspace.here base) (Path.names base) := by
    rcases hbase with rfl | hdirectory
    · exact trivial
    · exact workspace.passes_of_isDirectory hdirectory
  obtain ⟨refusal, hemits, -⟩ :=
    run_emits_attempted settings view (DirectoryManifest.sink base) workspace.toWorkspace
  obtain ⟨last, hlast, hplain⟩ := hemits.plain
  rw [← hlast]
  exact staysBelow_of_evolves hpasses hplain.evolves

/-- The view of declarations that have no markers. -/
def unmarkedView (decls : List Declaration) : ModelView :=
  ⟨fun _ => decls, fun _ _ => none, fun _ => .ok []⟩

/-- Settings that lead out of the base leave the files outside alone. -/
theorem run_stays_below_sample :
    (run ⟨"demo#marker", "..", "ts", "keep.txt"⟩ (unmarkedView []) (DirectoryManifest.sink "out")
        ⟨⟨[(["keep.txt"], .file "kept".toByteArray), (["out"], .directory)]⟩, []⟩).state.tree.get?
          ["keep.txt"] = some (.file "kept".toByteArray) := by
  have hstays := run_stays_below ⟨"demo#marker", "..", "ts", "keep.txt"⟩ (unmarkedView []) "out"
    ⟨⟨[(["keep.txt"], .file "kept".toByteArray), (["out"], .directory)]⟩, []⟩
    (Tree.linkless_of_entries (by simp)) (.inr (by decide +kernel))
  exact hstays.outside ["keep.txt"] (by decide +kernel)

end Generation

end EntityForge

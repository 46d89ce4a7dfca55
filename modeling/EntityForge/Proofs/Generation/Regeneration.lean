import EntityForge.Proofs.Files.Rewriting
import EntityForge.Proofs.Generation.Refinement
import Mathlib.Data.List.Nodup

/-!
# Runs into a directory, repeated

A run into a directory that has succeeded can be repeated: the second run has the same report and
leaves every file and every directory as it was (`Generation.run_again`). This needs two facts.

* Nothing that a run does takes away what an accepted write needs, so all paths of the run can be
  written to in the end (`Emits.keeps`), and a second run is refused nothing
  (`DirectoryManifest.emits_again`).
* Where several artifacts lie at one place, the second run puts the earlier ones there again, and
  then the last one, which was there before. So the tree changes on the way and is as it was in the
  end (`Files.Workspace.foldl_put_eq`).

If all artifacts lie at different places, every file holds its text already when the second run
comes to it, and no file is written.
-/

set_option autoImplicit false

namespace EntityForge

open Files

variable {base : String} {artifact : Artifact} {artifacts attempted : List Artifact}
  {refusal : Option Fault}

/-! ## Artifacts in the places of others -/

namespace Files

theorem Tree.get?_of_file? {tree : Tree} {location : Location} {bytes : ByteArray}
    (h : tree.file? location = some bytes) : tree.get? location = some (.file bytes) := by
  obtain ⟨entry, hentry, hbytes⟩ := Option.bind_eq_some_iff.1 h
  cases entry with
  | file => cases hbytes; exact hentry
  | directory => cases hbytes
  | link => cases hbytes

namespace Workspace

/-- Puts an artifact at its place below a directory. -/
def put (top : Location) (workspace : Workspace) (artifact : Artifact) : Workspace :=
  workspace.set (top ++ Path.normal artifact.path) (.file artifact.content.toByteArray)

variable {workspace : Workspace} {top : Location}

theorem isSome_put {location : Location} (h : (workspace.tree.get? location).isSome) :
    ((workspace.put top artifact).tree.get? location).isSome := by
  by_cases hroot : location = []
  · rw [hroot]
    rfl
  · rw [put, set, Tree.get?_set _ _ _ _ hroot]
    split
    · rfl
    · exact h

/-- What is put where a later artifact lies leaves no trace. -/
theorem foldl_put_of_later {later : Artifact} (hroot : top ++ Path.normal artifact.path ≠ [])
    (hsame : Path.normal later.path = Path.normal artifact.path) :
    ∀ {workspace : Workspace}, later ∈ artifacts →
      (workspace.tree.get? (top ++ Path.normal artifact.path)).isSome →
        artifacts.foldl (put top) (workspace.put top artifact)
          = artifacts.foldl (put top) workspace := by
  induction artifacts with
  | nil => exact fun hmem => nomatch hmem
  | cons next artifacts ih =>
    intro workspace hmem hthere
    rw [List.foldl_cons, List.foldl_cons]
    by_cases hnext : Path.normal next.path = Path.normal artifact.path
    · -- the next artifact takes the place
      have hput : (workspace.put top artifact).put top next = workspace.put top next := by
        simp only [put, set, hnext, Tree.set_set]
      rw [hput]
    · have hrest : later ∈ artifacts := by
        refine (List.mem_cons.1 hmem).resolve_left ?_
        rintro rfl
        exact hnext hsame
      have hne : top ++ Path.normal artifact.path ≠ top ++ Path.normal next.path :=
        fun hplace => hnext (List.append_cancel_left hplace).symm
      have hput : (workspace.put top artifact).put top next
          = (workspace.put top next).put top artifact := by
        simp only [put, set, Tree.set_comm workspace.tree _ _ hne hroot hthere]
      rw [hput, ih hrest (isSome_put hthere)]

/-- Artifacts that are put where the last of them are already change nothing in the end. -/
theorem foldl_put_eq (artifacts : List Artifact)
    (h : ∀ artifact ∈ artifacts, workspace.tree.file? (top ++ Path.normal artifact.path)
      = (Artifact.lastAt? artifacts (Path.normal artifact.path)).map (·.content.toByteArray)) :
    artifacts.foldl (put top) workspace = workspace := by
  induction artifacts with
  | nil => rfl
  | cons artifact artifacts ih =>
    have hrest : artifacts.foldl (put top) workspace = workspace := by
      refine ih fun other hmem => ?_
      -- the last one at its place is not the first of all
      obtain ⟨last, hlast⟩ := Artifact.exists_lastAt? hmem
      rw [h other (List.mem_cons_of_mem artifact hmem), Artifact.lastAt?_cons, hlast,
        Option.some_or]
    have hfirst := h artifact List.mem_cons_self
    obtain ⟨bytes, hbytes⟩ : ∃ bytes,
        workspace.tree.get? (top ++ Path.normal artifact.path) = some (.file bytes) := by
      obtain ⟨last, hlast⟩ := Artifact.exists_lastAt? List.mem_cons_self
      rw [hlast] at hfirst
      exact ⟨_, Tree.get?_of_file? hfirst⟩
    have hroot : top ++ Path.normal artifact.path ≠ [] := by
      intro hroot
      rw [hroot] at hbytes
      cases hbytes
    rw [List.foldl_cons]
    cases hlast : Artifact.lastAt? artifacts (Path.normal artifact.path) with
    | some last =>
      obtain ⟨hmem, hsame⟩ := Artifact.of_lastAt? hlast
      rw [foldl_put_of_later hroot hsame hmem (by rw [hbytes]; rfl), hrest]
    | none =>
      -- it is the last one at its place, so it is there
      rw [Artifact.lastAt?_cons, hlast, if_pos rfl] at hfirst
      have hput : workspace.put top artifact = workspace := by
        rw [put, set, Tree.set_self workspace.tree hroot (Tree.get?_of_file? hfirst)]
      rw [hput, hrest]

end Workspace

end Files

/-- The paths of the artifacts of an entity depend on its name only. -/
theorem Artifact.map_path_emitted {settings : Settings} {entity other : Entity}
    (h : entity.name = other.name) :
    (emitted settings entity).map (·.path) = (emitted settings other).map (·.path) := by
  simp only [emitted, List.map_map, Function.comp_def, h]

/-! ## Writing again -/

namespace DirectoryManifest

variable {workspace final : Workspace}

/-- An artifact was written below a base. -/
def Kept (base : String) (workspace : Workspace) (artifact : Artifact) : Prop :=
  Path.staysInside artifact.path = true ∧
    ∃ bytes, workspace.Keeps (Path.join base artifact.path) bytes

theorem Kept.evolves {made : Location → Prop} {written : Location → ByteArray → Prop}
    (hkept : Kept base workspace artifact) (h : workspace.Evolves made written final) :
    Kept base final artifact := by
  obtain ⟨hstays, bytes, hkeeps⟩ := hkept
  exact ⟨hstays, hkeeps.evolves h⟩

/-- An accepted write can be repeated. -/
theorem kept_of_write (workspace : PlainWorkspace)
    (h : ((sink base).write artifact workspace.toWorkspace).outcome = .ok ()) :
    Kept base ((sink base).write artifact workspace.toWorkspace).state artifact := by
  simp only [sink, write] at h ⊢
  split at h
  · rename_i hstays
    rw [if_pos hstays]
    split at h
    · rename_i hresult
      exact ⟨hstays, _, workspace.keeps_of_writeIfChanged hresult⟩
    · cases h
  · cases h

/-- A repeated write puts the artifact at its place. -/
theorem Kept.write (h : Kept base workspace artifact) :
    ((sink base).write artifact workspace).outcome = .ok () ∧
      ((sink base).write artifact workspace).state
        = workspace.put (Path.location workspace.here base) artifact := by
  obtain ⟨hstays, bytes, hkeeps⟩ := h
  obtain ⟨changed, hresult⟩ := hkeeps.exists_writeIfChanged artifact.content
  rw [Path.location_join hstays] at hresult
  have hwrite : (sink base).write artifact workspace
      = ⟨workspace.put (Path.location workspace.here base) artifact,
          [written (Path.join base artifact.path) changed], .ok ()⟩ := by
    simp only [sink, DirectoryManifest.write, if_pos hstays, hresult]
    rfl
  rw [hwrite]
  exact ⟨rfl, rfl⟩

/-- An artifact that is put where an earlier one was written replaces a file. -/
theorem Kept.evolves_put (h : Kept base workspace artifact) :
    workspace.Evolves (fun _ => False) (fun _ _ => True)
      (workspace.put (Path.location workspace.here base) artifact) := by
  obtain ⟨hstays, bytes, hkeeps⟩ := h
  have hfile := hkeeps.holds.file
  have hroot := hkeeps.holds.ne_root
  rw [Path.location_join hstays] at hfile hroot
  refine Workspace.evolves_set ?_ hroot
  rw [hfile]
  exact .replaced trivial

/-- Artifacts that were written before are accepted again, and are put at their places. -/
theorem emits_again (artifacts : List Artifact) : ∀ {workspace : Workspace},
    (∀ artifact ∈ artifacts, Kept base workspace artifact) →
      Emits (sink base) artifacts workspace artifacts
        (artifacts.foldl (Workspace.put (Path.location workspace.here base)) workspace) none := by
  induction artifacts with
  | nil => exact fun {workspace} _ => .done workspace
  | cons artifact artifacts ih =>
    intro workspace hkept
    have hfirst := hkept artifact List.mem_cons_self
    obtain ⟨hok, hstate⟩ := hfirst.write
    have hrest := ih fun other hmem =>
      (hkept other (List.mem_cons_of_mem artifact hmem)).evolves hfirst.evolves_put
    refine .written hok ?_
    rw [hstate]
    exact hrest

end DirectoryManifest

open DirectoryManifest (Kept)

namespace Emits

variable {workspace final : PlainWorkspace}

/-- All artifacts that were accepted can be written again in the end. -/
theorem keeps
    (h : Emits (DirectoryManifest.plainSink base) artifacts workspace attempted final refusal) :
    refusal = none → ∀ artifact ∈ artifacts, Kept base final.toWorkspace artifact := by
  induction h with
  | done state => exact fun _ => nofun
  | @written artifact artifacts attempted state final refusal hok hrest ih =>
    intro hnone
    exact List.forall_mem_cons.2
      ⟨(DirectoryManifest.kept_of_write state hok).evolves hrest.evolves, ih hnone⟩
  | refused => exact nofun

/-- After a sequence that was accepted, the sequence is accepted again and changes nothing. -/
theorem again
    (h : Emits (DirectoryManifest.plainSink base) artifacts workspace attempted final none) :
    Emits (DirectoryManifest.sink base) artifacts final.toWorkspace artifacts final.toWorkspace
      none := by
  have hagain := DirectoryManifest.emits_again artifacts (h.keeps rfl)
  have hput : artifacts.foldl (Workspace.put (Path.location final.here base)) final.toWorkspace
      = final.toWorkspace := by
    refine Workspace.foldl_put_eq artifacts fun artifact hmem => ?_
    obtain ⟨last, hlast⟩ := Artifact.exists_lastAt? hmem
    rw [h.evolves.here, h.file?_eq rfl, h.attempted_prefix.2 rfl, hlast]
    rfl
  rwa [hput] at hagain

/-- Artifacts are never refused at paths that were written to before. -/
theorem append_of_paths {later : List Artifact}
    (h : Emits (DirectoryManifest.plainSink base) artifacts workspace attempted final none)
    (hpaths : later.map (·.path) ⊆ artifacts.map (·.path)) :
    ∃ last, Emits (DirectoryManifest.sink base) (artifacts ++ later) workspace.toWorkspace
      (attempted ++ later) last none := by
  have hkept : ∀ other ∈ later, Kept base final.toWorkspace other := by
    intro other hmem
    obtain ⟨artifact, hartifact, hsame⟩ := List.mem_map.1 (hpaths (List.mem_map_of_mem hmem))
    have hearlier := h.keeps rfl artifact hartifact
    rwa [Kept, hsame] at hearlier
  have hfirst := h.map (DirectoryManifest.plainSink_represents base)
  exact ⟨_, hfirst.append (DirectoryManifest.emits_again later hkept)⟩

/-- If all artifacts lie at different places, each of them is there in the end. -/
theorem keeps_content
    (h : Emits (DirectoryManifest.plainSink base) artifacts workspace attempted final none)
    (hnodup : (artifacts.map fun artifact =>
      Path.location workspace.here (Path.join base artifact.path)).Nodup)
    (hmem : artifact ∈ artifacts) :
    final.Keeps (Path.join base artifact.path) artifact.content.toByteArray := by
  have hkept := h.keeps rfl
  obtain ⟨hstays, bytes, hkeeps⟩ := hkept artifact hmem
  -- the last artifact at the place is the only one there
  have hlast : Artifact.lastAt? artifacts (Path.normal artifact.path) = some artifact := by
    obtain ⟨last, hlast⟩ := Artifact.exists_lastAt? hmem
    obtain ⟨hlastMem, hsame⟩ := Artifact.of_lastAt? hlast
    have hplace : Path.location workspace.here (Path.join base last.path)
        = Path.location workspace.here (Path.join base artifact.path) := by
      rw [Path.location_join (hkept last hlastMem).1, Path.location_join hstays, hsame]
    rw [hlast, List.inj_on_of_nodup_map hnodup hlastMem hmem hplace]
  have hfile := h.file?_eq rfl (Path.normal artifact.path)
  rw [h.attempted_prefix.2 rfl, hlast, ← Path.location_join hstays] at hfile
  have hheld := hkeeps.holds.file
  rw [h.evolves.here, Tree.get?_of_file? hfile] at hheld
  cases hheld
  exact hkeeps

end Emits

/-! ## The writes of a run -/

/-- A write that a sink was asked for: the artifact, and the state that was met. -/
structure Sink.Call (σ : Type) where
  /-- The artifact. -/
  artifact : Artifact
  /-- The state before the write. -/
  before : σ

/-- A sink that also notes every write with the state that it meets. -/
def Sink.tracing {σ : Type} (sink : Sink σ) : Sink (List (Sink.Call σ) × σ) where
  write artifact state :=
    let written := sink.write artifact state.2
    ⟨(state.1 ++ [⟨artifact, state.2⟩], written.state), written.events, written.outcome⟩

section Tracing

variable {σ : Type} {sink : Sink σ} {start stop : List (Sink.Call σ) × σ}

/-- Tracing changes nothing else, and notes exactly the artifacts that are attempted. -/
theorem Emits.of_tracing (h : Emits sink.tracing artifacts start attempted stop refusal) :
    Emits sink artifacts start.2 attempted stop.2 refusal ∧
      stop.1.map (·.artifact) = start.1.map (·.artifact) ++ attempted := by
  have hrep : sink.tracing.Represents Prod.snd sink := ⟨fun _ _ => rfl, fun _ _ => rfl⟩
  refine ⟨h.map hrep, ?_⟩
  induction h with
  | done state => exact (List.append_nil _).symm
  | written _ _ ih =>
    rw [ih]
    simp [Sink.tracing]
  | refused => simp [Sink.tracing]

/-- If no write changes the state, all writes meet the same state. -/
theorem Emits.before_of_tracing (h : Emits sink.tracing artifacts start attempted stop refusal) :
    (∀ artifact ∈ artifacts, (sink.write artifact start.2).state = start.2) →
      ∀ call ∈ stop.1, call ∈ start.1 ∨ call.artifact ∈ artifacts ∧ call.before = start.2 := by
  induction h with
  | done state => exact fun _ _ => .inl
  | @written artifact artifacts attempted state stop refusal _ _ ih =>
    intro hsame call hmem
    have hfirst : (sink.tracing.write artifact state).state.2 = state.2 :=
      hsame artifact List.mem_cons_self
    rw [hfirst] at ih
    have hlater := fun other hother => hsame other (List.mem_cons_of_mem artifact hother)
    rcases ih hlater call hmem with hnoted | ⟨hartifact, hbefore⟩
    · rcases List.mem_append.1 hnoted with hearlier | hthis
      · exact .inl hearlier
      · obtain rfl := List.mem_singleton.1 hthis
        exact .inr ⟨List.mem_cons_self, rfl⟩
    · exact .inr ⟨List.mem_cons_of_mem artifact hartifact, hbefore⟩
  | @refused artifact artifacts state fault _ =>
    intro _ call hmem
    rcases List.mem_append.1 hmem with hearlier | hthis
    · exact .inl hearlier
    · obtain rfl := List.mem_singleton.1 hthis
      exact .inr ⟨List.mem_cons_self, rfl⟩

end Tracing

namespace Generation

/-- The writes that a run asks a sink for, in order, each with the state that it meets. -/
def calls {σ : Type} (settings : Settings) (view : ModelView) (sink : Sink σ) (state : σ) :
    List (Sink.Call σ) :=
  (run settings view sink.tracing ([], state)).state.1

/-- The report of a run that succeeds. -/
def fullReport (settings : Settings) (view : ModelView) : Report :=
  ⟨(view.annotated settings.markerId).map (·.name), (sequence settings view).map (·.path)⟩

section Outcomes

variable {σ : Type} {settings : Settings} {view : ModelView} {sink : Sink σ} {state final : σ}
  {report : Report}

/-- A run ends where its sequence does. -/
theorem run_state_eq (h : Emits sink (sequence settings view) state attempted final refusal) :
    (run settings view sink state).state = final := by
  obtain ⟨_, _, hemits, -⟩ := run_emits settings view sink state
  exact (h.unique hemits).2.1

/-- A run succeeds exactly if its sequence is accepted and no declaration is at fault. -/
theorem run_eq_ok_iff : (run settings view sink state).outcome = .ok report ↔
    (∃ final, Emits sink (sequence settings view) state (sequence settings view) final none) ∧
      view.firstFault? settings.markerId (view.annotated settings.markerId) = none ∧
      report = fullReport settings view := by
  obtain ⟨attempted, refusal, hemits, houtcome⟩ := run_emits settings view sink state
  rw [houtcome]
  constructor
  · intro hok
    obtain ⟨rfl, hreport⟩ := outcomeOf_eq_ok hok
    obtain ⟨hsound, hvalue⟩ := outcomeOf_eq_ok hreport
    cases hvalue
    rw [hemits.attempted_prefix.2 rfl] at hemits
    exact ⟨⟨_, hemits⟩, hsound, rfl⟩
  · rintro ⟨⟨final, haccepted⟩, hsound, rfl⟩
    obtain ⟨-, -, rfl⟩ := haccepted.unique hemits
    rw [hsound]
    rfl

/-- Artifacts are accepted if writing all of them succeeds. -/
theorem emits_of_writeAll {artifacts : List Artifact}
    (h : (writeAll sink artifacts state).outcome.isOk = true) :
    ∃ final, Emits sink artifacts state artifacts final none := by
  obtain ⟨attempted, refusal, hemits, houtcome⟩ := writeAll_emits sink artifacts state
  rw [houtcome] at h
  cases refusal with
  | some fault => cases h
  | none =>
    rw [hemits.attempted_prefix.2 rfl] at hemits
    exact ⟨_, hemits⟩

/-- The calls of a run that succeeds are those of its sequence, and if no write changes the state,
they all meet the state in which the run began. -/
theorem calls_of_emits
    (h : Emits sink (sequence settings view) state (sequence settings view) final none) :
    (calls settings view sink state).map (·.artifact) = sequence settings view ∧
      ((∀ artifact ∈ sequence settings view, (sink.write artifact state).state = state) →
        ∀ call ∈ calls settings view sink state, call.before = state) := by
  obtain ⟨attempted, refusal, htracing, -⟩ := run_emits settings view sink.tracing ([], state)
  obtain ⟨hsame, hcalls⟩ := htracing.of_tracing
  obtain ⟨rfl, -, -⟩ := h.unique hsame
  refine ⟨hcalls, fun hstays call hmem => ?_⟩
  exact ((htracing.before_of_tracing hstays call hmem).resolve_left nofun).2

end Outcomes

/-- A run into a directory can be repeated. In a tree without links, if a run succeeds, then the
same run in the tree that it leaves succeeds with the same report and leaves this tree as it is,
even if several artifacts lie at one place; if all artifacts lie at different places, the repeated
run finds every file with its text and writes none. -/
theorem run_again (settings : Settings) (view : ModelView) (base : String) (workspace : Workspace)
    {report : Report} (hlinkless : workspace.tree.Linkless)
    (hok : (run settings view (DirectoryManifest.sink base) workspace).outcome = .ok report) :
    let after := (run settings view (DirectoryManifest.sink base) workspace).state
    (run settings view (DirectoryManifest.sink base) after).outcome = .ok report ∧
    (run settings view (DirectoryManifest.sink base) after).state = after ∧
    (calls settings view (DirectoryManifest.sink base) after).map (·.artifact.path)
      = report.artifacts ∧
    ((report.artifacts.map fun path =>
        Path.location workspace.here (Path.join base path)).Nodup →
      ∀ call ∈ calls settings view (DirectoryManifest.sink base) after,
        call.before.writeIfChanged (Path.join base call.artifact.path) call.artifact.content
          = (call.before, .ok false)) := by
  intro after
  lift workspace to PlainWorkspace using hlinkless
  obtain ⟨⟨_, hemits⟩, hsound, hreport⟩ := run_eq_ok_iff.1 hok
  obtain ⟨final, rfl, hplain⟩ := hemits.plain
  have hafter : after = final.toWorkspace := run_state_eq hemits
  have hagain := hplain.again
  rw [hafter]
  obtain ⟨hcalls, hbefore⟩ := calls_of_emits hagain
  refine ⟨run_eq_ok_iff.2 ⟨⟨_, hagain⟩, hsound, hreport⟩, run_state_eq hagain, ?_, ?_⟩
  · rw [hreport, fullReport, ← hcalls, List.map_map]
    rfl
  · intro hnodup call hmem
    rw [hreport, fullReport, List.map_map] at hnodup
    -- every file holds its text, so every write leaves the workspace alone
    have hkeeps : ∀ artifact ∈ sequence settings view,
        final.Keeps (Path.join base artifact.path) artifact.content.toByteArray :=
      fun _ hartifact => hplain.keeps_content hnodup hartifact
    have hsame : ∀ artifact ∈ sequence settings view,
        ((DirectoryManifest.sink base).write artifact final.toWorkspace).state
          = final.toWorkspace := by
      intro artifact hartifact
      have hresult := (hkeeps artifact hartifact).writeIfChanged_same
      have hstays := (hplain.keeps rfl artifact hartifact).1
      simp only [DirectoryManifest.sink, DirectoryManifest.write, if_pos hstays, hresult]
    have hartifact : call.artifact ∈ sequence settings view := by
      rw [← hcalls]
      exact List.mem_map_of_mem hmem
    rw [hbefore hsame call hmem]
    exact (hkeeps call.artifact hartifact).writeIfChanged_same

/-- A view of marked structures of one name, one from every namespace, in tables of their ids. -/
def petsView (namespaces : List String) : ModelView :=
  ⟨fun _ => namespaces.map fun space => ⟨space ++ "#Pet", "Pet"⟩,
    fun decl _ => some (Json.markerNode (.object [(EntityMarker.tableKey, .text decl.id)])),
    fun _ => .ok []⟩

/-- The entity from a namespace. -/
def pet (space : String) : Entity :=
  Entity.build ⟨space ++ "#Pet", "Pet"⟩ ⟨space ++ "#Pet", EntityMarker.defaultHashKey⟩ []

/-- A run for two entities of one name, of which the second wins again, and a run for one of them,
which writes nothing again. -/
theorem run_again_pets :
    (let view := petsView ["cats", "dogs"]
      let after := (run .standard view (DirectoryManifest.sink "out") ⟨.empty, []⟩).state
      (run .standard view (DirectoryManifest.sink "out") after).outcome
          = .ok (fullReport .standard view) ∧
        (run .standard view (DirectoryManifest.sink "out") after).state = after) ∧
    (let view := petsView ["cats"]
      let after := (run .standard view (DirectoryManifest.sink "out") ⟨.empty, []⟩).state
      (calls .standard view (DirectoryManifest.sink "out") after).length = 6 ∧
        ∀ call ∈ calls .standard view (DirectoryManifest.sink "out") after,
          call.before.writeIfChanged (Path.join "out" call.artifact.path) call.artifact.content
            = (call.before, .ok false)) := by
  have hlinkless := PlainWorkspace.empty.linkless
  obtain ⟨final, hplain⟩ : ∃ final, Emits (DirectoryManifest.plainSink "out")
      (sequence .standard (petsView ["cats"])) .empty
      (sequence .standard (petsView ["cats"])) final none :=
    emits_of_writeAll (by decide +kernel)
  constructor
  · -- the second entity has the paths of the first one, which was accepted
    have hname : (pet "dogs").name = (pet "cats").name := rfl
    have hpaths : (Artifact.emitted .standard (pet "dogs")).map (·.path)
        ⊆ (sequence .standard (petsView ["cats"])).map (·.path) := by
      rw [Artifact.map_path_emitted hname]
      exact List.map_subset _ (List.subset_append_left _ [])
    obtain ⟨hagain, hstate, -⟩ := run_again .standard (petsView ["cats", "dogs"]) "out"
      ⟨.empty, []⟩ hlinkless
      (run_eq_ok_iff.2 ⟨hplain.append_of_paths hpaths, rfl, rfl⟩)
    exact ⟨hagain, hstate⟩
  · have hemits := hplain.map (DirectoryManifest.plainSink_represents "out")
    obtain ⟨-, -, hcalls, hunchanged⟩ := run_again .standard (petsView ["cats"]) "out"
      ⟨.empty, []⟩ hlinkless (run_eq_ok_iff.2 ⟨⟨_, hemits⟩, rfl, rfl⟩)
    have hplaces : ((fullReport .standard (petsView ["cats"])).artifacts.map fun path =>
        Path.location [] (Path.join "out" path)).Nodup := by
      decide +kernel
    have hlength := congrArg List.length hcalls
    rw [List.length_map] at hlength
    exact ⟨hlength.trans (by decide +kernel), hunchanged hplaces⟩

end Generation

end EntityForge

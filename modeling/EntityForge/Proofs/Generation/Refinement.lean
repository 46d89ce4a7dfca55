import EntityForge.Proofs.Generation.Directory
import Mathlib.Data.List.Find
import Mathlib.Data.List.Induction

/-!
# Files against memory

A run into a directory that is absent or empty does what a run into memory does, if no write is
refused (`Generation.run_directory_refines_memory`). The files below the base are the paths of the
report without the segments that lead nowhere. Several paths may lead to one file, which then holds
the artifact that was written last; if no two paths do, the files are what memory holds.

The file at a location after a sequence of writes is given by one equation, `Emits.file?_eq`: the
last artifact that lies there decides, or else what was there before. For memory the same equation
holds with paths in place of locations (`MemoryManifest.get?_eq_last`).
-/

set_option autoImplicit false

namespace EntityForge

open Files (Location Workspace Tree)
open Files

/-! ## Files in a tree -/

namespace Files

/-- The bytes of an entry that is a file. -/
def Entry.bytes? : Entry → Option ByteArray
  | .file bytes => some bytes
  | _ => none

/-- The bytes of the file at a location, if a file is there. -/
def Tree.file? (tree : Tree) (location : Location) : Option ByteArray :=
  (tree.get? location).bind Entry.bytes?

/-- A tree is closed if whatever is in it lies in a directory. -/
def Tree.Closed (tree : Tree) : Prop :=
  ∀ location name, (tree.get? (location ++ [name])).isSome → tree.get? location = some .directory

/-- A directory is absent, or it is there and nothing is in it. -/
def Tree.Clear (tree : Tree) (top : Location) : Prop :=
  tree.get? top = none ∨
    tree.get? top = some .directory ∧ ∀ names, names ≠ [] → tree.get? (top ++ names) = none

namespace Tree

variable {tree : Tree}

theorem file?_of_get? {location : Location} {bytes : ByteArray}
    (h : tree.get? location = some (.file bytes)) : tree.file? location = some bytes := by
  rw [file?, h]
  rfl

theorem get?_empty {location : Location} (h : location ≠ []) : empty.get? location = none := by
  cases location with
  | nil => exact absurd rfl h
  | cons => rfl

end Tree

/-- A tree in which everything lies in a directory. -/
structure ClosedTree extends Tree where
  /-- Whatever is in the tree lies in a directory. -/
  closed : toTree.Closed

namespace ClosedTree

/-- The tree that only has a root. -/
def empty : ClosedTree where
  toTree := .empty
  closed := by
    intro location name h
    rw [Tree.get?_empty (by simp)] at h
    cases h

variable (tree : ClosedTree) {top : Location}

/-- Nothing is below a location where nothing is. -/
theorem get?_append (habsent : tree.get? top = none) (names : List String) :
    tree.get? (top ++ names) = none := by
  -- on the names from the last one, each of which would lie in a directory
  induction names using List.reverseRecOn with
  | nil => rwa [List.append_nil]
  | append_singleton front name ih =>
    rw [← List.append_assoc]
    cases hentry : tree.get? (top ++ front ++ [name]) with
    | none => rfl
    | some entry =>
      have hdirectory := tree.closed (top ++ front) name (by rw [hentry]; rfl)
      rw [ih] at hdirectory
      cases hdirectory

/-- No file is at or below a clear directory. -/
theorem file?_of_clear (hclear : tree.Clear top) (names : List String) :
    tree.file? (top ++ names) = none := by
  rcases hclear with habsent | ⟨hdirectory, hempty⟩
  · rw [Tree.file?, tree.get?_append habsent]
    rfl
  · by_cases hnames : names = []
    · rw [hnames, List.append_nil, Tree.file?, hdirectory]
      rfl
    · rw [Tree.file?, hempty names hnames]
      rfl

end ClosedTree

/-- Where nothing may be written, no file changes. -/
theorem Change.bytes?_eq {made : Prop} {written : ByteArray → Prop} {a b : Option Entry}
    (h : Change made written a b) (hwritten : ∀ bytes, ¬ written bytes) :
    b.bind Entry.bytes? = a.bind Entry.bytes? := by
  cases h with
  | kept => rfl
  | directory => rfl
  | created h => exact absurd h (hwritten _)
  | replaced h => exact absurd h (hwritten _)

end Files

/-! ## The last artifact -/

/-- The last artifact of a sequence whose path, without its idle segments, consists of these
names. -/
def Artifact.lastAt? (artifacts : List Artifact) (names : List String) : Option Artifact :=
  artifacts.reverse.find? fun artifact => Path.normal artifact.path = names

namespace Artifact

variable {artifacts : List Artifact} {names : List String}

theorem lastAt?_cons (artifact : Artifact) (artifacts : List Artifact) (names : List String) :
    lastAt? (artifact :: artifacts) names = (lastAt? artifacts names).or
      (if Path.normal artifact.path = names then some artifact else none) := by
  simp [lastAt?]

theorem lastAt?_isSome_iff : (lastAt? artifacts names).isSome ↔
    ∃ artifact ∈ artifacts, Path.normal artifact.path = names := by
  simp [lastAt?]

/-- Where an artifact lies, some artifact is the last one. -/
theorem exists_lastAt? {artifact : Artifact} (hmem : artifact ∈ artifacts) :
    ∃ last, lastAt? artifacts (Path.normal artifact.path) = some last :=
  Option.isSome_iff_exists.1 (lastAt?_isSome_iff.2 ⟨artifact, hmem, rfl⟩)

theorem of_lastAt? {artifact : Artifact} (h : lastAt? artifacts names = some artifact) :
    artifact ∈ artifacts ∧ Path.normal artifact.path = names :=
  ⟨List.mem_reverse.1 (List.mem_of_find?_eq_some h), by simpa using List.find?_some h⟩

/-- Artifacts of different paths lie at different places. -/
def Apart (artifacts : List Artifact) : Prop :=
  ∀ a ∈ artifacts, ∀ b ∈ artifacts, Path.normal a.path = Path.normal b.path → a.path = b.path

end Artifact

/-! ## What files hold -/

/-- After an accepted write the file of the artifact holds its content, and the other files below
the base are as they were. -/
theorem DirectoryManifest.write_file? (workspace : PlainWorkspace) {base : String}
    {artifact : Artifact}
    (h : ((sink base).write artifact workspace.toWorkspace).outcome = .ok ())
    (names : List String) :
    ((sink base).write artifact workspace.toWorkspace).state.tree.file?
        (Path.location workspace.here base ++ names)
      = if Path.normal artifact.path = names then some artifact.content.toByteArray
        else workspace.tree.file? (Path.location workspace.here base ++ names) := by
  obtain ⟨hevolves, hfile⟩ := write_evolves workspace base artifact
  split
  · rename_i hnames
    subst hnames
    exact Tree.file?_of_get? (hfile h)
  · rename_i hnames
    refine (hevolves.change _).bytes?_eq ?_
    rintro bytes ⟨⟨-, hplace⟩, -⟩
    exact hnames (List.append_cancel_left hplace).symm

/-- After accepted writes a file below the base holds the last artifact that lies there, or else
what it held before. -/
theorem Emits.file?_eq {base : String} {artifacts attempted : List Artifact}
    {workspace final : PlainWorkspace} {refusal : Option Fault}
    (h : Emits (DirectoryManifest.plainSink base) artifacts workspace attempted final refusal) :
    refusal = none → ∀ names,
      final.tree.file? (Path.location workspace.here base ++ names)
        = ((Artifact.lastAt? attempted names).map (·.content.toByteArray)).or
            (workspace.tree.file? (Path.location workspace.here base ++ names)) := by
  -- the first artifact decides only where no later one lies
  induction h with
  | done state => exact fun _ _ => rfl
  | @written artifact artifacts attempted state final refusal hok _ ih =>
    intro hnone names
    have hfirst := (DirectoryManifest.write_evolves state base artifact).1
    have hrest := ih hnone names
    rw [DirectoryManifest.toWorkspace_plainSink, hfirst.here,
      DirectoryManifest.write_file? state hok] at hrest
    rw [hrest, Artifact.lastAt?_cons]
    cases Artifact.lastAt? attempted names with
    | some last => rfl
    | none => split <;> rfl
  | refused => exact nofun

/-! ## What memory holds -/

namespace MemoryManifest

theorem lookupEntry_map_entry (path : String) (artifacts : List Artifact) :
    lookupEntry path (artifacts.map Artifact.entry)
      = (artifacts.find? fun artifact => artifact.path = path).map (·.content) := by
  induction artifacts with
  | nil => rfl
  | cons artifact artifacts ih =>
    by_cases h : artifact.path = path <;> simp [Artifact.entry, h, ih]

/-- A path holds the last artifact that was written to it. -/
theorem get?_eq_last (artifacts : List Artifact) (path : String) :
    (ofArtifacts artifacts).get? path
      = (artifacts.reverse.find? fun artifact => artifact.path = path).map (·.content) := by
  rw [ofArtifacts, Dictionary.get?_ofList, ← List.map_reverse, lookupEntry_map_entry]

/-- If paths lead to different files, the last artifact of a path is the last one at its place. -/
theorem get?_of_apart {artifacts : List Artifact} (hapart : Artifact.Apart artifacts)
    {artifact : Artifact} (hmem : artifact ∈ artifacts) :
    (ofArtifacts artifacts).get? artifact.path
      = (Artifact.lastAt? artifacts (Path.normal artifact.path)).map (·.content) := by
  rw [get?_eq_last, Artifact.lastAt?, List.find?_congr]
  intro other hother
  have hiff : other.path = artifact.path ↔ Path.normal other.path = Path.normal artifact.path :=
    ⟨congrArg Path.normal, hapart other (List.mem_reverse.1 hother) artifact hmem⟩
  exact decide_eq_decide.2 hiff

end MemoryManifest

/-! ## The refinement -/

/-- The files below a directory are what was emitted, seen as files and seen as memory. -/
structure Refines (top : Location) (emitted : List Artifact) (tree : Tree)
    (memory : MemoryManifest) : Prop where
  /-- A file is where an emitted path leads, without its idle segments, and nowhere else. -/
  paths : ∀ names, (tree.file? (top ++ names)).isSome ↔
    ∃ artifact ∈ emitted, Path.normal artifact.path = names
  /-- A file holds the last artifact that was emitted there. -/
  contents : ∀ names, tree.file? (top ++ names)
    = (Artifact.lastAt? emitted names).map (·.content.toByteArray)
  /-- If no two paths lead to one file, the files are the texts in memory under their paths. -/
  texts : Artifact.Apart emitted → ∀ names bytes, tree.file? (top ++ names) = some bytes ↔
    ∃ path text, memory.get? path = some text ∧ Path.normal path = names ∧
      text.toByteArray = bytes

/-- Files that hold the last artifacts refine the memory that the artifacts fill. -/
theorem refines_of_contents {top : Location} {emitted : List Artifact} {tree : Tree}
    (h : ∀ names, tree.file? (top ++ names)
      = (Artifact.lastAt? emitted names).map (·.content.toByteArray)) :
    Refines top emitted tree (MemoryManifest.ofArtifacts emitted) := by
  constructor
  case paths =>
    intro names
    rw [h, Option.isSome_map, Artifact.lastAt?_isSome_iff]
  case contents => exact h
  case texts =>
    intro hapart names bytes
    rw [h, Option.map_eq_some_iff]
    constructor
    · rintro ⟨artifact, hlast, hbytes⟩
      obtain ⟨hmem, hnames⟩ := Artifact.of_lastAt? hlast
      refine ⟨artifact.path, artifact.content, ?_, hnames, hbytes⟩
      rw [MemoryManifest.get?_of_apart hapart hmem, hnames, hlast]
      rfl
    · rintro ⟨path, text, htext, hnames, hbytes⟩
      -- what memory holds under the path comes from an artifact
      obtain ⟨artifact, hmem, rfl⟩ : ∃ artifact ∈ emitted, artifact.path = path := by
        rw [MemoryManifest.get?_eq_last, Option.map_eq_some_iff] at htext
        obtain ⟨artifact, hfound, -⟩ := htext
        exact ⟨artifact, List.mem_reverse.1 (List.mem_of_find?_eq_some hfound),
          by simpa using List.find?_some hfound⟩
      rw [MemoryManifest.get?_of_apart hapart hmem, hnames, Option.map_eq_some_iff] at htext
      obtain ⟨last, hlast, rfl⟩ := htext
      exact ⟨last, hlast, hbytes⟩

namespace Generation

theorem outcomeOf_eq_ok {α : Type} {refusal : Option Fault} {otherwise : Except Fault α} {value : α}
    (h : outcomeOf refusal otherwise = .ok value) : refusal = none ∧ otherwise = .ok value := by
  cases refusal with
  | none => exact ⟨rfl, h⟩
  | some fault => cases h

/-- A run into a directory refines a run into memory. In a tree without links, if the base is absent
or empty and the run into it succeeds, then so does a run into an empty memory, with the same
report; the paths of the report are those of the artifacts that were emitted, and these are what the
files below the base and the memory hold. If the run into memory fails, so does the run into any
directory.

Whether the base is absent or empty is read at `Path.location`, where its names lead one after
another: a base with a `..` behind a missing name counts as the directory to which it will lead once
the missing one is made. -/
theorem run_directory_refines_memory (settings : Settings) (view : ModelView) (base : String)
    (workspace : Workspace) :
    (∀ report, workspace.tree.Linkless → workspace.tree.Closed →
      workspace.tree.Clear (Path.location workspace.here base) →
      (run settings view (DirectoryManifest.sink base) workspace).outcome = .ok report →
        (run settings view MemoryManifest.sink .empty).outcome = .ok report ∧
        (attempted settings view (DirectoryManifest.sink base) workspace).map (·.path)
          = report.artifacts ∧
        Refines (Path.location workspace.here base)
          (attempted settings view (DirectoryManifest.sink base) workspace)
          (run settings view (DirectoryManifest.sink base) workspace).state.tree
          (run settings view MemoryManifest.sink .empty).state) ∧
    ∀ fault, (run settings view MemoryManifest.sink .empty).outcome = .error fault →
      ∃ reason, (run settings view (DirectoryManifest.sink base) workspace).outcome
        = .error reason := by
  obtain ⟨hstate, hmemory⟩ := run_memory settings view
  obtain ⟨refusal, hemits, houtcome⟩ :=
    run_emits_attempted settings view (DirectoryManifest.sink base) workspace
  rw [houtcome, hmemory, hstate]
  constructor
  · intro report hlinkless hclosed hclear hok
    lift workspace to PlainWorkspace using hlinkless
    obtain ⟨rfl, hreport⟩ := outcomeOf_eq_ok hok
    -- nothing is refused, so the whole sequence is written, as it is into memory
    have hall := hemits.attempted_prefix.2 rfl
    obtain ⟨last, hlast, hplain⟩ := hemits.plain
    have hfiles := hplain.file?_eq rfl
    rw [hlast, hall] at hfiles
    rw [hall]
    refine ⟨hreport, ?_, refines_of_contents fun names => ?_⟩
    · obtain ⟨-, hvalue⟩ := outcomeOf_eq_ok hreport
      cases hvalue
      rfl
    · rw [hfiles, ClosedTree.file?_of_clear ⟨workspace.tree, hclosed⟩ hclear, Option.or_none]
  · intro fault hfault
    rw [hfault]
    -- the model is at fault, so the run fails there unless a write is refused before
    cases refusal with
    | none => exact ⟨fault, rfl⟩
    | some reason => exact ⟨reason, rfl⟩

/-- Settings whose paths begin with a segment that leads nowhere. -/
def dottedSettings : Settings := ⟨"demo#marker", "./crud", "ts", "README.txt"⟩

/-- A run that leaves its diagnostic below `./crud`, and one that fails on the marker. -/
theorem run_directory_refines_memory_sample :
    (∃ report,
      (run dottedSettings (unmarkedView []) (DirectoryManifest.sink "out") ⟨.empty, []⟩).outcome
        = .ok report ∧
      (run dottedSettings (unmarkedView []) MemoryManifest.sink .empty).outcome = .ok report ∧
      Refines ["out"]
        (attempted dottedSettings (unmarkedView []) (DirectoryManifest.sink "out") ⟨.empty, []⟩)
        (run dottedSettings (unmarkedView []) (DirectoryManifest.sink "out")
          ⟨.empty, []⟩).state.tree
        (run dottedSettings (unmarkedView []) MemoryManifest.sink .empty).state) ∧
    ∃ reason, (run .standard (unmarkedView [⟨"demo#Pet", "Pet"⟩]) (DirectoryManifest.sink "out")
      ⟨.empty, []⟩).outcome = .error reason := by
  constructor
  · have hok : (run dottedSettings (unmarkedView []) (DirectoryManifest.sink "out")
        ⟨.empty, []⟩).outcome.isOk = true := by
      decide +kernel
    cases houtcome : (run dottedSettings (unmarkedView []) (DirectoryManifest.sink "out")
        ⟨.empty, []⟩).outcome with
    | error fault =>
      rw [houtcome] at hok
      cases hok
    | ok report =>
      have hbase : Path.location [] "out" = ["out"] := by decide +kernel
      have habsent : Tree.empty.Clear (Path.location [] "out") := by
        rw [hbase]
        exact .inl rfl
      obtain ⟨hmemory, -, hrefines⟩ := (run_directory_refines_memory dottedSettings
        (unmarkedView []) "out" ⟨.empty, []⟩).1 report PlainWorkspace.empty.linkless
          ClosedTree.empty.closed habsent houtcome
      rw [hbase] at hrefines
      exact ⟨report, rfl, hmemory, hrefines⟩
  · exact (run_directory_refines_memory .standard (unmarkedView [⟨"demo#Pet", "Pet"⟩]) "out"
      ⟨.empty, []⟩).2 _ rfl

end Generation

end EntityForge

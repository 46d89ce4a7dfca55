import EntityForge.Files.Workspace
import EntityForge.Proofs.Files.Walk
import Mathlib.Tactic.Lift

/-!
# What file operations change

In a tree without links an operation on files can be described location by location
(`Workspace.Evolves`): nothing is removed, a directory stays one, and what was vacant may become a
directory or a file. No link is made, so what a workspace without links becomes is one again
(`Workspace.Evolves.plain`).

Every operation says at which locations it makes directories and what it writes where, whether it
succeeds or fails in the middle; making the directories that enclose a path and writing a file
unless it holds the text are the two that matter (`PlainWorkspace.ensureEnclosing_evolves`,
`PlainWorkspace.writeIfChanged_evolves`). They rest on what a single operation did if it succeeded
(`Workspace.makeDirectory_ok`, `Workspace.write_ok`), which does not depend on links.
-/

set_option autoImplicit false

namespace EntityForge.Files

/-! ## Changes of an entry -/

/-- How what is at a location may change: not at all, or from nothing to a directory, if one may be
made there, or to a file with bytes that may be written there. -/
inductive Change (made : Prop) (written : ByteArray → Prop) :
    Option Entry → Option Entry → Prop where
  | kept (entry : Option Entry) : Change made written entry entry
  | directory : made → Change made written none (some .directory)
  | created {bytes : ByteArray} : written bytes → Change made written none (some (.file bytes))
  | replaced {old bytes : ByteArray} : written bytes →
      Change made written (some (.file old)) (some (.file bytes))

namespace Change

variable {made made' : Prop} {written written' : ByteArray → Prop} {a b c : Option Entry}

theorem trans (h : Change made written a b) (h' : Change made written b c) :
    Change made written a c := by
  cases h with
  | kept => exact h'
  | directory hmade =>
    cases h' with
    | kept => exact .directory hmade
  | created hwritten =>
    cases h' with
    | kept => exact .created hwritten
    | replaced hwritten' => exact .created hwritten'
  | replaced hwritten =>
    cases h' with
    | kept => exact .replaced hwritten
    | replaced hwritten' => exact .replaced hwritten'

theorem imp (h : Change made written a b) (hmade : made → made')
    (hwritten : ∀ bytes, written bytes → written' bytes) : Change made' written' a b := by
  cases h with
  | kept => exact .kept a
  | directory h => exact .directory (hmade h)
  | created h => exact .created (hwritten _ h)
  | replaced h => exact .replaced (hwritten _ h)

/-- Nothing changes where nothing may be written, and where nothing may be made or something is. -/
theorem eq (h : Change made written a b) (hmade : a = none → ¬ made)
    (hwritten : ∀ bytes, ¬ written bytes) : b = a := by
  cases h with
  | kept => rfl
  | directory h => exact absurd h (hmade rfl)
  | created h => exact absurd h (hwritten _)
  | replaced h => exact absurd h (hwritten _)

/-- Where nothing may be written, the only change is a new directory. -/
theorem eq_or_directory (h : Change made written a b) (hwritten : ∀ bytes, ¬ written bytes) :
    b = a ∨ a = none ∧ b = some .directory ∧ made := by
  cases h with
  | kept => exact .inl rfl
  | directory hmade => exact .inr ⟨rfl, rfl, hmade⟩
  | created h => exact absurd h (hwritten _)
  | replaced h => exact absurd h (hwritten _)

theorem of_directory (h : Change made written (some .directory) b) : b = some .directory := by
  cases h
  rfl

theorem of_file {old : ByteArray} (h : Change made written (some (.file old)) b) :
    b = some (.file old) ∨ ∃ bytes, written bytes ∧ b = some (.file bytes) := by
  cases h with
  | kept => exact .inl rfl
  | replaced hwritten => exact .inr ⟨_, hwritten, rfl⟩

theorem to_directory (h : Change made written a (some .directory)) :
    a = some .directory ∨ a = none ∧ made := by
  cases h with
  | kept => exact .inl rfl
  | directory hmade => exact .inr ⟨rfl, hmade⟩

theorem to_file {bytes : ByteArray} (h : Change made written a (some (.file bytes))) :
    a = some (.file bytes) ∨ written bytes := by
  cases h with
  | kept => exact .inl rfl
  | created hwritten => exact .inr hwritten
  | replaced hwritten => exact .inr hwritten

/-- A link is never made. -/
theorem to_link {target : String} (h : Change made written a (some (.link target))) :
    a = some (.link target) := by
  cases h
  rfl

end Change

/-- A workspace in a tree without links. -/
structure PlainWorkspace extends Workspace where
  /-- No link is in the tree. -/
  linkless : tree.Linkless

/-- The workspace in the root of a tree that has nothing else. -/
def PlainWorkspace.empty : PlainWorkspace where
  toWorkspace := ⟨.empty, []⟩
  linkless := Tree.linkless_of_entries (by simp [Tree.empty])

/-- The tree of such a workspace. -/
abbrev PlainWorkspace.plainTree (workspace : PlainWorkspace) : PlainTree :=
  ⟨workspace.tree, workspace.linkless⟩

instance : CanLift Workspace PlainWorkspace PlainWorkspace.toWorkspace
    fun workspace => workspace.tree.Linkless where
  prf workspace hlinkless := ⟨⟨workspace, hlinkless⟩, rfl⟩

namespace Workspace

/-- A workspace has become another one: at every location it has changed in a permitted way. -/
structure Evolves (made : Location → Prop) (written : Location → ByteArray → Prop)
    (before after : Workspace) : Prop where
  /-- The working directory is the same. -/
  here : after.here = before.here
  /-- Every location has changed in a permitted way. -/
  change : ∀ location, Change (made location) (written location) (before.tree.get? location)
    (after.tree.get? location)

namespace Evolves

variable {made made' : Location → Prop} {written written' : Location → ByteArray → Prop}
  {before middle after : Workspace}

theorem refl (made : Location → Prop) (written : Location → ByteArray → Prop)
    (workspace : Workspace) : Evolves made written workspace workspace :=
  ⟨rfl, fun _ => .kept _⟩

theorem trans (h : Evolves made written before middle) (h' : Evolves made written middle after) :
    Evolves made written before after :=
  ⟨h'.here.trans h.here, fun location => (h.change location).trans (h'.change location)⟩

theorem imp (h : Evolves made written before after)
    (hmade : ∀ location, made location → made' location)
    (hwritten : ∀ location bytes, written location bytes → written' location bytes) :
    Evolves made' written' before after :=
  ⟨h.here, fun location => (h.change location).imp (hmade location) (hwritten location)⟩

/-- What a workspace without links has become, which has none either. -/
abbrev plain {before : PlainWorkspace} (h : Evolves made written before.toWorkspace after) :
    PlainWorkspace where
  toWorkspace := after
  linkless := by
    intro location target hlink
    have hchange := h.change location
    rw [hlink] at hchange
    exact before.linkless location target hchange.to_link

end Evolves

variable {workspace after : Workspace} {location : Location} {path : String}

theorem get?_set_self (workspace : Workspace) (entry : Entry) (h : location ≠ []) :
    (workspace.set location entry).tree.get? location = some entry := by
  rw [set, Tree.get?_set _ _ _ _ h, if_pos rfl]

/-- Putting an entry where it may be put is the only change. -/
theorem evolves_set {made : Location → Prop} {written : Location → ByteArray → Prop} {entry : Entry}
    (h : Change (made location) (written location) (workspace.tree.get? location) (some entry))
    (hroot : location ≠ []) : Evolves made written workspace (workspace.set location entry) := by
  refine ⟨rfl, fun other => ?_⟩
  by_cases hother : other = []
  · subst hother
    exact .kept (some .directory)
  · rw [set, Tree.get?_set _ _ _ _ hother]
    by_cases hsame : other = location
    · subst hsame
      rw [if_pos rfl]
      exact h
    · rw [if_neg hsame]
      exact .kept _

/-- The root is never vacant. -/
theorem ne_root_of_vacant (h : workspace.tree.get? location = none) : location ≠ [] := by
  rintro rfl
  cases h

/-! ## Making directories -/

/-- A workspace has become another one only by making directories at the ends of paths. -/
def MakesDirectories (paths : List String) (before after : Workspace) : Prop :=
  Evolves (fun location => ∃ path ∈ paths, Path.NamesAt before.here path location)
    (fun _ _ => False) before after

namespace MakesDirectories

variable {paths paths' : List String} {before middle after : Workspace}

theorem refl (paths : List String) (workspace : Workspace) :
    MakesDirectories paths workspace workspace :=
  Evolves.refl _ _ workspace

theorem mono (h : MakesDirectories paths before after) (hsubset : paths ⊆ paths') :
    MakesDirectories paths' before after := by
  refine Evolves.imp h ?_ fun _ _ => id
  rintro location ⟨path, hmem, hnames⟩
  exact ⟨path, hsubset hmem, hnames⟩

theorem trans (h : MakesDirectories paths before middle)
    (h' : MakesDirectories paths middle after) : MakesDirectories paths before after := by
  -- both take their paths from the same directory
  rw [MakesDirectories, h.here] at h'
  exact Evolves.trans h h'

end MakesDirectories

/-! ## Reading and writing files -/

/-- A text that is written to a path goes to a location. -/
def Receives (here : Location) (path text : String) (location : Location)
    (bytes : ByteArray) : Prop :=
  location = Path.location here path ∧ bytes = text.toByteArray

theorem eq_of_sameBytes {a b : ByteArray} (h : (a == b) = true) : a = b := by
  have hdata : (a.data == b.data) = true := h
  exact ByteArray.ext (eq_of_beq hdata)

/-! ## What single operations did -/

section Inversion

variable {bytes : ByteArray}

theorem reach_of_isDirectory (h : workspace.isDirectory path = true) :
    ∃ location, workspace.reach .look path = .ok (.occupied location .directory) := by
  unfold isDirectory at h
  split at h
  · exact ⟨_, ‹_›⟩
  · cases h

/-- A directory is made where nothing is. -/
theorem makeDirectory_ok (h : workspace.makeDirectory path = .ok after) :
    ∃ location, workspace.reach .makeDirectory path = .ok (.vacant location) ∧
      after = workspace.set location .directory := by
  unfold makeDirectory at h
  split at h
  · cases h
  · cases h
  · cases h
    exact ⟨_, ‹_›, rfl⟩

/-- A directory is there already or is made. -/
theorem ensureDirectory_ok (h : workspace.ensureDirectory path = .ok after) :
    (workspace.isDirectory path = true ∧ after = workspace) ∨
      workspace.makeDirectory path = .ok after := by
  unfold ensureDirectory at h
  split at h
  · split at h
    · cases h
      exact .inl ⟨‹_›, rfl⟩
    · cases h
  · exact .inr h

theorem read_ok (h : workspace.read path = .ok bytes) :
    ∃ location, workspace.reach .look path = .ok (.occupied location (.file bytes)) := by
  unfold read at h
  split at h
  · cases h
  · cases h
    exact ⟨_, ‹_›⟩
  · cases h
  · cases h

/-- A file is written where nothing is or something other than a directory. -/
theorem write_ok (h : workspace.write path bytes = .ok after) :
    ∃ location place, workspace.reach .write path = .ok place ∧
      after = workspace.set location (.file bytes) ∧
      (place = .vacant location ∨
        ∃ entry, entry ≠ .directory ∧ place = .occupied location entry) := by
  unfold write at h
  split at h
  · cases h
  · cases h
  · rename_i location entry hnot hreach
    cases h
    exact ⟨location, _, hreach, rfl, .inr ⟨entry, hnot, rfl⟩⟩
  · rename_i location hreach
    cases h
    exact ⟨location, _, hreach, rfl, .inl rfl⟩

end Inversion

end Workspace

/-! ## Operations in workspaces without links -/

namespace PlainWorkspace

open Workspace

variable (workspace : PlainWorkspace) {after next : Workspace} {path text : String}

/-- The names of a path that leads to a directory lead to directories. -/
theorem passes_of_isDirectory (h : workspace.isDirectory path = true) :
    workspace.tree.Passes (Path.start workspace.here path) (Path.names path) := by
  obtain ⟨location, hreach⟩ := reach_of_isDirectory h
  obtain ⟨onward, hwalk⟩ := Tree.exists_walkNames_of_reach hreach
  exact workspace.plainTree.passes_of_walkNames hwalk

theorem ensureDirectory_makes (h : workspace.ensureDirectory path = .ok after) :
    MakesDirectories [path] workspace.toWorkspace after := by
  rcases ensureDirectory_ok h with ⟨-, rfl⟩ | hmake
  · exact .refl _ workspace.toWorkspace
  · obtain ⟨location, hreach, rfl⟩ := makeDirectory_ok hmake
    obtain ⟨hnames, hvacant⟩ := workspace.plainTree.reach_fits hreach
    refine evolves_set ?_ (ne_root_of_vacant hvacant)
    rw [hvacant]
    exact .directory ⟨path, List.mem_singleton_self path, hnames⟩

/-- Directories are made only at the ends of their paths, up to the first that fails. -/
theorem ensureDirectories_makes (paths : List String) :
    MakesDirectories paths workspace.toWorkspace (workspace.ensureDirectories paths).1 := by
  induction paths generalizing workspace with
  | nil => exact .refl [] workspace.toWorkspace
  | cons path paths ih =>
    unfold ensureDirectories
    split
    · exact .refl _ workspace.toWorkspace
    · rename_i next hnext
      have hfirst := workspace.ensureDirectory_makes hnext
      have hrest := ih hfirst.plain
      exact (hfirst.mono (by simp)).trans (hrest.mono (List.subset_cons_self path paths))

/-- From the innermost directory outwards to the first that can be made, and back: nothing else is
made on either way. -/
theorem ensureNested_makes (inner outer : List String) :
    MakesDirectories (inner ++ outer) workspace.toWorkspace
      (workspace.ensureNested inner outer).1 := by
  -- on the directories that are still to be tried; those that wait grow with every step outwards
  induction outer generalizing inner with
  | nil =>
    rw [List.append_nil]
    exact workspace.ensureDirectories_makes inner
  | cons path outer ih =>
    unfold ensureNested
    split
    · rename_i next hnext
      have hfirst := workspace.ensureDirectory_makes hnext
      have hrest := hfirst.plain.ensureDirectories_makes inner
      exact (hfirst.mono (by simp)).trans (hrest.mono (List.subset_append_left inner _))
    · -- the path waits for the directory around it
      refine (ih (path :: inner)).mono ?_
      intro other hmem
      simp only [List.cons_append, List.mem_cons, List.mem_append] at hmem ⊢
      exact or_left_comm.1 hmem
    · exact .refl _ workspace.toWorkspace

/-- Only directories that enclose the last name of a path are made. -/
theorem ensureEnclosing_evolves (path : String) :
    Evolves (Path.EnclosedAt workspace.here path) (fun _ _ => False) workspace.toWorkspace
      (workspace.ensureEnclosing path).1 :=
  workspace.ensureNested_makes [] (Path.enclosing path)

theorem get?_of_read {bytes : ByteArray} (h : workspace.read path = .ok bytes) :
    workspace.tree.get? (Path.location workspace.here path) = some (.file bytes) := by
  obtain ⟨location, hreach⟩ := read_ok h
  obtain ⟨rfl, hentry⟩ := workspace.plainTree.reach_fits hreach
  rw [← Path.location_eq] at hentry
  simpa using hentry

/-- Writing changes nothing but the file at the end of the path, which then holds the text. -/
theorem write_evolves (h : workspace.write path text.toByteArray = .ok after) :
    Evolves (fun _ => False) (Receives workspace.here path text) workspace.toWorkspace after ∧
      after.tree.get? (Path.location workspace.here path) = some (.file text.toByteArray) := by
  obtain ⟨location, place, hreach, rfl, rfl | ⟨entry, hnot, rfl⟩⟩ := write_ok h
  · obtain ⟨hends, hvacant⟩ := workspace.plainTree.reach_fits hreach
    have hroot := ne_root_of_vacant hvacant
    obtain rfl : location = Path.location workspace.here path := hends.eq
    refine ⟨evolves_set ?_ hroot, get?_set_self _ _ hroot⟩
    rw [hvacant]
    exact .created ⟨rfl, rfl⟩
  · obtain ⟨rfl, hentry⟩ := workspace.plainTree.reach_fits hreach
    rw [← Path.location_eq] at hentry ⊢
    -- what is there is a file
    obtain ⟨old, hold⟩ : ∃ old, workspace.tree.get? (Path.location workspace.here path)
        = some (.file old) := by
      cases entry with
      | file old => exact ⟨old, by simpa using hentry⟩
      | directory => exact (hnot rfl).elim
      | link target => exact absurd (by simpa using hentry) (workspace.linkless _ target)
    have hroot : Path.location workspace.here path ≠ [] := by
      intro hroot
      rw [hroot] at hold
      cases hold
    refine ⟨evolves_set ?_ hroot, get?_set_self _ _ hroot⟩
    rw [hold]
    exact .replaced ⟨rfl, rfl⟩

/-- Writing a text after the directories around it are made. -/
theorem overwrite_evolves
    (hnext : Evolves (Path.EnclosedAt workspace.here path)
      (Receives workspace.here path text) workspace.toWorkspace next) :
    Evolves (Path.EnclosedAt workspace.here path) (Receives workspace.here path text)
        workspace.toWorkspace (writeIfChanged.overwrite path text next).1 ∧
      ∀ changed, (writeIfChanged.overwrite path text next).2 = .ok changed →
        (writeIfChanged.overwrite path text next).1.tree.get?
          (Path.location workspace.here path) = some (.file text.toByteArray) := by
  unfold writeIfChanged.overwrite
  split
  · rename_i after hwrite
    obtain ⟨hchange, hfile⟩ := hnext.plain.write_evolves hwrite
    rw [hnext.here] at hchange hfile
    exact ⟨hnext.trans (hchange.imp (fun _ => False.elim) fun _ _ => id), fun _ _ => hfile⟩
  · exact ⟨hnext, nofun⟩

/-- Writing a file unless it holds the text makes only directories that enclose its path and changes
only the file at the end of the path, however far it gets. If it succeeds, the file holds the
text, whether it was written or left alone. -/
theorem writeIfChanged_evolves (path text : String) :
    Evolves (Path.EnclosedAt workspace.here path) (Receives workspace.here path text)
        workspace.toWorkspace (workspace.writeIfChanged path text).1 ∧
      ∀ changed, (workspace.writeIfChanged path text).2 = .ok changed →
        (workspace.writeIfChanged path text).1.tree.get? (Path.location workspace.here path)
          = some (.file text.toByteArray) := by
  have henclosed : Evolves (Path.EnclosedAt workspace.here path)
      (Receives workspace.here path text) workspace.toWorkspace
      (workspace.ensureEnclosing path).1 :=
    (workspace.ensureEnclosing_evolves path).imp (fun _ => id) fun _ _ => False.elim
  unfold writeIfChanged
  split
  · rename_i next fault hmade
    rw [hmade] at henclosed
    exact ⟨henclosed, nofun⟩
  · rename_i next hmade
    rw [hmade] at henclosed
    split
    · rename_i bytes hread
      split
      · -- the file holds the text already
        rename_i hsame
        refine ⟨henclosed, fun _ _ => ?_⟩
        have hfile := henclosed.plain.get?_of_read hread
        rw [henclosed.here] at hfile
        rw [hfile, eq_of_sameBytes hsame]
      · exact workspace.overwrite_evolves henclosed
    · exact workspace.overwrite_evolves henclosed

end PlainWorkspace

end EntityForge.Files

import EntityForge.Proofs.Files.Changes

/-!
# Writing a file again

A path to which a file was written can be written to ever after: the directories that enclose it are
there, a walk along it ends at the file, and nothing that file operations do takes this away
(`Workspace.Keeps`, `Workspace.Keeps.evolves`). Writing it again makes no directory. It leaves the
file alone if the text is the same and else puts the text in its place
(`Workspace.Keeps.writeIfChanged_same`, `Workspace.Keeps.exists_writeIfChanged`). In a workspace
without links every write that is accepted is one to such a path
(`PlainWorkspace.keeps_of_writeIfChanged`).

What is put into the places of files obeys three laws, which hold of trees as they are listed:
the later entry wins, the order between different places does not matter, and an entry that is there
already changes nothing (`Tree.set_set`, `Tree.set_comm`, `Tree.set_self`).
-/

set_option autoImplicit false

namespace EntityForge.Files

/-! ## Putting entries in the places of others -/

namespace Tree

theorem setEntry_setEntry (location : Location) (entry later : Entry) :
    ∀ entries, setEntry location later (setEntry location entry entries)
      = setEntry location later entries
  | [] => by simp
  | (other, old) :: rest => by
    by_cases h : other = location
    · simp [h]
    · simp [h, setEntry_setEntry location entry later rest]

theorem setEntry_comm {location location' : Location} (entry entry' : Entry)
    (hne : location ≠ location') : ∀ entries : List (Location × Entry),
      (entries.lookup location).isSome →
        setEntry location' entry' (setEntry location entry entries)
          = setEntry location entry (setEntry location' entry' entries)
  | [], h => by cases h
  | (other, old) :: rest, h => by
    by_cases hfirst : other = location
    · subst hfirst
      simp [hne]
    · rw [lookup_cons_of_ne old rest (Ne.symm hfirst)] at h
      by_cases hsecond : other = location'
      · subst hsecond
        simp [hfirst]
      · simp [hfirst, hsecond, setEntry_comm entry entry' hne rest h]

theorem setEntry_self {location : Location} {entry : Entry} :
    ∀ entries : List (Location × Entry), entries.lookup location = some entry →
      setEntry location entry entries = entries
  | [], h => by cases h
  | (other, old) :: rest, h => by
    by_cases hother : other = location
    · subst hother
      simp only [List.lookup_cons_self, Option.some.injEq] at h
      simp [h]
    · rw [lookup_cons_of_ne old rest (Ne.symm hother)] at h
      simp [hother, setEntry_self rest h]

variable (tree : Tree) {location location' : Location} {entry : Entry}

theorem get?_eq_lookup (hroot : location ≠ []) :
    tree.get? location = tree.entries.lookup location := by
  cases location with
  | nil => exact absurd rfl hroot
  | cons => rfl

/-- The later entry wins. -/
theorem set_set (location : Location) (entry later : Entry) :
    (tree.set location entry).set location later = tree.set location later :=
  congrArg Tree.mk (setEntry_setEntry location entry later tree.entries)

/-- Of two different places the order does not matter, if something is at one of them. -/
theorem set_comm (entry entry' : Entry) (hne : location ≠ location') (hroot : location ≠ [])
    (h : (tree.get? location).isSome) :
    (tree.set location entry).set location' entry'
      = (tree.set location' entry').set location entry := by
  rw [get?_eq_lookup tree hroot] at h
  exact congrArg Tree.mk (setEntry_comm entry entry' hne tree.entries h)

/-- An entry that is there already changes nothing. -/
theorem set_self (hroot : location ≠ []) (h : tree.get? location = some entry) :
    tree.set location entry = tree := by
  rw [get?_eq_lookup tree hroot] at h
  exact congrArg Tree.mk (setEntry_self tree.entries h)

end Tree

/-! ## Paths that a walk accepts -/

/-- A path whose text and whose names a walk accepts, whatever the tree is. -/
structure Path.Usable (path : String) : Prop where
  /-- No character ends the path early. -/
  noNul : '\x00' ∉ path.toList
  /-- The path is not empty. -/
  notEmpty : path ≠ ""
  /-- The path is short enough. -/
  size : path.utf8ByteSize ≤ longestPath
  /-- Its names are short enough. -/
  sizes : ∀ name ∈ Path.names path, name.utf8ByteSize ≤ longestName

namespace Tree

variable {tree : Tree} {purpose : Purpose} {onward : Onward} {slash : Bool}
  {here location : Location} {names : List String} {place : Place} {path : String}

/-- Names lead past directories to a last one, which is taken from a directory. -/
def LeadsTo (tree : Tree) (here : Location) (names : List String) (location : Location) : Prop :=
  ∃ front name, names = front ++ [name] ∧ name ≠ "." ∧ name ≠ ".." ∧ tree.Passes here front ∧
    location = front.foldl Path.step here ++ [name]

theorem LeadsTo.cons {name : String} {rest : List String} (hpassable : tree.Passable here name)
    (h : tree.LeadsTo (Path.step here name) rest location) :
    tree.LeadsTo here (name :: rest) location := by
  obtain ⟨front, last, rfl, hdot, hup, hpasses, rfl⟩ := h
  exact ⟨name :: front, last, rfl, hdot, hup, ⟨hpassable, hpasses⟩, rfl⟩

theorem LeadsTo.endsAt (h : tree.LeadsTo here names location) :
    Path.EndsAt here names location := by
  obtain ⟨front, name, hnames, hdot, hup, -, hlocation⟩ := h
  exact ⟨front, name, hnames, hdot, hup, hlocation⟩

/-- With a directory at their end, all names lead to directories. -/
theorem LeadsTo.passes (h : tree.LeadsTo here names location)
    (hdirectory : tree.get? location = some .directory) : tree.Passes here names := by
  obtain ⟨front, name, rfl, hdot, hup, hpasses, rfl⟩ := h
  refine passes_append_iff.2 ⟨hpasses, .inr (.inr ?_), trivial⟩
  rwa [Path.step_of_name _ hdot hup]

theorem size_le_of_walkNames {name : String} {rest : List String}
    (h : tree.walkNames purpose onward slash here (name :: rest) = .ok place) :
    name.utf8ByteSize ≤ longestName := by
  refine Nat.le_of_not_lt fun hlong => ?_
  have hdot : name ≠ "." := by
    rintro rfl
    exact absurd hlong (by decide)
  have hup : name ≠ ".." := by
    rintro rfl
    exact absurd hlong (by decide)
  rw [walkNames, if_neg hdot, if_neg hup, if_pos hlong] at h
  split at h <;> cases h

/-! ### Walks that end -/

/-- A walk gets past a name that leads to a directory. -/
theorem walkNames_of_passable {name : String} {rest : List String}
    (h : tree.Passable here name) (hsize : name.utf8ByteSize ≤ longestName)
    (hlast : rest ≠ [] ∨ purpose ≠ .write) :
    tree.walkNames purpose onward slash here (name :: rest)
      = tree.walkNames purpose onward slash (Path.step here name) rest := by
  have hwrite : ¬ (rest = [] ∧ purpose = .write ∧ slash = true) :=
    fun hend => hlast.elim (· hend.1) (· hend.2.1)
  by_cases hdot : name = "."
  · rw [walkNames, if_pos hdot, Path.step, if_pos hdot]
  by_cases hup : name = ".."
  · rw [walkNames, if_neg hdot, if_pos hup, Path.step, if_neg hdot, if_pos hup]
  have hdirectory := (h.resolve_left hdot).resolve_left hup
  rw [walkNames, if_neg hdot, if_neg hup, if_neg hwrite, if_neg (Nat.not_lt.2 hsize)]
  rw [Path.step_of_name here hdot hup] at hdirectory ⊢
  simp only [hdirectory]

theorem walkNames_append {front back : List String} (hback : back ≠ [] ∨ purpose ≠ .write) :
    ∀ {here}, tree.Passes here front → (∀ name ∈ front, name.utf8ByteSize ≤ longestName) →
      tree.walkNames purpose onward slash here (front ++ back)
        = tree.walkNames purpose onward slash (front.foldl Path.step here) back := by
  induction front with
  | nil => exact fun _ _ => rfl
  | cons name front ih =>
    intro here hpasses hsizes
    obtain ⟨hsize, hrest⟩ := List.forall_mem_cons.1 hsizes
    have hmore : front ++ back ≠ [] ∨ purpose ≠ .write :=
      hback.imp_left (List.append_ne_nil_of_right_ne_nil front)
    rw [List.cons_append, walkNames_of_passable hpasses.1 hsize hmore, ih hpasses.2 hrest,
      List.foldl_cons]

/-- A walk along names that lead to directories ends at a directory. -/
theorem walkNames_of_passes (hpurpose : purpose ≠ .write) (h : tree.Passes here names)
    (hsizes : ∀ name ∈ names, name.utf8ByteSize ≤ longestName) :
    tree.walkNames purpose onward slash here names
      = .ok (.occupied (names.foldl Path.step here) .directory) := by
  have hwalk : tree.walkNames purpose onward slash here (names ++ [])
      = tree.walkNames purpose onward slash (names.foldl Path.step here) [] :=
    walkNames_append (.inr hpurpose) h hsizes
  rw [List.append_nil] at hwalk
  rw [hwalk, walkNames]

/-- A walk along names that lead to a file ends at the file. -/
theorem walkNames_of_leadsTo {bytes : ByteArray} (h : tree.LeadsTo here names location)
    (hsizes : ∀ name ∈ names, name.utf8ByteSize ≤ longestName)
    (hfile : tree.get? location = some (.file bytes)) :
    tree.walkNames purpose onward false here names = .ok (.occupied location (.file bytes)) := by
  obtain ⟨front, name, rfl, hdot, hup, hpasses, rfl⟩ := h
  have hsize : name.utf8ByteSize ≤ longestName := hsizes name (by simp)
  have hfront : ∀ other ∈ front, other.utf8ByteSize ≤ longestName :=
    fun other hmem => hsizes other (List.mem_append_left [name] hmem)
  rw [walkNames_append (.inl (List.cons_ne_nil name [])) hpasses hfront]
  simp [walkNames, hdot, hup, Nat.not_lt.2 hsize, hfile]

/-- A usable path is reached by a walk along its names. -/
theorem exists_reach_eq (tree : Tree) (purpose : Purpose) (here : Location)
    (h : Path.Usable path) : ∃ onward, tree.reach purpose here path
      = tree.walkNames purpose onward (Path.endsWithSlash path) (Path.start here path)
          (Path.names path) := by
  obtain ⟨onward, hwalk⟩ := tree.walk_eq purpose mostLinks
  refine ⟨onward, ?_⟩
  rw [reach, if_neg h.noNul, if_neg h.notEmpty, if_neg (Nat.not_lt.2 h.size), hwalk, Path.start]

end Tree

/-! ### Walks in trees without links -/

namespace PlainTree

variable (tree : PlainTree) {purpose : Purpose} {onward : Onward} {slash : Bool} {here : Location}
  {names : List String} {place : Place} {path : String}

/-- All names of a walk that ends are short enough. -/
theorem sizes_le_of_walkNames : ∀ {here},
    tree.walkNames purpose onward slash here names = .ok place →
      ∀ name ∈ names, name.utf8ByteSize ≤ longestName := by
  induction names with
  | nil => exact fun _ => nofun
  | cons name rest ih =>
    intro here h
    refine List.forall_mem_cons.2 ⟨Tree.size_le_of_walkNames h, ?_⟩
    rcases tree.walkNames_cons h with ⟨-, hrest⟩ | ⟨rfl, -⟩
    · exact ih hrest
    · exact nofun

/-- Where no directory is, only a walk that is to make one ends if the path ends with a slash. -/
theorem slash_eq_false_of_walkNames {name : String} (hpurpose : purpose ≠ .makeDirectory)
    (hdot : name ≠ ".") (hup : name ≠ "..")
    (hnot : tree.get? (here ++ [name]) ≠ some .directory)
    (h : tree.walkNames purpose onward slash here [name] = .ok place) : slash = false := by
  have hsize := Nat.not_lt.2 (Tree.size_le_of_walkNames h)
  cases slash with
  | false => rfl
  | true =>
    cases purpose with
    | makeDirectory => exact absurd rfl hpurpose
    | write => simp [Tree.walkNames, hdot, hup] at h
    | look =>
      cases hentry : tree.get? (here ++ [name]) with
      | none => simp [Tree.walkNames, hdot, hup, hsize, hentry] at h
      | some entry =>
        cases entry with
        | file bytes => simp [Tree.walkNames, hdot, hup, hsize, hentry] at h
        | directory => exact absurd hentry hnot
        | link target => exact absurd hentry (tree.linkless _ target)

/-- A walk ends at a directory, or at the last name, at nothing or at a file. -/
theorem leadsTo_of_walkNames : ∀ {here},
    tree.walkNames purpose onward slash here names = .ok place →
      (∃ location, place = .occupied location .directory) ∨
      ∃ location, tree.LeadsTo here names location ∧
        (purpose ≠ .makeDirectory → slash = false) ∧
        (place = .vacant location ∨ ∃ bytes, place = .occupied location (.file bytes)) := by
  induction names with
  | nil =>
    intro here h
    cases h
    exact .inl ⟨here, rfl⟩
  | cons name rest ih =>
    intro here h
    rcases tree.walkNames_cons h with ⟨hpassable, hrest⟩ | ⟨rfl, hdot, hup, hplace⟩
    · refine (ih hrest).imp_right ?_
      rintro ⟨location, hleads, hslash, hplace⟩
      exact ⟨location, hleads.cons hpassable, hslash, hplace⟩
    · refine .inr ⟨here ++ [name], ⟨[], name, rfl, hdot, hup, trivial, rfl⟩, fun hpurpose => ?_, ?_⟩
      · refine tree.slash_eq_false_of_walkNames hpurpose hdot hup ?_ h
        rcases hplace with ⟨-, hnone⟩ | ⟨bytes, -, hfile⟩
        · simp [hnone]
        · simp [hfile]
      · exact hplace.imp And.left fun ⟨bytes, hfile, _⟩ => ⟨bytes, hfile⟩

/-- A path that is reached is usable. -/
theorem usable_of_reach (h : tree.reach purpose here path = .ok place) : Path.Usable path := by
  obtain ⟨onward, hwalk⟩ := Tree.exists_walkNames_of_reach h
  unfold Tree.reach at h
  split at h
  · cases h
  rename_i hnul
  split at h
  · cases h
  rename_i hempty
  split at h
  · cases h
  rename_i hsize
  exact ⟨hnul, hempty, Nat.le_of_not_lt hsize, tree.sizes_le_of_walkNames hwalk⟩

end PlainTree

/-! ## Directories that are there -/

namespace Workspace

variable {workspace after : Workspace} {path text : String} {bytes : ByteArray}
  {made : Location → Prop} {written : Location → ByteArray → Prop}

/-- Directories stay on a way. -/
theorem Evolves.passes (h : Evolves made written workspace after) {names : List String} :
    ∀ {here}, workspace.tree.Passes here names → after.tree.Passes here names := by
  induction names with
  | nil => exact fun _ => trivial
  | cons name rest ih =>
    rintro here ⟨hpassable, hrest⟩
    refine ⟨hpassable.imp_right (Or.imp_right fun hdirectory => ?_), ih hrest⟩
    have hchange := h.change (Path.step here name)
    rw [hdirectory] at hchange
    exact hchange.of_directory

theorem Evolves.leadsTo (h : Evolves made written workspace after) {here location : Location}
    {names : List String} (hleads : workspace.tree.LeadsTo here names location) :
    after.tree.LeadsTo here names location := by
  obtain ⟨front, name, hnames, hdot, hup, hpasses, hlocation⟩ := hleads
  exact ⟨front, name, hnames, hdot, hup, h.passes hpasses, hlocation⟩

/-- A path leads to a directory that is there. -/
structure Enters (workspace : Workspace) (path : String) : Prop where
  /-- A walk accepts the path. -/
  usable : Path.Usable path
  /-- All names lead to directories. -/
  passes : workspace.tree.Passes (Path.start workspace.here path) (Path.names path)

theorem Enters.evolves (henters : workspace.Enters path)
    (h : Evolves made written workspace after) : after.Enters path :=
  ⟨henters.usable, by rw [h.here]; exact h.passes henters.passes⟩

theorem Enters.reach (h : workspace.Enters path) (purpose : Purpose) (hpurpose : purpose ≠ .write) :
    workspace.reach purpose path
      = .ok (.occupied (Path.location workspace.here path) .directory) := by
  obtain ⟨onward, hreach⟩ := workspace.tree.exists_reach_eq purpose workspace.here h.usable
  rw [Workspace.reach, hreach, Tree.walkNames_of_passes hpurpose h.passes h.usable.sizes,
    Path.location_eq]

/-- A directory that is there is not made. -/
theorem Enters.ensureDirectory (h : workspace.Enters path) :
    workspace.ensureDirectory path = .ok workspace := by
  have hmake : workspace.makeDirectory path = .error .alreadyExists := by
    simp only [makeDirectory, h.reach .makeDirectory nofun]
  have hlook : workspace.isDirectory path = true := by
    simp only [isDirectory, h.reach .look nofun]
  simp only [Workspace.ensureDirectory, hmake, hlook, if_true]

/-- Of a path whose innermost directory is there no directory is made. -/
theorem ensureEnclosing_of_enters
    (h : ∀ inner ∈ (Path.enclosing path).head?, workspace.Enters inner) :
    workspace.ensureEnclosing path = (workspace, .ok ()) := by
  unfold ensureEnclosing
  cases henclosing : Path.enclosing path with
  | nil => rfl
  | cons inner outer =>
    rw [henclosing] at h
    simp only [ensureNested, (h inner rfl).ensureDirectory, ensureDirectories]

/-! ## Files that are there -/

/-- A path leads to a file that is there. -/
structure Holds (workspace : Workspace) (path : String) (bytes : ByteArray) : Prop where
  /-- A walk accepts the path. -/
  usable : Path.Usable path
  /-- The path may name a file. -/
  unslashed : Path.endsWithSlash path = false
  /-- The names before the last one lead to directories. -/
  leads : workspace.tree.LeadsTo (Path.start workspace.here path) (Path.names path)
    (Path.location workspace.here path)
  /-- The file holds the bytes. -/
  file : workspace.tree.get? (Path.location workspace.here path) = some (.file bytes)

theorem Holds.ne_root (h : workspace.Holds path bytes) :
    Path.location workspace.here path ≠ [] := by
  intro hroot
  have hfile := h.file
  rw [hroot] at hfile
  cases hfile

/-- The file stays, though it may hold other bytes. -/
theorem Holds.evolves (hholds : workspace.Holds path bytes)
    (h : Evolves made written workspace after) : ∃ bytes, after.Holds path bytes := by
  have hchange := h.change (Path.location workspace.here path)
  rw [hholds.file] at hchange
  obtain ⟨later, hlater⟩ : ∃ later,
      after.tree.get? (Path.location workspace.here path) = some (.file later) := by
    rcases hchange.of_file with hsame | ⟨later, -, hlater⟩
    · exact ⟨bytes, hsame⟩
    · exact ⟨later, hlater⟩
  refine ⟨later, hholds.usable, hholds.unslashed, ?_, ?_⟩
  · rw [h.here]
    exact h.leadsTo hholds.leads
  · rw [h.here, hlater]

theorem Holds.reach (h : workspace.Holds path bytes) (purpose : Purpose) :
    workspace.reach purpose path
      = .ok (.occupied (Path.location workspace.here path) (.file bytes)) := by
  obtain ⟨onward, hreach⟩ := workspace.tree.exists_reach_eq purpose workspace.here h.usable
  rw [Workspace.reach, hreach, h.unslashed, Tree.walkNames_of_leadsTo h.leads h.usable.sizes h.file]

theorem Holds.read (h : workspace.Holds path bytes) : workspace.read path = .ok bytes := by
  simp only [Workspace.read, h.reach .look]

theorem Holds.write (h : workspace.Holds path bytes) (later : ByteArray) :
    workspace.write path later
      = .ok (workspace.set (Path.location workspace.here path) (.file later)) := by
  simp only [Workspace.write, h.reach .write]

/-! ## Paths that were written to -/

/-- A path was written to: its directory is there, and it leads to a file. -/
structure Keeps (workspace : Workspace) (path : String) (bytes : ByteArray) : Prop where
  /-- The innermost directory that encloses the path is there. -/
  enclosing : ∀ inner ∈ (Path.enclosing path).head?, workspace.Enters inner
  /-- The path leads to a file. -/
  holds : workspace.Holds path bytes

theorem Keeps.evolves (hkeeps : workspace.Keeps path bytes)
    (h : Evolves made written workspace after) : ∃ bytes, after.Keeps path bytes := by
  obtain ⟨later, hholds⟩ := hkeeps.holds.evolves h
  exact ⟨later, fun inner hinner => (hkeeps.enclosing inner hinner).evolves h, hholds⟩

/-- A text that is there already is not written again. -/
theorem Keeps.writeIfChanged_same (h : workspace.Keeps path text.toByteArray) :
    workspace.writeIfChanged path text = (workspace, .ok false) := by
  have hsame : (text.toByteArray == text.toByteArray) = true :=
    beq_self_eq_true text.toByteArray.data
  simp only [Workspace.writeIfChanged, ensureEnclosing_of_enters h.enclosing, h.holds.read, hsame,
    if_true]

/-- Another text takes the place of the one that is there, and nothing else changes. -/
theorem Keeps.writeIfChanged_other (h : workspace.Keeps path bytes)
    (hother : bytes ≠ text.toByteArray) :
    workspace.writeIfChanged path text
      = (workspace.set (Path.location workspace.here path) (.file text.toByteArray), .ok true) := by
  have hdiffers : ¬ (bytes == text.toByteArray) = true :=
    fun hsame => hother (eq_of_sameBytes hsame)
  simp only [Workspace.writeIfChanged, ensureEnclosing_of_enters h.enclosing, h.holds.read,
    if_neg hdiffers, writeIfChanged.overwrite, h.holds.write]

/-- Either way the text ends in the place of what is there. -/
theorem Keeps.exists_writeIfChanged (h : workspace.Keeps path bytes) (text : String) :
    ∃ changed, workspace.writeIfChanged path text
      = (workspace.set (Path.location workspace.here path) (.file text.toByteArray),
          .ok changed) := by
  by_cases hsame : bytes = text.toByteArray
  · subst hsame
    refine ⟨false, ?_⟩
    rw [h.writeIfChanged_same, set, Tree.set_self workspace.tree h.holds.ne_root h.holds.file]
  · exact ⟨true, h.writeIfChanged_other hsame⟩

end Workspace

/-! ## What operations leave behind -/

namespace PlainWorkspace

open Workspace

variable (workspace : PlainWorkspace) {after : Workspace} {path text : String} {bytes : ByteArray}

theorem enters_of_isDirectory (h : workspace.isDirectory path = true) :
    workspace.Enters path := by
  obtain ⟨location, hreach⟩ := reach_of_isDirectory h
  exact ⟨workspace.plainTree.usable_of_reach hreach, workspace.passes_of_isDirectory h⟩

theorem enters_of_makeDirectory (h : workspace.makeDirectory path = .ok after) :
    after.Enters path := by
  obtain ⟨location, hreach, rfl⟩ := makeDirectory_ok h
  obtain ⟨-, hvacant⟩ := workspace.plainTree.reach_fits hreach
  have hroot := ne_root_of_vacant hvacant
  have hevolves : Evolves (fun _ => True) (fun _ _ => False) workspace.toWorkspace
      (workspace.set location .directory) := by
    refine evolves_set ?_ hroot
    rw [hvacant]
    exact .directory trivial
  obtain ⟨onward, hwalk⟩ := Tree.exists_walkNames_of_reach hreach
  refine ⟨workspace.plainTree.usable_of_reach hreach, ?_⟩
  rcases workspace.plainTree.leadsTo_of_walkNames hwalk with
    ⟨_, hplace⟩ | ⟨_, hleads, -, hplace | ⟨_, hplace⟩⟩
  · cases hplace
  · -- the names before the last one led to directories, and so does the last one now
    cases hplace
    exact (hevolves.leadsTo hleads).passes (get?_set_self workspace.toWorkspace .directory hroot)
  · cases hplace

/-- A directory that was to be made is there. -/
theorem enters_of_ensureDirectory (h : workspace.ensureDirectory path = .ok after) :
    after.Enters path := by
  rcases ensureDirectory_ok h with ⟨hdirectory, rfl⟩ | hmake
  · exact workspace.enters_of_isDirectory hdirectory
  · exact workspace.enters_of_makeDirectory hmake

theorem enters_of_ensureDirectories {paths : List String}
    (h : workspace.ensureDirectories paths = (after, .ok ())) :
    ∀ path ∈ paths, after.Enters path := by
  induction paths generalizing workspace with
  | nil => exact nofun
  | cons path paths ih =>
    unfold ensureDirectories at h
    split at h
    · cases h
    · rename_i next hnext
      have hfirst := workspace.ensureDirectory_makes hnext
      have hrest := hfirst.plain.ensureDirectories_makes paths
      rw [h] at hrest
      exact List.forall_mem_cons.2
        ⟨(workspace.enters_of_ensureDirectory hnext).evolves hrest, ih hfirst.plain h⟩

/-- The directories that wait and the innermost of the others are there in the end. -/
theorem enters_of_ensureNested {inner outer : List String}
    (h : workspace.ensureNested inner outer = (after, .ok ())) :
    ∀ path, path ∈ inner ∨ path ∈ outer.head? → after.Enters path := by
  induction outer generalizing inner with
  | nil =>
    intro path hmem
    exact workspace.enters_of_ensureDirectories h path (hmem.resolve_right nofun)
  | cons first outer ih =>
    intro path hmem
    unfold ensureNested at h
    split at h
    · rename_i next hnext
      have hmakes := workspace.ensureDirectory_makes hnext
      rcases hmem with hmem | hfirst
      · exact hmakes.plain.enters_of_ensureDirectories h path hmem
      · cases hfirst
        have hrest := hmakes.plain.ensureDirectories_makes inner
        rw [h] at hrest
        exact (workspace.enters_of_ensureDirectory hnext).evolves hrest
    · -- the first directory waits from now on
      apply ih h path
      rcases hmem with hmem | hfirst
      · exact .inl (List.mem_cons_of_mem first hmem)
      · cases hfirst
        exact .inl List.mem_cons_self
    · cases h

/-- A path that is reached, but not at a directory, may name a file where it leads. -/
theorem leads_of_reach {purpose : Purpose} {place : Place}
    (h : workspace.reach purpose path = .ok place) (hpurpose : purpose ≠ .makeDirectory)
    (hplace : ∀ location, place ≠ .occupied location .directory) :
    Path.endsWithSlash path = false ∧
      workspace.tree.LeadsTo (Path.start workspace.here path) (Path.names path)
        (Path.location workspace.here path) := by
  obtain ⟨onward, hwalk⟩ := Tree.exists_walkNames_of_reach h
  rcases workspace.plainTree.leadsTo_of_walkNames hwalk with ⟨location, hdirectory⟩ | hleads
  · exact absurd hdirectory (hplace location)
  · obtain ⟨location, hleads, hslash, -⟩ := hleads
    rw [Path.location_eq, ← hleads.endsAt.eq]
    exact ⟨hslash hpurpose, hleads⟩

/-- A file that was read is there. -/
theorem holds_of_read (h : workspace.read path = .ok bytes) : workspace.Holds path bytes := by
  have hfile := workspace.get?_of_read h
  obtain ⟨location, hreach⟩ := read_ok h
  obtain ⟨hslash, hleads⟩ := workspace.leads_of_reach hreach nofun nofun
  exact ⟨workspace.plainTree.usable_of_reach hreach, hslash, hleads, hfile⟩

/-- A file that was written is there. -/
theorem holds_of_write (h : workspace.write path text.toByteArray = .ok after) :
    after.Holds path text.toByteArray := by
  obtain ⟨hevolves, hfile⟩ := workspace.write_evolves h
  obtain ⟨location, place, hreach, -, hkind⟩ := write_ok h
  have hplace : ∀ other, place ≠ .occupied other .directory := by
    rintro other rfl
    rcases hkind with hvacant | ⟨entry, hnot, hoccupied⟩
    · cases hvacant
    · cases hoccupied
      exact hnot rfl
  obtain ⟨hslash, hleads⟩ := workspace.leads_of_reach hreach nofun hplace
  refine ⟨workspace.plainTree.usable_of_reach hreach, hslash, ?_, ?_⟩
  · rw [hevolves.here]
    exact hevolves.leadsTo hleads
  · rw [hevolves.here, hfile]

/-- Writing a text whatever was there, once the directory is there. -/
theorem keeps_of_overwrite {changed : Bool}
    (henclosing : ∀ inner ∈ (Path.enclosing path).head?, workspace.Enters inner)
    (h : writeIfChanged.overwrite path text workspace.toWorkspace = (after, .ok changed)) :
    after.Keeps path text.toByteArray := by
  unfold writeIfChanged.overwrite at h
  split at h
  · rename_i hwrite
    cases h
    have hevolves := (workspace.write_evolves hwrite).1
    exact ⟨fun inner hinner => (henclosing inner hinner).evolves hevolves,
      workspace.holds_of_write hwrite⟩
  · cases h

/-- A path to which a text was written, or that held it already, was written to. -/
theorem keeps_of_writeIfChanged {changed : Bool}
    (h : workspace.writeIfChanged path text = (after, .ok changed)) :
    after.Keeps path text.toByteArray := by
  have hmakes := workspace.ensureEnclosing_evolves path
  unfold Workspace.writeIfChanged at h
  split at h
  · cases h
  rename_i next hnext
  rw [hnext] at hmakes
  have henclosing : ∀ inner ∈ (Path.enclosing path).head?, next.Enters inner := fun inner hinner =>
    workspace.enters_of_ensureNested hnext inner (.inr hinner)
  split at h
  · rename_i bytes hread
    split at h
    · rename_i hsame
      cases h
      rw [← eq_of_sameBytes hsame]
      exact ⟨henclosing, hmakes.plain.holds_of_read hread⟩
    · exact hmakes.plain.keeps_of_overwrite henclosing h
  · exact hmakes.plain.keeps_of_overwrite henclosing h

end PlainWorkspace

end EntityForge.Files

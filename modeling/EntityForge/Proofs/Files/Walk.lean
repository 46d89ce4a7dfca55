import EntityForge.Files.Walk
import EntityForge.Proofs.Files.Path

/-!
# Walks without links

A tree without links (`PlainTree`) carries the proof that it has none. There a walk goes on from one
name to the next, or ends at the last one at nothing or at a file (`PlainTree.walkNames_cons`). So
it ends where its path leads by name alone (`PlainTree.reach_fits`), and if it ends at a directory,
all names on its way led to directories (`PlainTree.passes_of_walkNames`). Of a path below a base to
which such a way leads, only directories below the base can be missing (`Tree.Passes.exists_inner`).
-/

set_option autoImplicit false

namespace EntityForge.Files

/-! ## Where walks end -/

/-- Names end in one that is taken from a directory and leads to a location. -/
def Path.EndsAt (here : Location) (names : List String) (location : Location) : Prop :=
  ∃ front name, names = front ++ [name] ∧ name ≠ "." ∧ name ≠ ".." ∧
    location = front.foldl Path.step here ++ [name]

/-- A path ends in a name at a location. -/
def Path.NamesAt (here : Location) (path : String) (location : Location) : Prop :=
  Path.EndsAt (Path.start here path) (Path.names path) location

/-- A directory that encloses the last name of a path is at a location. -/
def Path.EnclosedAt (here : Location) (path : String) (location : Location) : Prop :=
  ∃ outer ∈ Path.enclosing path, Path.NamesAt here outer location

theorem Path.step_of_name (here : Location) {name : String} (hdot : name ≠ ".")
    (hup : name ≠ "..") :
    Path.step here name = here ++ [name] := by
  rw [Path.step, if_neg hdot, if_neg hup]

theorem Path.EndsAt.eq {here location : Location} {names : List String}
    (h : Path.EndsAt here names location) : location = names.foldl Path.step here := by
  obtain ⟨front, name, rfl, hdot, hup, rfl⟩ := h
  rw [List.foldl_append, List.foldl_cons, List.foldl_nil, Path.step_of_name _ hdot hup]

theorem Path.EndsAt.cons {here location : Location} {name : String} {rest : List String}
    (h : Path.EndsAt (Path.step here name) rest location) :
    Path.EndsAt here (name :: rest) location := by
  obtain ⟨front, last, rfl, hdot, hup, rfl⟩ := h
  exact ⟨name :: front, last, rfl, hdot, hup, rfl⟩

/-- A place fits names that are taken from a directory: it is where they lead, and what it says is
in the tree. -/
def Place.Fits (tree : Tree) (here : Location) (names : List String) : Place → Prop
  | .occupied location entry =>
    location = names.foldl Path.step here ∧
      (entry = .directory ∨ tree.get? location = some entry)
  | .vacant location => Path.EndsAt here names location ∧ tree.get? location = none

theorem Place.Fits.cons {tree : Tree} {here : Location} {name : String} {rest : List String}
    {place : Place} (h : place.Fits tree (Path.step here name) rest) :
    place.Fits tree here (name :: rest) := by
  cases place with
  | occupied location entry => exact h
  | vacant location => exact ⟨h.1.cons, h.2⟩

namespace Tree

variable {tree : Tree} {purpose : Purpose} {here : Location} {names : List String} {place : Place}
  {path : String}

/-- No link is in a tree. -/
def Linkless (tree : Tree) : Prop := ∀ location target, tree.get? location ≠ some (.link target)

theorem linkless_of_entries (h : ∀ place ∈ tree.entries, ∀ target, place.2 ≠ .link target) :
    tree.Linkless := by
  intro location target hlink
  cases location with
  | nil => cases hlink
  | cons name names =>
    obtain ⟨before, after, hentries, -⟩ := List.lookup_eq_some_iff.1 hlink
    exact h (name :: names, .link target) (by simp [hentries]) target rfl

theorem walk_eq (tree : Tree) (purpose : Purpose) (links : Nat) :
    ∃ onward, ∀ here names slash, tree.walk purpose links here names slash
      = tree.walkNames purpose onward slash here names := by
  cases links with
  | zero => exact ⟨_, fun _ _ _ => rfl⟩
  | succ links => exact ⟨_, fun _ _ _ => rfl⟩

/-- What reaching a path is, once the text of the path is accepted. -/
theorem exists_walkNames_of_reach (h : tree.reach purpose here path = .ok place) :
    ∃ onward, tree.walkNames purpose onward (Path.endsWithSlash path) (Path.start here path)
      (Path.names path) = .ok place := by
  unfold reach at h
  split at h
  · cases h
  split at h
  · cases h
  split at h
  · cases h
  obtain ⟨onward, hwalk⟩ := tree.walk_eq purpose mostLinks
  rw [hwalk] at h
  exact ⟨onward, h⟩

/-! ### Directories on the way -/

/-- A walk gets past a name if it leads nowhere or up, or to a directory. -/
def Passable (tree : Tree) (here : Location) (name : String) : Prop :=
  name = "." ∨ name = ".." ∨ tree.get? (Path.step here name) = some .directory

/-- A walk gets past all names of a way. -/
def Passes (tree : Tree) : Location → List String → Prop
  | _, [] => True
  | here, name :: rest => tree.Passable here name ∧ Passes tree (Path.step here name) rest

@[simp] theorem passes_nil (tree : Tree) (here : Location) : tree.Passes here [] := trivial

@[simp] theorem passes_cons (tree : Tree) (here : Location) (name : String) (rest : List String) :
    tree.Passes here (name :: rest) ↔
      tree.Passable here name ∧ tree.Passes (Path.step here name) rest := Iff.rfl

theorem passes_append_iff {front back : List String} : ∀ {here},
    tree.Passes here (front ++ back) ↔
      tree.Passes here front ∧ tree.Passes (front.foldl Path.step here) back := by
  induction front with
  | nil => simp
  | cons name rest ih =>
    intro here
    rw [List.cons_append, passes_cons, passes_cons, ih, and_assoc]
    rfl

/-- What such a way ends in is a directory. -/
theorem Passes.get?_of_endsAt {location : Location} (h : tree.Passes here names)
    (hends : Path.EndsAt here names location) : tree.get? location = some .directory := by
  obtain ⟨front, name, rfl, hdot, hup, rfl⟩ := hends
  obtain ⟨hname, -⟩ := (passes_append_iff.1 h).2
  rw [Passable, Path.step_of_name _ hdot hup] at hname
  simpa [hdot, hup] using hname

/-- If the names of a base lead to directories, then what encloses the last name of a path below the
base and is not there yet lies below the base, with names of the path behind it. -/
theorem Passes.exists_inner {base : String} {location : Location}
    (h : tree.Passes (Path.start here base) (Path.names base))
    (hstays : Path.staysInside path = true)
    (henclosed : Path.EnclosedAt here (Path.join base path) location)
    (hvacant : tree.get? location = none) :
    ∃ inner rest, rest ≠ [] ∧ Path.normal path = inner ++ rest ∧
      location = Path.location here base ++ inner := by
  obtain ⟨outer, hmem, hnames⟩ := henclosed
  obtain ⟨rest, hsplit, segment, hsegment, hidle⟩ := Path.exists_of_mem_enclosing hmem
  have hne : outer ≠ "" := by
    rintro rfl
    obtain ⟨front, name, hempty, -⟩ := hnames
    have : Path.names "" = [] := rfl
    simp [this] at hempty
  obtain ⟨hstart, ⟨more, hmore⟩ | ⟨inner, hinner, hnormal⟩⟩ :=
    Path.join_split here hstays hne hsplit
  · -- on the way to the base there are directories already
    rw [hmore, ← hstart] at h
    rw [(passes_append_iff.1 h).1.get?_of_endsAt hnames] at hvacant
    cases hvacant
  · refine ⟨inner, Path.normal rest, ?_, hnormal, ?_⟩
    · exact List.ne_nil_of_mem (List.mem_filter.2 ⟨hsegment, by simp [hidle]⟩)
    · rw [hnames.eq, ← hinner]
      rfl

end Tree

/-! ## Trees without links -/

/-- A tree without links. -/
structure PlainTree extends Tree where
  /-- No link is in the tree. -/
  linkless : toTree.Linkless

namespace PlainTree

variable (tree : PlainTree) {purpose : Purpose} {onward : Onward} {slash : Bool} {here : Location}
  {names : List String} {place : Place} {path : String}

/-- At its first name a walk goes on from where the name leads, or it ends there, at nothing or at
a file. -/
theorem walkNames_cons {name : String} {rest : List String}
    (h : tree.walkNames purpose onward slash here (name :: rest) = .ok place) :
    (tree.Passable here name ∧
      tree.walkNames purpose onward slash (Path.step here name) rest = .ok place) ∨
    (rest = [] ∧ name ≠ "." ∧ name ≠ ".." ∧
      (place = .vacant (here ++ [name]) ∧ tree.get? (here ++ [name]) = none ∨
        ∃ bytes, place = .occupied (here ++ [name]) (.file bytes) ∧
          tree.get? (here ++ [name]) = some (.file bytes))) := by
  unfold Tree.walkNames at h
  split at h
  · rename_i hdot
    refine .inl ⟨.inl hdot, ?_⟩
    rwa [Path.step, if_pos hdot]
  rename_i hdot
  split at h
  · rename_i hup
    refine .inl ⟨.inr (.inl hup), ?_⟩
    rwa [Path.step, if_neg hdot, if_pos hup]
  rename_i hup
  have hstep := Path.step_of_name here hdot hup
  split at h
  · cases h
  split at h
  · cases h
  simp only at h
  split at h
  · -- nothing is there, so this has to be the last name
    rename_i hnone
    split at h
    · rename_i hlast
      cases h
      exact .inr ⟨hlast.1, hdot, hup, .inl ⟨rfl, hnone⟩⟩
    · cases h
  · rename_i hdirectory
    rw [← hstep] at hdirectory h
    exact .inl ⟨.inr (.inr hdirectory), h⟩
  · rename_i bytes hfile
    split at h
    · cases h
    · rename_i hlast
      cases h
      have hrest : rest = [] := Classical.byContradiction fun hne => hlast (.inl hne)
      exact .inr ⟨hrest, hdot, hup, .inr ⟨bytes, rfl, hfile⟩⟩
  · rename_i target hlink
    exact absurd hlink (tree.linkless _ target)

/-- A walk ends where the names lead. -/
theorem walkNames_fits : ∀ {here},
    tree.walkNames purpose onward slash here names = .ok place →
      place.Fits tree.toTree here names := by
  induction names with
  | nil =>
    intro here h
    cases h
    exact ⟨rfl, .inl rfl⟩
  | cons name rest ih =>
    intro here h
    rcases tree.walkNames_cons h with
      ⟨-, hrest⟩ | ⟨rfl, hdot, hup, ⟨rfl, hnone⟩ | ⟨bytes, rfl, hfile⟩⟩
    · exact (ih hrest).cons
    · exact ⟨⟨[], name, rfl, hdot, hup, rfl⟩, hnone⟩
    · exact ⟨(Path.step_of_name here hdot hup).symm, .inr hfile⟩

/-- A path is reached where it leads. -/
theorem reach_fits (h : tree.reach purpose here path = .ok place) :
    place.Fits tree.toTree (Path.start here path) (Path.names path) := by
  obtain ⟨onward, hwalk⟩ := Tree.exists_walkNames_of_reach h
  exact tree.walkNames_fits hwalk

/-- A walk that ends at a directory has got past all names. -/
theorem passes_of_walkNames {location : Location} : ∀ {here},
    tree.walkNames purpose onward slash here names = .ok (.occupied location .directory) →
      tree.Passes here names := by
  induction names with
  | nil => exact fun _ => trivial
  | cons name rest ih =>
    intro here h
    rcases tree.walkNames_cons h with
      ⟨hpassable, hrest⟩ | ⟨-, -, -, ⟨hplace, -⟩ | ⟨bytes, hplace, -⟩⟩
    · exact ⟨hpassable, ih hrest⟩
    · cases hplace
    · cases hplace

end PlainTree

end EntityForge.Files

import EntityForge.Files.Path

/-!
# Trees of files

A tree says for every location whether a file, a directory or a link is there. A location is the
list of names from the root; the root itself is always a directory. Nothing is ever removed from a
tree, and what is put at a location leaves every other location as it was.
-/

set_option autoImplicit false

namespace EntityForge.Files

/-- What is at a location. -/
inductive Entry where
  | file (bytes : ByteArray)
  | directory
  | link (target : String)

instance : DecidableEq Entry
  | .file bytes, .file bytes' =>
    match ByteArray.instDecidableEq bytes bytes' with
    | isTrue h => isTrue (h ▸ rfl)
    | isFalse h => isFalse (fun same => h (Entry.file.inj same))
  | .link target, .link target' =>
    match String.decEq target target' with
    | isTrue h => isTrue (h ▸ rfl)
    | isFalse h => isFalse (fun same => h (Entry.link.inj same))
  | .directory, .directory => isTrue rfl
  | .file _, .directory => isFalse nofun
  | .file _, .link _ => isFalse nofun
  | .directory, .file _ => isFalse nofun
  | .directory, .link _ => isFalse nofun
  | .link _, .file _ => isFalse nofun
  | .link _, .directory => isFalse nofun

/-- What is at every location below the root, in the order in which it came. -/
structure Tree where
  /-- The locations with what is there. -/
  entries : List (Location × Entry)
deriving DecidableEq

namespace Tree

/-- The tree that only has a root. -/
def empty : Tree := ⟨[]⟩

/-- What is at a location, if anything is. -/
def get? (tree : Tree) : Location → Option Entry
  | [] => some .directory
  | location => tree.entries.lookup location

/-- Entries with one at a location, in the place of the earlier one or after all others. -/
def setEntry (location : Location) (entry : Entry) :
    List (Location × Entry) → List (Location × Entry)
  | [] => [(location, entry)]
  | (other, old) :: rest =>
    if other = location then (location, entry) :: rest
    else (other, old) :: setEntry location entry rest

@[simp] theorem setEntry_nil (location : Location) (entry : Entry) :
    setEntry location entry [] = [(location, entry)] := rfl

@[simp] theorem setEntry_cons (location other : Location) (entry old : Entry)
    (rest : List (Location × Entry)) :
    setEntry location entry ((other, old) :: rest)
      = if other = location then (location, entry) :: rest
        else (other, old) :: setEntry location entry rest := rfl

/-- Puts an entry at a location. -/
def set (tree : Tree) (location : Location) (entry : Entry) : Tree :=
  ⟨setEntry location entry tree.entries⟩

theorem lookup_cons_of_ne {location other : Location} (entry : Entry)
    (rest : List (Location × Entry)) (h : other ≠ location) :
    ((location, entry) :: rest).lookup other = rest.lookup other := by
  have hb : (other == location) = false := by simpa using h
  rw [List.lookup_cons, hb]

theorem lookup_setEntry (location other : Location) (entry : Entry) :
    ∀ entries : List (Location × Entry),
      (setEntry location entry entries).lookup other =
        if other = location then some entry else entries.lookup other
  | [] => by
    by_cases h : other = location
    · subst h
      simp
    · simp [lookup_cons_of_ne entry [] h, h]
  | (key, old) :: rest => by
    have ih := lookup_setEntry location other entry rest
    by_cases hk : key = location
    · subst hk
      by_cases h : other = key
      · subst h
        simp
      · simp [lookup_cons_of_ne _ rest h, h]
    · by_cases h : other = key
      · subst h
        simp [hk]
      · rw [setEntry_cons, if_neg hk, lookup_cons_of_ne old _ h, lookup_cons_of_ne old _ h, ih]

/-- Only the location at which something is put changes. -/
theorem get?_set (tree : Tree) (location other : Location) (entry : Entry) (h : other ≠ []) :
    (tree.set location entry).get? other =
      if other = location then some entry else tree.get? other := by
  cases other with
  | nil => exact absurd rfl h
  | cons name names => exact lookup_setEntry location (name :: names) entry tree.entries

/-- Whether something is at a location below another one. -/
def hasBelow (tree : Tree) (location : Location) : Bool :=
  tree.entries.any fun (other, _) => location.isPrefixOf other && other != location

end Tree

end EntityForge.Files

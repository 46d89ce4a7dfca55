/-!
# Dictionaries with text keys

A dictionary holds at most one value per key and lists its entries in ascending order of the keys,
compared by code points. The order is part of the type, so two dictionaries with the same look-ups
are equal (`Dictionary.ext_get?`), and whatever is listed from one is listed in the same order
however it was filled.

Writing to a key replaces the value that was there (`get?_insert`).
-/

set_option autoImplicit false

universe u v

namespace EntityForge

/-- Puts an entry at its place in an ascending list, replacing an entry of the same key. -/
def insertEntry {α : Type u} (key : String) (value : α) :
    List (String × α) → List (String × α)
  | [] => [(key, value)]
  | entry :: rest =>
    if key < entry.1 then (key, value) :: entry :: rest
    else if entry.1 < key then entry :: insertEntry key value rest
    else (key, value) :: rest

/-- The value stored under a key in a list of entries, the first one if there are several. -/
def lookupEntry {α : Type u} (key : String) : List (String × α) → Option α
  | [] => none
  | entry :: rest => if entry.1 = key then some entry.2 else lookupEntry key rest

@[simp] theorem insertEntry_nil {α : Type u} (key : String) (value : α) :
    insertEntry key value [] = [(key, value)] := rfl

@[simp] theorem lookupEntry_nil {α : Type u} (key : String) :
    lookupEntry key ([] : List (String × α)) = none := rfl

@[simp] theorem lookupEntry_cons {α : Type u} (key : String) (entry : String × α)
    (rest : List (String × α)) :
    lookupEntry key (entry :: rest)
      = if entry.1 = key then some entry.2 else lookupEntry key rest := rfl

/-- Entries listed by strictly ascending key. -/
abbrev Ascending {α : Type u} (entries : List (String × α)) : Prop :=
  entries.Pairwise (fun a b => a.1 < b.1)

theorem mem_insertEntry {α : Type u} {key : String} {value : α} {entry : String × α}
    {entries : List (String × α)} (h : entry ∈ insertEntry key value entries) :
    entry = (key, value) ∨ entry ∈ entries := by
  induction entries with
  | nil => simpa using h
  | cons head rest ih =>
    unfold insertEntry at h
    split at h
    · simpa using h
    · split at h
      · rcases List.mem_cons.1 h with h | h
        · exact Or.inr (by simp [h])
        · rcases ih h with h | h
          · exact Or.inl h
          · exact Or.inr (List.mem_cons_of_mem _ h)
      · rcases List.mem_cons.1 h with h | h
        · exact Or.inl h
        · exact Or.inr (List.mem_cons_of_mem _ h)

theorem ascending_insertEntry {α : Type u} (key : String) (value : α)
    {entries : List (String × α)} (h : Ascending entries) :
    Ascending (insertEntry key value entries) := by
  induction entries with
  | nil => simp [Ascending]
  | cons head rest ih =>
    obtain ⟨hhead, hrest⟩ := List.pairwise_cons.1 h
    unfold insertEntry
    split
    · rename_i hlt
      refine List.pairwise_cons.2 ⟨?_, h⟩
      intro entry hmem
      rcases List.mem_cons.1 hmem with rfl | hmem
      · exact hlt
      · exact String.lt_trans hlt (hhead entry hmem)
    · split
      · rename_i hgt
        refine List.pairwise_cons.2 ⟨?_, ih hrest⟩
        intro entry hmem
        rcases mem_insertEntry hmem with rfl | hmem
        · exact hgt
        · exact hhead entry hmem
      · rename_i hnlt hngt
        have heq : key = head.1 :=
          String.le_antisymm (String.not_lt.1 hngt) (String.not_lt.1 hnlt)
        subst heq
        exact List.pairwise_cons.2 ⟨hhead, hrest⟩

/-- A finite map from text to values, listed by ascending key. -/
structure Dictionary (α : Type u) where
  /-- The entries in ascending order of their keys. -/
  entries : List (String × α)
  /-- No key comes twice, and each comes after the smaller ones. -/
  ascending : Ascending entries

namespace Dictionary

variable {α : Type u} {β : Type v}

/-- The dictionary without entries. -/
def empty : Dictionary α := ⟨[], List.Pairwise.nil⟩

instance : Inhabited (Dictionary α) := ⟨empty⟩

instance [DecidableEq α] : DecidableEq (Dictionary α) := fun a b =>
  if h : a.entries = b.entries then
    isTrue (by cases a; cases b; simp_all)
  else
    isFalse (fun e => h (by rw [e]))

/-- The value stored under a key. -/
def get? (d : Dictionary α) (key : String) : Option α := lookupEntry key d.entries

/-- Whether a key has a value. -/
def contains (d : Dictionary α) (key : String) : Bool := (d.get? key).isSome

/-- Stores a value under a key, in place of the one that was there. -/
def insert (d : Dictionary α) (key : String) (value : α) : Dictionary α :=
  ⟨insertEntry key value d.entries, ascending_insertEntry key value d.ascending⟩

/-- The keys in ascending order. -/
def keys (d : Dictionary α) : List String := d.entries.map (·.1)

/-- The values in the order of their keys. -/
def values (d : Dictionary α) : List α := d.entries.map (·.2)

/-- The number of entries. -/
def size (d : Dictionary α) : Nat := d.entries.length

/-- Whether there is no entry. -/
def isEmpty (d : Dictionary α) : Bool := d.entries.isEmpty

/-- Stores entries one after another; of two with one key the later stays. -/
def insertAll (d : Dictionary α) (entries : List (String × α)) : Dictionary α :=
  entries.foldl (fun acc entry => acc.insert entry.1 entry.2) d

/-- The dictionary of a list of entries; of two with one key the later stays. -/
def ofList (entries : List (String × α)) : Dictionary α := empty.insertAll entries

/-- All entries of both, where the second decides on the keys that both have. -/
def union (d e : Dictionary α) : Dictionary α := d.insertAll e.entries

/-- Changes every value and keeps the keys. -/
def map (f : α → β) (d : Dictionary α) : Dictionary β where
  entries := d.entries.map (fun entry => (entry.1, f entry.2))
  ascending := by
    have h := d.ascending
    unfold Ascending at h ⊢
    rw [List.pairwise_map]
    exact h

end Dictionary

/-! ## Look-up after each operation -/

variable {α : Type u}

@[simp] theorem lookupEntry_insertEntry (key other : String) (value : α)
    (entries : List (String × α)) : lookupEntry other (insertEntry key value entries)
      = if key = other then some value else lookupEntry other entries := by
  induction entries with
  | nil => simp
  | cons head rest ih =>
    unfold insertEntry
    split
    · simp
    · split
      · rename_i hgt
        simp only [lookupEntry_cons, ih]
        split
        · rename_i h
          subst h
          have hne : ¬ key = head.1 := fun h => String.lt_irrefl _ (h ▸ hgt)
          simp [hne]
        · rfl
      · rename_i hnlt hngt
        have heq : key = head.1 :=
          String.le_antisymm (String.not_lt.1 hngt) (String.not_lt.1 hnlt)
        subst heq
        by_cases h : head.1 = other <;> simp [h]

theorem lookupEntry_eq_none_of_lt {key : String} {entries : List (String × α)}
    (h : ∀ entry ∈ entries, key < entry.1) : lookupEntry key entries = none := by
  induction entries with
  | nil => rfl
  | cons head rest ih =>
    have hhead : ¬ head.1 = key := fun e => String.lt_irrefl _ (e ▸ h head (by simp))
    rw [lookupEntry_cons, if_neg hhead]
    exact ih (fun entry hmem => h entry (List.mem_cons_of_mem _ hmem))

theorem eq_of_lookupEntry_eq {a b : List (String × α)} (ha : Ascending a) (hb : Ascending b)
    (h : ∀ key, lookupEntry key a = lookupEntry key b) : a = b := by
  induction a generalizing b with
  | nil =>
    cases b with
    | nil => rfl
    | cons head rest => simpa using h head.1
  | cons x xs ih =>
    cases b with
    | nil => simpa using h x.1
    | cons y ys =>
      obtain ⟨hx, hxs⟩ := List.pairwise_cons.1 ha
      obtain ⟨hy, hys⟩ := List.pairwise_cons.1 hb
      have hkey : x.1 = y.1 := by
        rcases Classical.em (x.1 < y.1) with hlt | hnlt
        · have hnone : lookupEntry x.1 (y :: ys) = none := by
            apply lookupEntry_eq_none_of_lt
            intro entry hmem
            rcases List.mem_cons.1 hmem with rfl | hmem
            · exact hlt
            · exact String.lt_trans hlt (hy entry hmem)
          have := h x.1
          rw [hnone] at this
          simp at this
        · rcases Classical.em (y.1 < x.1) with hgt | hngt
          · have hnone : lookupEntry y.1 (x :: xs) = none := by
              apply lookupEntry_eq_none_of_lt
              intro entry hmem
              rcases List.mem_cons.1 hmem with rfl | hmem
              · exact hgt
              · exact String.lt_trans hgt (hx entry hmem)
            have := h y.1
            rw [hnone] at this
            simp at this
          · exact String.le_antisymm (String.not_lt.1 hngt) (String.not_lt.1 hnlt)
      have hvalue : x.2 = y.2 := by
        have := h x.1
        simpa [hkey] using this
      have hxy : x = y := Prod.ext hkey hvalue
      subst hxy
      congr 1
      apply ih hxs hys
      intro key
      by_cases hk : x.1 = key
      · subst hk
        rw [lookupEntry_eq_none_of_lt hx, lookupEntry_eq_none_of_lt hy]
      · have := h key
        simpa [hk] using this

namespace Dictionary

@[simp] theorem get?_empty (key : String) : (empty : Dictionary α).get? key = none := rfl

@[simp] theorem get?_insert (d : Dictionary α) (key other : String) (value : α) :
    (d.insert key value).get? other = if key = other then some value else d.get? other :=
  lookupEntry_insertEntry key other value d.entries

/-- A dictionary is what its look-ups say. -/
theorem ext_get? {d e : Dictionary α} (h : ∀ key, d.get? key = e.get? key) : d = e := by
  have hentries := eq_of_lookupEntry_eq d.ascending e.ascending h
  cases d; cases e
  simp_all

end Dictionary

end EntityForge

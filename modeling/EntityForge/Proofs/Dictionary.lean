import EntityForge.Dictionary

/-!
# Entries and look-ups of dictionaries

What a dictionary lists is what it finds: an entry is listed exactly when its value is the one under
its key (`Dictionary.mem_entries_iff`). Writing many entries is described by one look-up equation,
`Dictionary.get?_insertAll`: the last entry of a key decides. From it follow the look-ups of a
union, where the second dictionary decides (`Dictionary.get?_union`), and of a dictionary made of
entries (`Dictionary.get?_ofList_eq_some_iff`).
-/

set_option autoImplicit false

universe u

namespace EntityForge

variable {α : Type u}

/-- What is found under a key is the value of its first entry. -/
theorem exists_split_of_lookupEntry {key : String} {value : α} {entries : List (String × α)}
    (h : lookupEntry key entries = some value) :
    ∃ before after, entries = before ++ (key, value) :: after ∧
      ∀ entry ∈ before, entry.1 ≠ key := by
  induction entries with
  | nil => cases h
  | cons head rest ih =>
    unfold lookupEntry at h
    split at h
    · rename_i hkey
      cases h
      refine ⟨[], rest, by rw [← hkey]; rfl, ?_⟩
      exact fun _ hmem => absurd hmem List.not_mem_nil
    · rename_i hkey
      obtain ⟨before, after, rfl, hbefore⟩ := ih h
      exact ⟨head :: before, after, rfl, List.forall_mem_cons.2 ⟨hkey, hbefore⟩⟩

theorem mem_of_lookupEntry {key : String} {value : α} {entries : List (String × α)}
    (h : lookupEntry key entries = some value) : (key, value) ∈ entries := by
  obtain ⟨before, after, rfl, -⟩ := exists_split_of_lookupEntry h
  exact List.mem_append_right _ List.mem_cons_self

theorem lookupEntry_of_mem {key : String} {value : α} {entries : List (String × α)}
    (hasc : Ascending entries) (h : (key, value) ∈ entries) :
    lookupEntry key entries = some value := by
  induction entries with
  | nil => simp at h
  | cons head rest ih =>
    obtain ⟨hhead, hrest⟩ := List.pairwise_cons.1 hasc
    rcases List.mem_cons.1 h with rfl | hmem
    · simp
    · have hlt : head.1 < key := hhead (key, value) hmem
      have hne : head.1 ≠ key := fun heq => String.lt_irrefl key (heq ▸ hlt)
      rw [lookupEntry_cons, if_neg hne]
      exact ih hrest hmem

/-- The later entries of an ascending list have other keys than the first. -/
theorem lookupEntry_head_eq_none {head : String × α} {rest : List (String × α)}
    (hasc : Ascending (head :: rest)) : lookupEntry head.1 rest = none :=
  lookupEntry_eq_none_of_lt (List.pairwise_cons.1 hasc).1

@[simp] theorem lookupEntry_append (key : String) (a b : List (String × α)) :
    lookupEntry key (a ++ b) = (lookupEntry key a).or (lookupEntry key b) := by
  induction a with
  | nil => rfl
  | cons head rest ih => by_cases h : head.1 = key <;> simp [h, ih]

theorem lookupEntry_isSome_iff {key : String} {entries : List (String × α)} :
    (lookupEntry key entries).isSome ↔ key ∈ entries.map (·.1) := by
  induction entries with
  | nil => simp
  | cons head rest ih =>
    by_cases h : head.1 = key
    · simp [h]
    · have hne : key ≠ head.1 := fun heq => h heq.symm
      simp [h, ih, hne]

theorem lookupEntry_eq_none_of_ne {key : String} {entries : List (String × α)}
    (h : ∀ entry ∈ entries, entry.1 ≠ key) : lookupEntry key entries = none := by
  rw [← Option.not_isSome_iff_eq_none, lookupEntry_isSome_iff]
  intro hmem
  obtain ⟨entry, hentry, hkey⟩ := List.mem_map.1 hmem
  exact h entry hentry hkey

/-- In an ascending list the first entry of a key is also the last one. -/
theorem lookupEntry_reverse {entries : List (String × α)} (hasc : Ascending entries)
    (key : String) : lookupEntry key entries.reverse = lookupEntry key entries := by
  induction entries with
  | nil => rfl
  | cons head rest ih =>
    rw [List.reverse_cons, lookupEntry_append, ih (List.pairwise_cons.1 hasc).2]
    by_cases h : head.1 = key
    · subst h
      simp [lookupEntry_head_eq_none hasc]
    · simp [h]

/-- An entry behind which there is no other one of its key. -/
def LastEntry (entries : List (String × α)) (key : String) (value : α) : Prop :=
  ∃ before after, entries = before ++ (key, value) :: after ∧ ∀ later ∈ after, later.1 ≠ key

/-- An entry of a key that comes only once is the last one. -/
theorem lastEntry_of_nodup {entries : List (String × α)} {key : String} {value : α}
    (hnodup : (entries.map (·.1)).Nodup) (hmem : (key, value) ∈ entries) :
    LastEntry entries key value := by
  obtain ⟨before, after, rfl⟩ := List.append_of_mem hmem
  refine ⟨before, after, rfl, fun later hlater hkey => ?_⟩
  rw [List.map_append, List.map_cons] at hnodup
  have hhead := (List.nodup_cons.1 (List.nodup_append.1 hnodup).2.1).1
  exact hhead (List.mem_map.2 ⟨later, hlater, hkey⟩)

namespace Dictionary

/-- An entry is listed exactly when its value is found under its key. -/
theorem mem_entries_iff {d : Dictionary α} {key : String} {value : α} :
    (key, value) ∈ d.entries ↔ d.get? key = some value :=
  ⟨lookupEntry_of_mem d.ascending, mem_of_lookupEntry⟩

theorem mem_keys_iff {d : Dictionary α} {key : String} :
    key ∈ d.keys ↔ (d.get? key).isSome := by
  rw [Option.isSome_iff_exists]
  constructor
  · intro h
    obtain ⟨entry, hmem, rfl⟩ := List.mem_map.1 h
    exact ⟨entry.2, mem_entries_iff.1 hmem⟩
  · rintro ⟨value, h⟩
    exact List.mem_map.2 ⟨(key, value), mem_entries_iff.2 h, rfl⟩

theorem keys_pairwise_lt (d : Dictionary α) : d.keys.Pairwise (· < ·) := by
  unfold keys
  rw [List.pairwise_map]
  exact d.ascending

theorem keys_nodup (d : Dictionary α) : d.keys.Nodup := by
  refine d.keys_pairwise_lt.imp ?_
  rintro a b hlt rfl
  exact String.lt_irrefl a hlt

/-- Writing many entries: the last one of a key decides. -/
@[simp] theorem get?_insertAll (entries : List (String × α)) (key : String) : ∀ d : Dictionary α,
    (d.insertAll entries).get? key = (lookupEntry key entries.reverse).or (d.get? key) := by
  induction entries with
  | nil => exact fun d => rfl
  | cons head rest ih =>
    intro d
    change ((d.insert head.1 head.2).insertAll rest).get? key = _
    rw [ih, get?_insert, List.reverse_cons, lookupEntry_append, Option.or_assoc]
    by_cases hkey : head.1 = key <;> simp [hkey]

@[simp] theorem get?_union (d e : Dictionary α) (key : String) :
    (d.union e).get? key = (e.get? key).or (d.get? key) := by
  rw [union, get?_insertAll, lookupEntry_reverse e.ascending]
  rfl

/-! ### Dictionaries of entries -/

@[simp] theorem get?_ofList (entries : List (String × α)) (key : String) :
    (ofList entries).get? key = lookupEntry key entries.reverse := by
  rw [ofList, get?_insertAll, get?_empty, Option.or_none]

/-- A dictionary of entries holds the last one of every key. -/
theorem get?_ofList_eq_some_iff {entries : List (String × α)} {key : String} {value : α} :
    (ofList entries).get? key = some value ↔ LastEntry entries key value := by
  rw [get?_ofList]
  constructor
  · intro h
    obtain ⟨before, after, hsplit, hbefore⟩ := exists_split_of_lookupEntry h
    refine ⟨after.reverse, before.reverse, ?_, fun later hmem => ?_⟩
    · rw [← List.reverse_reverse entries, hsplit]
      simp
    · exact hbefore later (List.mem_reverse.1 hmem)
  · rintro ⟨before, after, rfl, hafter⟩
    have hnone : lookupEntry key after.reverse = none :=
      lookupEntry_eq_none_of_ne fun entry hmem => hafter entry (List.mem_reverse.1 hmem)
    simp [hnone]

/-- An entry counts for nothing if there is another one of its key behind it. -/
theorem ofList_of_repeated {before after : List (String × α)} {key : String} {value : α}
    (h : ∃ later ∈ after, later.1 = key) :
    ofList (before ++ (key, value) :: after) = ofList (before ++ after) := by
  apply ext_get?
  intro other
  rw [get?_ofList, get?_ofList]
  simp only [List.reverse_append, List.reverse_cons, lookupEntry_append, List.append_assoc]
  by_cases hkey : key = other
  · subst hkey
    obtain ⟨later, hmem, hlater⟩ := h
    have hsome : (lookupEntry key after.reverse).isSome :=
      lookupEntry_isSome_iff.2 (List.mem_map.2 ⟨later, List.mem_reverse.2 hmem, hlater⟩)
    obtain ⟨found, hfound⟩ := Option.isSome_iff_exists.1 hsome
    simp [hfound]
  · simp [hkey]

end Dictionary

end EntityForge

import EntityForge.Proofs.ByteOrder
import EntityForge.Proofs.Model.MergeHistory

/-!
# Merges that are refused

A merge takes the records of a document in ascending order of their ids and ends at the first id
that the document and the model both define. The records before it stay merged: what a refused merge
leaves is what the document cut off at that id leaves when it is merged alone, and the id itself and
all larger ones are as they were (`Model.merge_changes_prefix`). A text that is no document, or a
document of an unknown version, changes nothing.

The proof divides the records at the id. Those before it are accepted, so the merge of all records
goes on from where they have led (`Model.mergeRecords_append`), and there the id still holds what it
held in the beginning.
-/

set_option autoImplicit false

namespace EntityForge

/-! ## Cutting off at a key -/

namespace Dictionary

variable {α : Type} {d : Dictionary α} {key : String}

/-- The entries whose keys are smaller than a given one. -/
def below (d : Dictionary α) (key : String) : Dictionary α :=
  ⟨d.entries.filter fun entry => entry.1 < key, d.ascending.filter _⟩

theorem get?_below (d : Dictionary α) (key other : String) :
    (d.below key).get? other = if other < key then d.get? other else none := by
  apply Option.ext
  intro value
  rw [← mem_entries_iff, below, List.mem_filter, mem_entries_iff]
  by_cases hlt : other < key <;> simp [hlt]

/-- An entry divides a dictionary: what is before it is what is below its key. -/
theorem entries_eq_below_append {value : α} (h : d.get? key = some value) :
    ∃ later, d.entries = (d.below key).entries ++ (key, value) :: later := by
  obtain ⟨before, later, hsplit⟩ := List.append_of_mem (mem_entries_iff.2 h)
  have hascending := d.ascending
  rw [hsplit] at hascending
  obtain ⟨-, hlater, hbefore⟩ := List.pairwise_append.1 hascending
  have hsmaller : ∀ entry ∈ before, entry.1 < key :=
    fun entry hmem => hbefore entry hmem (key, value) List.mem_cons_self
  have hlarger : ∀ entry ∈ (key, value) :: later, ¬ entry.1 < key := by
    intro entry hmem
    rcases List.mem_cons.1 hmem with rfl | hmem
    · exact String.lt_irrefl key
    · exact String.lt_asymm ((List.pairwise_cons.1 hlater).1 entry hmem)
  have hbelow : (d.below key).entries = before := by
    change d.entries.filter (fun entry => entry.1 < key) = before
    rw [hsplit, List.filter_append, List.filter_eq_self.2 (by simpa using hsmaller),
      List.filter_eq_nil_iff.2 (by simpa using hlarger), List.append_nil]
  exact ⟨later, by rw [hbelow, hsplit]⟩

/-- Of the keys with a property there is a smallest one. -/
theorem exists_least_key {p : String → Prop} (hstored : ∀ key, p key → (d.get? key).isSome)
    (h : ∃ key, p key) : ∃ key, p key ∧ ∀ other, p other → key ≤ other := by
  classical
  obtain ⟨key, hkey⟩ := h
  have hmem : ∀ other, p other → other ∈ d.keys := fun other hother =>
    mem_keys_iff.2 (hstored other hother)
  have hfound : (d.keys.find? fun key => p key).isSome := by
    rw [List.find?_isSome]
    exact ⟨key, hmem key hkey, by simpa using hkey⟩
  obtain ⟨least, hleast⟩ := Option.isSome_iff_exists.1 hfound
  obtain ⟨hp, before, later, hsplit, hbefore⟩ := List.find?_eq_some_iff_append.1 hleast
  refine ⟨least, by simpa using hp, fun other hother => ?_⟩
  have hascending := d.keys_pairwise_lt
  have hlisted := hmem other hother
  rw [hsplit] at hascending hlisted
  -- the first key that is found has no such key before it
  rcases List.mem_append.1 hlisted with hearlier | hlater
  · exact absurd hother (by simpa using hbefore other hearlier)
  · rcases List.mem_cons.1 hlater with rfl | hlater
    · exact String.le_refl other
    · have hrest := (List.pairwise_append.1 hascending).2.1
      exact String.not_lt.1 (String.lt_asymm ((List.pairwise_cons.1 hrest).1 other hlater))

end Dictionary

/-- The document without its records from an id on. -/
def Document.below (document : Document) (id : String) : Document :=
  ⟨document.version, document.shapes.below id⟩

/-- A text that cannot be read as a document is at fault as JSON. -/
theorem Document.read_error {text : String} {fault : Fault}
    (h : Document.read text = .error fault) :
    ∃ refusal, fault = .json refusal := by
  unfold Document.read at h
  split at h
  · cases h
  · cases h
    exact ⟨_, rfl⟩

namespace Model

variable {model merged : Model} {document : Document} {id : String}

/-! ## Up to the first id that is defined again -/

/-- A document defines an id that the model defines. -/
def Redefines (model : Model) (document : Document) (id : String) : Prop :=
  (document.definition? id).isSome ∧ (model.definition? id).isSome

theorem Redefines.exists_refused (h : model.Redefines document id) :
    ∃ record, document.shapes.get? id = some record ∧
      combine (model.shape? id) record = none := by
  obtain ⟨record, hrecord⟩ := Option.isSome_iff_exists.1 h.1
  have hget := (Document.definition?_eq_some_iff.1 hrecord).1
  exact ⟨record, hget, (combine_eq_none_iff_both_define hget).2 h⟩

theorem Redefines.isSome (h : model.Redefines document id) :
    (document.shapes.get? id).isSome := by
  obtain ⟨record, hget, -⟩ := h.exists_refused
  exact Option.isSome_iff_exists.2 ⟨record, hget⟩

/-- After records that are accepted, the others are merged into what these have led to. -/
theorem mergeRecords_append {before : List (String × Shape)} (later : List (String × Shape)) :
    ∀ {model merged : Model}, model.mergeRecords before = (merged, .ok ()) →
      model.mergeRecords (before ++ later) = merged.mergeRecords later := by
  induction before with
  | nil =>
    intro model merged h
    cases h
    rfl
  | cons head before ih =>
    intro model merged h
    obtain ⟨id, record⟩ := head
    cases hcombine : combine (model.shape? id) record with
    | none => simp [mergeRecords_cons_of_refused hcombine] at h
    | some shape =>
      rw [mergeRecords_cons_of_combine hcombine] at h
      rw [List.cons_append, mergeRecords_cons_of_combine hcombine]
      exact ih h

/-- A document that defines no id again is accepted. -/
theorem mergeDocument_eq_ok_of_fresh (hs : document.isSupported = true)
    (hfresh : ∀ id, ¬ model.Redefines document id) :
    ∃ merged, model.mergeDocument document = (merged, .ok ()) := by
  apply (mergeDocument_eq_ok_iff hs model).2
  intro id record hget hrefused
  exact hfresh id ((combine_eq_none_iff_both_define hget).1 hrefused)

/-- A merge is refused at the smallest id that is defined again, and leaves what the document cut
off there leaves. -/
theorem mergeDocument_of_redefines (hs : document.isSupported = true)
    (hid : model.Redefines document id)
    (hleast : ∀ other, model.Redefines document other → id ≤ other) :
    ∃ merged, model.mergeDocument document = (merged, .error (.model (.definedTwice id))) ∧
      model.mergeDocument (document.below id) = (merged, .ok ()) ∧
      ∀ later, id ≤ later → merged.shape? later = model.shape? later := by
  have hbelow : ∀ other, (document.below id).shapes.get? other
      = if other < id then document.shapes.get? other else none :=
    document.shapes.get?_below id
  have hs' : (document.below id).isSupported = true := hs
  have haccepted : ∃ merged, model.mergeDocument (document.below id) = (merged, .ok ()) := by
    apply (mergeDocument_eq_ok_iff hs' model).2
    intro other record hget hrefused
    rw [hbelow] at hget
    split at hget
    · rename_i hlt
      have hagain := (combine_eq_none_iff_both_define hget).1 hrefused
      exact String.not_lt.2 (hleast other hagain) hlt
    · cases hget
  obtain ⟨merged, hmerged⟩ := haccepted
  have hunchanged : ∀ later, id ≤ later → merged.shape? later = model.shape? later := by
    intro later hle
    rw [shape?_mergeDocument hmerged, hbelow, if_neg (String.not_lt.2 hle), outcomeAt]
  refine ⟨merged, ?_, hmerged, hunchanged⟩
  obtain ⟨record, hget, hrefused⟩ := hid.exists_refused
  obtain ⟨later, hentries⟩ := Dictionary.entries_eq_below_append hget
  -- the records before the id are all accepted, and the one under the id is not
  rw [mergeDocument, if_pos hs'] at hmerged
  rw [mergeDocument, if_pos hs, hentries]
  refine (mergeRecords_append _ hmerged).trans ?_
  apply mergeRecords_cons_of_refused
  rw [hunchanged id (String.le_refl id), hrefused]

/-- A document of a known version is accepted, or it is refused at the smallest id in the order of
bytes that is defined again. -/
theorem mergeDocument_changes_prefix (model : Model) (hs : document.isSupported = true) :
    (∀ id, ¬ model.Redefines document id) ∧ (model.mergeDocument document).2 = .ok () ∨
      ∃ id, model.Redefines document id ∧
        (∀ other, model.Redefines document other → Text.utf8 id ≤ Text.utf8 other) ∧
        (model.mergeDocument document).2 = .error (.model (.definedTwice id)) ∧
        model.mergeDocument (document.below id) = ((model.mergeDocument document).1, .ok ()) ∧
        ∀ later, Text.utf8 id ≤ Text.utf8 later →
          (model.mergeDocument document).1.shape? later = model.shape? later := by
  by_cases hfresh : ∀ id, ¬ model.Redefines document id
  · obtain ⟨merged, hmerge⟩ := mergeDocument_eq_ok_of_fresh hs hfresh
    left
    exact ⟨hfresh, congrArg Prod.snd hmerge⟩
  · have hagain : ∃ id, model.Redefines document id := by simpa using hfresh
    obtain ⟨id, hid, hleast⟩ := Dictionary.exists_least_key (fun _ h => h.isSome) hagain
    obtain ⟨merged, hmerge, hbelow, hlater⟩ := mergeDocument_of_redefines hs hid hleast
    rw [hmerge]
    right
    refine ⟨id, hid, ?_, rfl, hbelow, ?_⟩
    · exact fun other hother => Text.utf8_le_iff.2 (hleast other hother)
    · exact fun later hle => hlater later (Text.utf8_le_iff.1 hle)

/-! ## Every text -/

/-- A fault that keeps a text from being merged at all. -/
def IsUnread (fault : Fault) : Prop :=
  (∃ refusal, fault = .json refusal) ∨ ∃ version, fault = .model (.unsupportedVersion version)

theorem not_isUnread_definedTwice (id : String) : ¬ IsUnread (.model (.definedTwice id)) := by
  rintro (⟨_, hjson⟩ | ⟨_, hversion⟩)
  · cases hjson
  · cases hversion

/-- A refused merge changes exactly a prefix. A text that is no document, or a document of an
unknown version, leaves the model as it was. Any other document is accepted if it defines no id that
the model defines. If it does, the merge is refused at the smallest such id in the order of bytes:
the model is then the one that the document cut off at this id makes when it is merged, and holds
under this id and all larger ones what it held before. -/
theorem merge_changes_prefix (model : Model) (text : String) :
    (∀ fault, (model.merge text).2 = .error fault → IsUnread fault →
      (model.merge text).1 = model) ∧
    ((∀ fault, (model.merge text).2 = .error fault → ¬ IsUnread fault) →
      ∃ document, Document.read text = .ok document ∧ document.isSupported = true ∧
        ((∀ id, ¬ model.Redefines document id) ∧ (model.merge text).2 = .ok () ∨
          ∃ id, model.Redefines document id ∧
            (∀ other, model.Redefines document other → Text.utf8 id ≤ Text.utf8 other) ∧
            (model.merge text).2 = .error (.model (.definedTwice id)) ∧
            model.mergeDocument (document.below id) = ((model.merge text).1, .ok ()) ∧
            ∀ later, Text.utf8 id ≤ Text.utf8 later →
              (model.merge text).1.shape? later = model.shape? later)) := by
  cases hread : Document.read text with
  | error fault =>
    obtain ⟨refusal, rfl⟩ := Document.read_error hread
    have hmerge : model.merge text = (model, .error (.json refusal)) := by
      simp only [merge, hread]
    rw [hmerge]
    refine ⟨fun _ _ _ => rfl, fun hunread => ?_⟩
    exact absurd (.inl ⟨refusal, rfl⟩) (hunread _ rfl)
  | ok document =>
    have htext : model.merge text = model.mergeDocument document := by simp only [merge, hread]
    rw [htext]
    cases hs : document.isSupported with
    | false =>
      have hmerge : model.mergeDocument document
          = (model, .error (.model (.unsupportedVersion document.version))) := by
        simp [mergeDocument, hs]
      rw [hmerge]
      refine ⟨fun _ _ _ => rfl, fun hunread => ?_⟩
      exact absurd (.inr ⟨document.version, rfl⟩) (hunread _ rfl)
    | true =>
      have hprefix := mergeDocument_changes_prefix model hs
      refine ⟨?_, fun _ => ⟨document, rfl, hs, hprefix⟩⟩
      -- such a document is never refused as a whole
      intro fault hfault hunread
      rcases hprefix with ⟨-, hok⟩ | ⟨id, -, -, hrefused, -, -⟩
      · rw [hok] at hfault
        cases hfault
      · rw [hrefused] at hfault
        cases hfault
        exact absurd hunread (not_isUnread_definedTwice id)

end Model

end EntityForge

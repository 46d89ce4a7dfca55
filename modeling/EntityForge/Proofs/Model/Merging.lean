import EntityForge.Inputs
import EntityForge.Proofs.Dictionary

/-!
# What a merge does to every id

A merge runs through the records of a document, but each id has at most one record there. So a merge
can be described id by id: it is accepted exactly when no record of it is refused by what the model
stored before (`Model.mergeDocument_eq_ok_iff`), and an accepted merge combines every record with
what was stored under its id and leaves all other ids alone (`Model.shape?_mergeDocument`).

A sequence of documents is merged by `Model.mergeAll`, which is what loading files does
(`Model.loadFiles_eq_mergeAll`).
-/

set_option autoImplicit false

namespace EntityForge

/-! ## Traits -/

@[simp] theorem Shape.get?_withTraits (shape : Shape) (traits : Dictionary Json)
    (traitId : String) : (shape.withTraits traits).traits.get? traitId
      = (traits.get? traitId).or (shape.traits.get? traitId) :=
  Dictionary.get?_union shape.traits traits traitId

namespace Model

@[simp] theorem shape?_insert (model : Model) (id other : String) (shape : Shape) :
    (⟨model.shapes.insert id shape⟩ : Model).shape? other
      = if id = other then some shape else model.shape? other :=
  Dictionary.get?_insert model.shapes id other shape

/-! ## One combination -/

/-- A record is refused only if it and what is stored are both definitions. -/
theorem combine_eq_none_iff {stored : Option Shape} {record : Shape} :
    combine stored record = none ↔
      record.isPending = false ∧ ∃ shape, stored = some shape ∧ shape.isPending = false := by
  cases stored with
  | none => simp
  | some shape =>
    cases hrecord : record.isPending <;> cases hshape : shape.isPending <;> simp [hrecord, hshape]

/-! ## One document -/

/-- What an id holds once a record of it, if there is one, has been combined with what it held. -/
def outcomeAt (stored : Option Shape) : Option Shape → Option Shape
  | none => stored
  | some record => combine stored record

@[simp] theorem outcomeAt_none (stored : Option Shape) : outcomeAt stored none = stored := rfl

@[simp] theorem outcomeAt_some (stored : Option Shape) (record : Shape) :
    outcomeAt stored (some record) = combine stored record := rfl

theorem mergeRecords_cons_of_combine {model : Model} {id : String} {record shape : Shape}
    {records : List (String × Shape)} (h : combine (model.shape? id) record = some shape) :
    model.mergeRecords ((id, record) :: records)
      = mergeRecords ⟨model.shapes.insert id shape⟩ records := by
  simp [mergeRecords, h]

theorem mergeRecords_cons_of_refused {model : Model} {id : String} {record : Shape}
    {records : List (String × Shape)} (h : combine (model.shape? id) record = none) :
    model.mergeRecords ((id, record) :: records) = (model, .error (.model (.definedTwice id))) := by
  simp [mergeRecords, h]

/-- Storing under the key of the first record does not change what the others meet. -/
theorem shape?_insert_of_mem_rest {model : Model} {id : String} {record shape : Shape}
    {records : List (String × Shape)} (hasc : Ascending ((id, record) :: records))
    {entry : String × Shape} (hmem : entry ∈ records) :
    (⟨model.shapes.insert id shape⟩ : Model).shape? entry.1 = model.shape? entry.1 := by
  have hlt : id < entry.1 := (List.pairwise_cons.1 hasc).1 entry hmem
  have hne : id ≠ entry.1 := fun heq => String.lt_irrefl id (by rw [← heq] at hlt; exact hlt)
  rw [shape?_insert, if_neg hne]

theorem mergeRecords_eq_ok_iff {records : List (String × Shape)} (hasc : Ascending records) :
    ∀ model : Model, (∃ merged, model.mergeRecords records = (merged, .ok ())) ↔
      ∀ entry ∈ records, combine (model.shape? entry.1) entry.2 ≠ none := by
  induction records with
  | nil => exact fun model => by simp [mergeRecords]
  | cons head rest ih =>
    intro model
    obtain ⟨id, record⟩ := head
    have hrest := (List.pairwise_cons.1 hasc).2
    cases hcombine : combine (model.shape? id) record with
    | none => simp [mergeRecords_cons_of_refused hcombine, hcombine]
    | some shape =>
      rw [mergeRecords_cons_of_combine hcombine, ih hrest, List.forall_mem_cons]
      constructor
      · intro h
        refine ⟨by simp [hcombine], fun entry hmem => ?_⟩
        rw [← shape?_insert_of_mem_rest hasc hmem]
        exact h entry hmem
      · rintro ⟨-, h⟩ entry hmem
        rw [shape?_insert_of_mem_rest hasc hmem]
        exact h entry hmem

theorem shape?_mergeRecords {records : List (String × Shape)} (hasc : Ascending records) :
    ∀ {model merged : Model}, model.mergeRecords records = (merged, .ok ()) → ∀ id,
      merged.shape? id = outcomeAt (model.shape? id) (lookupEntry id records) := by
  induction records with
  | nil =>
    intro model merged h id
    cases h
    rfl
  | cons head rest ih =>
    intro model merged h id
    obtain ⟨key, record⟩ := head
    cases hcombine : combine (model.shape? key) record with
    | none => simp [mergeRecords_cons_of_refused hcombine] at h
    | some shape =>
      rw [mergeRecords_cons_of_combine hcombine] at h
      rw [ih (List.pairwise_cons.1 hasc).2 h id, shape?_insert]
      by_cases hkey : key = id
      · subst hkey
        have hnone := lookupEntry_head_eq_none hasc
        simp only [] at hnone
        have hnone : lookupEntry key rest = none := lookupEntry_head_eq_none hasc
        simp [hnone, hcombine]
      · simp [hkey]

/-- A document of a known version is accepted exactly when no record of it is refused. -/
theorem mergeDocument_eq_ok_iff {document : Document} (hs : document.isSupported = true)
    (model : Model) : (∃ merged, model.mergeDocument document = (merged, .ok ())) ↔
      ∀ id record, document.shapes.get? id = some record →
        combine (model.shape? id) record ≠ none := by
  simp only [mergeDocument, hs, if_true]
  rw [mergeRecords_eq_ok_iff document.shapes.ascending]
  constructor
  · intro h id record hget
    exact h (id, record) (Dictionary.mem_entries_iff.2 hget)
  · rintro h ⟨id, record⟩ hmem
    exact h id record (Dictionary.mem_entries_iff.1 hmem)

/-- Only documents of a known version are accepted, and with them all their records. -/
theorem mergeDocument_ok {document : Document} {model merged : Model}
    (h : model.mergeDocument document = (merged, .ok ())) :
    document.isSupported = true ∧
      model.mergeRecords document.shapes.entries = (merged, .ok ()) := by
  unfold mergeDocument at h
  split at h
  · exact ⟨‹_›, h⟩
  · cases h

/-- What every id holds after an accepted merge. -/
theorem shape?_mergeDocument {document : Document} {model merged : Model}
    (h : model.mergeDocument document = (merged, .ok ())) (id : String) :
    merged.shape? id = outcomeAt (model.shape? id) (document.shapes.get? id) :=
  shape?_mergeRecords document.shapes.ascending (mergeDocument_ok h).2 id

/-! ## Documents one after another -/

/-- Merges documents in order, up to the first one that is refused. -/
def mergeAll (model : Model) : List Document → Model × Except Fault Unit
  | [] => (model, .ok ())
  | document :: documents =>
    match model.mergeDocument document with
    | (merged, .ok ()) => mergeAll merged documents
    | (merged, .error fault) => (merged, .error fault)

theorem mergeAll_cons_of_ok {model merged : Model} {document : Document}
    (documents : List Document) (h : model.mergeDocument document = (merged, .ok ())) :
    model.mergeAll (document :: documents) = merged.mergeAll documents := by
  simp [mergeAll, h]

/-- Nothing after a refused document is merged. -/
theorem mergeAll_cons_of_refused {model : Model} {document : Document}
    (documents : List Document) (h : ¬ ∃ merged, model.mergeDocument document = (merged, .ok ())) :
    ¬ ∃ merged, model.mergeAll (document :: documents) = (merged, .ok ()) := by
  rintro ⟨merged, hall⟩
  unfold mergeAll at hall
  split at hall
  · rename_i first hfirst
    exact h ⟨first, hfirst⟩
  · cases hall

/-- Loading files merges the documents in them: it stores the same shapes and is accepted in the
same cases. -/
theorem loadFiles_eq_mergeAll {workspace : Files.Workspace} {document : String → Document} :
    ∀ {paths : List String},
      (∀ path ∈ paths, ∃ text, workspace.readText path = .ok text ∧
        Document.read text = .ok (document path)) →
      ∀ model : Model,
        (loadFiles workspace paths model).state = (model.mergeAll (paths.map document)).1 ∧
          ((loadFiles workspace paths model).outcome = .ok () ↔
            (model.mergeAll (paths.map document)).2 = .ok ()) := by
  intro paths
  induction paths with
  | nil => exact fun _ model => ⟨rfl, Iff.rfl⟩
  | cons path paths ih =>
    intro h model
    obtain ⟨text, hread, hdocument⟩ := h path List.mem_cons_self
    have hrest := ih fun other hmem => h other (List.mem_cons_of_mem _ hmem)
    have hmerge : model.merge text = model.mergeDocument (document path) := by
      simp [merge, hdocument]
    rcases hresult : model.mergeDocument (document path) with ⟨merged, _ | _⟩
    · simp [loadFiles, loadFile, hread, hmerge, hresult, mergeAll, Activity.andThen,
        Activity.failed]
    · obtain ⟨hstate, houtcome⟩ := hrest merged
      simp [loadFiles, loadFile, hread, hmerge, hresult, mergeAll, Activity.andThen, hstate,
        houtcome]

end Model

end EntityForge

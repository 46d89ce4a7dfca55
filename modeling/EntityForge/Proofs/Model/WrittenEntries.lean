import EntityForge.Proofs.Json.MappedRecord
import EntityForge.Proofs.Model.MergeHistory

/-!
# Entries of a document's text

The text of a document may have several entries of one id. Reading it as a document keeps the last
of them, and the check for ids that are defined again only sees what reading has kept. So an
accepted merge puts the last entry of every id into effect, and it is as if the earlier ones had not
been written (`Model.merge_last_entries`). Entries of distinct ids all take effect.

To speak of what is written, `WrittenDocument.read` reads the same texts and keeps every entry
(`Document.read_eq`).
-/

set_option autoImplicit false

namespace EntityForge

open Json (Fields Reader)

/-! ## Documents as they are written -/

/-- A document as it is written: its version and all its entries in the order of the text. -/
structure WrittenDocument where
  /-- The version of the document's format. -/
  version : String
  /-- The records with their ids; an id may come more than once. -/
  entries : List (String × Shape)

namespace WrittenDocument

/-- What is merged of a document as it is written. -/
def document (written : WrittenDocument) : Document := ⟨written.version, .ofList written.entries⟩

/-- Reads a document and keeps all its entries. -/
def reader : Reader WrittenDocument :=
  Reader.record "AstDocument"
    (.cons "smithy" none Reader.text <|
      .cons "shapes" (some []) (Reader.entries Shape.reader) .nil)
    fun (version, entries, _) => ⟨version, entries⟩

/-- Reads a document as it is written from its text. -/
def read (text : String) : Except Fault WrittenDocument :=
  match Json.read reader text with
  | .ok written => .ok written
  | .error refusal => .error (.json refusal)

end WrittenDocument

theorem Document.reader_eq : Document.reader = WrittenDocument.reader.mapped (·.document) := by
  have hfields := (Fields.Mapped.nil.cons "shapes" (some []) (Reader.entries Shape.reader)
    Dictionary.ofList).same "smithy" none Reader.text
  rw [← Reader.dictionary_eq_mapped] at hfields
  exact Reader.record_mapped hfields "AstDocument" fun _ => rfl

/-- Reading a document keeps of its entries the last one of every id. -/
theorem Document.read_eq (text : String) :
    Document.read text = (WrittenDocument.read text).map (·.document) := by
  rw [Document.read, Document.reader_eq, Json.read_mapped, WrittenDocument.read]
  cases Json.read WrittenDocument.reader text <;> rfl

/-! ## Entries that take effect -/

/-- What a stored shape keeps of a record of its id: all but the traits of a definition, and the
ids of the traits that are applied. -/
structure Shape.CarriesOut (shape record : Shape) : Prop where
  /-- A definition gives the type, the members and the mixins. -/
  defined : record.isPending = false →
    shape.type = record.type ∧ shape.members = record.members ∧ shape.mixins = record.mixins
  /-- Every trait that is applied is there. -/
  applied : record.isPending = true → ∀ traitId,
    (record.traits.get? traitId).isSome → (shape.traits.get? traitId).isSome

namespace Model

variable {model merged : Model} {written : WrittenDocument} {text id : String} {record : Shape}

/-- A record of an id has taken effect in a model. -/
def InEffect (model : Model) (id : String) (record : Shape) : Prop :=
  ∃ shape, model.shape? id = some shape ∧ shape.CarriesOut record

/-- Combining a record with what is stored carries it out. -/
theorem carriesOut_of_combine {stored : Option Shape} {shape : Shape}
    (h : combine stored record = some shape) : shape.CarriesOut record := by
  cases stored with
  | none =>
    cases h
    exact ⟨fun _ => ⟨rfl, rfl, rfl⟩, fun _ _ => id⟩
  | some old =>
    cases hrecord : record.isPending with
    | true =>
      have hshape : shape = old.withTraits record.traits := by
        simpa [hrecord] using h.symm
      subst hshape
      refine ⟨by simp [hrecord], fun _ traitId htrait => ?_⟩
      rw [Shape.get?_withTraits, Option.isSome_or, htrait, Bool.true_or]
    | false =>
      cases hold : old.isPending with
      | false => simp [hrecord, hold] at h
      | true =>
        have hshape : shape = record.withTraits old.traits := by
          simpa [hrecord, hold] using h.symm
        subst hshape
        exact ⟨fun _ => ⟨rfl, rfl, rfl⟩, by simp [hrecord]⟩

/-- Every record of a document that is accepted takes effect. -/
theorem inEffect_of_mergeDocument {document : Document}
    (h : model.mergeDocument document = (merged, .ok ()))
    (hget : document.shapes.get? id = some record) : merged.InEffect id record := by
  obtain ⟨shape, hcombine⟩ := Option.ne_none_iff_exists'.1
    ((mergeDocument_eq_ok_iff (mergeDocument_ok h).1 model).1 ⟨merged, h⟩ id record hget)
  refine ⟨shape, ?_, carriesOut_of_combine hcombine⟩
  rw [shape?_mergeDocument h, hget, outcomeAt, hcombine]

/-- A text that can be read is merged as the last entries of its ids. -/
theorem merge_of_written (hread : WrittenDocument.read text = .ok written) :
    model.merge text = model.mergeDocument written.document := by
  rw [merge, Document.read_eq, hread]
  rfl

/-- A text is accepted if it can be read, its version is known, and the last entry of an id is no
definition where the model has one. -/
theorem merge_eq_ok_iff (model : Model) (text : String) :
    (∃ merged, model.merge text = (merged, .ok ())) ↔
      ∃ written, WrittenDocument.read text = .ok written ∧ written.document.isSupported = true ∧
        ∀ id record, LastEntry written.entries id record → record.isPending = false →
          model.definition? id = none := by
  cases hread : WrittenDocument.read text with
  | error fault =>
    have hrefused : model.merge text = (model, .error fault) := by
      rw [merge, Document.read_eq, hread]
      rfl
    simp [hrefused]
  | ok written =>
    simp only [merge_of_written hread, Except.ok.injEq, exists_eq_left']
    have hlast : ∀ id record, written.document.shapes.get? id = some record ↔
        LastEntry written.entries id record := fun id record => Dictionary.get?_ofList_eq_some_iff
    -- a record is refused only for the sake of what the model has, not of the text
    have hrefused : ∀ id record, combine (model.shape? id) record ≠ none ↔
        (record.isPending = false → model.definition? id = none) := by
      intro id record
      rw [ne_eq, combine_eq_none_iff, ← definition?_isSome_iff, not_and,
        Option.not_isSome_iff_eq_none]
    constructor
    · rintro ⟨merged, hmerge⟩
      have hsupported := (mergeDocument_ok hmerge).1
      refine ⟨hsupported, fun id record hrecord => (hrefused id record).1 ?_⟩
      exact (mergeDocument_eq_ok_iff hsupported model).1 ⟨merged, hmerge⟩ id record
        ((hlast id record).2 hrecord)
    · rintro ⟨hsupported, hfresh⟩
      refine (mergeDocument_eq_ok_iff hsupported model).2 fun id record hget => ?_
      exact (hrefused id record).2 (hfresh id record ((hlast id record).1 hget))

/-- A merge that is accepted puts the last entry of every id into effect, and an entry with another
one of its id behind it might as well not have been written. A definition is refused where the model
has one already, but not where the text has one. -/
theorem merge_last_entries (model : Model) (text : String) :
    ((∃ merged, model.merge text = (merged, .ok ())) ↔
      ∃ written, WrittenDocument.read text = .ok written ∧ written.document.isSupported = true ∧
        ∀ id record, LastEntry written.entries id record → record.isPending = false →
          model.definition? id = none) ∧
    ∀ merged written, model.merge text = (merged, .ok ()) →
      WrittenDocument.read text = .ok written →
        (∀ id record, LastEntry written.entries id record → merged.InEffect id record) ∧
        (∀ before after id record, written.entries = before ++ (id, record) :: after →
          (∃ later ∈ after, later.1 = id) →
            model.mergeDocument (WrittenDocument.document ⟨written.version, before ++ after⟩)
              = (merged, .ok ())) ∧
        ((written.entries.map (·.1)).Nodup →
          ∀ entry ∈ written.entries, merged.InEffect entry.1 entry.2) := by
  refine ⟨merge_eq_ok_iff model text, fun merged written hmerge hread => ?_⟩
  rw [merge_of_written hread] at hmerge
  have hlast : ∀ id record, LastEntry written.entries id record → merged.InEffect id record :=
    fun id record h => inEffect_of_mergeDocument hmerge (Dictionary.get?_ofList_eq_some_iff.2 h)
  refine ⟨hlast, fun before after id record hsplit hagain => ?_, fun hnodup entry hmem => ?_⟩
  · rw [← hmerge, WrittenDocument.document, WrittenDocument.document, hsplit,
      Dictionary.ofList_of_repeated hagain]
  · exact hlast entry.1 entry.2 (lastEntry_of_nodup hnodup hmem)

/-- A document that defines a structure and, under the same id, a list. -/
def redefiningText : String :=
  "\x7b\"smithy\": \"2.0\", \"shapes\": \x7b" ++
    "\"demo#Task\": \x7b\"type\": \"structure\"\x7d, " ++
    "\"demo#Task\": \x7b\"type\": \"list\"\x7d\x7d\x7d"

theorem read_redefiningText : WrittenDocument.read redefiningText
    = .ok ⟨"2.0", [("demo#Task", ⟨Shape.structureType, .empty, [], .empty⟩),
        ("demo#Task", ⟨"list", .empty, [], .empty⟩)]⟩ := rfl

theorem merge_redefiningText : empty.merge redefiningText
    = (⟨.ofList [("demo#Task", ⟨"list", .empty, [], .empty⟩)]⟩, .ok ()) := rfl

/-- Of the structure and the list, only the list counts. -/
theorem merge_last_entries_redefined : ∃ merged,
    empty.merge redefiningText = (merged, .ok ()) ∧
      merged.InEffect "demo#Task" ⟨"list", .empty, [], .empty⟩ ∧
      empty.mergeDocument
          (WrittenDocument.document ⟨"2.0", [("demo#Task", ⟨"list", .empty, [], .empty⟩)]⟩)
        = (merged, .ok ()) := by
  obtain ⟨hlast, hagain, -⟩ := (merge_last_entries empty redefiningText).2 _ _
    merge_redefiningText read_redefiningText
  refine ⟨_, merge_redefiningText, hlast _ _ ⟨[_], [], rfl, nofun⟩, ?_⟩
  exact hagain [] [_] _ _ rfl ⟨_, List.mem_cons_self, rfl⟩

/-- A text with two definitions of one id is accepted, and the first of them is lost. -/
theorem not_every_entry_in_effect :
    ¬ ∀ (model merged : Model) (text : String) (written : WrittenDocument),
      model.merge text = (merged, .ok ()) → WrittenDocument.read text = .ok written →
        ∀ entry ∈ written.entries, merged.InEffect entry.1 entry.2 := by
  intro h
  obtain ⟨shape, hshape, hcarries⟩ :=
    h _ _ _ _ merge_redefiningText read_redefiningText _ List.mem_cons_self
  obtain rfl : (⟨"list", .empty, [], .empty⟩ : Shape) = shape := Option.some.inj hshape
  -- a list is stored, and the first entry is a structure
  have htype := (hcarries.defined (by decide)).1
  exact absurd htype (by decide)

end Model

end EntityForge

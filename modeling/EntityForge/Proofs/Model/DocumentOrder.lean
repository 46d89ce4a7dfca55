import EntityForge.Proofs.Model.Merging

/-!
# The order of documents

Which document comes first does not matter when a model is loaded. Documents can be merged one after
another exactly when no two of them define one id; then every id holds the type, the members and the
mixins of its definition, and of every trait the value that was applied last, or else the
definition's own value, wherever the definition stands in the sequence
(`Model.mergeAll_order_irrelevant`).

The proof follows a sequence of documents from the left. `Model.Holds` says what an id holds once
some documents are merged; one accepted document keeps it (`Model.holds_mergeDocument`), and a
document is refused exactly when it defines an id that a document before it defines
(`Model.mergeDocument_eq_ok_iff_definedOnce`). Both look at one id at a time, where three kinds of
records can meet (`Model.Holds.snoc_of_combine`).
-/

set_option autoImplicit false

namespace EntityForge

/-! ## What one document says of an id -/

/-- The definition that a document has under an id. -/
def Document.definition? (document : Document) (id : String) : Option Shape :=
  (document.shapes.get? id).filter (fun record => !record.isPending)

/-- The value that a document applies to a trait of an id that it does not define. -/
def Document.applied? (document : Document) (id traitId : String) : Option Json :=
  ((document.shapes.get? id).filter Shape.isPending).bind fun record => record.traits.get? traitId

namespace Document

variable {document : Document} {id : String} {record : Shape}

theorem definition?_of_absent (h : document.shapes.get? id = none) :
    document.definition? id = none := by
  simp [definition?, h]

theorem applied?_of_absent (h : document.shapes.get? id = none) (traitId : String) :
    document.applied? id traitId = none := by
  simp [applied?, h]

theorem definition?_of_pending (h : document.shapes.get? id = some record)
    (hp : record.isPending = true) : document.definition? id = none := by
  simp [definition?, h, hp]

theorem applied?_of_pending (h : document.shapes.get? id = some record)
    (hp : record.isPending = true) (traitId : String) :
    document.applied? id traitId = record.traits.get? traitId := by
  simp [applied?, h, Option.filter, hp]

theorem definition?_of_definition (h : document.shapes.get? id = some record)
    (hd : record.isPending = false) : document.definition? id = some record := by
  simp [definition?, h, hd]

theorem applied?_of_definition (h : document.shapes.get? id = some record)
    (hd : record.isPending = false) (traitId : String) : document.applied? id traitId = none := by
  simp [applied?, h, Option.filter, hd]

theorem definition?_eq_some_iff :
    document.definition? id = some record ↔
      document.shapes.get? id = some record ∧ record.isPending = false := by
  simp [definition?, Option.filter_eq_some_iff]

end Document

namespace Model

/-! ## What a sequence of documents says of an id -/

/-- No two documents of a sequence define one id. -/
def DefinedOnce (documents : List Document) : Prop :=
  documents.Pairwise fun a b => ∀ id, ¬ ((a.definition? id).isSome ∧ (b.definition? id).isSome)

/-- The first definition of an id in a sequence of documents. -/
def definedBy? (documents : List Document) (id : String) : Option Shape :=
  documents.findSome? fun document => document.definition? id

/-- The value that the last document with a value for it applies to a trait of an id. -/
def lastApplied? (documents : List Document) (id traitId : String) : Option Json :=
  documents.reverse.findSome? fun document => document.applied? id traitId

/-- No two documents of a sequence apply different values to one trait of one id. -/
def AppliesAgree (documents : List Document) : Prop :=
  ∀ a ∈ documents, ∀ b ∈ documents, ∀ id traitId v w,
    a.applied? id traitId = some v → b.applied? id traitId = some w → v = w

theorem definedBy?_snoc (before : List Document) (document : Document) (id : String) :
    definedBy? (before ++ [document]) id
      = (definedBy? before id).or (document.definition? id) := by
  simp [definedBy?, List.findSome?_append]

theorem lastApplied?_snoc (before : List Document) (document : Document) (id traitId : String) :
    lastApplied? (before ++ [document]) id traitId
      = (document.applied? id traitId).or (lastApplied? before id traitId) := by
  cases h : document.applied? id traitId <;> simp [lastApplied?, h]

theorem definedBy?_isSome_iff {documents : List Document} {id : String} :
    (definedBy? documents id).isSome ↔
      ∃ document ∈ documents, (document.definition? id).isSome := by
  simp [definedBy?, List.findSome?_isSome_iff]

theorem definedBy?_eq_none_iff {documents : List Document} {id : String} :
    definedBy? documents id = none ↔ ∀ document ∈ documents, document.definition? id = none := by
  simp [definedBy?]

theorem definedOnce_snoc_iff {before : List Document} {document : Document} :
    DefinedOnce (before ++ [document]) ↔
      DefinedOnce before ∧
        ∀ id, ¬ ((definedBy? before id).isSome ∧ (document.definition? id).isSome) := by
  simp only [DefinedOnce, List.pairwise_append, List.pairwise_singleton, List.mem_singleton,
    forall_eq, true_and, definedBy?_isSome_iff]
  refine and_congr_right fun _ => ?_
  constructor
  · rintro h id ⟨⟨other, hmem, hother⟩, hdocument⟩
    exact h other hmem id ⟨hother, hdocument⟩
  · rintro h other hmem id ⟨hother, hdocument⟩
    exact h id ⟨⟨other, hmem, hother⟩, hdocument⟩

/-- Where no id is defined twice, every definition is the one of its id. -/
theorem definedBy?_of_mem {documents : List Document} (hone : DefinedOnce documents)
    {document : Document} (hmem : document ∈ documents) {id : String} {record : Shape}
    (h : document.definition? id = some record) : definedBy? documents id = some record := by
  induction documents with
  | nil => simp at hmem
  | cons first rest ih =>
    obtain ⟨hfirst, hrest⟩ := List.pairwise_cons.1 hone
    rcases List.mem_cons.1 hmem with rfl | hmem
    · simp [definedBy?, h]
    · have hnone : first.definition? id = none := by
        have hboth := hfirst document hmem id
        rw [h] at hboth
        simpa using hboth
      have hrec := ih hrest hmem
      simpa [definedBy?, hnone] using hrec

/-! ## What an id holds -/

/-- A shape is what documents make of an id: it is mentioned there, it has the type, the members and
the mixins of the definition or else waits for one, and it has the values that were applied last and
the definition's own values for the other traits. -/
structure Settled (documents : List Document) (id : String) (shape : Shape) : Prop where
  /-- Some document has a record under the id. -/
  mentioned : ∃ document ∈ documents, (document.shapes.get? id).isSome
  /-- All but the traits comes from the definition. -/
  body : match definedBy? documents id with
    | some record =>
      shape.type = record.type ∧ shape.members = record.members ∧ shape.mixins = record.mixins
    | none => shape.isPending = true
  /-- What is applied wins over what the definition says. -/
  traits : ∀ traitId, shape.traits.get? traitId
    = (lastApplied? documents id traitId).or
        ((definedBy? documents id).bind fun record => record.traits.get? traitId)

/-- What an id holds once documents are merged. -/
def Holds (documents : List Document) (id : String) : Option Shape → Prop
  | none => ∀ document ∈ documents, document.shapes.get? id = none
  | some shape => Settled documents id shape

theorem holds_nil (id : String) : Holds [] id none := fun _ h => absurd h List.not_mem_nil

/-- A shape that documents make of an id is a definition exactly when one of them defines it. -/
theorem Settled.isPending_eq_false_iff {documents : List Document} {id : String} {shape : Shape}
    (h : Settled documents id shape) :
    shape.isPending = false ↔ (definedBy? documents id).isSome := by
  have hbody := h.body
  cases hdefined : definedBy? documents id with
  | none =>
    rw [hdefined] at hbody
    simp only [] at hbody
    simp [hbody]
  | some record =>
    rw [hdefined] at hbody
    obtain ⟨document, -, hrecord⟩ := List.exists_of_findSome?_eq_some hdefined
    have hnot := (Document.definition?_eq_some_iff.1 hrecord).2
    have hsame : shape.isPending = record.isPending := by
      unfold Shape.isPending
      rw [hbody.1]
    simp [hsame, hnot]

/-- Nothing is said of an id that is not mentioned. -/
theorem unsaid_of_absent {documents : List Document} {id : String}
    (h : ∀ document ∈ documents, document.shapes.get? id = none) :
    definedBy? documents id = none ∧ ∀ traitId, lastApplied? documents id traitId = none := by
  constructor
  · exact definedBy?_eq_none_iff.2 fun document hmem =>
      Document.definition?_of_absent (h document hmem)
  · intro traitId
    simp only [lastApplied?, List.findSome?_eq_none_iff, List.mem_reverse]
    exact fun document hmem => Document.applied?_of_absent (h document hmem) traitId

/-- A document is refused at an id exactly when it defines the id after another document did. -/
theorem Holds.combine_eq_none_iff {before : List Document} {id : String} {stored : Option Shape}
    (h : Holds before id stored) {document : Document} {record : Shape}
    (hget : document.shapes.get? id = some record) :
    combine stored record = none ↔
      (definedBy? before id).isSome ∧ (document.definition? id).isSome := by
  have hdocument : record.isPending = false ↔ (document.definition? id).isSome := by
    cases hp : record.isPending with
    | false => simp [Document.definition?_of_definition hget hp]
    | true => simp [Document.definition?_of_pending hget hp]
  rw [Model.combine_eq_none_iff, hdocument, and_comm]
  refine and_congr_left fun _ => ?_
  cases stored with
  | none => simp [(unsaid_of_absent h).1]
  | some shape =>
    rw [← Settled.isPending_eq_false_iff h]
    simp

/-- A document that does not mention the id changes nothing there. -/
theorem Holds.snoc_of_absent {before : List Document} {id : String} {stored : Option Shape}
    (h : Holds before id stored) {document : Document}
    (hget : document.shapes.get? id = none) : Holds (before ++ [document]) id stored := by
  cases stored with
  | none =>
    intro other hmem
    rcases List.mem_append.1 hmem with hmem | hmem
    · exact h other hmem
    · rw [List.mem_singleton.1 hmem, hget]
  | some shape =>
    obtain ⟨other, hmem, hother⟩ := h.mentioned
    refine ⟨⟨other, List.mem_append_left _ hmem, hother⟩, ?_, fun traitId => ?_⟩
    · rw [definedBy?_snoc, Document.definition?_of_absent hget, Option.or_none]
      exact h.body
    · rw [definedBy?_snoc, Document.definition?_of_absent hget, Option.or_none,
        lastApplied?_snoc, Document.applied?_of_absent hget, Option.none_or]
      exact h.traits traitId

/-- An accepted record of a document and what was held before are held together. -/
theorem Holds.snoc_of_combine {before : List Document} {id : String} {stored : Option Shape}
    (h : Holds before id stored) {document : Document} {record shape : Shape}
    (hget : document.shapes.get? id = some record) (hshape : combine stored record = some shape) :
    Holds (before ++ [document]) id (some shape) := by
  have hmentioned : ∃ other ∈ before ++ [document], (other.shapes.get? id).isSome :=
    ⟨document, by simp, by simp [hget]⟩
  cases hp : record.isPending with
  | true =>
    have hdefinition := Document.definition?_of_pending hget hp
    have happlied := Document.applied?_of_pending hget hp
    cases stored with
    | none =>
      -- the record is the first that is said of the id, and it waits
      obtain ⟨hdefined, hlast⟩ := unsaid_of_absent h
      cases hshape
      refine ⟨hmentioned, ?_, fun traitId => ?_⟩
      · simpa [definedBy?_snoc, hdefined, hdefinition] using hp
      · simp [definedBy?_snoc, lastApplied?_snoc, hdefined, hdefinition, happlied, hlast]
    | some old =>
      -- the record only adds traits, and they win
      have hshape : shape = old.withTraits record.traits := by
        simpa [hp] using hshape.symm
      subst hshape
      refine ⟨hmentioned, ?_, fun traitId => ?_⟩
      · rw [definedBy?_snoc, hdefinition, Option.or_none]
        exact h.body
      · rw [Shape.get?_withTraits, h.traits traitId, definedBy?_snoc, hdefinition, Option.or_none,
          lastApplied?_snoc, happlied, Option.or_assoc]
  | false =>
    have hdefinition := Document.definition?_of_definition hget hp
    have happlied := Document.applied?_of_definition hget hp
    -- as the record was accepted, no document before has defined the id
    have hdefined : definedBy? before id = none := by
      have hnone : ¬ combine stored record = none := by simp [hshape]
      rw [h.combine_eq_none_iff hget] at hnone
      simpa [hdefinition] using hnone
    have hnow : definedBy? (before ++ [document]) id = some record := by
      rw [definedBy?_snoc, hdefined, hdefinition, Option.none_or]
    cases stored with
    | none =>
      have hlast := (unsaid_of_absent h).2
      cases hshape
      refine ⟨hmentioned, ?_, fun traitId => ?_⟩
      · rw [hnow]
        exact ⟨rfl, rfl, rfl⟩
      · simp [hnow, lastApplied?_snoc, happlied, hlast]
    | some old =>
      -- what was pending wins over the definition's own traits
      have hold : old.isPending = true := by
        have hnot := not_congr (Settled.isPending_eq_false_iff h)
        rw [hdefined] at hnot
        simpa using hnot
      have hshape : shape = record.withTraits old.traits := by
        simpa [hp, hold] using hshape.symm
      subst hshape
      refine ⟨hmentioned, ?_, fun traitId => ?_⟩
      · rw [hnow]
        exact ⟨rfl, rfl, rfl⟩
      · rw [Shape.get?_withTraits, h.traits traitId, hdefined, hnow, lastApplied?_snoc, happlied]
        simp

/-- What a defined id holds. -/
theorem Holds.exists_of_definition {documents : List Document} {id : String}
    {stored : Option Shape} (h : Holds documents id stored) (hone : DefinedOnce documents)
    {document : Document} (hmem : document ∈ documents) {record : Shape}
    (hrecord : document.definition? id = some record) :
    ∃ shape, stored = some shape ∧ shape.type = record.type ∧ shape.members = record.members ∧
      shape.mixins = record.mixins ∧
      ∀ traitId, shape.traits.get? traitId
        = (lastApplied? documents id traitId).or (record.traits.get? traitId) := by
  have hdefined := definedBy?_of_mem hone hmem hrecord
  cases stored with
  | none =>
    rw [(unsaid_of_absent h).1] at hdefined
    cases hdefined
  | some shape =>
    have hbody := Settled.body h
    rw [hdefined] at hbody
    obtain ⟨htype, hmembers, hmixins⟩ := hbody
    refine ⟨shape, rfl, htype, hmembers, hmixins, fun traitId => ?_⟩
    rw [Settled.traits h, hdefined, Option.bind_some]

/-- What an id holds that is only applied to. -/
theorem Holds.exists_of_pending {documents : List Document} {id : String}
    {stored : Option Shape} (h : Holds documents id stored)
    (hnone : ∀ document ∈ documents, document.definition? id = none)
    (hmentioned : ∃ document ∈ documents, (document.shapes.get? id).isSome) :
    ∃ shape, stored = some shape ∧ shape.isPending = true ∧
      ∀ traitId, shape.traits.get? traitId = lastApplied? documents id traitId := by
  have hdefined := definedBy?_eq_none_iff.2 hnone
  cases stored with
  | none =>
    obtain ⟨document, hmem, hsome⟩ := hmentioned
    rw [h document hmem] at hsome
    simp at hsome
  | some shape =>
    have hbody := Settled.body h
    rw [hdefined] at hbody
    refine ⟨shape, rfl, hbody, fun traitId => ?_⟩
    rw [Settled.traits h, hdefined, Option.bind_none, Option.or_none]

/-- An id that no document mentions holds nothing. -/
theorem Holds.eq_none_of_absent {documents : List Document} {id : String}
    {stored : Option Shape} (h : Holds documents id stored)
    (habsent : ∀ document ∈ documents, document.shapes.get? id = none) : stored = none := by
  cases stored with
  | none => rfl
  | some shape =>
    obtain ⟨document, hmem, hsome⟩ := Settled.mentioned h
    rw [habsent document hmem] at hsome
    simp at hsome

/-! ## What a run of merges leaves -/

/-- One document is accepted exactly when it defines no id that is defined already. -/
theorem mergeDocument_eq_ok_iff_definedOnce {before : List Document} {model : Model}
    (hone : DefinedOnce before) (h : ∀ id, Holds before id (model.shape? id))
    {document : Document} (hs : document.isSupported = true) :
    (∃ merged, model.mergeDocument document = (merged, .ok ())) ↔
      DefinedOnce (before ++ [document]) := by
  rw [mergeDocument_eq_ok_iff hs, definedOnce_snoc_iff, and_iff_right hone]
  constructor
  · rintro hrecords id ⟨hbefore, hdocument⟩
    obtain ⟨record, hrecord⟩ := Option.isSome_iff_exists.1 hdocument
    have hget := (Document.definition?_eq_some_iff.1 hrecord).1
    exact hrecords id record hget (((h id).combine_eq_none_iff hget).2 ⟨hbefore, hdocument⟩)
  · intro hids id record hget hrefused
    exact hids id (((h id).combine_eq_none_iff hget).1 hrefused)

/-- One accepted document keeps what the ids hold. -/
theorem holds_mergeDocument {before : List Document} {model merged : Model}
    (h : ∀ id, Holds before id (model.shape? id)) {document : Document}
    (hs : document.isSupported = true) (hm : model.mergeDocument document = (merged, .ok ())) :
    ∀ id, Holds (before ++ [document]) id (merged.shape? id) := by
  intro id
  rw [shape?_mergeDocument hm id]
  cases hget : document.shapes.get? id with
  | none => exact (h id).snoc_of_absent hget
  | some record =>
    have hne := (mergeDocument_eq_ok_iff hs model).1 ⟨merged, hm⟩ id record hget
    obtain ⟨shape, hshape⟩ := Option.ne_none_iff_exists'.1 hne
    simp only [outcomeAt, hshape]
    exact (h id).snoc_of_combine hget hshape

/-- What the ids hold after all documents, and when there is such a model. -/
theorem mergeAll_holds : ∀ (documents before : List Document) (model : Model),
    (∀ document ∈ documents, document.isSupported = true) → DefinedOnce before →
      (∀ id, Holds before id (model.shape? id)) →
        ((∃ merged, model.mergeAll documents = (merged, .ok ())) ↔
            DefinedOnce (before ++ documents)) ∧
          ∀ merged, model.mergeAll documents = (merged, .ok ()) →
            ∀ id, Holds (before ++ documents) id (merged.shape? id) := by
  intro documents
  -- on the documents still to come; `before` and the model grow with every step
  induction documents with
  | nil =>
    intro before model _ hone h
    rw [List.append_nil]
    refine ⟨⟨fun _ => hone, fun _ => ⟨model, rfl⟩⟩, fun merged hm => ?_⟩
    cases hm
    exact h
  | cons document rest ih =>
    intro before model hs hone h
    have hfirst := hs document List.mem_cons_self
    have hstep := mergeDocument_eq_ok_iff_definedOnce hone h hfirst
    have hsplit : before ++ document :: rest = (before ++ [document]) ++ rest := by simp
    by_cases hok : ∃ merged, model.mergeDocument document = (merged, .ok ())
    · obtain ⟨next, hnext⟩ := hok
      rw [mergeAll_cons_of_ok rest hnext, hsplit]
      have hrest : ∀ other ∈ rest, other.isSupported = true :=
        fun other hmem => hs other (List.mem_cons_of_mem _ hmem)
      exact ih (before ++ [document]) next hrest (hstep.1 ⟨next, hnext⟩)
        (holds_mergeDocument h hfirst hnext)
    · -- a refused document defines an id again, and so the whole sequence does
      have hrefused := mergeAll_cons_of_refused rest hok
      refine ⟨⟨fun hall => absurd hall hrefused, fun hall => ?_⟩, fun merged hm => ?_⟩
      · rw [hsplit] at hall
        exact absurd (hstep.2 (List.pairwise_append.1 hall).1) hok
      · exact absurd ⟨merged, hm⟩ hrefused

/-! ## Reordering -/

theorem definedOnce_perm {documents reordered : List Document} (h : documents.Perm reordered) :
    DefinedOnce documents ↔ DefinedOnce reordered :=
  h.pairwise_iff fun hab id hboth => hab id hboth.symm

/-- Where the applied values agree, the last one is any of them. -/
theorem lastApplied?_eq_some_iff {documents : List Document} (hagree : AppliesAgree documents)
    {id traitId : String} {value : Json} :
    lastApplied? documents id traitId = some value ↔
      ∃ document ∈ documents, document.applied? id traitId = some value := by
  constructor
  · intro h
    obtain ⟨document, hmem, happlied⟩ := List.exists_of_findSome?_eq_some h
    exact ⟨document, List.mem_reverse.1 hmem, happlied⟩
  · rintro ⟨document, hmem, happlied⟩
    have hsome : (lastApplied? documents id traitId).isSome := by
      rw [lastApplied?, List.findSome?_isSome_iff]
      exact ⟨document, List.mem_reverse.2 hmem, by simp [happlied]⟩
    obtain ⟨last, hlast⟩ := Option.isSome_iff_exists.1 hsome
    obtain ⟨other, hother, hvalue⟩ := List.exists_of_findSome?_eq_some hlast
    rw [hlast, hagree other (List.mem_reverse.1 hother) document hmem id traitId last value hvalue
      happlied]

theorem lastApplied?_perm {documents reordered : List Document} (h : documents.Perm reordered)
    (hagree : AppliesAgree documents) (id traitId : String) :
    lastApplied? documents id traitId = lastApplied? reordered id traitId := by
  have hagree' : AppliesAgree reordered := fun a ha b hb =>
    hagree a (h.mem_iff.2 ha) b (h.mem_iff.2 hb)
  apply Option.ext
  intro value
  rw [lastApplied?_eq_some_iff hagree, lastApplied?_eq_some_iff hagree']
  simp only [h.mem_iff]

theorem definedBy?_perm {documents reordered : List Document} (h : documents.Perm reordered)
    (hone : DefinedOnce documents) (id : String) :
    definedBy? documents id = definedBy? reordered id := by
  cases hdefined : definedBy? documents id with
  | none =>
    rw [definedBy?_eq_none_iff] at hdefined
    exact (definedBy?_eq_none_iff.2 fun document hmem => hdefined document (h.mem_iff.2 hmem)).symm
  | some record =>
    obtain ⟨document, hmem, hrecord⟩ := List.exists_of_findSome?_eq_some hdefined
    exact (definedBy?_of_mem ((definedOnce_perm h).1 hone) (h.mem_iff.1 hmem) hrecord).symm

/-- Two orders of documents make shapes with the same traits of an id, and the same shape if they
define it. -/
theorem Settled.eq_of_perm {documents reordered : List Document} {id : String}
    {shape twin : Shape} (hshape : Settled documents id shape) (htwin : Settled reordered id twin)
    (h : documents.Perm reordered) (hone : DefinedOnce documents)
    (hagree : AppliesAgree documents) :
    shape.traits = twin.traits ∧ ((definedBy? documents id).isSome → shape = twin) := by
  have hdefined := definedBy?_perm h hone id
  -- traits are compared look-up by look-up, so also those of a shape that still waits
  have htraits : shape.traits = twin.traits := by
    apply Dictionary.ext_get?
    intro traitId
    rw [hshape.traits, htwin.traits, hdefined, lastApplied?_perm h hagree]
  refine ⟨htraits, fun hsome => ?_⟩
  obtain ⟨record, hrecord⟩ := Option.isSome_iff_exists.1 hsome
  have hbody := hshape.body
  have hbody' := htwin.body
  rw [← hdefined, hrecord] at hbody'
  rw [hrecord] at hbody
  obtain ⟨htype, hmembers, hmixins⟩ := hbody
  obtain ⟨htype', hmembers', hmixins'⟩ := hbody'
  cases shape
  cases twin
  simp_all

/-- Two models that hold what a sequence of documents and a reordering of it say store the same ids,
the same definitions, and the same traits. -/
theorem eq_of_holds_perm {documents reordered : List Document} {model other : Model}
    (h : ∀ id, Holds documents id (model.shape? id))
    (h' : ∀ id, Holds reordered id (other.shape? id)) (hperm : documents.Perm reordered)
    (hone : DefinedOnce documents) (hagree : AppliesAgree documents) (id : String) :
    (model.shape? id).isSome = (other.shape? id).isSome ∧
      model.definition? id = other.definition? id ∧
      ∀ shape twin, model.shape? id = some shape → other.shape? id = some twin →
        shape.traits = twin.traits := by
  have hmodel := h id
  have hother := h' id
  unfold definition?
  cases hshape : model.shape? id with
  | none =>
    rw [hshape] at hmodel
    cases htwin : other.shape? id with
    | none => simp
    | some twin =>
      -- the id is mentioned in one order and not in the other
      rw [htwin] at hother
      obtain ⟨document, hmem, hsome⟩ := Settled.mentioned hother
      rw [hmodel document (hperm.mem_iff.2 hmem)] at hsome
      simp at hsome
  | some shape =>
    rw [hshape] at hmodel
    cases htwin : other.shape? id with
    | none =>
      rw [htwin] at hother
      obtain ⟨document, hmem, hsome⟩ := Settled.mentioned hmodel
      rw [hother document (hperm.mem_iff.1 hmem)] at hsome
      simp at hsome
    | some twin =>
      rw [htwin] at hother
      obtain ⟨htraits, hsame⟩ := Settled.eq_of_perm hmodel hother hperm hone hagree
      have hpending : shape.isPending = false ↔ twin.isPending = false := by
        rw [Settled.isPending_eq_false_iff hmodel, Settled.isPending_eq_false_iff hother,
          definedBy?_perm hperm hone id]
      refine ⟨rfl, ?_, ?_⟩
      · cases hp : shape.isPending with
        | true => simp_all [Option.filter]
        | false => rw [hsame ((Settled.isPending_eq_false_iff hmodel).1 hp)]
      · rintro _ _ ⟨⟩ ⟨⟩
        exact htraits

/-- The order of documents does not matter. They are all accepted exactly when no two of them define
one id. A defined id then has the type, the members and the mixins of its definition and of each
trait the value applied last, or else the definition's own; an id that is only applied to has the
values applied last. Any other order of documents whose applied values agree is accepted too, and
stores the same ids, the same definitions and the same traits. -/
theorem mergeAll_order_irrelevant (documents : List Document)
    (hs : ∀ document ∈ documents, document.isSupported = true) :
    ((∃ model, empty.mergeAll documents = (model, .ok ())) ↔ DefinedOnce documents) ∧
    (∀ model, empty.mergeAll documents = (model, .ok ()) →
      (∀ document ∈ documents, ∀ id record, document.definition? id = some record →
        ∃ shape, model.shape? id = some shape ∧ shape.type = record.type ∧
          shape.members = record.members ∧ shape.mixins = record.mixins ∧
          ∀ traitId, shape.traits.get? traitId
            = (lastApplied? documents id traitId).or (record.traits.get? traitId)) ∧
      (∀ id, (∀ document ∈ documents, document.definition? id = none) →
        (∃ document ∈ documents, (document.shapes.get? id).isSome) →
        ∃ shape, model.shape? id = some shape ∧ shape.isPending = true ∧
          ∀ traitId, shape.traits.get? traitId = lastApplied? documents id traitId) ∧
      ∀ id, (∀ document ∈ documents, document.shapes.get? id = none) → model.shape? id = none) ∧
    ∀ reordered, documents.Perm reordered → AppliesAgree documents →
      ((∃ model, empty.mergeAll documents = (model, .ok ())) ↔
        ∃ other, empty.mergeAll reordered = (other, .ok ())) ∧
      ∀ model other, empty.mergeAll documents = (model, .ok ()) →
        empty.mergeAll reordered = (other, .ok ()) → ∀ id,
          (model.shape? id).isSome = (other.shape? id).isSome ∧
          model.definition? id = other.definition? id ∧
          ∀ shape twin, model.shape? id = some shape → other.shape? id = some twin →
            shape.traits = twin.traits := by
  have hrun : ∀ sequence : List Document,
      (∀ document ∈ sequence, document.isSupported = true) →
        ((∃ model, empty.mergeAll sequence = (model, .ok ())) ↔ DefinedOnce sequence) ∧
          ∀ model, empty.mergeAll sequence = (model, .ok ()) →
            ∀ id, Holds sequence id (model.shape? id) :=
    fun sequence hsequence =>
      mergeAll_holds sequence [] empty hsequence List.Pairwise.nil holds_nil
  obtain ⟨haccepted, hheld⟩ := hrun documents hs
  refine ⟨haccepted, fun model hm => ⟨?_, ?_, ?_⟩, ?_⟩
  · intro document hmem id record hrecord
    exact (hheld model hm id).exists_of_definition (haccepted.1 ⟨model, hm⟩) hmem hrecord
  · intro id hnone hmentioned
    exact (hheld model hm id).exists_of_pending hnone hmentioned
  · intro id hnone
    exact (hheld model hm id).eq_none_of_absent hnone
  · intro reordered hperm hagree
    obtain ⟨haccepted', hheld'⟩ := hrun reordered fun document hmem =>
      hs document (hperm.mem_iff.2 hmem)
    refine ⟨haccepted.trans ((definedOnce_perm hperm).trans haccepted'.symm), ?_⟩
    intro model other hm hother
    exact eq_of_holds_perm (hheld model hm) (hheld' other hother) hperm
      (haccepted.1 ⟨model, hm⟩) hagree

/-- A document that defines a shape with two traits. -/
def definingSample : Document :=
  ⟨"2.0", .ofList [("demo#Order", ⟨"structure", .ofList [("id", "smithy.api#String")], [],
    .ofList [("demo#owner", .text "sales"), ("demo#table", .text "Drafts")]⟩)]⟩

/-- A document that applies one of the traits to the shape. -/
def applyingSample : Document :=
  ⟨"1.0", .ofList [("demo#Order", ⟨"apply", .empty, [],
    .ofList [("demo#table", .text "Orders")]⟩)]⟩

theorem applyingSample_definition? (id : String) : applyingSample.definition? id = none := by
  by_cases h : "demo#Order" = id <;>
    simp [Document.definition?, applyingSample, Shape.isPending, Shape.applyType, h]

theorem definingSample_applied? (id traitId : String) :
    definingSample.applied? id traitId = none := by
  by_cases h : "demo#Order" = id <;>
    simp [Document.applied?, definingSample, Shape.isPending, Shape.applyType, h]

/-- The applied value wins in both orders. -/
theorem mergeAll_order_irrelevant_sample :
    ∃ model other,
      empty.mergeAll [applyingSample, definingSample] = (model, .ok ()) ∧
      empty.mergeAll [definingSample, applyingSample] = (other, .ok ()) ∧
      model.definition? "demo#Order" = other.definition? "demo#Order" ∧
      ∃ shape, model.shape? "demo#Order" = some shape ∧
        shape.traits.get? "demo#table" = some (.text "Orders") ∧
        shape.traits.get? "demo#owner" = some (.text "sales") := by
  have hs : ∀ document ∈ [applyingSample, definingSample], document.isSupported = true := by
    decide
  have hone : DefinedOnce [applyingSample, definingSample] := by
    simp [DefinedOnce, applyingSample_definition?]
  have hagree : AppliesAgree [applyingSample, definingSample] := by
    intro a ha b hb id traitId v w hv hw
    simp only [List.mem_cons, List.not_mem_nil, or_false] at ha hb
    rcases ha with rfl | rfl <;> rcases hb with rfl | rfl <;> simp_all [definingSample_applied?]
  have hperm : [applyingSample, definingSample].Perm [definingSample, applyingSample] :=
    List.Perm.swap _ _ _
  obtain ⟨haccepted, hstored, hreordered⟩ := mergeAll_order_irrelevant _ hs
  obtain ⟨model, hm⟩ := haccepted.2 hone
  obtain ⟨hboth, hsame⟩ := hreordered _ hperm hagree
  obtain ⟨other, hother⟩ := hboth.1 ⟨model, hm⟩
  obtain ⟨shape, hshape, -, -, -, htraits⟩ := (hstored model hm).1 definingSample (by simp)
    "demo#Order" _ rfl
  refine ⟨model, other, hm, hother, (hsame model other hm hother _).2.1, shape, hshape, ?_, ?_⟩
  · rw [htraits]
    rfl
  · rw [htraits]
    rfl

end Model

end EntityForge

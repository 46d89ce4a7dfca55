import EntityForge.Proofs.Model.DocumentOrder

/-!
# Histories of merges

A model may be merged into any number of times, and a merge that is refused leaves what it had done
before the refusal. Whatever the merges are, the model only grows (`Model.mergeTexts_grows`): no id
disappears, a definition keeps its type, its members and its mixins, no trait is lost, and the value
of a trait changes only where a record is applied that carries it. The number of definitions never
decreases, and it is the number of ids of which a definition has taken effect.

`Model.TakesEffect` says which records of a document count: those up to the first id that both the
document and the model define. A merge, be it accepted or not, combines these records with what is
stored and leaves everything else alone (`Model.merge_step`). All that is kept is kept by one
combination (`Shape.Extends`), and so by a history.
-/

set_option autoImplicit false

namespace EntityForge

variable {model : Model} {document : Document} {id : String} {record : Shape}

namespace Model

/-! ## One merge, accepted or not -/

/-- All records up to an id are accepted. -/
def Reached (model : Model) (records : List (String × Shape)) (id : String) : Prop :=
  ∀ entry ∈ records, entry.1 ≤ id → combine (model.shape? entry.1) entry.2 ≠ none

/-- Storing the first record does not change which of the others are reached. -/
theorem reached_cons_iff {key : String} {shape : Shape} {records : List (String × Shape)}
    (hasc : Ascending ((key, record) :: records))
    (hcombine : combine (model.shape? key) record = some shape) :
    Reached model ((key, record) :: records) id ↔
      Reached ⟨model.shapes.insert key shape⟩ records id := by
  rw [Reached, List.forall_mem_cons]
  constructor
  · rintro ⟨-, hrest⟩ entry hmem hle
    rw [shape?_insert_of_mem_rest hasc hmem]
    exact hrest entry hmem hle
  · intro hrest
    refine ⟨fun _ => by simp [hcombine], fun entry hmem hle => ?_⟩
    rw [← shape?_insert_of_mem_rest hasc hmem]
    exact hrest entry hmem hle

/-- An id that is reached holds what its record makes of it, however the merge goes on. -/
theorem shape?_mergeRecords_of_reached {records : List (String × Shape)}
    (hasc : Ascending records) : ∀ {model : Model}, Reached model records id →
      (model.mergeRecords records).1.shape? id
        = outcomeAt (model.shape? id) (lookupEntry id records) := by
  induction records with
  | nil => exact fun _ => rfl
  | cons head rest ih =>
    intro model hreached
    obtain ⟨key, record⟩ := head
    cases hcombine : combine (model.shape? key) record with
    | none =>
      -- the merge ends here, behind the id
      have hlt : id < key := by
        apply String.not_le.1
        intro hle
        exact hreached (key, record) List.mem_cons_self hle hcombine
      have habsent : lookupEntry id ((key, record) :: rest) = none := by
        apply lookupEntry_eq_none_of_lt
        intro entry hmem
        rcases List.mem_cons.1 hmem with rfl | hmem
        · exact hlt
        · exact String.lt_trans hlt ((List.pairwise_cons.1 hasc).1 entry hmem)
      rw [mergeRecords_cons_of_refused hcombine, habsent, outcomeAt]
    | some shape =>
      rw [mergeRecords_cons_of_combine hcombine,
        ih (List.pairwise_cons.1 hasc).2 ((reached_cons_iff hasc hcombine).1 hreached),
        shape?_insert]
      by_cases hkey : key = id
      · subst hkey
        have hnone : lookupEntry key rest = none := lookupEntry_head_eq_none hasc
        simp [hnone, hcombine]
      · simp [hkey]

/-- An id that is not reached is left alone. -/
theorem shape?_mergeRecords_of_not_reached {records : List (String × Shape)}
    (hasc : Ascending records) : ∀ {model : Model}, ¬ Reached model records id →
      (model.mergeRecords records).1.shape? id = model.shape? id := by
  induction records with
  | nil => exact fun _ => rfl
  | cons head rest ih =>
    intro model hnot
    obtain ⟨key, record⟩ := head
    cases hcombine : combine (model.shape? key) record with
    | none => rw [mergeRecords_cons_of_refused hcombine]
    | some shape =>
      rw [reached_cons_iff hasc hcombine] at hnot
      rw [mergeRecords_cons_of_combine hcombine, ih (List.pairwise_cons.1 hasc).2 hnot,
        shape?_insert, if_neg]
      rintro rfl
      -- what is refused comes behind the first record
      apply hnot
      intro entry hmem hle
      exact absurd ((List.pairwise_cons.1 hasc).1 entry hmem) (String.not_lt.2 hle)

/-- A record of a document takes effect in a model: no id up to its own is defined by both. -/
def TakesEffect (model : Model) (document : Document) (id : String) (record : Shape) : Prop :=
  document.isSupported = true ∧ document.shapes.get? id = some record ∧
    ∀ earlier, earlier ≤ id →
      ¬ ((document.definition? earlier).isSome ∧ (model.definition? earlier).isSome)

theorem definition?_isSome_iff :
    (model.definition? id).isSome ↔ ∃ shape, model.shape? id = some shape ∧
      shape.isPending = false := by
  simp [definition?, Option.isSome_filter, Option.any_eq_true]

/-- A record is refused exactly where its document and the model both define its id. -/
theorem combine_eq_none_iff_both_define (hget : document.shapes.get? id = some record) :
    combine (model.shape? id) record = none ↔
      (document.definition? id).isSome ∧ (model.definition? id).isSome := by
  rw [combine_eq_none_iff, definition?_isSome_iff]
  simp [Document.definition?, hget, Option.isSome_filter]

theorem reached_iff :
    Reached model document.shapes.entries id ↔ ∀ earlier, earlier ≤ id →
      ¬ ((document.definition? earlier).isSome ∧ (model.definition? earlier).isSome) := by
  constructor
  · rintro hreached earlier hle ⟨hdefined, hstored⟩
    obtain ⟨other, hother⟩ := Option.isSome_iff_exists.1 hdefined
    have hget := (Document.definition?_eq_some_iff.1 hother).1
    exact hreached (earlier, other) (Dictionary.mem_entries_iff.2 hget) hle
      ((combine_eq_none_iff_both_define hget).2 ⟨hdefined, hstored⟩)
  · rintro hnone ⟨earlier, other⟩ hmem hle hcombine
    have hget := Dictionary.mem_entries_iff.1 hmem
    exact hnone earlier hle ((combine_eq_none_iff_both_define hget).1 hcombine)

/-- A merge combines a record that takes effect with what is stored. -/
theorem shape?_mergeDocument_of_takesEffect (h : model.TakesEffect document id record) :
    ∃ shape, combine (model.shape? id) record = some shape ∧
      (model.mergeDocument document).1.shape? id = some shape := by
  obtain ⟨hsupported, hget, hdefined⟩ := h
  have hreached := reached_iff.2 hdefined
  obtain ⟨shape, hshape⟩ := Option.ne_none_iff_exists'.1
    (hreached (id, record) (Dictionary.mem_entries_iff.2 hget) (String.le_refl id))
  refine ⟨shape, hshape, ?_⟩
  have hlookup : lookupEntry id document.shapes.entries = some record := hget
  simp only [mergeDocument, hsupported, if_true]
  rw [shape?_mergeRecords_of_reached document.shapes.ascending hreached, hlookup, outcomeAt]
  exact hshape

/-- A merge leaves an id alone of which no record takes effect. -/
theorem shape?_mergeDocument_of_not_takesEffect
    (h : ∀ record, ¬ model.TakesEffect document id record) :
    (model.mergeDocument document).1.shape? id = model.shape? id := by
  unfold mergeDocument
  split
  · rename_i hsupported
    by_cases hreached : Reached model document.shapes.entries id
    · have habsent : lookupEntry id document.shapes.entries = none := by
        apply Option.eq_none_iff_forall_not_mem.2
        intro record hget
        exact h record ⟨hsupported, hget, reached_iff.1 hreached⟩
      rw [shape?_mergeRecords_of_reached document.shapes.ascending hreached, habsent, outcomeAt]
    · exact shape?_mergeRecords_of_not_reached document.shapes.ascending hreached
  · rfl

/-- A record in a text takes effect when the text is merged into a model. -/
def TakesEffectIn (model : Model) (text : String) (id : String) (record : Shape) : Prop :=
  ∃ document, Document.read text = .ok document ∧ model.TakesEffect document id record

/-- What a merge does to an id, whether it is accepted or refused. -/
theorem merge_step (model : Model) (text id : String) :
    (∃ record shape, model.TakesEffectIn text id record ∧
      combine (model.shape? id) record = some shape ∧
      (model.merge text).1.shape? id = some shape) ∨
    (∀ record, ¬ model.TakesEffectIn text id record) ∧
      (model.merge text).1.shape? id = model.shape? id := by
  unfold merge
  cases hread : Document.read text with
  | error fault =>
    refine .inr ⟨?_, rfl⟩
    rintro record ⟨document, hdocument, -⟩
    rw [hread] at hdocument
    cases hdocument
  | ok document =>
    by_cases heffect : ∃ record, model.TakesEffect document id record
    · obtain ⟨record, heffect⟩ := heffect
      obtain ⟨shape, hcombine, hstored⟩ := shape?_mergeDocument_of_takesEffect heffect
      exact .inl ⟨record, shape, ⟨document, hread, heffect⟩, hcombine, hstored⟩
    · refine .inr ⟨?_, shape?_mergeDocument_of_not_takesEffect (not_exists.1 heffect)⟩
      rintro record ⟨other, hother, hrecord⟩
      rw [hread] at hother
      cases hother
      exact heffect ⟨record, hrecord⟩

end Model

/-! ## What a combination keeps -/

/-- A shape extends an older one of the same id. A definition is kept, and so is every trait; the
values of traits are kept but for those that are applied. -/
structure Shape.Extends (applied : String → Json → Prop) (old new : Shape) : Prop where
  /-- A definition keeps its type, its members and its mixins. -/
  body : old.isPending = false →
    new.type = old.type ∧ new.members = old.members ∧ new.mixins = old.mixins
  /-- A trait keeps its value, unless another one is applied. -/
  traits : ∀ traitId value, old.traits.get? traitId = some value →
    ∃ later, new.traits.get? traitId = some later ∧ (later = value ∨ applied traitId later)

namespace Shape

variable {applied applied' : String → Json → Prop} {old middle new : Shape}

theorem Extends.refl (applied : String → Json → Prop) (shape : Shape) :
    Extends applied shape shape :=
  ⟨fun _ => ⟨rfl, rfl, rfl⟩, fun _ value h => ⟨value, h, .inl rfl⟩⟩

theorem Extends.isPending_eq_false (h : Extends applied old new) (hold : old.isPending = false) :
    new.isPending = false := by
  rw [isPending, (h.body hold).1]
  exact hold

theorem Extends.trans (h : Extends applied old middle) (h' : Extends applied' middle new) :
    Extends (fun traitId value => applied traitId value ∨ applied' traitId value) old new where
  body hold := by
    obtain ⟨htype, hmembers, hmixins⟩ := h.body hold
    obtain ⟨htype', hmembers', hmixins'⟩ := h'.body (h.isPending_eq_false hold)
    exact ⟨htype'.trans htype, hmembers'.trans hmembers, hmixins'.trans hmixins⟩
  traits traitId value hvalue := by
    obtain ⟨between, hbetween, hsame⟩ := h.traits traitId value hvalue
    obtain ⟨later, hlater, hsame'⟩ := h'.traits traitId between hbetween
    refine ⟨later, hlater, ?_⟩
    rcases hsame' with rfl | happlied'
    · exact hsame.imp_right .inl
    · exact .inr (.inr happlied')

theorem Extends.imp (h : Extends applied old new)
    (himp : ∀ traitId value, applied traitId value → applied' traitId value) :
    Extends applied' old new where
  body := h.body
  traits traitId value hvalue := by
    obtain ⟨later, hlater, hsame⟩ := h.traits traitId value hvalue
    exact ⟨later, hlater, hsame.imp_right (himp traitId later)⟩

end Shape

/-- A record applies a value to a trait. -/
def Shape.Applies (record : Shape) (traitId : String) (value : Json) : Prop :=
  record.isPending = true ∧ record.traits.get? traitId = some value

namespace Model

/-- A record that is combined with a shape extends it, with the values that the record applies. -/
theorem extends_of_combine {old new : Shape} (h : combine (some old) record = some new) :
    Shape.Extends record.Applies old new := by
  cases hrecord : record.isPending with
  | true =>
    -- the record adds its traits, and they win
    have hnew : new = old.withTraits record.traits := by simpa [hrecord] using h.symm
    subst hnew
    refine ⟨fun _ => ⟨rfl, rfl, rfl⟩, fun traitId value hvalue => ?_⟩
    rw [Shape.get?_withTraits]
    cases happlied : record.traits.get? traitId with
    | none => exact ⟨value, hvalue, .inl rfl⟩
    | some later => exact ⟨later, rfl, .inr ⟨hrecord, happlied⟩⟩
  | false =>
    -- the record is a definition, so the shape waits for one, and its traits win
    cases hold : old.isPending with
    | false => simp [hrecord, hold] at h
    | true =>
      have hnew : new = record.withTraits old.traits := by
        simpa [hrecord, hold] using h.symm
      subst hnew
      refine ⟨fun hnot => by simp [hold] at hnot, fun traitId value hvalue => ?_⟩
      rw [Shape.get?_withTraits, hvalue]
      exact ⟨value, rfl, .inl rfl⟩

/-- What is stored is a definition if it was one before or if the record is one. -/
theorem isPending_of_combine {stored : Option Shape} {new : Shape}
    (h : combine stored record = some new) :
    new.isPending = false ↔
      (∃ old, stored = some old ∧ old.isPending = false) ∨ record.isPending = false := by
  cases stored with
  | none =>
    cases h
    simp
  | some old =>
    cases hrecord : record.isPending <;> cases hold : old.isPending <;>
      simp [hrecord, hold] at h <;> subst h <;> simp [hrecord, hold]

/-! ## Histories -/

/-- Merges texts one after another, whether the merges before were accepted or refused. -/
def mergeTexts (model : Model) (texts : List String) : Model :=
  texts.foldl (fun model text => (model.merge text).1) model

/-- A record takes effect at some point of a history of merges. -/
def TakesEffectDuring (model : Model) (texts : List String) (id : String) (record : Shape) : Prop :=
  ∃ before text after, texts = before ++ text :: after ∧
    (model.mergeTexts before).TakesEffectIn text id record

theorem takesEffectDuring_cons {text : String} {texts : List String} :
    model.TakesEffectDuring (text :: texts) id record ↔
      model.TakesEffectIn text id record ∨
        (model.merge text).1.TakesEffectDuring texts id record := by
  constructor
  · rintro ⟨before, other, after, hsplit, heffect⟩
    cases before with
    | nil =>
      cases hsplit
      exact .inl heffect
    | cons first before =>
      cases hsplit
      exact .inr ⟨before, other, after, rfl, heffect⟩
  · rintro (heffect | ⟨before, other, after, rfl, heffect⟩)
    · exact ⟨[], text, texts, rfl, heffect⟩
    · exact ⟨text :: before, other, after, rfl, heffect⟩

/-- A history extends every shape, with the values that are applied in it. -/
theorem shape?_mergeTexts (texts : List String) : ∀ {model : Model} {old : Shape},
    model.shape? id = some old → ∃ new, (model.mergeTexts texts).shape? id = some new ∧
      Shape.Extends (fun traitId value => ∃ record,
        model.TakesEffectDuring texts id record ∧ record.Applies traitId value) old new := by
  induction texts with
  | nil => exact fun {_ old} hold => ⟨old, hold, .refl _ old⟩
  | cons text texts ih =>
    intro model old hold
    -- the first merge extends the shape or leaves it alone
    have hfirst : ∃ middle, (model.merge text).1.shape? id = some middle ∧
        Shape.Extends (fun traitId value => ∃ record,
          model.TakesEffectIn text id record ∧ record.Applies traitId value) old middle := by
      rcases merge_step model text id with ⟨record, middle, heffect, hcombine, hstored⟩ | ⟨-, hsame⟩
      · rw [hold] at hcombine
        refine ⟨middle, hstored, (extends_of_combine hcombine).imp ?_⟩
        exact fun _ _ happlies => ⟨record, heffect, happlies⟩
      · exact ⟨old, hsame.trans hold, .refl _ old⟩
    obtain ⟨middle, hmiddle, hextends⟩ := hfirst
    obtain ⟨new, hnew, hextends'⟩ := ih hmiddle
    refine ⟨new, hnew, (hextends.trans hextends').imp ?_⟩
    rintro traitId value (⟨record, heffect, happlies⟩ | ⟨record, heffect, happlies⟩)
    · exact ⟨record, takesEffectDuring_cons.2 (.inl heffect), happlies⟩
    · exact ⟨record, takesEffectDuring_cons.2 (.inr heffect), happlies⟩

/-! ## The number of definitions -/

/-- The ids of all definitions, in ascending order. -/
def definedIds (model : Model) : List String :=
  (model.shapes.entries.filter fun entry => !entry.2.isPending).map (·.1)

theorem definedIds_nodup (model : Model) : model.definedIds.Nodup :=
  model.shapes.keys_nodup.sublist (List.filter_sublist.map _)

theorem mem_definedIds_iff : id ∈ model.definedIds ↔ (model.definition? id).isSome := by
  simp [definedIds, definition?_isSome_iff, Dictionary.mem_entries_iff, shape?]

theorem length_definedIds (model : Model) : model.definedIds.length = model.shapeCount := by
  simp only [definedIds, shapeCount, Dictionary.values, List.filter_map, List.length_map,
    Function.comp_def]

/-- An id is defined after a history if it was before or if a definition of it has taken effect. -/
theorem definition?_mergeTexts (texts : List String) : ∀ {model : Model},
    ((model.mergeTexts texts).definition? id).isSome ↔
      (model.definition? id).isSome ∨
        ∃ record, model.TakesEffectDuring texts id record ∧ record.isPending = false := by
  induction texts with
  | nil =>
    intro model
    have hnone : ∀ record, ¬ model.TakesEffectDuring [] id record := by
      rintro record ⟨before, text, after, hsplit, -⟩
      simp at hsplit
    simp [mergeTexts, hnone]
  | cons text texts ih =>
    intro model
    change ((mergeTexts (model.merge text).1 texts).definition? id).isSome ↔ _
    have hfirst : ((model.merge text).1.definition? id).isSome ↔ (model.definition? id).isSome ∨
        ∃ record, model.TakesEffectIn text id record ∧ record.isPending = false := by
      rcases merge_step model text id with
        ⟨record, new, heffect, hcombine, hstored⟩ | ⟨hnone, hsame⟩
      · -- the record that takes effect is the only one of its id
        have honly : ∀ other, model.TakesEffectIn text id other → other = record := by
          rintro other ⟨document, hread, -, hget, -⟩
          obtain ⟨document', hread', -, hget', -⟩ := heffect
          rw [hread] at hread'
          cases hread'
          rw [hget] at hget'
          cases hget'
          rfl
        rw [definition?_isSome_iff, definition?_isSome_iff, hstored]
        simp only [Option.some.injEq, exists_eq_left']
        rw [isPending_of_combine hcombine]
        refine or_congr_right ⟨fun hdefinition => ⟨record, heffect, hdefinition⟩, ?_⟩
        rintro ⟨other, hother, hdefinition⟩
        rwa [honly other hother] at hdefinition
      · simp [definition?, hsame, hnone]
    simp only [ih, hfirst, takesEffectDuring_cons, or_and_right, exists_or, or_assoc]

/-- A model only grows, whatever is merged into it and whether the merges are accepted or refused.
An id that is stored stays; a definition keeps its type, its members and its mixins; no trait is
lost, and a trait has another value only if a record that only adds traits has taken effect and
carries that value. The number of definitions never decreases, and of a model that began empty it is
the number of ids of which a definition has taken effect. -/
theorem mergeTexts_grows (model : Model) (texts : List String) :
    (∀ id shape, model.shape? id = some shape →
      ∃ later, (model.mergeTexts texts).shape? id = some later ∧
        (shape.isPending = false → later.type = shape.type ∧ later.members = shape.members ∧
          later.mixins = shape.mixins) ∧
        ∀ traitId value, shape.traits.get? traitId = some value →
          ∃ value', later.traits.get? traitId = some value' ∧
            (value' = value ∨ ∃ record, model.TakesEffectDuring texts id record ∧
              record.isPending = true ∧ record.traits.get? traitId = some value')) ∧
    model.shapeCount ≤ (model.mergeTexts texts).shapeCount ∧
    ∃ ids : List String, ids.Nodup ∧
      (∀ id, id ∈ ids ↔ ∃ record, empty.TakesEffectDuring texts id record ∧
        record.isPending = false) ∧
      (empty.mergeTexts texts).shapeCount = ids.length := by
  refine ⟨fun id shape hshape => ?_, ?_, ?_⟩
  · obtain ⟨later, hlater, hextends⟩ := shape?_mergeTexts texts hshape
    exact ⟨later, hlater, hextends.body, hextends.traits⟩
  · rw [← length_definedIds, ← length_definedIds]
    apply model.definedIds_nodup.length_le_of_subset
    intro id hmem
    exact mem_definedIds_iff.2 ((definition?_mergeTexts texts).2 (.inl (mem_definedIds_iff.1 hmem)))
  · refine ⟨_, definedIds_nodup (empty.mergeTexts texts), fun id => ?_, (length_definedIds _).symm⟩
    have hempty : (empty.definition? id).isSome = false := rfl
    rw [mem_definedIds_iff, definition?_mergeTexts, hempty]
    simp

end Model

end EntityForge

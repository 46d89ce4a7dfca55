import EntityForge.Proofs.Model.MemberLocality
import EntityForge.Proofs.Model.MergeHistory

/-!
# Documents that only apply traits

All records of such a document have the type `apply`. The document is accepted by every model; it
defines nothing, and what is defined keeps its type, its members and its mixins
(`Document.OnlyApplies.body_definition?`).

A record for an id that the model does not store is kept as a pending one, and the look-ups differ
in what they do with it. A shape that is declared, or used as a mixin, must have a definition, so
there the record is passed over. The target of a member is taken from whatever is stored under its
id, so a pending record takes the place of a shape of the prelude, and its type is not the type of
any member (`Document.OnlyApplies.resolveKind_of_hides`). Such a document hides the prelude shape:
the members of all shapes that use it are lost, and no others (`Model.members_merge_applied`).
-/

set_option autoImplicit false

namespace EntityForge

/-- A document of a known version that adds traits to shapes and defines none. -/
structure Document.OnlyApplies (document : Document) : Prop where
  /-- The version is known. -/
  supported : document.isSupported = true
  /-- Every record adds traits. -/
  applies : ∀ id record, document.shapes.get? id = some record → record.type = Shape.applyType

namespace Model

variable {model merged : Model} {document : Document} {id target : String} {shape : Shape}

/-- A document hides an id: it has a record for it, and the model stores none. -/
def Hides (model : Model) (document : Document) (id : String) : Prop :=
  model.shape? id = none ∧ (document.shapes.get? id).isSome

/-- A member has a target, of the shape itself or of one that mixins lead to. -/
def HasTarget (model : Model) (id target : String) : Prop :=
  ∃ other shape, model.Reaches id other ∧ model.shape? other = some shape ∧
    ∃ name, shape.members.get? name = some target

/-- A target of a shape that can be put together resolves. -/
theorem Composable.resolveKind (h : model.Composable id) (htarget : model.HasTarget id target) :
    ∃ kind, model.resolveKind target = .ok kind := by
  obtain ⟨other, shape, hreach, hshape, name, hmember⟩ := htarget
  exact h.resolved other shape hreach hshape (name, target) (Dictionary.mem_entries_iff.2 hmember)

/-- A target that resolves without a record is a shape of the prelude. -/
theorem prelude_of_resolveKind {kind : ShapeKind} (hnone : model.shape? target = none)
    (h : model.resolveKind target = .ok kind) :
    ∃ name, preludeName? target = some name ∧ ShapeKind.ofPrelude? name = some kind := by
  simp only [resolveKind, hnone] at h
  split at h
  · rename_i name hname
    split at h
    · rename_i found hfound
      cases h
      exact ⟨name, hname, hfound⟩
    · cases h
  · cases h

/-- Models in which the same ids are defined have equally many definitions. -/
theorem shapeCount_eq {other : Model}
    (h : ∀ id, (other.definition? id).isSome ↔ (model.definition? id).isSome) :
    other.shapeCount = model.shapeCount := by
  have hperm : other.definedIds.Perm model.definedIds := by
    apply (List.perm_ext_iff_of_nodup other.definedIds_nodup model.definedIds_nodup).2
    intro id
    rw [mem_definedIds_iff, mem_definedIds_iff, h id]
  rw [← length_definedIds, ← length_definedIds, hperm.length_eq]

end Model

/-! ## One document -/

namespace Document.OnlyApplies

open Model

variable {model merged : Model} {document : Document} {id target : String} {shape : Shape}

theorem isPending (h : document.OnlyApplies) {record : Shape}
    (hget : document.shapes.get? id = some record) : record.isPending = true := by
  rw [Shape.isPending, h.applies id record hget]
  exact beq_self_eq_true _

/-- The document is accepted by every model. -/
theorem mergeDocument_eq_ok (h : document.OnlyApplies) (model : Model) :
    ∃ merged, model.mergeDocument document = (merged, .ok ()) := by
  apply (mergeDocument_eq_ok_iff h.supported model).2
  intro id record hget hrefused
  have hdefinition := (combine_eq_none_iff.1 hrefused).1
  rw [h.isPending hget] at hdefinition
  cases hdefinition

/-- A shape that is stored gets other traits at most. -/
theorem shape?_of_stored (h : document.OnlyApplies)
    (hmerge : model.mergeDocument document = (merged, .ok ()))
    (hshape : model.shape? id = some shape) :
    ∃ traits, merged.shape? id = some { shape with traits := traits } := by
  rw [shape?_mergeDocument hmerge, hshape]
  cases hget : document.shapes.get? id with
  | none => exact ⟨shape.traits, rfl⟩
  | some record =>
    refine ⟨shape.traits.union record.traits, ?_⟩
    rw [outcomeAt_some, combine_of_pending (h.isPending hget), Shape.withTraits]

/-- An id without a shape gets the record of the document, if there is one. -/
theorem shape?_of_absent (hmerge : model.mergeDocument document = (merged, .ok ()))
    (hnone : model.shape? id = none) : merged.shape? id = document.shapes.get? id := by
  rw [shape?_mergeDocument hmerge, hnone]
  cases document.shapes.get? id <;> rfl

/-- The same ids are defined, with the same members and mixins. -/
theorem body_definition? (h : document.OnlyApplies)
    (hmerge : model.mergeDocument document = (merged, .ok ())) (id : String) :
    (merged.definition? id).map Shape.body = (model.definition? id).map Shape.body := by
  unfold Model.definition?
  cases hshape : model.shape? id with
  | none =>
    -- a record that now waits is no definition
    rw [shape?_of_absent hmerge hshape]
    cases hget : document.shapes.get? id with
    | none => rfl
    | some record => simp [h.isPending hget]
  | some shape =>
    obtain ⟨traits, htraits⟩ := h.shape?_of_stored hmerge hshape
    have hpending : ({ shape with traits := traits } : Shape).isPending = shape.isPending := rfl
    rw [htraits, Option.filter_some, Option.filter_some, hpending]
    cases shape.isPending <;> rfl

theorem shapeCount_eq (h : document.OnlyApplies)
    (hmerge : model.mergeDocument document = (merged, .ok ())) :
    merged.shapeCount = model.shapeCount := by
  apply Model.shapeCount_eq
  intro id
  have hsame := congrArg Option.isSome (h.body_definition? hmerge id)
  rw [Option.isSome_map, Option.isSome_map] at hsame
  rw [hsame]

/-- A hidden target does not resolve. -/
theorem resolveKind_of_hides (h : document.OnlyApplies)
    (hmerge : model.mergeDocument document = (merged, .ok ()))
    (hides : model.Hides document target) :
    merged.resolveKind target = .error (.model (.unknownType target Shape.applyType)) := by
  obtain ⟨hnone, hsome⟩ := hides
  obtain ⟨record, hrecord⟩ := Option.isSome_iff_exists.1 hsome
  have htype : record.type = Shape.applyType := h.applies target record hrecord
  have hkind : ShapeKind.ofName? Shape.applyType = none := by decide
  simp only [resolveKind, shape?_of_absent hmerge hnone, hrecord, htype, hkind]

/-- All other targets are resolved as before. -/
theorem resolveKind_of_not_hides (h : document.OnlyApplies)
    (hmerge : model.mergeDocument document = (merged, .ok ()))
    (hnot : ¬ model.Hides document target) :
    merged.resolveKind target = model.resolveKind target := by
  unfold resolveKind
  cases hshape : model.shape? target with
  | none =>
    have habsent : document.shapes.get? target = none := by
      rw [← Option.not_isSome_iff_eq_none]
      exact fun hsome => hnot ⟨hshape, hsome⟩
    rw [shape?_of_absent hmerge hshape, habsent]
  | some shape =>
    obtain ⟨traits, htraits⟩ := h.shape?_of_stored hmerge hshape
    rw [htraits]

/-- What mixins led to, they still lead to. -/
theorem reaches (h : document.OnlyApplies)
    (hmerge : model.mergeDocument document = (merged, .ok ())) {other : String}
    (hreach : model.Reaches id other) : merged.Reaches id other := by
  refine Relation.ReflTransGen.mono ?_ _ _ hreach
  rintro user mixin ⟨shape, hshape, hmixin⟩
  obtain ⟨traits, htraits⟩ := h.shape?_of_stored hmerge hshape
  exact ⟨_, htraits, hmixin⟩

/-- What a member had as a target, it still has. -/
theorem hasTarget (h : document.OnlyApplies)
    (hmerge : model.mergeDocument document = (merged, .ok ()))
    (htarget : model.HasTarget id target) :
    merged.HasTarget id target := by
  obtain ⟨other, shape, hreach, hshape, name, hmember⟩ := htarget
  obtain ⟨traits, htraits⟩ := h.shape?_of_stored hmerge hshape
  exact ⟨other, _, h.reaches hmerge hreach, htraits, name, hmember⟩

/-- Below an id of which no target is hidden nothing changes. -/
theorem agreesBelow (h : document.OnlyApplies)
    (hmerge : model.mergeDocument document = (merged, .ok ()))
    (hnone : ∀ target, model.HasTarget id target → ¬ model.Hides document target) :
    model.AgreesBelow merged id where
  bodies below _ := h.body_definition? hmerge below
  targets below shape hreach hshape entry hentry := by
    have hmember := Dictionary.mem_entries_iff.1 hentry
    exact h.resolveKind_of_not_hides hmerge
      (hnone entry.2 ⟨below, shape, hreach, hshape, entry.1, hmember⟩)

theorem visitLimit_le (h : document.OnlyApplies)
    (hmerge : model.mergeDocument document = (merged, .ok ())) :
    model.visitLimit ≤ merged.visitLimit := by
  apply Model.visitLimit_le
  intro id hsome
  obtain ⟨shape, hshape⟩ := Option.isSome_iff_exists.1 hsome
  obtain ⟨traits, htraits⟩ := h.shape?_of_stored hmerge hshape
  rw [htraits]
  rfl

end Document.OnlyApplies

namespace Model

variable {model : Model} {text : String} {document : Document}

/-! ## Members -/

/-- Members are lost if one of the targets does not resolve. -/
theorem members_error_of_target {decl : Declaration} {target : String} {fault : Fault}
    (htarget : model.HasTarget decl.id target) (h : model.resolveKind target = .error fault) :
    ∃ cause, model.members decl = .error (.model cause) := by
  cases hkinds : model.memberKinds decl.id with
  | ok kinds =>
    obtain ⟨kind, hkind⟩ := (memberKinds_ok hkinds).1.resolveKind htarget
    rw [h] at hkind
    cases hkind
  | error reason =>
    obtain ⟨⟨cause, rfl⟩, -⟩ := memberKinds_error hkinds
    exact ⟨cause, by simp only [members, hkinds]⟩

/-- Members that are found have targets that resolve. -/
theorem resolveKind_of_members {decl : Declaration} {members : List Member} {target : String}
    (h : model.members decl = .ok members) (htarget : model.HasTarget decl.id target) :
    ∃ kind, model.resolveKind target = .ok kind := by
  cases hkind : model.resolveKind target with
  | ok kind => exact ⟨kind, rfl⟩
  | error fault =>
    obtain ⟨cause, hcause⟩ := members_error_of_target htarget hkind
    rw [h] at hcause
    cases hcause

/-- A document that only applies traits is accepted and changes no number of definitions. A
declaration keeps its members, or the fault in their place, unless the document hides one of the
targets; then it has a fault. So a fault stays a fault, and members are lost only where the document
names a shape of the prelude that they use. -/
theorem members_merge_applied (model : Model) (hread : Document.read text = .ok document)
    (happlies : document.OnlyApplies) :
    ∃ merged, model.merge text = (merged, .ok ()) ∧ merged.shapeCount = model.shapeCount ∧
      ∀ decl : Declaration,
        ((∀ target, model.HasTarget decl.id target → ¬ model.Hides document target) →
          merged.members decl = model.members decl) ∧
        (∀ target, model.HasTarget decl.id target → model.Hides document target →
          (∃ cause, merged.members decl = .error (.model cause)) ∧
          ∀ members, model.members decl = .ok members → ∃ name kind,
            preludeName? target = some name ∧ ShapeKind.ofPrelude? name = some kind) ∧
        ∀ fault, model.members decl = .error fault →
          ∃ later, merged.members decl = .error later := by
  obtain ⟨merged, hmerge⟩ := happlies.mergeDocument_eq_ok model
  have hsame : ∀ decl : Declaration,
      (∀ target, model.HasTarget decl.id target → ¬ model.Hides document target) →
        merged.members decl = model.members decl :=
    fun decl hnone =>
      members_eq (happlies.agreesBelow hmerge hnone) (happlies.visitLimit_le hmerge)
  have hlost : ∀ (decl : Declaration) target, model.HasTarget decl.id target →
      model.Hides document target → ∃ cause, merged.members decl = .error (.model cause) :=
    fun decl target htarget hides => members_error_of_target (happlies.hasTarget hmerge htarget)
      (happlies.resolveKind_of_hides hmerge hides)
  refine ⟨merged, ?_, happlies.shapeCount_eq hmerge, fun decl => ⟨hsame decl, ?_, ?_⟩⟩
  · simp only [merge, hread, hmerge]
  · intro target htarget hides
    refine ⟨hlost decl target htarget hides, fun members hmembers => ?_⟩
    obtain ⟨kind, hkind⟩ := resolveKind_of_members hmembers htarget
    obtain ⟨name, hname⟩ := prelude_of_resolveKind hides.1 hkind
    exact ⟨name, kind, hname⟩
  · intro fault hfault
    by_cases hhidden : ∃ target, model.HasTarget decl.id target ∧ model.Hides document target
    · obtain ⟨target, htarget, hides⟩ := hhidden
      obtain ⟨cause, hcause⟩ := hlost decl target htarget hides
      exact ⟨_, hcause⟩
    · have hnone := fun target htarget hides => hhidden ⟨target, htarget, hides⟩
      exact ⟨fault, (hsame decl hnone).trans hfault⟩

/-- A model with one structure, which has a member of a prelude type. -/
def titled : Model :=
  ⟨.ofList [("demo#Task",
    ⟨Shape.structureType, .ofList [("title", "smithy.api#String")], [], .empty⟩)]⟩

/-- A document that applies a trait to one id. -/
def applyText (id : String) : String :=
  "\x7b\"smithy\": \"2.0\", \"shapes\": \x7b\"" ++ id ++
    "\": \x7b\"type\": \"apply\", \"traits\": \x7b\"demo#note\": true\x7d\x7d\x7d\x7d"

/-- A trait applied to the structure leaves its member alone. -/
theorem members_merge_applied_titled : ∃ merged,
    titled.merge (applyText "demo#Task") = (merged, .ok ()) ∧ merged.shapeCount = 1 ∧
      merged.members ⟨"demo#Task", "Task"⟩ = .ok [⟨"title", .string⟩] := by
  obtain ⟨document, hread, hsupported, hentries⟩ : ∃ document,
      Document.read (applyText "demo#Task") = .ok document ∧ document.isSupported = true ∧
        ∀ entry ∈ document.shapes.entries,
          entry.1 = "demo#Task" ∧ entry.2.type = Shape.applyType :=
    ⟨_, rfl, by decide +kernel, by decide +kernel⟩
  have happlies : document.OnlyApplies :=
    ⟨hsupported, fun id record hget =>
      (hentries (id, record) (Dictionary.mem_entries_iff.2 hget)).2⟩
  obtain ⟨merged, hmerge, hcount, hmembers⟩ := members_merge_applied titled hread happlies
  refine ⟨merged, hmerge, hcount, ((hmembers _).1 ?_).trans rfl⟩
  -- the document names an id that is stored, so it hides none
  rintro target - ⟨hnone, hsome⟩
  obtain ⟨record, hrecord⟩ := Option.isSome_iff_exists.1 hsome
  obtain rfl : target = "demo#Task" :=
    (hentries (target, record) (Dictionary.mem_entries_iff.2 hrecord)).1
  cases hnone

/-- A trait applied to the type of a member loses the member. -/
theorem not_members_kept_by_applied :
    ¬ ∀ (model : Model) (text : String) (document : Document),
      Document.read text = .ok document → document.OnlyApplies →
        ∃ merged, model.merge text = (merged, .ok ()) ∧ merged.shapeCount = model.shapeCount ∧
          ∀ decl : Declaration,
            (∀ members, model.members decl = .ok members → merged.members decl = .ok members) ∧
            ∀ fault, model.members decl = .error fault →
              ∃ later, merged.members decl = .error later := by
  intro h
  obtain ⟨document, hread, hsupported, htypes⟩ : ∃ document,
      Document.read (applyText "smithy.api#String") = .ok document ∧
        document.isSupported = true ∧
        ∀ entry ∈ document.shapes.entries, entry.2.type = Shape.applyType :=
    ⟨_, rfl, by decide +kernel, by decide +kernel⟩
  have happlies : document.OnlyApplies :=
    ⟨hsupported, fun id record hget => htypes (id, record) (Dictionary.mem_entries_iff.2 hget)⟩
  obtain ⟨merged, hmerge, -, hmembers⟩ := h titled _ document hread happlies
  have hkept := (hmembers ⟨"demo#Task", "Task"⟩).1 [⟨"title", .string⟩] rfl
  have hlost : (titled.merge (applyText "smithy.api#String")).1.members ⟨"demo#Task", "Task"⟩
      = .error (.model (.unknownType "smithy.api#String" Shape.applyType)) := rfl
  rw [hmerge, hkept] at hlost
  cases hlost

end Model

end EntityForge

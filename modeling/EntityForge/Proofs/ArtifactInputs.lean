import EntityForge.Proofs.Artifact
import EntityForge.Proofs.Exports
import EntityForge.Proofs.Json.Literal

/-!
# What an artifact depends on

Of two entities with one name, every artifact is the same exactly if the values are the same that it
is made from (`Artifact.artifacts_equal_iff_inputs`): it depends on nothing else, and no difference
in these values is lost, whatever characters they hold.

Handlers are compared slot by slot. A value that differs is a literal on both sides, and a literal
says where it ends, so the first slot with different values tells the texts apart
(`Template.textOf_eq_iff`). The fields of a type are one line each, and a line without a line feed
inside gives back the name and the type of its field (`Artifact.fieldLine_inj`).
-/

set_option autoImplicit false

namespace EntityForge

open Template (Piece chars keys pieces textOf)

/-! ## Templates filled in twice -/

namespace Template

variable {a b : Dictionary String} {parts : List Piece}

/-- Two contexts have the same value for a key, or each has a literal. -/
def Comparable (a b : Dictionary String) (key : String) : Prop :=
  a.get? key = b.get? key ∨
    ∃ s t, a.get? key = some (Json.literal s) ∧ b.get? key = some (Json.literal t)

/-- Where the values for a key can be compared, what a slot of it becomes says where it ends. -/
theorem Comparable.textOf_append_eq_iff {key rest rest' : List Char}
    (h : Comparable a b (String.ofList key)) :
    (Piece.slot key).textOf a ++ rest = (Piece.slot key).textOf b ++ rest' ↔
      a.get? (String.ofList key) = b.get? (String.ofList key) ∧ rest = rest' := by
  rcases h with heq | ⟨s, t, hs, ht⟩
  · simp [Piece.textOf, heq]
  · rw [Piece.textOf_slot hs, Piece.textOf_slot ht, hs, ht, Json.toList_literal,
      Json.toList_literal, Option.some.injEq, Json.literal_inj]
    constructor
    · intro h
      obtain ⟨hchars, hrest⟩ := Json.literalChars_append_inj h
      exact ⟨String.toList_inj.1 hchars, hrest⟩
    · rintro ⟨rfl, rfl⟩
      rfl

/-- Two contexts fill in pieces alike exactly if they have the same values for all their keys. -/
theorem textOf_eq_iff (h : ∀ key ∈ keys parts, Comparable a b key) :
    textOf a parts = textOf b parts ↔ ∀ key ∈ keys parts, a.get? key = b.get? key := by
  -- on the pieces; each one says where it ends, so both texts can be taken apart there
  induction parts with
  | nil => simp [keys, textOf]
  | cons piece parts ih =>
    rw [textOf_cons, textOf_cons]
    cases piece with
    | char c =>
      have hkeys : keys (.char c :: parts) = keys parts := rfl
      rw [hkeys] at h ⊢
      rw [← ih h]
      simp
    | slot key =>
      have hkeys : keys (.slot key :: parts) = String.ofList key :: keys parts := rfl
      rw [hkeys] at h ⊢
      rw [List.forall_mem_cons] at h ⊢
      rw [h.1.textOf_append_eq_iff, ih h.2]

end Template

/-! ## Fields -/

/-- Lines without a line feed inside are given back by the text that they make up. -/
theorem lines_inj {lines lines' : List (List Char)} (h : ∀ line ∈ lines, '\n' ∉ line)
    (h' : ∀ line ∈ lines', '\n' ∉ line) (hne : ∀ line ∈ lines, line ≠ [])
    (hne' : ∀ line ∈ lines', line ≠ [])
    (heq : ['\n'].intercalate lines = ['\n'].intercalate lines') : lines = lines' := by
  have hnonempty : ∀ {lines : List (List Char)}, (∀ line ∈ lines, line ≠ []) →
      ['\n'].intercalate lines = [] → lines = [] := by
    intro lines hne hnil
    cases lines with
    | nil => rfl
    | cons line lines =>
      have hline := hne line List.mem_cons_self
      cases lines with
      | nil => simp_all
      | cons next lines => simp_all [List.intercalate_cons_cons]
  -- a text is split into at least one line, so no lines at all are a case of their own
  by_cases hlines : lines = []
  · subst hlines
    exact (hnonempty hne' heq.symm).symm
  · have hlines' : lines' ≠ [] := by
      rintro rfl
      exact hlines (hnonempty hne heq)
    rw [← List.splitOn_intercalate '\n' h hlines, heq, List.splitOn_intercalate '\n' h' hlines']

namespace TargetType

theorem colon_notMem_source (type : TargetType) : ':' ∉ type.source.toList := by
  cases type <;> decide

theorem lineFeed_notMem_source (type : TargetType) : '\n' ∉ type.source.toList := by
  cases type <;> decide

end TargetType

namespace Artifact

theorem toList_fieldLine (field : Field) :
    (fieldLine field).toList
      = (' ' :: ' ' :: field.name.toList) ++ ':' :: (' ' :: field.type.source.toList ++ [';']) := by
  simp [fieldLine, String.toList_append]

/-- The line of a field names the field and its type. -/
theorem fieldLine_inj {a b : Field} (h : (fieldLine a).toList = (fieldLine b).toList) : a = b := by
  rw [toList_fieldLine, toList_fieldLine] at h
  -- no type has a colon, so the last one is behind the name
  have hcolon : ∀ type : TargetType, ':' ∉ ' ' :: type.source.toList ++ [';'] := by
    intro type hmem
    simp [type.colon_notMem_source] at hmem
  obtain ⟨hname, htype⟩ := append_mark_inj (hcolon a.type) (hcolon b.type) h
  have hsource : a.type.source = b.type.source :=
    String.toList_inj.1 (List.append_cancel_right (List.cons.inj htype).2)
  cases a
  cases b
  simp only [List.cons.injEq, true_and, String.toList_inj] at hname
  obtain rfl := hname
  obtain rfl := TargetType.source_injective hsource
  rfl

theorem lineFeed_notMem_fieldLine {field : Field} (h : '\n' ∉ field.name.toList) :
    '\n' ∉ (fieldLine field).toList := by
  rw [toList_fieldLine]
  simp [h, field.type.lineFeed_notMem_source]

/-- The lines of fields without a line feed in their names give back the fields. -/
theorem fieldLines_inj {a b : Entity} (ha : ∀ field ∈ a.fields, '\n' ∉ field.name.toList)
    (hb : ∀ field ∈ b.fields, '\n' ∉ field.name.toList) :
    fieldLines a = fieldLines b ↔ a.fields = b.fields := by
  have hlines : ∀ entity : Entity, (fieldLines entity).toList
      = ['\n'].intercalate (entity.fields.map fun field => (fieldLine field).toList) := by
    intro entity
    rw [fieldLines, String.toList_intercalate, List.map_map]
    rfl
  have hfeed : ∀ {entity : Entity}, (∀ field ∈ entity.fields, '\n' ∉ field.name.toList) →
      ∀ line ∈ entity.fields.map fun field => (fieldLine field).toList, '\n' ∉ line := by
    rintro entity h line hmem
    obtain ⟨field, hfield, rfl⟩ := List.mem_map.1 hmem
    exact lineFeed_notMem_fieldLine (h field hfield)
  have hne : ∀ {entity : Entity},
      ∀ line ∈ entity.fields.map fun field => (fieldLine field).toList, line ≠ [] := by
    rintro entity line hmem
    obtain ⟨field, -, rfl⟩ := List.mem_map.1 hmem
    simp [toList_fieldLine]
  constructor
  · intro h
    have hchars := congrArg String.toList h
    rw [hlines, hlines] at hchars
    have hmap := lines_inj (hfeed ha) (hfeed hb) hne hne hchars
    exact (List.map_inj_right fun _ _ => fieldLine_inj).1 hmap
  · intro h
    rw [fieldLines, fieldLines, h]

/-! ## Artifacts of two entities -/

variable {a b : Entity} {stem : Stem}

/-- The values of two entities that an artifact is made from, their names apart, are the same. -/
def SameInputs (a b : Entity) : Stem → Prop
  | .types => a.fields = b.fields
  | .create => a.table = b.table
  | .read => a.table = b.table ∧ a.hashKey = b.hashKey ∧ a.label = b.label
  | .update | .delete => a.table = b.table ∧ a.hashKey = b.hashKey
  | .index => True

theorem get?_handlerContext (entity : Entity) :
    (handlerContext entity).get? "name" = some entity.name ∧
      (handlerContext entity).get? "table" = some (Json.literal entity.table) ∧
      (handlerContext entity).get? "hash_key" = some (Json.literal entity.hashKey) ∧
      (handlerContext entity).get? "not_found"
        = some (Json.literal (entity.label ++ " not found")) := by
  simp [handlerContext]

/-- The values of two entities of one name can be compared in every slot of the handlers. -/
theorem comparable_handlerContext (hname : a.name = b.name) {key : String}
    (hkey : key ∈ ["name", "table", "hash_key", "not_found"]) :
    Template.Comparable (handlerContext a) (handlerContext b) key := by
  obtain ⟨hname₁, htable₁, hkey₁, hmessage₁⟩ := get?_handlerContext a
  obtain ⟨hname₂, htable₂, hkey₂, hmessage₂⟩ := get?_handlerContext b
  simp only [List.mem_cons, List.not_mem_nil, or_false] at hkey
  rcases hkey with rfl | rfl | rfl | rfl
  · exact .inl (by rw [hname₁, hname₂, hname])
  · exact .inr ⟨_, _, htable₁, htable₂⟩
  · exact .inr ⟨_, _, hkey₁, hkey₂⟩
  · exact .inr ⟨_, _, hmessage₁, hmessage₂⟩

/-- A file of handlers is the same exactly if the values in its slots are. -/
theorem rendered_handlers_iff (hname : a.name = b.name) (hstem : stem ∈ Stem.handlers) :
    rendered a stem = rendered b stem ↔ ∀ key ∈ stem.slotKeys,
      (handlerContext a).get? key = (handlerContext b).get? key := by
  have hcontext : ∀ entity : Entity, context entity stem = handlerContext entity := by
    intro entity
    simp only [Stem.handlers, List.mem_cons, List.not_mem_nil, or_false] at hstem
    rcases hstem with rfl | rfl | rfl | rfl <;> rfl
  have hslots : ∀ key ∈ stem.slotKeys, key ∈ ["name", "table", "hash_key", "not_found"] := by
    simp only [Stem.handlers, List.mem_cons, List.not_mem_nil, or_false] at hstem
    rcases hstem with rfl | rfl | rfl | rfl <;> decide
  rw [rendered, rendered, hcontext, hcontext, List.append_cancel_left_eq,
    Template.textOf_eq_iff, Stem.keys_template]
  rw [Stem.keys_template]
  exact fun key hmem => comparable_handlerContext hname (hslots key hmem)

theorem pieces_typesTemplate :
    pieces SourceText.typesTemplate
      = chars "export type " ++ .slot "name".toList :: chars " = \x7b\n"
        ++ .slot "fields".toList :: chars "\n\x7d;\n" := by
  unfold SourceText.typesTemplate
  repeat rw [SourceText.wholeLines_cons_ofList]
  decide +kernel

/-- The type of an entity is written around its name and its fields. -/
theorem rendered_types (entity : Entity) :
    rendered entity .types
      = ("export type " ++ entity.name ++ " = \x7b\n").toList ++ (fieldLines entity).toList
        ++ "\n\x7d;\n".toList := by
  have hname : (context entity .types).get? (String.ofList "name".toList) = some entity.name := by
    rw [String.ofList_toList]
    exact get?_context_name entity .types
  have hfields : (context entity .types).get? (String.ofList "fields".toList)
      = some (fieldLines entity) := by
    rw [String.ofList_toList]
    simp [context, typesContext]
  simp only [rendered, Stem.heading, Stem.template, pieces_typesTemplate, Template.textOf_append,
    Template.textOf_cons, Template.textOf_chars, Template.Piece.textOf_slot hname,
    Template.Piece.textOf_slot hfields, String.toList_append, List.append_assoc, List.nil_append]

/-- What an artifact holds is the same exactly if the values are that it is made from. -/
theorem rendered_eq_iff (hname : a.name = b.name)
    (hfeed : stem = .types → ∀ field ∈ a.fields ++ b.fields, '\n' ∉ field.name.toList) :
    rendered a stem = rendered b stem ↔ SameInputs a b stem := by
  cases stem with
  | types =>
    have hfields := List.forall_mem_append.1 (hfeed rfl)
    rw [rendered_types, rendered_types, hname, List.append_cancel_right_eq,
      List.append_cancel_left_eq, String.toList_inj, fieldLines_inj hfields.1 hfields.2]
    rfl
  | create | read | update | delete =>
    rw [rendered_handlers_iff hname (by decide)]
    simp [Stem.slotKeys, SameInputs, get?_handlerContext, Json.literal_inj, hname]
  | index =>
    refine iff_of_true ?_ trivial
    simp only [rendered, context, indexContext, hname]

/-- Each artifact depends on exactly its own inputs and loses none of them. Of two entities with one
name both artifacts of a stem are rendered, and they are equal exactly if the entities agree in what
the artifact is made from: the table for the handler that creates, table and key for those that
change and delete, table, key and label for those that read, nothing else for the index, and for the
type the fields, where no name of a field holds a line feed. -/
theorem artifacts_equal_iff_inputs (settings : Settings) {a b : Entity} (stem : Stem)
    (hname : a.name = b.name)
    (hfeed : stem = .types → ∀ field ∈ a.fields ++ b.fields, '\n' ∉ field.name.toList) :
    ∃ first second, ofEntity settings a stem = .ok first ∧ ofEntity settings b stem = .ok second ∧
      (first = second ↔ SameInputs a b stem) := by
  refine ⟨_, _, by rw [ofEntity, text_eq_ok], by rw [ofEntity, text_eq_ok], ?_⟩
  rw [← rendered_eq_iff hname hfeed, hname, Artifact.mk.injEq, String.ofList_inj]
  exact and_iff_right rfl

/-- Two entities of one name with the same fields, whose tables and keys hold what ends a literal
and what looks like a slot. -/
def crafted : Entity × Entity :=
  (⟨"Pet", "pet", "\", Key: \x7b \"id", "\x7b\x7btable\x7d\x7d", [⟨"id: any;", .text⟩]⟩,
   ⟨"Pet", "pet", "\", Key: \x7b \"", "id\x7b\x7btable\x7d\x7d", [⟨"id: any;", .text⟩]⟩)

/-- They have the same type and different handlers. -/
theorem artifacts_equal_iff_inputs_crafted :
    (∃ first second, ofEntity .standard crafted.1 .types = .ok first ∧
      ofEntity .standard crafted.2 .types = .ok second ∧ first = second) ∧
    ∃ first second, ofEntity .standard crafted.1 .update = .ok first ∧
      ofEntity .standard crafted.2 .update = .ok second ∧ first ≠ second := by
  have hname : crafted.1.name = crafted.2.name := rfl
  have hfeed : ∀ field ∈ crafted.1.fields ++ crafted.2.fields, '\n' ∉ field.name.toList := by
    decide +kernel
  obtain ⟨first, second, hfirst, hsecond, htypes⟩ :=
    artifacts_equal_iff_inputs .standard .types hname fun _ => hfeed
  obtain ⟨first', second', hfirst', hsecond', hupdate⟩ :=
    artifacts_equal_iff_inputs .standard .update hname nofun
  refine ⟨⟨first, second, hfirst, hsecond, htypes.2 rfl⟩,
    first', second', hfirst', hsecond', fun heq => ?_⟩
  exact absurd (hupdate.1 heq).1 (by decide)

/-- With a line feed in its name, one field has the line of two. -/
example :
    fieldLines ⟨"Pet", "pet", "Pets", "id", [⟨"a: any;\n  b", .any⟩]⟩
      = fieldLines ⟨"Pet", "pet", "Pets", "id", [⟨"a", .any⟩, ⟨"b", .any⟩]⟩ := by
  decide +kernel

end Artifact

end EntityForge

import EntityForge.Artifact
import EntityForge.Proofs.Template

/-!
# Artifacts as filled templates

Every artifact of an entity is a heading and a template that is filled in, and the context of each
template has all of its keys. So rendering never fails, whatever the entity (`Artifact.text_eq_ok`,
`Artifact.allOf_eq_ok`), and neither does the diagnostic (`Artifact.diagnostic_eq_ok`).

The keys of the templates are computed once and for all (`Stem.keys_template`); everything else is
read off them. The path of an artifact determines the name of its entity and its stem, whatever
characters the name and the settings hold (`Settings.artifactPath_inj`).
-/

set_option autoImplicit false

namespace EntityForge

open Template (textOf keys pieces)

/-! ## The pieces of the templates -/

/-- A text of whole lines, when its first line is given by its characters. -/
theorem SourceText.wholeLines_cons_ofList (line : List Char) (lines : List String) :
    wholeLines (String.ofList line :: lines) = line ++ '\n' :: wholeLines lines := by
  simp [wholeLines]

namespace Stem

/-- The template of an artifact. -/
def template : Stem → List Char
  | .types => SourceText.typesTemplate
  | .create => SourceText.createTemplate
  | .read => SourceText.readTemplate
  | .update => SourceText.updateTemplate
  | .delete => SourceText.deleteTemplate
  | .index => SourceText.indexTemplate

/-- What stands before the filled template of an artifact. -/
def heading : Stem → List Char
  | .create | .read | .update | .delete => SourceText.preamble
  | .types | .index => []

/-- The keys of an artifact's template, in order. -/
def slotKeys : Stem → List String
  | .types => ["name", "fields"]
  | .create => ["name", "table"]
  | .read => ["name", "table", "name", "table", "hash_key", "not_found"]
  | .update | .delete => ["name", "table", "hash_key"]
  | .index => ["name", "name", "name", "name", "name"]

theorem keys_template (stem : Stem) : keys (pieces stem.template) = stem.slotKeys := by
  cases stem <;>
    simp only [template, SourceText.typesTemplate, SourceText.createTemplate,
      SourceText.readTemplate, SourceText.updateTemplate, SourceText.deleteTemplate,
      SourceText.indexTemplate] <;>
    (repeat rw [SourceText.wholeLines_cons_ofList]) <;>
    decide +kernel

end Stem

/-! ## Paths -/

/-- A text after the last mark and the text before it are determined by the whole. -/
theorem append_mark_inj {mark : Char} {a b s t : List Char} (hs : mark ∉ s) (ht : mark ∉ t)
    (h : a ++ mark :: s = b ++ mark :: t) : a = b ∧ s = t := by
  -- if one text before were longer, its mark would stand behind the other one
  rcases List.append_eq_append_iff.1 h with ⟨c, hb, hs'⟩ | ⟨c, ha, ht'⟩
  · cases c with
    | nil => simp_all
    | cons d c =>
      simp only [List.cons_append, List.cons.injEq] at hs'
      exact absurd (by rw [hs'.2]; simp) hs
  · cases c with
    | nil => simp_all
    | cons d c =>
      simp only [List.cons_append, List.cons.injEq] at ht'
      exact absurd (by rw [ht'.2]; simp) ht

theorem Stem.slash_notMem_name (stem : Stem) : '/' ∉ stem.name.toList := by
  cases stem <;> decide

/-- The path of an artifact names its entity and its stem. -/
theorem Settings.artifactPath_inj {settings : Settings} {a b : String} {s t : Stem} :
    settings.artifactPath a s.name = settings.artifactPath b t.name ↔ a = b ∧ s = t := by
  constructor
  · intro h
    have hchars := congrArg String.toList h
    simp only [artifactPath, String.toList_append, List.append_assoc] at hchars
    have hcore : a.toList ++ '/' :: s.name.toList = b.toList ++ '/' :: t.name.toList := by
      have htail := List.append_cancel_left (List.append_cancel_left hchars)
      simp only [← List.append_assoc] at htail
      simpa using List.append_cancel_right (List.append_cancel_right htail)
    obtain ⟨hname, hstem⟩ := append_mark_inj s.slash_notMem_name t.slash_notMem_name hcore
    exact ⟨String.toList_inj.1 hname, Stem.name_injective (String.toList_inj.1 hstem)⟩
  · rintro ⟨rfl, rfl⟩
    rfl

namespace Artifact

/-! ## Rendering never fails -/

/-- The values of the slots of an artifact. -/
def context (entity : Entity) : Stem → Dictionary String
  | .types => typesContext entity
  | .create | .read | .update | .delete => handlerContext entity
  | .index => indexContext entity

/-- The text of an artifact of an entity. -/
def rendered (entity : Entity) (stem : Stem) : List Char :=
  stem.heading ++ textOf (context entity stem) (pieces stem.template)

/-- The six artifacts of an entity. -/
def emitted (settings : Settings) (entity : Entity) : List Artifact :=
  Stem.all.map fun stem =>
    ⟨settings.artifactPath entity.name stem.name, String.ofList (rendered entity stem)⟩

/-- The artifact that says that nothing is marked. -/
def nothingMarked (settings : Settings) : Artifact :=
  ⟨settings.diagnosticPath,
    String.ofList (textOf (.ofList [("marker_id", settings.markerId)])
      (pieces SourceText.diagnosticTemplate))⟩

/-- Every key of a template has a value. -/
theorem get?_context_isSome (entity : Entity) (stem : Stem) :
    ∀ key ∈ keys (pieces stem.template), ((context entity stem).get? key).isSome := by
  rw [Stem.keys_template]
  cases stem <;>
    simp [Stem.slotKeys, context, typesContext, handlerContext, indexContext]

theorem handlerText_eq_ok {template : List Char} {entity : Entity}
    (h : ∀ key ∈ keys (pieces template), ((handlerContext entity).get? key).isSome) :
    handlerText template entity
      = .ok (SourceText.preamble ++ textOf (handlerContext entity) (pieces template)) := by
  unfold handlerText
  rw [Template.renderChars_eq_ok h]

theorem text_eq_ok (entity : Entity) (stem : Stem) :
    text entity stem = .ok (rendered entity stem) := by
  have h := get?_context_isSome entity stem
  unfold rendered
  cases stem with
  | types => exact Template.renderChars_eq_ok h
  | create => exact handlerText_eq_ok h
  | read => exact handlerText_eq_ok h
  | update => exact handlerText_eq_ok h
  | delete => exact handlerText_eq_ok h
  | index => exact Template.renderChars_eq_ok h

theorem ofStems_eq_ok (settings : Settings) (entity : Entity) (stems : List Stem) :
    ofStems settings entity stems = .ok (stems.map fun stem =>
      ⟨settings.artifactPath entity.name stem.name, String.ofList (rendered entity stem)⟩) := by
  induction stems with
  | nil => rfl
  | cons stem stems ih => simp [ofStems, ofEntity, text_eq_ok, ih]

/-- All artifacts of an entity are rendered, whatever the entity holds. -/
theorem allOf_eq_ok (settings : Settings) (entity : Entity) :
    allOf settings entity = .ok (emitted settings entity) :=
  ofStems_eq_ok settings entity Stem.all

theorem keys_diagnosticTemplate :
    keys (pieces SourceText.diagnosticTemplate) = ["marker_id"] := by
  unfold SourceText.diagnosticTemplate
  rw [String.toList_ofList]
  decide +kernel

theorem diagnostic_eq_ok (settings : Settings) :
    diagnostic settings = .ok (nothingMarked settings) := by
  have h : ∀ key ∈ keys (pieces SourceText.diagnosticTemplate),
      ((Dictionary.ofList [("marker_id", settings.markerId)]).get? key).isSome := by
    rw [keys_diagnosticTemplate]
    simp
  simp only [diagnostic, Template.renderChars_eq_ok h, nothingMarked]

end Artifact

end EntityForge

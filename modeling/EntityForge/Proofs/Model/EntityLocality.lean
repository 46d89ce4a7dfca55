import EntityForge.Generation
import EntityForge.Model.View
import EntityForge.Proofs.Model.AppliedTraits
import EntityForge.Proofs.Model.TraitLocality

/-!
# Entities do not bleed into each other

What a declaration becomes is decided by few records: those that its mixins lead to, and those under
the targets of their members. A document without a record for any of these ids leaves the entity of
the declaration as it was, with its marker, its members and its artifacts, whether the document is
merged to its end or refused on the way (`Model.merge_leaves_untouched`).

`Model.Touches` is this set of ids. It is closed under what the two traversals follow, so the proof
needs only that a merge leaves alone every id that the document does not name
(`Model.shape?_merge_of_absent`); the rest is said by the modules on what members and traits depend
on.
-/

set_option autoImplicit false

namespace EntityForge.Model

variable {model other : Model} {id : String} {decl : Declaration}

/-! ## What an entity depends on -/

/-- The ids that are looked at for the members and the traits of a shape: all that mixins lead to,
the shape itself and ids without a record among them, and all targets of the members there. -/
def Touches (model : Model) (id seen : String) : Prop :=
  model.Reaches id seen ∨ model.HasTarget id seen

/-- Another model holds the same records as a model at all ids that a shape touches. -/
def SameAround (model other : Model) (id : String) : Prop :=
  ∀ seen, model.Touches id seen → other.shape? seen = model.shape? seen

theorem SameAround.sameBelow (h : model.SameAround other id) : model.SameBelow other id :=
  fun below hreach => h below (.inl hreach)

theorem resolveKind_congr {target : String} (h : other.shape? target = model.shape? target) :
    other.resolveKind target = model.resolveKind target := by
  simp only [resolveKind, h]

theorem SameAround.agreesBelow (h : model.SameAround other id) : model.AgreesBelow other id where
  bodies below hreach := by simp only [definition?, h below (.inl hreach)]
  targets below shape hreach hshape entry hentry := by
    have htarget : model.HasTarget id entry.2 :=
      ⟨below, shape, hreach, hshape, entry.1, Dictionary.mem_entries_iff.1 hentry⟩
    exact resolveKind_congr (h entry.2 (.inr htarget))

/-- A declaration is the same entity in a model that holds the same records around it. -/
theorem SameAround.entity_eq (h : model.SameAround other decl.id)
    (hlimit : model.visitLimit ≤ other.visitLimit) (markerId : String) :
    other.marker decl markerId = model.marker decl markerId ∧
      other.members decl = model.members decl ∧
      other.view.entity decl markerId = model.view.entity decl markerId := by
  have hmarker : other.marker decl markerId = model.marker decl markerId := by
    simp only [marker, trait?_eq h.sameBelow hlimit]
  have hmembers : other.members decl = model.members decl := members_eq h.agreesBelow hlimit
  refine ⟨hmarker, hmembers, ?_⟩
  simp only [ModelView.entity, view, hmarker, hmembers]

/-- Ids that lead only to each other are all that one of them touches. -/
theorem mem_of_touches {ids : List String} {seen : String} (hid : id ∈ ids)
    (hclosed : ∀ user ∈ ids, ∀ shape ∈ model.shape? user,
      (∀ mixin ∈ shape.mixins, mixin ∈ ids) ∧ ∀ entry ∈ shape.members.entries, entry.2 ∈ ids)
    (h : model.Touches id seen) : seen ∈ ids := by
  have hreached : ∀ below, model.Reaches id below → below ∈ ids := by
    intro below hreach
    induction hreach with
    | refl => exact hid
    | tail _ hedge ih =>
      obtain ⟨shape, hshape, hmixin⟩ := hedge
      exact (hclosed _ ih shape hshape).1 _ hmixin
  rcases h with hreach | ⟨below, shape, hreach, hshape, name, hmember⟩
  · exact hreached seen hreach
  · have hentry := Dictionary.mem_entries_iff.2 hmember
    exact (hclosed below (hreached below hreach) shape hshape).2 (name, seen) hentry

/-! ## What a merge leaves alone -/

/-- A merge leaves alone an id that the document does not name. -/
theorem shape?_merge_of_absent {text : String}
    (h : ∀ document, Document.read text = .ok document → document.shapes.get? id = none) :
    (model.merge text).1.shape? id = model.shape? id := by
  rcases merge_step model text id with
    ⟨record, -, ⟨document, hread, -, hget, -⟩, -, -⟩ | ⟨-, hsame⟩
  · rw [h document hread] at hget
    cases hget
  · exact hsame

theorem visitLimit_le_merge (model : Model) (text : String) :
    model.visitLimit ≤ (model.merge text).1.visitLimit := by
  apply visitLimit_le
  intro id hsome
  obtain ⟨shape, hshape⟩ := Option.isSome_iff_exists.1 hsome
  obtain ⟨later, hlater, -⟩ := shape?_mergeTexts [text] hshape
  exact Option.isSome_iff_exists.2 ⟨later, hlater⟩

/-- Entities do not bleed into each other. A document that has no record for any id that a
declaration touches leaves its marker, its members and its entity as they were, be they a value or a
fault, and so the artifacts that are generated for it, whether the merge is accepted or refused. -/
theorem merge_leaves_untouched (model : Model) (text : String) (decl : Declaration)
    (markerId : String)
    (h : ∀ document, Document.read text = .ok document →
      ∀ id, model.Touches decl.id id → document.shapes.get? id = none) :
    (model.merge text).1.marker decl markerId = model.marker decl markerId ∧
    (model.merge text).1.members decl = model.members decl ∧
    (model.merge text).1.view.entity decl markerId = model.view.entity decl markerId ∧
    ∀ settings : Settings, settings.markerId = markerId →
      Generation.artifactsOf settings (model.merge text).1.view decl
        = Generation.artifactsOf settings model.view decl := by
  have hsame : model.SameAround (model.merge text).1 decl.id := by
    intro seen htouches
    exact shape?_merge_of_absent fun document hread => h document hread seen htouches
  obtain ⟨hmarker, hmembers, hentity⟩ := hsame.entity_eq (visitLimit_le_merge model text) markerId
  refine ⟨hmarker, hmembers, hentity, ?_⟩
  rintro settings rfl
  simp only [Generation.artifactsOf, hentity]

/-- A model with a structure that takes a member and the marker from a mixin, and with another
structure. -/
def zoo : Model :=
  ⟨.ofList
    [("demo#Kept", ⟨Shape.structureType, .ofList [("keeper", "demo#Person")], [],
        .ofList [(mixinTrait, .object []),
          (Settings.standard.markerId, .object [(EntityMarker.tableKey, .text "Pets")])]⟩),
     ("demo#Pet", ⟨Shape.structureType, .ofList [("name", "smithy.api#String")], ["demo#Kept"],
        .empty⟩),
     ("demo#Person", ⟨Shape.structureType, .empty, [], .empty⟩),
     ("demo#Zoo", ⟨Shape.structureType, .empty, [], .empty⟩)]⟩

/-- A document with one new structure and one that the model defines. -/
def zooText : String :=
  "\x7b\"smithy\": \"2.0\", \"shapes\": \x7b\"demo#Aviary\": \x7b\"type\": \"structure\"\x7d, "
    ++ "\"demo#Zoo\": \x7b\"type\": \"structure\"\x7d\x7d\x7d"

/-- The merge is refused after it has stored a structure, and the entity stays as it was. -/
theorem merge_leaves_untouched_zoo :
    (zoo.merge zooText).2 = .error (.model (.definedTwice "demo#Zoo")) ∧
    ((zoo.merge zooText).1.shape? "demo#Aviary").isSome ∧
    (zoo.merge zooText).1.view.entity ⟨"demo#Pet", "Pet"⟩ Settings.standard.markerId
      = .ok (Entity.build ⟨"demo#Pet", "Pet"⟩ ⟨"Pets", "id"⟩
          [⟨"keeper", .structured⟩, ⟨"name", .string⟩]) := by
  obtain ⟨document, hread, hkeys⟩ : ∃ document, Document.read zooText = .ok document ∧
      document.shapes.keys = ["demo#Aviary", "demo#Zoo"] :=
    ⟨_, rfl, by decide +kernel⟩
  have hclosed : ∀ id, zoo.Touches "demo#Pet" id →
      id ∈ ["demo#Pet", "demo#Kept", "demo#Person", "smithy.api#String"] :=
    fun _ => mem_of_touches (by decide) (by decide +kernel)
  have hunnamed : ∀ other, Document.read zooText = .ok other →
      ∀ id, zoo.Touches "demo#Pet" id → other.shapes.get? id = none := by
    intro other hother id htouches
    rw [hread] at hother
    cases hother
    rw [← Option.not_isSome_iff_eq_none, ← Dictionary.mem_keys_iff, hkeys]
    have hmem := hclosed id htouches
    simp only [List.mem_cons, List.not_mem_nil, or_false] at hmem
    rcases hmem with rfl | rfl | rfl | rfl <;> decide
  obtain ⟨-, -, hentity, -⟩ := merge_leaves_untouched zoo zooText ⟨"demo#Pet", "Pet"⟩
    Settings.standard.markerId hunnamed
  exact ⟨rfl, rfl, hentity.trans rfl⟩

end EntityForge.Model

import EntityForge.Json.Record

/-!
# Records with mapped fields

Two readers of records may go through a text in the same way and differ only in what they make of
the values of the fields: they have fields of the same names, and the readers, the defaults and the
values of the one are those of the other with functions applied (`Json.Fields.Mapped`). Then they
read the same texts and refuse the same texts for the same reasons, and what the one gives is what
the other gives with a function applied (`Json.Reader.record_mapped`).
-/

set_option autoImplicit false

universe u v w

namespace EntityForge.Json

/-- What a step gives, with a function applied to the value. -/
def Step.mapped {α : Type u} {β : Type v} (f : α → β) (step : Step α) : Step β :=
  step.andThen fun value rest => .ok (f value, rest)

/-- A reader whose values have a function applied. -/
def Reader.mapped {α : Type u} {β : Type v} (f : α → β) (read : Reader α) : Reader β :=
  fun nesting rest => (read nesting rest).mapped f

@[simp] theorem Step.mapped_ok {α : Type u} {β : Type v} (f : α → β) (value : α)
    (rest : List Char) : Step.mapped f (.ok (value, rest)) = .ok (f value, rest) := rfl

@[simp] theorem Step.mapped_error {α : Type u} {β : Type v} (f : α → β) (halt : Halt) :
    Step.mapped f (.error halt) = .error halt := rfl

theorem Reader.mapped_id {α : Type u} (read : Reader α) : read.mapped id = read := by
  funext nesting rest
  unfold Reader.mapped
  cases read nesting rest <;> rfl

theorem Reader.mapped_mapped {α : Type u} {β : Type v} {γ : Type w} (read : Reader α) (f : α → β)
    (g : β → γ) : (read.mapped f).mapped g = read.mapped (g ∘ f) := by
  funext nesting rest
  unfold Reader.mapped
  cases read nesting rest <;> rfl

namespace Fields

/-- What a key is to a record whose slots have a function applied. -/
def KeyRole.mapped {δ δ' : Type} (g : δ → δ') : KeyRole δ → KeyRole δ'
  | .unknown => .unknown
  | .repeated => .repeated
  | .field read => .field (read.mapped g)

/-- Fields of the same names as others, whose slots and values are those of the others with
functions applied. -/
inductive Mapped : {δ τ δ' τ' : Type} → Fields δ τ → Fields δ' τ' → (δ → δ') → (τ → τ') → Prop where
  | nil : Mapped .nil .nil id id
  | cons {α α' δ τ δ' τ' : Type} {rest : Fields δ τ} {rest' : Fields δ' τ'} {g : δ → δ'}
      {k : τ → τ'} (name : String) (fallback : Option α) (read : Reader α) (f : α → α')
      (hrest : Mapped rest rest' g k) :
      Mapped (.cons name fallback read rest)
        (.cons name (fallback.map f) (read.mapped f) rest')
        (Prod.map (Option.map f) g) (Prod.map f k)

variable {δ τ δ' τ' : Type} {fields : Fields δ τ} {fields' : Fields δ' τ'} {g : δ → δ'}
  {k : τ → τ'}

/-- A field may be the same in both. -/
theorem Mapped.same {α : Type} (h : Mapped fields fields' g k) (name : String)
    (fallback : Option α) (read : Reader α) :
    Mapped (.cons name fallback read fields) (.cons name fallback read fields')
      (Prod.map id g) (Prod.map id k) := by
  have hcons := Mapped.cons name fallback read id h
  rwa [Option.map_id, id, Reader.mapped_id] at hcons

theorem Mapped.count_eq (h : Mapped fields fields' g k) : fields'.count = fields.count := by
  induction h with
  | nil => rfl
  | cons name fallback read f hrest ih => simp [count, ih]

theorem Mapped.blank_eq (h : Mapped fields fields' g k) : fields'.blank = g fields.blank := by
  induction h with
  | nil => rfl
  | cons name fallback read f hrest ih => simp [blank, ih]

/-- The same field is missing, or the values have the function applied. -/
theorem Mapped.values_eq (h : Mapped fields fields' g k) : ∀ slots : δ,
    fields'.values (g slots) = (fields.values slots).map k := by
  induction h with
  | nil => exact fun _ => rfl
  | cons name fallback read f hrest ih =>
    rintro ⟨slot, slots⟩
    have hslot : (slot.map f).or (fallback.map f) = (slot.or fallback).map f := by
      cases slot <;> rfl
    simp only [values, Prod.map, hslot, ih]
    cases slot.or fallback with
    | none => rfl
    | some value => cases hvalues : Fields.values _ slots <;> rfl

/-- A key is to both what it is to the one. -/
theorem Mapped.role_eq (h : Mapped fields fields' g k) (key : String) : ∀ slots : δ,
    fields'.role key (g slots) = (fields.role key slots).mapped g := by
  induction h with
  | nil => exact fun _ => rfl
  | @cons α α' δ τ δ' τ' rest rest' g k name fallback read f hrest ih =>
    rintro ⟨slot, slots⟩
    simp only [role, Prod.map, Option.isSome_map, ih]
    by_cases hkey : key = name
    · rw [if_pos hkey, if_pos hkey]
      cases slot.isSome with
      | true => rfl
      | false =>
        change KeyRole.field ((read.mapped f).mapped fun value => (some value, g slots))
          = .field ((read.mapped fun value => (some value, slots)).mapped _)
        rw [Reader.mapped_mapped, Reader.mapped_mapped]
        rfl
    · rw [if_neg hkey, if_neg hkey]
      cases rest.role key slots with
      | unknown => rfl
      | repeated => rfl
      | field read =>
        change KeyRole.field ((read.mapped g).mapped fun slots => (slot.map f, slots))
          = .field ((read.mapped fun slots => (slot, slots)).mapped _)
        rw [Reader.mapped_mapped, Reader.mapped_mapped]
        rfl

theorem Mapped.objectLoop_eq (h : Mapped fields fields' g k) (nesting : Nat) : ∀ (fuel : Nat)
    (first : Bool) (slots : δ) (rest : List Char),
      fields'.objectLoop nesting fuel first (g slots) rest
        = (fields.objectLoop nesting fuel first slots rest).mapped g := by
  -- on the fuel; a key has the same role in both, and the slots stay those with `g` applied
  intro fuel
  induction fuel with
  | zero => exact fun _ _ _ => rfl
  | succ fuel ih =>
    intro first slots rest
    unfold objectLoop
    rcases Reader.nextKey first rest with halt | ended | inside
    · rfl
    · rfl
    simp only
    rcases stringBody inside with halt | ⟨key, rest⟩
    · rfl
    simp only [Step.andThen_ok]
    rw [h.role_eq]
    cases fields.role key slots with
    | unknown =>
      simp only [KeyRole.mapped]
      rcases colon rest with halt | rest
      · rfl
      rcases hskip : skipValue rest with halt | rest
      · simp [hskip]
      · simpa [hskip] using ih false slots rest
    | repeated => rfl
    | field read =>
      simp only [KeyRole.mapped]
      rcases colon rest with halt | rest
      · rfl
      rcases hread : read nesting rest with halt | ⟨slots, rest⟩
      · simp [Reader.mapped, hread]
      · simpa [Reader.mapped, hread] using ih false slots rest

theorem Mapped.fromItems_eq (h : Mapped fields fields' g k) (record : String)
    (total nesting : Nat) : ∀ (index : Nat) (items : Items),
    fields'.fromItems record total nesting index items
      = (fields.fromItems record total nesting index items).map (Prod.map k id) := by
  -- on the fields, as an array lists their values in order
  induction h with
  | nil => exact fun _ _ => rfl
  | @cons α α' δ τ δ' τ' rest rest' g k name fallback read f hrest ih =>
    intro index items
    unfold fromItems
    rcases items.next with halt | after | item
    · rfl
    · cases fallback with
      | none => rfl
      | some value =>
        simp only [Option.map_some, ih]
        cases rest.fromItems record total nesting (index + 1) (.ended after) <;> rfl
    · simp only [Reader.mapped]
      rcases read nesting item with halt | ⟨value, after⟩
      · rfl
      · simp only [Step.mapped_ok, Step.andThen_ok, ih]
        cases rest.fromItems record total nesting (index + 1) (.unread false after) <;> rfl

end Fields

/-- A value of another type is refused whatever was to be made of it. -/
theorem Reader.haltWrongType_mapped {α β : Type} (f : α → β) (needed : Needed)
    (rest : List Char) :
    Step.mapped f (Reader.haltWrongType needed rest) = Reader.haltWrongType needed rest := by
  unfold Reader.haltWrongType
  split
  · rfl
  · rfl
  · cases Reader.scalar rest <;> rfl

/-- Records with mapped fields are read alike, and what is made of the one is what is made of the
other with a function applied. -/
theorem Reader.record_mapped {α β δ τ δ' τ' : Type} {fields : Fields δ τ} {fields' : Fields δ' τ'}
    {g : δ → δ'} {k : τ → τ'} (h : Fields.Mapped fields fields' g k) (name : String)
    {make : τ → α} {make' : τ' → β} {f : α → β}
    (hmake : ∀ values, make' (k values) = f (make values)) :
    Reader.record name fields' make' = (Reader.record name fields make).mapped f := by
  funext nesting rest
  simp only [Reader.mapped, Reader.record]
  generalize dropGaps rest = next
  split
  · rename_i inside
    cases nesting with
    | zero => rfl
    | succ nesting =>
      simp only [Reader.opening, List.drop_succ_cons, List.drop_zero, h.blank_eq, h.objectLoop_eq]
      rcases fields.objectLoop nesting (inside.length + 1) true fields.blank inside with
        halt | ⟨slots, after⟩
      · rfl
      · simp only [Step.mapped_ok, Step.andThen_ok, h.values_eq]
        cases fields.values slots with
        | error missing => rfl
        | ok values => simp only [Except.map, hmake, Step.mapped_ok]
  · rename_i inside
    cases nesting with
    | zero => rfl
    | succ nesting =>
      simp only [Reader.opening, List.drop_succ_cons, List.drop_zero, h.count_eq, h.fromItems_eq]
      rcases fields.fromItems name fields.count nesting 0 (.unread true inside) with
        halt | ⟨values, items⟩
      · rfl
      · simp only [Except.map, Prod.map, id, hmake]
        cases items.close <;> rfl
  · exact (Reader.haltWrongType_mapped f _ _).symm

/-! ## Entries -/

/-- Reads an object with values of one type and gives all entries, in the order of the text. -/
def Reader.entries {α : Type} (value : Reader α) : Reader (List (String × α)) := fun nesting rest =>
  match dropGaps rest with
  | '\x7b' :: rest =>
    opening (fun nesting rest => entriesLoop (value nesting) (rest.length + 1) true rest) nesting
      ('\x7b' :: rest)
  | other => haltWrongType .object other

/-- A dictionary is read as entries, of which the later counts where two have one key. -/
theorem Reader.dictionary_eq_mapped {α : Type} (value : Reader α) :
    Reader.dictionary value = (Reader.entries value).mapped Dictionary.ofList := by
  funext nesting rest
  by_cases hopen : ∃ inside, dropGaps rest = '\x7b' :: inside
  · obtain ⟨inside, hinside⟩ := hopen
    simp only [Reader.mapped, Reader.dictionary, Reader.entries, hinside]
    cases nesting with
    | zero => rfl
    | succ nesting => rfl
  · -- a value of another type, refused by both
    have hdictionary : Reader.dictionary value nesting rest
        = Reader.haltWrongType .object (dropGaps rest) := by
      unfold Reader.dictionary
      split
      · exact absurd ⟨_, ‹_›⟩ hopen
      · rfl
    have hentries : Reader.entries value nesting rest
        = Reader.haltWrongType .object (dropGaps rest) := by
      unfold Reader.entries
      split
      · exact absurd ⟨_, ‹_›⟩ hopen
      · rfl
    rw [Reader.mapped, hdictionary, hentries, Reader.haltWrongType_mapped]

/-- Whole texts are read alike. -/
theorem read_mapped {α β : Type} (f : α → β) (reader : Reader α) (text : String) :
    read (reader.mapped f) text = (read reader text).map f := by
  unfold read Reader.whole Reader.mapped
  rcases reader Reader.nestingLimit text.toList with halt | ⟨value, rest⟩
  · rfl
  · simp only [Step.mapped_ok, Step.andThen_ok]
    cases dropGaps rest <;> rfl

end EntityForge.Json

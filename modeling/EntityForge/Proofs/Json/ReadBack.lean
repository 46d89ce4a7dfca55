import EntityForge.Json.Writer
import EntityForge.Proofs.Json.Literal
import EntityForge.Proofs.Json.MappedRecord

/-!
# Forms that read back

The two ways of writing a value differ only in what stands between the tokens, so both are cases of
one writer with a layout (`Json.Layout.chars`): the compact form has nothing there, the spread one
has line ends and blanks.

A reader gives a value back from a form (`Json.ReadsBack`) when it does so in every layout, behind
every gap and in front of every text. Strings and words of a fixed set read back, an array does if
its items do (`Json.list_readsBack`), and a record does if each of its fields does
(`Json.record_readsBack`): the names of the fields are distinct, so every key of the object leads
to a slot that is still empty. Each container costs one level of nesting, and whole texts may use
as many as the limit allows (`Json.read_of_readsBack`).
-/

set_option autoImplicit false

namespace EntityForge.Json

/-! ## Layouts -/

/-- Nothing but characters that may stand between tokens. -/
def Gap (gap : List Char) : Prop := ∀ c ∈ gap, isGap c = true

/-- What is written between the tokens of a value. -/
structure Layout where
  /-- What begins the line of an entry, or of the end of a container, at a level. -/
  line : Nat → List Char
  /-- What stands between a colon and the value. -/
  space : List Char
  /-- Lines begin with gaps. -/
  line_gap : ∀ level, Gap (line level)
  /-- Between a colon and the value is a gap. -/
  space_gap : Gap space

namespace Layout

mutual

/-- The text of a value that stands at a level. -/
def chars (layout : Layout) (level : Nat) : Json → List Char
  | .null => nullChars
  | .bool value => boolChars value
  | .integer value => integerChars value
  | .real value => realChars value
  | .text value => literalChars value.toList
  | .list [] => ['[', ']']
  | .list (item :: items) =>
    '[' :: (layout.line (level + 1) ++
      (layout.chars (level + 1) item ++ layout.itemChars level items))
  | .object [] => ['\x7b', '\x7d']
  | .object (entry :: entries) =>
    '\x7b' :: (layout.line (level + 1) ++ (literalChars entry.1.toList ++ ':' :: (layout.space ++
      (layout.chars (level + 1) entry.2 ++ layout.entryChars level entries))))

/-- The items after the first one, up to the end of the array. -/
def itemChars (layout : Layout) (level : Nat) : List Json → List Char
  | [] => layout.line level ++ [']']
  | item :: items =>
    ',' :: (layout.line (level + 1) ++
      (layout.chars (level + 1) item ++ layout.itemChars level items))

/-- The entries after the first one, up to the end of the object. -/
def entryChars (layout : Layout) (level : Nat) : List (String × Json) → List Char
  | [] => layout.line level ++ ['\x7d']
  | entry :: entries =>
    ',' :: (layout.line (level + 1) ++ (literalChars entry.1.toList ++ ':' :: (layout.space ++
      (layout.chars (level + 1) entry.2 ++ layout.entryChars level entries))))

end

/-- No gaps at all. -/
def tight : Layout where
  line _ := []
  space := []
  line_gap _ _ h := nomatch h
  space_gap _ h := nomatch h

theorem gap_newLine (level : Nat) : Gap (newLine level) := by
  intro c hc
  rcases List.mem_cons.1 hc with rfl | hc
  · rfl
  · rw [(List.mem_replicate.1 hc).2]
    rfl

/-- An entry per line, indented by its level. -/
def lined : Layout where
  line := newLine
  space := [' ']
  line_gap := gap_newLine
  space_gap _ h := by rw [List.mem_singleton.1 h]; rfl

mutual

/-- Compact texts are those without gaps. -/
theorem tight_chars (level : Nat) : ∀ value, tight.chars level value = compactChars value
  | .null => rfl
  | .bool _ => rfl
  | .integer _ => rfl
  | .real _ => rfl
  | .text _ => rfl
  | .list [] => rfl
  | .list (item :: items) => by
    rw [chars, compactChars, tight_chars (level + 1) item, tight_itemChars level items]
    rfl
  | .object [] => rfl
  | .object (entry :: entries) => by
    rw [chars, compactChars, tight_chars (level + 1) entry.2, tight_entryChars level entries]
    rfl

theorem tight_itemChars (level : Nat) : ∀ items, tight.itemChars level items = compactItems items
  | [] => rfl
  | item :: items => by
    rw [itemChars, compactItems, tight_chars (level + 1) item, tight_itemChars level items]
    rfl

theorem tight_entryChars (level : Nat) :
    ∀ entries, tight.entryChars level entries = compactEntries entries
  | [] => rfl
  | entry :: entries => by
    rw [entryChars, compactEntries, tight_chars (level + 1) entry.2,
      tight_entryChars level entries]
    rfl

end

mutual

/-- Spread texts are those with an entry per line. -/
theorem lined_chars (level : Nat) : ∀ value, lined.chars level value = spreadChars level value
  | .null => rfl
  | .bool _ => rfl
  | .integer _ => rfl
  | .real _ => rfl
  | .text _ => rfl
  | .list [] => rfl
  | .list (item :: items) => by
    rw [chars, spreadChars, lined_chars (level + 1) item, lined_itemChars level items]
    rfl
  | .object [] => rfl
  | .object (entry :: entries) => by
    rw [chars, spreadChars, lined_chars (level + 1) entry.2, lined_entryChars level entries]
    rfl

theorem lined_itemChars (level : Nat) :
    ∀ items, lined.itemChars level items = spreadItems level items
  | [] => rfl
  | item :: items => by
    rw [itemChars, spreadItems, lined_chars (level + 1) item, lined_itemChars level items]
    rfl

theorem lined_entryChars (level : Nat) :
    ∀ entries, lined.entryChars level entries = spreadEntries level entries
  | [] => rfl
  | entry :: entries => by
    rw [entryChars, spreadEntries, lined_chars (level + 1) entry.2,
      lined_entryChars level entries]
    rfl

end

/-- The text of the further items has a character for each of them, and one that ends the array. -/
theorem length_lt_itemChars (layout : Layout) (level : Nat) (items : List Json) :
    items.length < (layout.itemChars level items).length := by
  induction items with
  | nil => simp [itemChars]
  | cons item items ih =>
    simp only [itemChars, List.length_cons, List.length_append]
    omega

/-- The text of the further entries has a character for each of them, and one that ends the
object. -/
theorem length_lt_entryChars (layout : Layout) (level : Nat) (entries : List (String × Json)) :
    entries.length < (layout.entryChars level entries).length := by
  induction entries with
  | nil => simp [entryChars]
  | cons entry entries ih =>
    simp only [entryChars, List.length_cons, List.length_append]
    omega

end Layout

/-- A form that begins with a quote or a bracket. -/
inductive Opens : Json → Prop where
  | text (value : String) : Opens (.text value)
  | list (items : List Json) : Opens (.list items)
  | object (entries : List (String × Json)) : Opens (.object entries)

/-- Such a form cannot be taken for a gap or for the end of an array. -/
theorem Opens.chars_eq {form : Json} (h : Opens form) (layout : Layout) (level : Nat) :
    ∃ c after, layout.chars level form = c :: after ∧ isGap c = false ∧ c ≠ ']' := by
  cases h with
  | text value => exact ⟨'"', _, rfl, by decide, by decide⟩
  | list items =>
    cases items with
    | nil => exact ⟨'[', _, rfl, by decide, by decide⟩
    | cons item items => exact ⟨'[', _, by rw [Layout.chars], by decide, by decide⟩
  | object entries =>
    cases entries with
    | nil => exact ⟨'\x7b', _, rfl, by decide, by decide⟩
    | cons entry entries => exact ⟨'\x7b', _, by rw [Layout.chars], by decide, by decide⟩

/-! ## Gaps before a token -/

theorem dropGaps_gap {gap : List Char} (h : Gap gap) {c : Char} (hc : isGap c = false)
    (rest : List Char) : dropGaps (gap ++ c :: rest) = c :: rest := by
  rw [dropGaps, List.dropWhile_append_of_pos h]
  exact dropGaps_cons_of_not_isGap rest hc

theorem Opens.dropGaps_eq {form : Json} (h : Opens form) (layout : Layout) (level : Nat)
    {gap : List Char} (hgap : Gap gap) (rest : List Char) :
    dropGaps (gap ++ (layout.chars level form ++ rest)) = layout.chars level form ++ rest := by
  obtain ⟨c, after, hchars, hc, -⟩ := h.chars_eq layout level
  rw [hchars]
  exact dropGaps_gap hgap hc (after ++ rest)

namespace Reader

variable {gap : List Char} (hgap : Gap gap) (rest : List Char)
include hgap

theorem nextItem_end (first : Bool) : nextItem first (gap ++ ']' :: rest) = .ok (.ended rest) := by
  rw [nextItem, dropGaps_gap hgap (by decide)]
  rfl

theorem nextKey_end (first : Bool) :
    nextKey first (gap ++ '\x7d' :: rest) = .ok (.ended rest) := by
  rw [nextKey, dropGaps_gap hgap (by decide)]
  rfl

theorem nextKey_first : nextKey true (gap ++ '"' :: rest) = .ok (.more rest) := by
  rw [nextKey, dropGaps_gap hgap (by decide)]
  rfl

theorem nextKey_comma : nextKey false (',' :: (gap ++ '"' :: rest)) = .ok (.more rest) := by
  have hcomma : dropGaps (',' :: (gap ++ '"' :: rest)) = ',' :: (gap ++ '"' :: rest) :=
    dropGaps_cons_of_not_isGap _ (by decide)
  simp only [nextKey, hcomma, dropGaps_gap hgap (show isGap '"' = false by decide)]
  rfl

variable {form : Json} (hopens : Opens form) (layout : Layout) (level : Nat)
include hopens

theorem nextItem_first :
    nextItem true (gap ++ (layout.chars level form ++ rest))
      = .ok (.more (layout.chars level form ++ rest)) := by
  rw [nextItem, hopens.dropGaps_eq layout level hgap]
  obtain ⟨c, after, hchars, -, hc⟩ := hopens.chars_eq layout level
  simp only [hchars, List.cons_append, if_neg hc, if_true]

theorem nextItem_comma :
    nextItem false (',' :: (gap ++ (layout.chars level form ++ rest)))
      = .ok (.more (layout.chars level form ++ rest)) := by
  have hdrop := hopens.dropGaps_eq layout level hgap rest
  obtain ⟨c, after, hchars, -, hc⟩ := hopens.chars_eq layout level
  rw [hchars] at hdrop ⊢
  rw [nextItem, dropGaps_cons_of_not_isGap _ (show isGap ',' = false by decide)]
  simp only [hdrop, if_neg (show ',' ≠ ']' by decide), Bool.false_eq_true, if_false, if_true]
  split
  · contradiction
  · -- the end of the array would begin the form
    rename_i heq
    cases heq
    exact absurd rfl hc
  · rfl

end Reader

/-! ## Forms of strings, words and arrays -/

/-- A reader gives a value back from its form in any layout, whatever gap is before it and whatever
text behind it, if `depth` containers may be opened. -/
structure ReadsBack {α : Type} (depth : Nat) (reader : Reader α) (form : Json) (value : α) :
    Prop where
  opens : Opens form
  reads : ∀ (layout : Layout) (nesting level : Nat) (gap rest : List Char), depth ≤ nesting →
    Gap gap → reader nesting (gap ++ (layout.chars level form ++ rest)) = .ok (value, rest)

variable {α β : Type} {depth : Nat}

theorem ReadsBack.reads_here {reader : Reader α} {form : Json} {value : α}
    (h : ReadsBack depth reader form value) (layout : Layout) {nesting : Nat}
    (hdepth : depth ≤ nesting) (level : Nat) (rest : List Char) :
    reader nesting (layout.chars level form ++ rest) = .ok (value, rest) :=
  h.reads layout nesting level [] rest hdepth fun _ hc => nomatch hc

/-- What is made of the value is given back too. -/
theorem ReadsBack.mapped {reader : Reader α} {form : Json} {value : α}
    (h : ReadsBack depth reader form value) (f : α → β) :
    ReadsBack depth (reader.mapped f) form (f value) where
  opens := h.opens
  reads layout nesting level gap rest hdepth hgap := by
    rw [Reader.mapped, h.reads layout nesting level gap rest hdepth hgap, Step.mapped_ok]

theorem dropGaps_literalChars {gap : List Char} (hgap : Gap gap) (text : String)
    (rest : List Char) : dropGaps (gap ++ (literalChars text.toList ++ rest))
      = '"' :: (escaped text.toList ++ '"' :: rest) := by
  have hliteral : literalChars text.toList ++ rest
      = '"' :: (escaped text.toList ++ '"' :: rest) := by
    simp [literalChars]
  rw [hliteral]
  exact dropGaps_gap hgap (by decide) _

theorem text_readsBack (text : String) : ReadsBack depth Reader.text (.text text) text where
  opens := .text text
  reads layout nesting level gap rest _ hgap := by
    rw [Reader.text, Layout.chars, dropGaps_literalChars hgap]
    exact stringBody_escaped text rest

/-- A word that is listed with its meaning is read as that. -/
theorem choice_readsBack {variants : List (String × α)} {name : String} {variant : α}
    (h : lookupEntry name variants = some variant) :
    ReadsBack depth (Reader.choice variants) (.text name) variant where
  opens := .text name
  reads layout nesting level gap rest _ hgap := by
    rw [Reader.choice, Layout.chars, dropGaps_literalChars hgap]
    change Reader.variantName variants _ = _
    rw [Reader.variantName, stringBody_escaped]
    simp only [Step.andThen_ok, h]

/-- Reads an item and goes on with those after it. -/
theorem itemsLoop_item {item : Reader α} {form : Json} {value : α}
    (h : ReadsBack depth item form value) {layout : Layout} {nesting level : Nat}
    (hdepth : depth ≤ nesting) {first : Bool} {chars rest : List Char}
    (hnext : Reader.nextItem first chars = .ok (.more (layout.chars level form ++ rest)))
    (fuel : Nat) :
    Reader.itemsLoop (item nesting) (fuel + 1) first chars
      = (Reader.itemsLoop (item nesting) fuel false rest).andThen
          fun values rest => .ok (value :: values, rest) := by
  simp only [Reader.itemsLoop, hnext, h.reads_here layout hdepth level rest]
  rfl

/-- The further items of an array are read up to its end, if each of them reads back. -/
theorem itemsLoop_itemChars {item : Reader α} {form : α → Json} {values : List α}
    (h : ∀ value ∈ values, ReadsBack depth item (form value) value) (layout : Layout)
    {nesting : Nat} (hdepth : depth ≤ nesting) (level : Nat) (rest : List Char) :
    ∀ fuel, values.length < fuel →
      Reader.itemsLoop (item nesting) fuel false
        (layout.itemChars level (values.map form) ++ rest) = .ok (values, rest) := by
  -- on the items, as every one of them takes one unit of fuel
  induction values with
  | nil =>
    intro fuel hfuel
    obtain ⟨fuel, rfl⟩ := Nat.exists_eq_add_one_of_ne_zero (Nat.ne_of_gt hfuel)
    rw [List.map_nil, Layout.itemChars, List.append_assoc, List.singleton_append,
      Reader.itemsLoop, Reader.nextItem_end (layout.line_gap level)]
  | cons value values ih =>
    intro fuel hfuel
    obtain ⟨fuel, rfl⟩ := Nat.exists_eq_add_one_of_ne_zero (Nat.ne_of_gt (Nat.zero_lt_of_lt hfuel))
    obtain ⟨hvalue, hvalues⟩ := List.forall_mem_cons.1 h
    rw [List.map_cons, Layout.itemChars, List.cons_append, List.append_assoc, List.append_assoc,
      itemsLoop_item hvalue hdepth
        (Reader.nextItem_comma (layout.line_gap (level + 1)) _ hvalue.opens layout (level + 1)),
      ih hvalues fuel (Nat.lt_of_succ_lt_succ hfuel)]
    rfl

theorem list_eq_itemsLoop {item : Reader α} {nesting : Nat} {rest inside : List Char}
    (h : dropGaps rest = '[' :: inside) :
    Reader.list item (nesting + 1) rest
      = Reader.itemsLoop (item nesting) (inside.length + 1) true inside := by
  rw [Reader.list, h]
  rfl

/-- An array reads back if its items do. -/
theorem list_readsBack {item : Reader α} {form : α → Json} {values : List α}
    (h : ∀ value ∈ values, ReadsBack depth item (form value) value) :
    ReadsBack (depth + 1) (Reader.list item) (.list (values.map form)) values where
  opens := .list _
  reads layout nesting level gap rest hdepth hgap := by
    -- the container takes one level, and what is left is enough for what it holds
    obtain ⟨spare, rfl⟩ := Nat.exists_eq_add_of_lt hdepth
    have hdepth : depth ≤ depth + spare := Nat.le_add_right depth spare
    cases values with
    | nil => exact list_eq_itemsLoop (dropGaps_gap hgap (by decide) (']' :: rest))
    | cons value values =>
      obtain ⟨hvalue, hvalues⟩ := List.forall_mem_cons.1 h
      have hopen : dropGaps
          (gap ++ (layout.chars level (.list ((value :: values).map form)) ++ rest))
          = '[' :: (layout.line (level + 1) ++ (layout.chars (level + 1) (form value) ++
              (layout.itemChars level (values.map form) ++ rest))) := by
        rw [List.map_cons, Layout.chars]
        simp only [List.cons_append, List.append_assoc]
        exact dropGaps_gap hgap (by decide) _
      rw [list_eq_itemsLoop hopen, itemsLoop_item hvalue hdepth
          (Reader.nextItem_first (layout.line_gap (level + 1)) _ hvalue.opens layout (level + 1)),
        itemsLoop_itemChars hvalues layout hdepth level rest]
      · rfl
      · have hlength := layout.length_lt_itemChars level (values.map form)
        rw [List.length_map] at hlength
        simp only [List.length_append]
        omega

/-! ## Forms of records -/

namespace Fields

/-- The names of the fields in order. -/
def names : {δ τ : Type} → Fields δ τ → List String
  | _, _, .nil => []
  | _, _, .cons name _ _ rest => name :: rest.names

/-- The slots when every field has its value. -/
def full : {δ τ : Type} → Fields δ τ → τ → δ
  | _, _, .nil, _ => ()
  | _, _, .cons _ _ _ rest, (value, values) => (some value, rest.full values)

theorem values_full {δ τ : Type} (fields : Fields δ τ) (values : τ) :
    fields.values (fields.full values) = .ok values := by
  induction fields with
  | nil => rfl
  | cons name fallback read rest ih =>
    obtain ⟨value, values⟩ := values
    simp only [Fields.values, full, Option.some_or, ih]

/-- Entries that stand in the order of the fields: each has the name of its field and a form from
which the field's reader gives the value back. -/
inductive Holds (depth : Nat) : {δ τ : Type} → Fields δ τ → List (String × Json) → τ → Prop where
  | nil : Holds depth .nil [] ()
  | cons {α δ τ : Type} {rest : Fields δ τ} {forms : List (String × Json)} {values : τ}
      {name : String} {fallback : Option α} {read : Reader α} {form : Json} {value : α}
      (hfield : ReadsBack depth read form value) (hrest : Holds depth rest forms values) :
      Holds depth (.cons name fallback read rest) ((name, form) :: forms) (value, values)

/-- Entries that lead from slots to slots: the key of each is that of a field to be read, and its
form is read into the slot. -/
inductive Fills (depth : Nat) {δ τ : Type} (fields : Fields δ τ) :
    δ → List (String × Json) → δ → Prop where
  | done (slots : δ) : Fills depth fields slots [] slots
  | entry {slots next last : δ} {key : String} {form : Json} {forms : List (String × Json)}
      {read : Reader δ} (hrole : fields.role key slots = .field read)
      (hread : ReadsBack depth read form next) (hlater : Fills depth fields next forms last) :
      Fills depth fields slots ((key, form) :: forms) last

variable {δ τ : Type} {fields : Fields δ τ} {forms : List (String × Json)} {values : τ}

/-- A string may be the value of a further field in front. -/
theorem Holds.text (h : fields.Holds depth forms values) {name : String}
    {fallback : Option String} {text : String} :
    (Fields.cons name fallback Reader.text fields).Holds depth ((name, .text text) :: forms)
      (text, values) :=
  .cons (text_readsBack text) h

theorem Holds.names_eq (h : fields.Holds depth forms values) :
    forms.map Prod.fst = fields.names := by
  induction h with
  | nil => rfl
  | cons hfield hrest ih => rw [List.map_cons, ih, names]

/-- A further field in front keeps its slot while entries of other names are read. -/
theorem Fills.behind {slots last : δ} (h : fields.Fills depth slots forms last) {name : String}
    (hname : name ∉ forms.map Prod.fst) (fallback : Option α) (read : Reader α)
    (slot : Option α) :
    (Fields.cons name fallback read fields).Fills depth (slot, slots) forms (slot, last) := by
  induction h with
  | done slots => exact .done (slot, slots)
  | @entry slots next last key form forms inner hrole hread hlater ih =>
    rw [List.map_cons, List.mem_cons, not_or] at hname
    obtain ⟨hkey, hname⟩ := hname
    have hbehind : (Fields.cons name fallback read fields).role key (slot, slots)
        = .field (inner.mapped fun slots => (slot, slots)) := by
      simp only [role, if_neg (Ne.symm hkey), hrole]
      rfl
    exact .entry hbehind (hread.mapped fun slots => (slot, slots)) (ih hname)

/-- Entries in the order of the fields fill all slots. -/
theorem Holds.fills (h : fields.Holds depth forms values) (hnames : fields.names.Nodup) :
    fields.Fills depth fields.blank forms (fields.full values) := by
  induction h with
  | nil => exact .done ()
  | @cons α δ τ rest forms values name fallback read form value hfield hrest ih =>
    obtain ⟨hname, hnames⟩ := List.nodup_cons.1 hnames
    rw [← hrest.names_eq] at hname
    have hrole : (Fields.cons name fallback read rest).role name (none, rest.blank)
        = .field (read.mapped fun value => (some value, rest.blank)) := by
      simp only [role, if_pos, Option.isSome_none, Bool.false_eq_true, if_false]
      rfl
    exact .entry hrole (hfield.mapped _) ((ih hnames).behind hname fallback read (some value))

/-- Reads an entry into its slot and goes on with those after it. -/
theorem objectLoop_entry {slots next : δ} {key : String} {form : Json} {read : Reader δ}
    (hrole : fields.role key slots = .field read) (hread : ReadsBack depth read form next)
    {layout : Layout} {nesting level : Nat} (hdepth : depth ≤ nesting) {first : Bool}
    {chars rest : List Char}
    (hnext : Reader.nextKey first chars = .ok (.more (escaped key.toList ++
      '"' :: ':' :: (layout.space ++ (layout.chars level form ++ rest))))) (fuel : Nat) :
    fields.objectLoop nesting (fuel + 1) first slots chars
      = fields.objectLoop nesting fuel false next rest := by
  simp only [objectLoop, hnext, stringBody_escaped, Step.andThen_ok, hrole]
  have hcolon : colon (':' :: (layout.space ++ (layout.chars level form ++ rest)))
      = .ok (layout.space ++ (layout.chars level form ++ rest)) := by
    rw [colon, dropGaps_cons_of_not_isGap _ (by decide)]
    rfl
  simp only [hcolon, Pass.andThen_ok, Step.andThen_ok,
    hread.reads layout nesting level layout.space rest hdepth layout.space_gap]

/-- The further entries of an object are read up to its end. -/
theorem objectLoop_entryChars {slots last : δ} (h : fields.Fills depth slots forms last)
    (layout : Layout) {nesting : Nat} (hdepth : depth ≤ nesting) (level : Nat)
    (rest : List Char) : ∀ fuel, forms.length < fuel →
      fields.objectLoop nesting fuel false slots (layout.entryChars level forms ++ rest)
        = .ok (last, rest) := by
  -- on the entries, as every one of them takes one unit of fuel
  induction h with
  | done slots =>
    intro fuel hfuel
    obtain ⟨fuel, rfl⟩ := Nat.exists_eq_add_one_of_ne_zero (Nat.ne_of_gt hfuel)
    rw [Layout.entryChars, List.append_assoc, List.singleton_append, objectLoop,
      Reader.nextKey_end (layout.line_gap level)]
  | @entry slots next last key form forms read hrole hread hlater ih =>
    intro fuel hfuel
    obtain ⟨fuel, rfl⟩ := Nat.exists_eq_add_one_of_ne_zero (Nat.ne_of_gt (Nat.zero_lt_of_lt hfuel))
    have hnext : Reader.nextKey false (layout.entryChars level ((key, form) :: forms) ++ rest)
        = .ok (.more (escaped key.toList ++ '"' :: ':' :: (layout.space ++
            (layout.chars (level + 1) form ++ (layout.entryChars level forms ++ rest))))) := by
      rw [Layout.entryChars, literalChars]
      simp only [List.cons_append, List.append_assoc, List.nil_append]
      exact Reader.nextKey_comma (layout.line_gap (level + 1)) _
    rw [objectLoop_entry hrole hread hdepth hnext]
    exact ih fuel (Nat.lt_of_succ_lt_succ hfuel)

/-- After the bracket that opens an object its entries are read up to its end. -/
theorem objectLoop_object {slots last : δ} (h : fields.Fills depth slots forms last)
    (layout : Layout) {nesting : Nat} (hdepth : depth ≤ nesting) (level : Nat)
    (rest : List Char) :
    ∃ inside, layout.chars level (.object forms) = '\x7b' :: inside ∧
      fields.objectLoop nesting ((inside ++ rest).length + 1) true slots (inside ++ rest)
        = .ok (last, rest) := by
  cases h with
  | done => exact ⟨['\x7d'], rfl, rfl⟩
  | @entry slots next last key form forms read hrole hread hlater =>
    have hlength := layout.length_lt_entryChars level forms
    have hlater := objectLoop_entryChars hlater layout hdepth level rest
    refine ⟨_, by rw [Layout.chars], ?_⟩
    simp only [literalChars, List.append_assoc, List.cons_append, List.nil_append]
    rw [objectLoop_entry hrole hread hdepth
      (Reader.nextKey_first (layout.line_gap (level + 1)) _)]
    apply hlater
    simp only [List.length_append, List.length_cons]
    omega

end Fields

theorem record_eq_objectLoop {δ τ : Type} {fields : Fields δ τ} {name : String} {make : τ → α}
    {nesting : Nat} {rest inside : List Char} (h : dropGaps rest = '\x7b' :: inside) :
    Reader.record name fields make (nesting + 1) rest
      = (fields.objectLoop nesting (inside.length + 1) true fields.blank inside).andThen
          fun slots rest =>
            match fields.values slots with
            | .ok values => .ok (make values, rest)
            | .error missing => haltAt (.missingField missing) rest := by
  rw [Reader.record, h]
  rfl

/-- A record reads back if its fields do and have distinct names. -/
theorem record_readsBack {δ τ : Type} {fields : Fields δ τ} {forms : List (String × Json)}
    {values : τ} {name : String} {make : τ → α} (hnames : fields.names.Nodup)
    (h : fields.Holds depth forms values) :
    ReadsBack (depth + 1) (Reader.record name fields make) (.object forms) (make values) where
  opens := .object forms
  reads layout nesting level gap rest hdepth hgap := by
    -- the container takes one level, and what is left is enough for what it holds
    obtain ⟨spare, rfl⟩ := Nat.exists_eq_add_of_lt hdepth
    have hdepth : depth ≤ depth + spare := Nat.le_add_right depth spare
    obtain ⟨inside, hinside, hloop⟩ :=
      Fields.objectLoop_object (h.fills hnames) layout hdepth level rest
    have hopen : dropGaps (gap ++ (layout.chars level (.object forms) ++ rest))
        = '\x7b' :: (inside ++ rest) := by
      rw [hinside]
      exact dropGaps_gap hgap (by decide) _
    rw [record_eq_objectLoop hopen, hloop]
    simp only [Step.andThen_ok, Fields.values_full]

/-! ## Whole texts -/

/-- A form that reads back within the limit makes up a text from which the value is read. -/
theorem read_of_readsBack {reader : Reader α} {form : Json} {value : α}
    (h : ReadsBack Reader.nestingLimit reader form value) (layout : Layout) :
    read reader (String.ofList (layout.chars 0 form)) = .ok value := by
  have hread := h.reads_here layout (Nat.le_refl _) 0 []
  rw [List.append_nil] at hread
  have hwhole : Reader.whole reader (layout.chars 0 form) = .ok value := by
    rw [Reader.whole, hread]
    rfl
  rw [read, String.toList_ofList, hwhole]

theorem read_compact {reader : Reader α} {form : Json} {value : α}
    (h : ReadsBack Reader.nestingLimit reader form value) :
    read reader form.compact = .ok value := by
  rw [compact, ← Layout.tight_chars 0 form]
  exact read_of_readsBack h Layout.tight

theorem read_spread {reader : Reader α} {form : Json} {value : α}
    (h : ReadsBack Reader.nestingLimit reader form value) :
    read reader form.spread = .ok value := by
  rw [spread, ← Layout.lined_chars 0 form]
  exact read_of_readsBack h Layout.lined

end EntityForge.Json

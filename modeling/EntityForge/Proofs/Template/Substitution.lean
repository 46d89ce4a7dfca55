import EntityForge.Proofs.Template
import Mathlib.Data.List.TakeWhile

/-!
# Rendering as substitution

A slot stands in a text wherever a key is between two opening and two closing braces
(`Template.SlotAt`): this speaks of the text alone and not of the order in which it is read. Reading
a template from its beginning finds exactly these places. No brace belongs to a key, so a slot that
begins behind another one begins behind its end (`SlotAt.behind`), and a slot that is passed over
hides no other one.

So there is one way to divide a text into slots and other characters in which every slot counts
(`Template.divides_iff`), and rendering replaces each slot there by its value and keeps everything
else; a value that looks like a slot stays as it is. Rendering fails only for the sake of a slot
without a value, the leftmost one (`Template.render_substitutes`).
-/

set_option autoImplicit false

namespace EntityForge.Template

variable {text before after before' after' key key' : List Char} {c : Char}
  {parts : List Piece} {context : Dictionary String}

/-! ## Slots in a text -/

/-- A letter of ASCII or an underscore. -/
def IsLetter (c : Char) : Prop := ('A' ≤ c ∧ c ≤ 'Z') ∨ ('a' ≤ c ∧ c ≤ 'z') ∨ c = '_'

/-- A digit of ASCII. -/
def IsDigit (c : Char) : Prop := '0' ≤ c ∧ c ≤ '9'

/-- A letter or an underscore, followed by letters, digits and underscores. -/
def IsKey (key : List Char) : Prop :=
  ∃ first rest, key = first :: rest ∧ IsLetter first ∧ ∀ c ∈ rest, IsLetter c ∨ IsDigit c

/-- A slot stands in a text behind some of it and before the rest. -/
structure SlotAt (text before key after : List Char) : Prop where
  /-- Between the braces is a key. -/
  isKey : IsKey key
  /-- The slot with what is before and behind it is the text. -/
  text_eq : text = before ++ (Piece.slot key).source ++ after

theorem isKeyStart_iff : isKeyStart c = true ↔ IsLetter c := by
  change (decide ('A'.val ≤ c.val ∧ c.val ≤ 'Z'.val)
    || decide ('a'.val ≤ c.val) && decide (c.val ≤ 'z'.val) || decide (c = '_')) = true ↔ _
  simp only [IsLetter, Char.le_def, Bool.or_eq_true, Bool.and_eq_true, decide_eq_true_eq, or_assoc]

theorem isKeyChar_iff : isKeyChar c = true ↔ IsLetter c ∨ IsDigit c := by
  rw [← isKeyStart_iff]
  simp only [isKeyChar, isKeyStart, IsDigit, Char.isAlphanum, Char.isDigit, Char.le_def,
    Bool.or_eq_true, Bool.and_eq_true, decide_eq_true_eq]
  exact or_right_comm

theorem IsKey.isKeyChar (h : IsKey key) : ∀ c ∈ key, isKeyChar c = true := by
  obtain ⟨first, rest, rfl, hfirst, hrest⟩ := h
  intro c hmem
  rw [isKeyChar_iff]
  rcases List.mem_cons.1 hmem with rfl | hmem
  · exact .inl hfirst
  · exact hrest c hmem

/-- No brace belongs to a key. -/
theorem IsKey.brace_notMem (h : IsKey key) : '\x7b' ∉ key ∧ '\x7d' ∉ key := by
  constructor
  · intro hmem
    exact absurd (h.isKeyChar _ hmem) (by decide)
  · intro hmem
    exact absurd (h.isKeyChar _ hmem) (by decide)

/-! ## The slot at the beginning of a text -/

/-- The key that a text begins with ends at the first character that belongs to none. -/
theorem span_key (h : IsKey key) (after : List Char) :
    (key ++ '\x7d' :: after).takeWhile isKeyChar = key ∧
      (key ++ '\x7d' :: after).dropWhile isKeyChar = '\x7d' :: after := by
  have hbrace : isKeyChar '\x7d' = false := by decide
  rw [List.takeWhile_append_of_pos h.isKeyChar, List.dropWhile_append_of_pos h.isKeyChar,
    List.takeWhile_cons_of_neg (by simp [hbrace]), List.dropWhile_cons_of_neg (by simp [hbrace]),
    List.append_nil]
  exact ⟨rfl, rfl⟩

theorem slot?_source (h : IsKey key) (after : List Char) :
    slot? ((Piece.slot key).source ++ after) = some key := by
  obtain ⟨htake, hdrop⟩ := span_key h ('\x7d' :: after)
  obtain ⟨first, rest, hkey, hfirst, -⟩ := h
  have hstart := isKeyStart_iff.2 hfirst
  have htext : (Piece.slot key).source ++ after
      = '\x7b' :: '\x7b' :: (key ++ '\x7d' :: '\x7d' :: after) := by
    simp
  rw [htext, slot?, htake, hdrop, hkey]
  simp [hstart]

/-- A key that is found at the beginning of a text stands there. -/
theorem slotAt_of_slot? (h : slot? text = some key) :
    ∃ after, SlotAt text [] key after := by
  unfold slot? at h
  split at h
  · rename_i rest
    simp only at h
    split at h
    · rename_i first more after htake hdrop
      split at h
      · rename_i hstart
        cases h
        have hrest : rest.takeWhile isKeyChar ++ '\x7d' :: '\x7d' :: after = rest := by
          rw [← hdrop, List.takeWhile_append_dropWhile]
        have hmore : ∀ c ∈ more, isKeyChar c = true := by
          intro c hmem
          apply List.mem_takeWhile_imp (l := rest)
          rw [htake]
          exact List.mem_cons_of_mem first hmem
        refine ⟨after, ⟨first, more, htake, isKeyStart_iff.1 hstart, ?_⟩, ?_⟩
        · exact fun c hmem => isKeyChar_iff.1 (hmore c hmem)
        · simp [hrest]
      · cases h
    · cases h
  · cases h

/-- A text begins with a slot exactly if one is found there. -/
theorem slotAt_nil_iff :
    SlotAt text [] key after ↔
      slot? text = some key ∧ text = (Piece.slot key).source ++ after := by
  constructor
  · rintro ⟨hkey, rfl⟩
    exact ⟨slot?_source hkey after, rfl⟩
  · rintro ⟨hslot, htext⟩
    obtain ⟨_, hfound⟩ := slotAt_of_slot? hslot
    exact ⟨hfound.isKey, htext⟩

/-- Where no slot begins, the slots of a text are those behind its first character. -/
theorem slotAt_cons_iff (h : slot? (c :: text) = none) :
    SlotAt (c :: text) before key after ↔ ∃ gap, before = c :: gap ∧ SlotAt text gap key after := by
  constructor
  · intro hat
    cases before with
    | nil =>
      have hslot := (slotAt_nil_iff.1 hat).1
      rw [h] at hslot
      cases hslot
    | cons d gap =>
      obtain ⟨hkey, htext⟩ := hat
      simp only [List.cons_append, List.cons.injEq] at htext
      obtain ⟨rfl, htext⟩ := htext
      exact ⟨gap, rfl, hkey, htext⟩
  · rintro ⟨gap, rfl, hkey, htext⟩
    exact ⟨hkey, by rw [htext]; rfl⟩

/-- No slot begins inside another one. -/
theorem not_inside {tail : List Char} (hkey : IsKey key) (hbefore : before ≠ [])
    (h : (Piece.slot key).source = before ++ '\x7b' :: tail) (rest : List Char) :
    ¬ '\x7b' :: rest <+: tail ++ text := by
  obtain ⟨hopen, hclose⟩ := hkey.brace_notMem
  cases before with
  | nil => exact absurd rfl hbefore
  | cons d before =>
    simp only [Piece.source_slot, List.cons_append, List.cons.injEq] at h
    obtain ⟨-, h⟩ := h
    cases before with
    | nil =>
      -- the second brace is followed by the key
      simp only [List.nil_append, List.cons.injEq, true_and] at h
      obtain ⟨first, more, rfl, -, -⟩ := hkey
      rintro ⟨_, hprefix⟩
      rw [← h] at hprefix
      simp only [List.cons_append, List.cons.injEq] at hprefix
      exact hopen (by simp [← hprefix.1])
    | cons d before =>
      -- behind the second brace there is no other opening one
      simp only [List.cons_append, List.cons.injEq] at h
      have hmem : '\x7b' ∈ key ++ ['\x7d', '\x7d'] := by
        rw [h.2]
        simp
      simp [hopen] at hmem

/-- A text that begins with a slot has this slot and those of what is behind it. -/
theorem slotAt_slot_iff (hkey : IsKey key) :
    SlotAt ((Piece.slot key).source ++ text) before key' after ↔
      (before = [] ∧ key' = key ∧ after = text) ∨
        ∃ gap, before = (Piece.slot key).source ++ gap ∧ SlotAt text gap key' after := by
  constructor
  · intro hat
    by_cases hbefore : before = []
    · subst hbefore
      obtain ⟨hslot, htext⟩ := slotAt_nil_iff.1 hat
      rw [slot?_source hkey, Option.some.injEq] at hslot
      subst hslot
      exact .inl ⟨rfl, rfl, (List.append_cancel_left htext).symm⟩
    · obtain ⟨hkey', htext⟩ := hat
      rw [List.append_assoc] at htext
      right
      rcases List.append_eq_append_iff.1 htext with ⟨gap, hgap, hrest⟩ | ⟨tail, htail, hrest⟩
      · exact ⟨gap, hgap, hkey', by rw [hrest, List.append_assoc]⟩
      · cases tail with
        | nil =>
          refine ⟨[], by simpa using htail.symm, hkey', ?_⟩
          simpa using hrest.symm
        | cons d tail =>
          -- the other slot begins before the end of this one
          simp only [Piece.source_slot, List.cons_append, List.cons.injEq] at hrest
          obtain ⟨rfl, hrest⟩ := hrest
          exact absurd ⟨_, hrest⟩ (not_inside hkey hbefore htail _)
  · rintro (⟨rfl, rfl, rfl⟩ | ⟨gap, rfl, hkey', htext⟩)
    · exact ⟨hkey, rfl⟩
    · exact ⟨hkey', by rw [htext, List.append_assoc, List.append_assoc, List.append_assoc]⟩

/-! ## Texts in pieces -/

/-- The text of which pieces were made. -/
def sourceOf (parts : List Piece) : List Char := parts.flatMap Piece.source

theorem sourceOf_cons (piece : Piece) (parts : List Piece) :
    sourceOf (piece :: parts) = piece.source ++ sourceOf parts := List.flatMap_cons

/-- A slot is one of the pieces, between others of which the text before and after it was made. -/
def PieceAt (parts : List Piece) (before key after : List Char) : Prop :=
  ∃ earlier later, parts = earlier ++ .slot key :: later ∧
    sourceOf earlier = before ∧ sourceOf later = after

theorem not_pieceAt_nil : ¬ PieceAt [] before key after := by
  rintro ⟨earlier, later, h, -⟩
  simp at h

theorem pieceAt_char_iff :
    PieceAt (.char c :: parts) before key after ↔
      ∃ gap, before = c :: gap ∧ PieceAt parts gap key after := by
  constructor
  · rintro ⟨earlier, later, h, rfl, rfl⟩
    cases earlier with
    | nil => cases (List.cons.inj h).1
    | cons piece earlier =>
      obtain ⟨rfl, rfl⟩ := List.cons.inj h
      exact ⟨sourceOf earlier, rfl, earlier, later, rfl, rfl, rfl⟩
  · rintro ⟨gap, rfl, earlier, later, rfl, rfl, rfl⟩
    exact ⟨.char c :: earlier, later, rfl, rfl, rfl⟩

theorem pieceAt_slot_iff :
    PieceAt (.slot key :: parts) before key' after ↔
      (before = [] ∧ key' = key ∧ after = sourceOf parts) ∨
        ∃ gap, before = (Piece.slot key).source ++ gap ∧ PieceAt parts gap key' after := by
  constructor
  · rintro ⟨earlier, later, h, rfl, rfl⟩
    cases earlier with
    | nil =>
      obtain ⟨hpiece, rfl⟩ := List.cons.inj h
      cases hpiece
      exact .inl ⟨rfl, rfl, rfl⟩
    | cons piece earlier =>
      obtain ⟨rfl, rfl⟩ := List.cons.inj h
      exact .inr ⟨sourceOf earlier, sourceOf_cons _ _, earlier, later, rfl, rfl, rfl⟩
  · rintro (⟨rfl, rfl, rfl⟩ | ⟨gap, rfl, earlier, later, rfl, rfl, rfl⟩)
    · exact ⟨[], parts, rfl, rfl, rfl⟩
    · exact ⟨.slot key :: earlier, later, rfl, sourceOf_cons _ _, rfl⟩

/-- Pieces divide a text: they make it up, and their slots are all the slots that stand in it. -/
structure Divides (parts : List Piece) (text : List Char) : Prop where
  /-- The pieces make up the text. -/
  source_eq : sourceOf parts = text
  /-- The slots among the pieces are those of the text. -/
  slotAt_iff : ∀ before key after, SlotAt text before key after ↔ PieceAt parts before key after

theorem divides_nil : Divides [] [] where
  source_eq := rfl
  slotAt_iff before key after := by
    refine iff_of_false (fun h => ?_) not_pieceAt_nil
    have htext := h.text_eq
    simp at htext

theorem divides_char_iff (h : slot? (c :: text) = none) :
    Divides (.char c :: parts) (c :: text) ↔ Divides parts text := by
  constructor
  · rintro ⟨hsource, hslots⟩
    refine ⟨(List.cons.inj hsource).2, fun before key after => ?_⟩
    have hboth := hslots (c :: before) key after
    rw [slotAt_cons_iff h, pieceAt_char_iff] at hboth
    simpa using hboth
  · rintro ⟨hsource, hslots⟩
    refine ⟨congrArg (List.cons c) hsource, fun before key after => ?_⟩
    rw [slotAt_cons_iff h, pieceAt_char_iff]
    simp only [hslots]

theorem divides_slot_iff (hkey : IsKey key) :
    Divides (.slot key :: parts) ((Piece.slot key).source ++ text) ↔ Divides parts text := by
  have hne : ∀ gap, (Piece.slot key).source ++ gap ≠ [] := by simp
  constructor
  · rintro ⟨hsource, hslots⟩
    rw [sourceOf_cons] at hsource
    refine ⟨List.append_cancel_left hsource, fun before key' after => ?_⟩
    have hboth := hslots ((Piece.slot key).source ++ before) key' after
    rw [slotAt_slot_iff hkey, pieceAt_slot_iff] at hboth
    simpa [hne] using hboth
  · rintro ⟨hsource, hslots⟩
    refine ⟨by rw [sourceOf_cons, hsource], fun before key' after => ?_⟩
    rw [slotAt_slot_iff hkey, pieceAt_slot_iff, hsource]
    simp only [hslots]

/-! ## The pieces of a template -/

theorem piecesAfter_eq_drop (text : List Char) : ∀ skip : Nat,
    piecesAfter skip text = pieces (text.drop skip) := by
  induction text with
  | nil => exact fun skip => by simp [pieces, piecesAfter]
  | cons c text ih =>
    intro skip
    cases skip with
    | zero => rfl
    | succ skip => exact ih skip

theorem pieces_char (h : slot? (c :: text) = none) :
    pieces (c :: text) = .char c :: pieces text := by
  simp [pieces, piecesAfter, h]

theorem pieces_slot (hkey : IsKey key) (text : List Char) :
    pieces ((Piece.slot key).source ++ text) = .slot key :: pieces text := by
  have hslot := slot?_source hkey text
  simp only [Piece.source_slot, List.cons_append] at hslot ⊢
  have hdrop : ('\x7b' :: (key ++ ['\x7d', '\x7d'] ++ text)).drop (key.length + 3) = text := by
    rw [List.drop_succ_cons]
    exact List.drop_left' (by simp)
  rw [pieces, piecesAfter, hslot]
  simp only [piecesAfter_eq_drop, hdrop]

/-- The pieces of a template divide it. -/
theorem divides_pieces (text : List Char) : Divides (pieces text) text := by
  -- on the length, as a slot is passed over as a whole
  induction hlength : text.length using Nat.strong_induction_on generalizing text with
  | _ length ih =>
    cases text with
    | nil => exact divides_nil
    | cons c text =>
      cases hslot : slot? (c :: text) with
      | none =>
        rw [pieces_char hslot, divides_char_iff hslot]
        exact ih text.length (by rw [← hlength]; exact Nat.lt_succ_self _) text rfl
      | some key =>
        obtain ⟨after, hkey, htext⟩ := slotAt_of_slot? hslot
        rw [List.nil_append] at htext
        rw [htext, pieces_slot hkey, divides_slot_iff hkey]
        refine ih after.length ?_ after rfl
        rw [← hlength, htext]
        simp
        omega

/-- There is one way to divide a text: into the pieces that reading it gives. -/
theorem divides_iff : Divides parts text ↔ parts = pieces text := by
  constructor
  · intro h
    induction parts generalizing text with
    | nil =>
      obtain rfl := h.source_eq
      rfl
    | cons piece parts ih =>
      obtain rfl := h.source_eq
      cases piece with
      | char c =>
        have hslot : slot? (c :: sourceOf parts) = none := by
          rw [Option.eq_none_iff_forall_ne_some]
          intro key hfound
          -- a slot at the beginning would be the first piece
          obtain ⟨after, hat⟩ := slotAt_of_slot? hfound
          obtain ⟨gap, hgap, -⟩ := pieceAt_char_iff.1 ((h.slotAt_iff [] key after).1 hat)
          cases hgap
        have hrest := ih ((divides_char_iff hslot).1 h)
        change _ = pieces (c :: sourceOf parts)
        rw [pieces_char hslot, ← hrest]
      | slot key =>
        have hfirst : PieceAt (.slot key :: parts) [] key (sourceOf parts) :=
          pieceAt_slot_iff.2 (.inl ⟨rfl, rfl, rfl⟩)
        have hkey : IsKey key := ((h.slotAt_iff _ _ _).2 hfirst).isKey
        rw [sourceOf_cons] at h ⊢
        rw [pieces_slot hkey, ← ih ((divides_slot_iff hkey).1 h)]
  · rintro rfl
    exact divides_pieces text

/-! ## Slots do not overlap -/

/-- One slot ends before another one begins. -/
def EndsBefore (before key before' : List Char) : Prop :=
  before ++ (Piece.slot key).source <+: before'

theorem PieceAt.apart (h : PieceAt parts before key after)
    (h' : PieceAt parts before' key' after') :
    (before = before' ∧ key = key' ∧ after = after') ∨
      EndsBefore before key before' ∨ EndsBefore before' key' before := by
  unfold EndsBefore
  induction parts generalizing before before' with
  | nil => exact absurd h not_pieceAt_nil
  | cons piece parts ih =>
    cases piece with
    | char c =>
      obtain ⟨gap, rfl, hrest⟩ := pieceAt_char_iff.1 h
      obtain ⟨gap', rfl, hrest'⟩ := pieceAt_char_iff.1 h'
      simpa using ih hrest hrest'
    | slot other =>
      rcases pieceAt_slot_iff.1 h with ⟨rfl, rfl, rfl⟩ | ⟨gap, rfl, hrest⟩ <;>
        rcases pieceAt_slot_iff.1 h' with ⟨rfl, rfl, rfl⟩ | ⟨gap', rfl, hrest'⟩
      · exact .inl ⟨rfl, rfl, rfl⟩
      · exact .inr (.inl (List.prefix_append _ _))
      · exact .inr (.inr (List.prefix_append _ _))
      · rcases ih hrest hrest' with ⟨rfl, rfl, rfl⟩ | hbefore | hbehind
        · exact .inl ⟨rfl, rfl, rfl⟩
        · right
          left
          rwa [List.append_assoc, List.prefix_append_right_inj]
        · right
          right
          rwa [List.append_assoc, List.prefix_append_right_inj]

/-- Of two slots in a text one ends before the other begins, or they are the same. -/
theorem SlotAt.apart (h : SlotAt text before key after) (h' : SlotAt text before' key' after') :
    (before = before' ∧ key = key' ∧ after = after') ∨
      EndsBefore before key before' ∨ EndsBefore before' key' before := by
  have hdivides := divides_pieces text
  rw [hdivides.slotAt_iff] at h h'
  exact h.apart h'

/-! ## Filling in -/

/-- A slot has a value. -/
def HasValue (context : Dictionary String) (key : List Char) : Prop :=
  (context.get? (String.ofList key)).isSome

/-- Filling in puts a value in the place of every slot, or fails for the sake of the first slot
without one. -/
theorem fill_cases (context : Dictionary String) (parts : List Piece) :
    ((∀ before key after, PieceAt parts before key after → HasValue context key) ∧
      fill context parts = .ok (textOf context parts)) ∨
    ∃ before key after, PieceAt parts before key after ∧ ¬ HasValue context key ∧
      (∀ before' key' after', PieceAt parts before' key' after' → before'.length < before.length →
        HasValue context key') ∧
      fill context parts = .error (.template (.noValue (String.ofList key))) := by
  induction parts with
  | nil => exact .inl ⟨fun _ _ _ h => absurd h not_pieceAt_nil, rfl⟩
  | cons piece parts ih =>
    cases piece with
    | char c =>
      rcases ih with ⟨hvalues, hfill⟩ | ⟨before, key, after, hat, hnone, hearlier, hfill⟩
      · left
        refine ⟨fun before key after hat => ?_, by simp [fill, hfill]⟩
        obtain ⟨gap, -, hrest⟩ := pieceAt_char_iff.1 hat
        exact hvalues gap key after hrest
      · right
        refine ⟨c :: before, key, after, pieceAt_char_iff.2 ⟨before, rfl, hat⟩, hnone, ?_, by
          simp [fill, hfill]⟩
        intro before' key' after' hat' hlt
        obtain ⟨gap, rfl, hrest⟩ := pieceAt_char_iff.1 hat'
        exact hearlier gap key' after' hrest (by simpa using hlt)
    | slot key =>
      cases hvalue : context.get? (String.ofList key) with
      | none =>
        right
        refine ⟨[], key, sourceOf parts, pieceAt_slot_iff.2 (.inl ⟨rfl, rfl, rfl⟩), ?_, ?_, ?_⟩
        · simp [HasValue, hvalue]
        · exact fun _ _ _ _ hlt => absurd hlt (Nat.not_lt_zero _)
        · simp [fill, hvalue]
      | some value =>
        have hhas : HasValue context key := by simp [HasValue, hvalue]
        rcases ih with ⟨hvalues, hfill⟩ | ⟨before, other, after, hat, hnone, hearlier, hfill⟩
        · left
          refine ⟨fun before other after hat => ?_, ?_⟩
          · rcases pieceAt_slot_iff.1 hat with ⟨-, rfl, -⟩ | ⟨gap, -, hrest⟩
            · exact hhas
            · exact hvalues gap other after hrest
          · simp [fill, hvalue, hfill, Piece.textOf_slot hvalue]
        · right
          refine ⟨(Piece.slot key).source ++ before, other, after,
            pieceAt_slot_iff.2 (.inr ⟨before, rfl, hat⟩), hnone, ?_, by
            simp [fill, hvalue, hfill]⟩
          intro before' key' after' hat' hlt
          rcases pieceAt_slot_iff.1 hat' with ⟨-, rfl, -⟩ | ⟨gap, rfl, hrest⟩
          · exact hhas
          · exact hearlier gap key' after' hrest (by simpa using hlt)

/-- Rendering is simultaneous substitution. The slots that stand in a template do not overlap, so
there is one way to divide the template into them and other characters. Rendering succeeds exactly
if every slot has a value, and gives what becomes of the pieces when every slot is replaced by its
value and every other character stays. Otherwise it fails and names the key of the leftmost slot
without a value. -/
theorem render_substitutes (template : String) (context : Dictionary String) :
    (∀ before key after before' key' after', SlotAt template.toList before key after →
      SlotAt template.toList before' key' after' →
        (before = before' ∧ key = key' ∧ after = after') ∨
          EndsBefore before key before' ∨ EndsBefore before' key' before) ∧
    ((∃ rendered, render template context = .ok rendered) ↔
      ∀ before key after, SlotAt template.toList before key after → HasValue context key) ∧
    (∃ parts, (∀ other, Divides other template.toList ↔ other = parts) ∧
      ∀ rendered, render template context = .ok rendered →
        rendered.toList = textOf context parts) ∧
    ∀ fault, render template context = .error fault →
      ∃ before key after, SlotAt template.toList before key after ∧ ¬ HasValue context key ∧
        (∀ before' key' after', SlotAt template.toList before' key' after' →
          before'.length < before.length → HasValue context key') ∧
        fault = .template (.noValue (String.ofList key)) := by
  have hslots := (divides_pieces template.toList).slotAt_iff
  have hcases := fill_cases context (pieces template.toList)
  simp only [← hslots] at hcases
  refine ⟨fun _ _ _ _ _ _ h h' => h.apart h', ?_⟩
  rcases hcases with ⟨hvalues, hfill⟩ | ⟨before, key, after, hat, hnone, hearlier, hfill⟩
  · have hrender : render template context
        = .ok (String.ofList (textOf context (pieces template.toList))) := by
      simp [render, renderChars, hfill]
    rw [hrender]
    refine ⟨iff_of_true ⟨_, rfl⟩ hvalues, ⟨_, fun _ => divides_iff, ?_⟩, nofun⟩
    rintro _ ⟨⟩
    exact String.toList_ofList
  · have hrender : render template context = .error (.template (.noValue (String.ofList key))) := by
      simp [render, renderChars, hfill]
    rw [hrender]
    refine ⟨iff_of_false nofun fun hall => hnone (hall before key after hat),
      ⟨_, fun _ => divides_iff, nofun⟩, ?_⟩
    rintro _ ⟨⟩
    exact ⟨before, key, after, hat, hnone, hearlier, rfl⟩

/-- Of three opening braces the last two belong to the slot, and a value that looks like a slot is
not read again. -/
example :
    render "\x7b\x7b\x7ba\x7d\x7d\x7d" (.ofList [("a", "\x7b\x7bb\x7d\x7d")])
      = .ok "\x7b\x7b\x7bb\x7d\x7d\x7d" :=
  rfl

end EntityForge.Template

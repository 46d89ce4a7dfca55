import EntityForge.Json.Literal
import EntityForge.Json.Reader

/-!
# Literals read back

Reading a string literal undoes writing it, whatever stands behind the literal
(`Json.textBody_escaped`): every character reads back from what stands for it
(`Json.textLoop_escapedChar`), and the quote that ends the literal is the first one without a
backslash. So a literal says where it ends: of two texts that begin with literals, equal texts have
equal literals and equal rests (`Json.literalChars_append_inj`).
-/

set_option autoImplicit false

namespace EntityForge.Json

/-! ## Escapes -/

/-- The escape of a character by its code. -/
def codeEscape (c : Char) : List Char :=
  ['\\', 'u', '0', '0', hexDigit (c.toNat / 16), hexDigit (c.toNat % 16)]

/-- A character stands for itself, or a letter after a backslash names it, or its code does. -/
theorem escapedChar_cases (c : Char) :
    (escapedChar c = [c] ∧ c ≠ '"' ∧ c ≠ '\\' ∧ ¬ c.toNat < 32) ∨
      (∃ letter, escapedChar c = ['\\', letter] ∧ shortEscape? letter = some c) ∨
      (escapedChar c = codeEscape c ∧ c.toNat < 32) := by
  have hcode : ∀ n, c.toNat = n → Char.ofNat n = c := fun n hn => by rw [← hn, Char.ofNat_toNat]
  unfold escapedChar
  split
  · exact .inr (.inl ⟨'"', rfl, by subst_vars; rfl⟩)
  split
  · exact .inr (.inl ⟨'\\', rfl, by subst_vars; rfl⟩)
  split
  · exact .inr (.inl ⟨'n', rfl, by subst_vars; rfl⟩)
  split
  · exact .inr (.inl ⟨'r', rfl, by subst_vars; rfl⟩)
  split
  · exact .inr (.inl ⟨'t', rfl, by subst_vars; rfl⟩)
  split
  · exact .inr (.inl ⟨'b', rfl, congrArg some (hcode 8 (by assumption))⟩)
  split
  · exact .inr (.inl ⟨'f', rfl, congrArg some (hcode 12 (by assumption))⟩)
  split
  · exact .inr (.inr ⟨rfl, by assumption⟩)
  · exact .inl ⟨rfl, by assumption, by assumption, by assumption⟩

theorem escapedChar_ne_nil (c : Char) : escapedChar c ≠ [] := by
  rcases escapedChar_cases c with ⟨h, -⟩ | ⟨letter, h, -⟩ | ⟨h, -⟩
  · simp [h]
  · simp [h]
  · simp [h, codeEscape]

/-- An escaped text is at least as long as the text. -/
theorem length_le_escaped (text : List Char) : text.length ≤ (escaped text).length := by
  induction text with
  | nil => exact Nat.zero_le _
  | cons c text ih =>
    have hpos := List.length_pos_iff.2 (escapedChar_ne_nil c)
    rw [escaped_cons, List.length_append, List.length_cons]
    omega

theorem hexValue?_hexDigit : ∀ n : Nat, n < 16 → Text.hexValue? (hexDigit n) = some n := by decide

/-- Four digits that begin with two zeros give the code of a control character. -/
theorem fourHex?_control {n : Nat} (h : n < 32) :
    fourHex? '0' '0' (hexDigit (n / 16)) (hexDigit (n % 16)) = some n := by
  have hzero : Text.hexValue? '0' = some 0 := by decide
  have hhigh : Text.hexValue? (hexDigit (n / 16)) = some (n / 16) :=
    hexValue?_hexDigit _ (by omega)
  have hlow : Text.hexValue? (hexDigit (n % 16)) = some (n % 16) :=
    hexValue?_hexDigit _ (Nat.mod_lt n (by decide))
  simp only [fourHex?, hzero, hhigh, hlow, Option.some.injEq]
  omega

/-- The code of a control character is no half of a pair and names the character. -/
theorem unicodeEscape_control {c : Char} (h : c.toNat < 32) (rest : List Char) :
    unicodeEscape ('0' :: '0' :: hexDigit (c.toNat / 16) :: hexDigit (c.toNat % 16) :: rest)
      = .ok (c, rest) := by
  have hlow : isLowHalf c.toNat = false := by
    simp only [isLowHalf, Bool.and_eq_false_iff, decide_eq_false_iff_not]
    omega
  have hhigh : isHighHalf c.toNat = false := by
    simp only [isHighHalf, Bool.and_eq_false_iff, decide_eq_false_iff_not]
    omega
  simp [unicodeEscape, hexCode, fourHex?_control h, hlow, hhigh, Char.ofNat_toNat]

/-! ## Reading what was written -/

/-- Whatever an escape names is the next character of the text. -/
theorem textLoop_escape {fuel : Nat} {rest after : List Char} {c : Char}
    (h : escape rest = .ok (c, after)) :
    textLoop (fuel + 1) ('\\' :: rest)
      = (textLoop fuel after).andThen fun more after => .ok (c :: more, after) := by
  simp [textLoop, h, Step.andThen]

/-- What stands for a character reads back as the character. -/
theorem textLoop_escapedChar (fuel : Nat) (c : Char) (rest : List Char) :
    textLoop (fuel + 1) (escapedChar c ++ rest)
      = (textLoop fuel rest).andThen fun more after => .ok (c :: more, after) := by
  rcases escapedChar_cases c with ⟨h, hquote, hslash, hcontrol⟩ | ⟨letter, h, hletter⟩ |
    ⟨h, hcontrol⟩
  · rw [h]
    simp [textLoop, hquote, hslash, hcontrol]
  · rw [h]
    exact textLoop_escape (by simp [escape, hletter])
  · rw [h]
    have hu : shortEscape? 'u' = none := by decide
    exact textLoop_escape (by simp [escape, hu, unicodeEscape_control hcontrol])

theorem textLoop_escaped (text rest : List Char) : ∀ fuel : Nat, text.length < fuel →
    textLoop fuel (escaped text ++ '"' :: rest) = .ok (text, rest) := by
  induction text with
  | nil =>
    intro fuel hfuel
    obtain ⟨fuel, rfl⟩ := Nat.exists_eq_succ_of_ne_zero (Nat.ne_of_gt hfuel)
    rfl
  | cons c text ih =>
    intro fuel hfuel
    obtain ⟨fuel, rfl⟩ := Nat.exists_eq_succ_of_ne_zero (Nat.ne_of_gt (Nat.zero_lt_of_lt hfuel))
    rw [escaped_cons, List.append_assoc, textLoop_escapedChar,
      ih fuel (Nat.lt_of_succ_lt_succ hfuel)]
    rfl

/-- Reading a literal after its opening quote gives the text that was written and what is behind
the literal. -/
theorem textBody_escaped (text rest : List Char) :
    textBody (escaped text ++ '"' :: rest) = .ok (text, rest) := by
  apply textLoop_escaped
  have hle := length_le_escaped text
  rw [List.length_append]
  omega

/-! ## Where a literal ends -/

/-- A literal says where it ends. -/
theorem literalChars_append_inj {a b rest rest' : List Char}
    (h : literalChars a ++ rest = literalChars b ++ rest') : a = b ∧ rest = rest' := by
  simp only [literalChars, List.cons_append, List.append_assoc, List.nil_append, List.cons.injEq,
    true_and] at h
  have hread := textBody_escaped a rest
  rw [h, textBody_escaped b rest'] at hread
  cases hread
  exact ⟨rfl, rfl⟩

theorem literal_inj {a b : String} : literal a = literal b ↔ a = b := by
  constructor
  · intro h
    have hchars := congrArg String.toList h
    rw [toList_literal, toList_literal] at hchars
    have happend : literalChars a.toList ++ [] = literalChars b.toList ++ [] := by rw [hchars]
    exact String.toList_inj.1 (literalChars_append_inj happend).1
  · rintro rfl
    rfl

/-! ## What stands inside a literal -/

theorem not_control_of_shortEscape? {letter c : Char} (h : shortEscape? letter = some c) :
    32 ≤ letter.toNat := by
  apply Nat.le_of_not_lt
  intro hcontrol
  -- no character with the code of a control names another one
  have hnone : ∀ n < 32, shortEscape? (Char.ofNat n) = none := by decide
  have hletter := hnone letter.toNat hcontrol
  rw [Char.ofNat_toNat, h] at hletter
  cases hletter

theorem not_control_hexDigit : ∀ n < 16, 32 ≤ (hexDigit n).toNat := by decide

/-- No control character stands for a character. -/
theorem not_control_of_mem_escapedChar {c d : Char} (h : d ∈ escapedChar c) : 32 ≤ d.toNat := by
  rcases escapedChar_cases c with ⟨hc, -, -, hcontrol⟩ | ⟨letter, hc, hletter⟩ | ⟨hc, hcontrol⟩
  · rw [hc, List.mem_singleton] at h
    subst h
    exact Nat.le_of_not_lt hcontrol
  · rw [hc, List.mem_cons, List.mem_singleton] at h
    rcases h with rfl | rfl
    · decide
    · exact not_control_of_shortEscape? hletter
  · have hhigh := not_control_hexDigit (c.toNat / 16) (by omega)
    have hlow := not_control_hexDigit (c.toNat % 16) (Nat.mod_lt _ (by decide))
    simp only [hc, codeEscape, List.mem_cons, List.not_mem_nil, or_false] at h
    rcases h with rfl | rfl | rfl | rfl | rfl | rfl
    · decide
    · decide
    · decide
    · decide
    · exact hhigh
    · exact hlow

theorem not_control_of_mem_escaped {text : List Char} {d : Char} (h : d ∈ escaped text) :
    32 ≤ d.toNat := by
  obtain ⟨c, -, hd⟩ := List.mem_flatMap.1 h
  exact not_control_of_mem_escapedChar hd

theorem not_control_of_mem_literal {text : String} {d : Char} (h : d ∈ (literal text).toList) :
    32 ≤ d.toNat := by
  rw [toList_literal, literalChars, List.mem_cons, List.mem_append, List.mem_singleton] at h
  rcases h with rfl | hinside | rfl
  · decide
  · exact not_control_of_mem_escaped hinside
  · decide

theorem literal_eq_quoted (text : String) :
    literal text = "\"" ++ String.ofList (escaped text.toList) ++ "\"" := by
  apply String.toList_inj.1
  simp [literalChars]

/-! ## Reading a literal that makes up a text -/

theorem stringBody_escaped (text : String) (rest : List Char) :
    stringBody (escaped text.toList ++ '"' :: rest) = .ok (text, rest) := by
  rw [stringBody, textBody_escaped]
  exact congrArg (fun read => Except.ok (read, rest)) (String.ofList_toList)

/-- A reader that finds a string behind a quote reads a literal that makes up a text. -/
theorem read_literal {α : Type} {reader : Reader α} {f : String → α}
    (hreader : ∀ nesting rest, reader nesting ('"' :: rest)
      = (stringBody rest).andThen fun text after => .ok (f text, after)) (text : String) :
    read reader (literal text) = .ok (f text) := by
  have hwhole : Reader.whole reader (literalChars text.toList) = .ok (f text) := by
    rw [Reader.whole, literalChars, hreader, stringBody_escaped]
    rfl
  rw [read, toList_literal, hwhole]

/-- Whatever a text holds, its literal begins and ends with a quote, holds no control character, is
read back as the text, and says where it ends. -/
theorem literal_confines (s : String) :
    (∃ inside : String, literal s = "\"" ++ inside ++ "\"") ∧
      (∀ c ∈ (literal s).toList, 32 ≤ c.toNat) ∧
      read Reader.text (literal s) = .ok s ∧
      read Reader.value (literal s) = .ok (.text s) ∧
      ∀ t u v : String, literal s ++ u = literal t ++ v → s = t ∧ u = v := by
  refine ⟨⟨_, literal_eq_quoted s⟩, fun c hc => not_control_of_mem_literal hc, ?_, ?_, ?_⟩
  · refine read_literal (f := id) (fun nesting rest => ?_) s
    change stringBody rest = _
    cases stringBody rest <;> rfl
  · refine read_literal (f := Json.text) (fun nesting rest => ?_) s
    cases nesting <;> rfl
  · intro t u v happend
    have hchars := congrArg String.toList happend
    rw [String.toList_append, String.toList_append, toList_literal, toList_literal] at hchars
    obtain ⟨hst, huv⟩ := literalChars_append_inj hchars
    exact ⟨String.toList_inj.1 hst, String.toList_inj.1 huv⟩

/-- A text that ends in a backslash and a quote, and has a line break, keeps what follows it out of
its literal. -/
theorem literal_confines_crafted :
    (∃ inside : String, literal "a\n\\\"" = "\"" ++ inside ++ "\"") ∧
      32 ≤ '\\'.toNat ∧
      read Reader.text (literal "a\n\\\"") = .ok "a\n\\\"" ∧
      read Reader.value (literal "a\n\\\"") = .ok (.text "a\n\\\"") ∧
      literal "a\n\\\"" ++ ";" = "\"a\\n\\\\\\\"\";" ∧
      ("a\n\\\"" = "a\n\\\"" ∧ ";" = ";") := by
  obtain ⟨hquotes, hcontrol, htext, hvalue, hends⟩ := literal_confines "a\n\\\""
  exact ⟨hquotes, hcontrol _ (by decide), htext, hvalue, by decide, hends _ ";" ";" rfl⟩

end EntityForge.Json

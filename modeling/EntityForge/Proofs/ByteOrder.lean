import Mathlib.Tactic.SplitIfs
import EntityForge.Dictionary

/-!
# The order of names and the order of their bytes

Dictionaries order their keys by code points. This is the order in which the UTF-8 bytes of the keys
compare, byte by byte (`Text.utf8_lt_iff`): a character with fewer bytes starts with a smaller byte,
and among characters with equally many bytes the bytes are the digits of the code point.
-/

set_option autoImplicit false

namespace EntityForge.Text

/-- The bytes of a text in UTF-8. -/
def utf8 (text : String) : List UInt8 := text.toUTF8.data.toList

theorem utf8_eq (text : String) : utf8 text = text.toList.flatMap String.utf8EncodeChar := by
  conv => lhs; rw [← String.ofList_toList (s := text)]
  rw [utf8, String.toUTF8_eq_toByteArray, String.toByteArray_ofList, List.utf8Encode,
    List.toList_data_toByteArray]

/-- Of two numbers the smaller one has the smaller digit at the first place where they differ. -/
theorem digits_lt {m n : Nat} (h : m < n) :
    m / 262144 < n / 262144 ∨
    (m / 262144 = n / 262144 ∧ m / 4096 % 64 < n / 4096 % 64) ∨
    (m / 4096 = n / 4096 ∧ m / 64 % 64 < n / 64 % 64) ∨
    (m / 64 = n / 64 ∧ m % 64 < n % 64) := by
  have hlast : ∀ {m n : Nat}, m < n → m / 64 < n / 64 ∨ (m / 64 = n / 64 ∧ m % 64 < n % 64) := by
    omega
  have hthird : ∀ v : Nat, v / 64 / 64 = v / 4096 := fun v => Nat.div_div_eq_div_mul v 64 64
  have hfourth : ∀ v : Nat, v / 4096 / 64 = v / 262144 := fun v => Nat.div_div_eq_div_mul v 4096 64
  -- from the last digit upwards
  rcases hlast h with h | h
  · rcases hlast h with h | h
    · rw [hthird, hthird] at h
      rcases hlast h with h | h
      · rw [hfourth, hfourth] at h
        exact .inl h
      · rw [hfourth, hfourth] at h
        exact .inr (.inl h)
    · rw [hthird, hthird] at h
      exact .inr (.inr (.inl h))
  · exact .inr (.inr (.inr h))

theorem ofNat_cons_lt_iff {m n : Nat} (hm : m < 256) (hn : n < 256) (x y : List UInt8) :
    UInt8.ofNat m :: x < UInt8.ofNat n :: y ↔ m < n ∨ (m = n ∧ x < y) := by
  rw [List.cons_lt_cons_iff, UInt8.lt_iff_toNat_lt, ← UInt8.toNat_inj, UInt8.toNat_ofNat',
    UInt8.toNat_ofNat', Nat.mod_eq_of_lt hm, Nat.mod_eq_of_lt hn]

/-- The bytes of the smaller character decide, whatever follows. -/
theorem utf8EncodeChar_append_lt {c d : Char} (h : c < d) (x y : List UInt8) :
    String.utf8EncodeChar c ++ x < String.utf8EncodeChar d ++ y := by
  have hlt : c.val.toNat < d.val.toNat := h
  have hbound : d.val.toNat < 0x110000 := by
    have hvalid := d.valid
    simp only [UInt32.isValidChar, Nat.isValidChar] at hvalid
    omega
  have hdigits := digits_lt hlt
  unfold String.utf8EncodeChar
  generalize c.val.toNat = m at hlt hdigits ⊢
  generalize d.val.toNat = n at hlt hdigits hbound ⊢
  have hbound' : m < 0x110000 := Nat.lt_trans hlt hbound
  simp only
  -- by the numbers of bytes of both characters
  split_ifs <;>
    simp (disch := omega) only [List.cons_append, List.nil_append, ofNat_cons_lt_iff,
      Nat.mod_eq_of_lt] <;>
    omega

theorem flatMap_utf8EncodeChar_lt {a b : List Char} (h : a < b) :
    a.flatMap String.utf8EncodeChar < b.flatMap String.utf8EncodeChar := by
  induction a generalizing b with
  | nil =>
    cases b with
    | nil => exact absurd h (List.lt_irrefl [])
    | cons d b =>
      obtain ⟨byte, bytes, hbytes⟩ :=
        List.exists_cons_of_ne_nil (String.utf8EncodeChar_ne_nil (c := d))
      rw [List.flatMap_nil, List.flatMap_cons, hbytes]
      exact List.nil_lt_cons byte _
  | cons c a ih =>
    cases b with
    | nil => exact absurd h (List.not_lt_nil _)
    | cons d b =>
      rw [List.flatMap_cons, List.flatMap_cons]
      rcases List.cons_lt_cons_iff.1 h with hchar | ⟨rfl, hrest⟩
      · exact utf8EncodeChar_append_lt hchar _ _
      · exact List.append_left_lt (ih hrest)

/-- Texts compare like their bytes. -/
theorem utf8_lt_iff {a b : String} : utf8 a < utf8 b ↔ a < b := by
  have hmono : ∀ {a b : String}, a < b → utf8 a < utf8 b := by
    intro a b h
    rw [utf8_eq, utf8_eq]
    exact flatMap_utf8EncodeChar_lt (String.lt_iff.1 h)
  refine ⟨fun h => ?_, hmono⟩
  apply Classical.byContradiction
  intro hnot
  by_cases hback : b < a
  · exact List.lt_asymm h (hmono hback)
  · have heq : a = b := String.le_antisymm (String.not_lt.1 hback) (String.not_lt.1 hnot)
    subst heq
    exact List.lt_irrefl _ h

theorem utf8_le_iff {a b : String} : utf8 a ≤ utf8 b ↔ a ≤ b := by
  rw [← List.not_lt, utf8_lt_iff, String.not_lt]

end EntityForge.Text

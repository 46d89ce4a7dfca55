import EntityForge.Json.Reading

/-!
# Reading numerals

A numeral's digits are collected in a significand of at most 64 bits. Once another digit would not
fit, further digits before the point only raise the power of ten, and those after the point are
dropped. The value is the significand rounded to binary64, multiplied or divided by the power of
ten and rounded again.

An integer that fits 64 bits stays an integer; minus zero does not count as one.
-/

set_option autoImplicit false

namespace EntityForge.Json

/-- The value of a decimal digit. -/
def digitValue (c : Char) : Nat := c.toNat - 48

/-- Whether a text begins with a decimal digit. -/
def startsWithDigit : List Char → Bool
  | [] => false
  | c :: _ => c.isDigit

/-- Appends digits to a significand while it fits 64 bits; counts them and gives the text after. -/
def takeDigits (significand : Nat) : List Char → Nat × Nat × List Char
  | [] => (significand, 0, [])
  | c :: rest =>
    if c.isDigit && significand * 10 + digitValue c < Binary64.twoTo 64 then
      let taken := takeDigits (significand * 10 + digitValue c) rest
      (taken.1, taken.2.1 + 1, taken.2.2)
    else (significand, 0, c :: rest)

/-- Counts the digits that a text begins with and gives the text after them. -/
def passDigits : List Char → Nat × List Char
  | [] => (0, [])
  | c :: rest =>
    if c.isDigit then
      let passed := passDigits rest
      (passed.1 + 1, passed.2)
    else (0, c :: rest)

/-! ## Values -/

/-- Multiplies or divides by a power of ten, in steps of `10 ^ 308` downwards. -/
def scaleByTen (x : Binary64) (exponent : Int) : Nat → Option Binary64
  | 0 => some x
  | fuel + 1 =>
    if exponent.natAbs ≤ 308 then do
      let power ← Binary64.powerOfTen? exponent.natAbs
      if 0 ≤ exponent then x.mul? power else x.div? power
    else if x.isZero then some x
    else if 0 ≤ exponent then none
    else do
      let power ← Binary64.powerOfTen? 308
      let less ← x.div? power
      scaleByTen less (exponent + 308) fuel

/-- The number `± significand * 10 ^ exponent`; none if it is too large. -/
def scaled? (negative : Bool) (significand : Nat) (exponent : Int) : Option Binary64 := do
  let x ← Binary64.ofRatio? false significand 1
  let y ← scaleByTen x exponent 4
  some { y with negative := negative }

/-- The number of a numeral that ends before `rest`. -/
def finished (negative : Bool) (significand : Nat) (exponent : Int) (rest : List Char) :
    Step Json :=
  match scaled? negative significand exponent with
  | some x => .ok (.real x, rest)
  | none => haltAt .numberTooLarge rest

/-- The integer of a numeral, or the real number that stands in when 64 bits do not hold it. -/
def integerOf (negative : Bool) (significand : Nat) : Json :=
  if negative then
    if significand = 0 ∨ Binary64.twoTo 63 < significand then
      .real ((Binary64.ofRatio? true significand 1).getD (Binary64.zero true))
    else .integer (-(significand : Int))
  else .integer significand

/-! ## Parts of a numeral -/

/-- Reads the digits of an exponent: its value, or the text after the digit that was too much. -/
def exponentDigits (exponent : Nat) : List Char → Except (List Char) (Nat × List Char)
  | [] => .ok (exponent, [])
  | c :: rest =>
    if c.isDigit then
      let next := exponent * 10 + digitValue c
      if next ≤ 2147483647 then exponentDigits next rest else .error rest
    else .ok (exponent, c :: rest)

/-- Reads an exponent after its letter. -/
def exponentPart (negative : Bool) (significand : Nat) (start : Int) (rest : List Char) :
    Step Json :=
  let downwards := rest.head? = some '-'
  let rest := if rest.head? = some '+' ∨ downwards then rest.drop 1 else rest
  match rest with
  | [] => haltAt .endInValue []
  | c :: rest =>
    if c.isDigit then
      match exponentDigits (digitValue c) rest with
      | .ok (exponent, after) =>
        finished negative significand (if downwards then start - exponent else start + exponent)
          after
      | .error after =>
        if significand ≠ 0 ∧ ¬ downwards then haltAt .numberTooLarge after
        else .ok (.real (Binary64.zero negative), (passDigits after).2)
    else haltPast .badNumber (c :: rest)

/-- Reads what may follow the digits of a numeral with a point: an exponent or nothing. -/
def afterFraction (negative : Bool) (significand : Nat) (exponent : Int) : List Char → Step Json
  | 'e' :: rest => exponentPart negative significand exponent rest
  | 'E' :: rest => exponentPart negative significand exponent rest
  | rest => finished negative significand exponent rest

/-- Reads the digits after a point, of which there is at least one. -/
def fractionPart (negative : Bool) (significand : Nat) (start : Int) (rest : List Char) :
    Step Json :=
  let taken := takeDigits significand rest
  let exponent := start - (taken.2.1 : Int)
  if startsWithDigit taken.2.2 then
    afterFraction negative taken.1 exponent (passDigits taken.2.2).2
  else if taken.2.1 = 0 then
    haltPast (if taken.2.2.isEmpty then .endInValue else .badNumber) taken.2.2
  else afterFraction negative taken.1 exponent taken.2.2

/-- Reads what may follow the digits before a point; `whole` is the value if nothing does. -/
def afterInteger (negative : Bool) (significand : Nat) (exponent : Int)
    (whole : List Char → Step Json) : List Char → Step Json
  | '.' :: rest => fractionPart negative significand exponent rest
  | 'e' :: rest => exponentPart negative significand exponent rest
  | 'E' :: rest => exponentPart negative significand exponent rest
  | rest => whole rest

/-- Reads a numeral after its sign. -/
def numeral (negative : Bool) : List Char → Step Json
  | [] => haltAt .endInValue []
  | c :: rest =>
    if c = '0' then
      if startsWithDigit rest then haltPast .badNumber rest
      else afterInteger negative 0 0 (fun after => .ok (integerOf negative 0, after)) rest
    else if c.isDigit then
      let taken := takeDigits (digitValue c) rest
      if startsWithDigit taken.2.2 then
        let passed := passDigits taken.2.2
        afterInteger negative taken.1 passed.1 (finished negative taken.1 passed.1) passed.2
      else
        afterInteger negative taken.1 0 (fun after => .ok (integerOf negative taken.1, after))
          taken.2.2
    else haltPast .badNumber (c :: rest)

/-! ## Numerals that nobody asked for -/

/-- Passes over an exponent after its letter. -/
def skipExponent (rest : List Char) : Pass :=
  let rest := if rest.head? = some '+' ∨ rest.head? = some '-' then rest.drop 1 else rest
  if startsWithDigit rest then .ok (passDigits rest).2 else haltPast .badNumber rest

/-- Passes over an exponent if there is one. -/
def skipAfterDigits : List Char → Pass
  | 'e' :: rest => skipExponent rest
  | 'E' :: rest => skipExponent rest
  | rest => .ok rest

/-- Passes over what may follow the digits before a point. -/
def skipAfterInteger : List Char → Pass
  | '.' :: rest =>
    if startsWithDigit rest then skipAfterDigits (passDigits rest).2 else haltPast .badNumber rest
  | rest => skipAfterDigits rest

/-- Passes over a numeral after its sign. -/
def skipNumeral : List Char → Pass
  | [] => haltAt .badNumber []
  | c :: rest =>
    if c = '0' then
      if startsWithDigit rest then haltPast .badNumber rest else skipAfterInteger rest
    else if c.isDigit then skipAfterInteger (passDigits rest).2
    else haltPast .badNumber (c :: rest)

end EntityForge.Json

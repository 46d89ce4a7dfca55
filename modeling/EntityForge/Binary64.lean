/-!
# Binary numbers of 53 significant bits

A finite number of the binary64 format is a sign, a significand below `2 ^ 53` and a power of two
of at least `2 ^ -1074`. Everything here is exact arithmetic on naturals: a result is the nearest
number of the format to an exact quotient, and of two equally near ones the one with the even
significand (`nearest?`). A quotient beyond the largest number has no finite neighbour.
-/

set_option autoImplicit false

namespace EntityForge

/-- A finite binary64 number, `± significand * 2 ^ exponent`. -/
structure Binary64 where
  /-- Whether the sign is minus; zero has a sign too. -/
  negative : Bool
  /-- The significand, below `2 ^ 53`. -/
  significand : Nat
  /-- The power of two, from `-1074` to `971`. -/
  exponent : Int
deriving DecidableEq, Repr, Inhabited

namespace Binary64

/-- A power of two. -/
def twoTo (power : Nat) : Nat := Nat.pow 2 power

/-- A power of ten. -/
def tenTo (power : Nat) : Nat := Nat.pow 10 power

/-- The quotient rounded to the nearest natural number, a half to the even one. -/
def roundHalfEven (num den : Nat) : Nat :=
  let floor := num / den
  let twice := 2 * (num % den)
  if twice < den then floor
  else if den < twice then floor + 1
  else if floor % 2 = 0 then floor
  else floor + 1

/-- Numerator and denominator of `num / den / 2 ^ power`. -/
def unscale (num den : Nat) : Int → Nat × Nat
  | .ofNat power => (num, den * twoTo power)
  | .negSucc power => (num * twoTo (power + 1), den)

/-- Numerator and denominator of `significand * 2 ^ exponent`. -/
def fraction (significand : Nat) (exponent : Int) : Nat × Nat :=
  unscale significand 1 (-exponent)

/-- The exponent at which the quotient has 53 bits before the point, or the least one. -/
def fittingExponent (num den : Nat) : Int :=
  let guess := max ((num.log2 : Int) - den.log2 - 53) (-1074)
  let scaled := unscale num den guess
  if scaled.1 / scaled.2 < twoTo 53 then guess else guess + 1

/-- Significand and exponent of the number nearest to `num / den`; none if it would be infinite. -/
def nearest? (num den : Nat) : Option (Nat × Int) :=
  if num = 0 then some (0, -1074)
  else
    let exponent := fittingExponent num den
    let scaled := unscale num den exponent
    let significand := roundHalfEven scaled.1 scaled.2
    let carried :=
      if significand = twoTo 53 then (twoTo 52, exponent + 1) else (significand, exponent)
    if carried.2 ≤ 971 then some carried else none

/-- The number nearest to a quotient, with a sign. -/
def ofRatio? (negative : Bool) (num den : Nat) : Option Binary64 :=
  (nearest? num den).map (fun parts => ⟨negative, parts.1, parts.2⟩)

/-- Zero with a sign. -/
def zero (negative : Bool) : Binary64 := ⟨negative, 0, -1074⟩

/-- Whether the number is zero, of either sign. -/
def isZero (x : Binary64) : Bool := x.significand == 0

/-- The number nearest to a product; none if it would be infinite. -/
def mul? (x y : Binary64) : Option Binary64 :=
  let a := fraction x.significand x.exponent
  let b := fraction y.significand y.exponent
  ofRatio? (x.negative != y.negative) (a.1 * b.1) (a.2 * b.2)

/-- The number nearest to a quotient of numbers; none if it would be infinite. -/
def div? (x y : Binary64) : Option Binary64 :=
  let a := fraction x.significand x.exponent
  let b := fraction y.significand y.exponent
  ofRatio? (x.negative != y.negative) (a.1 * b.2) (a.2 * b.1)

/-- The number nearest to a power of ten. -/
def powerOfTen? (power : Nat) : Option Binary64 := ofRatio? false (tenTo power) 1

end Binary64

end EntityForge

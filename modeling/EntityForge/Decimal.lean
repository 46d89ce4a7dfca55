import EntityForge.Binary64

/-!
# Shortest decimals

The decimal text of a binary64 number uses the fewest digits that still identify it: of all
decimals that round to the number, the one with the fewest digits, and of those the nearest.

`Decimal.shortest` finds it by trying one digit, two digits and so on. On each grid only the two
grid points around the number are candidates, and each is held against the interval of reals that
round to the number by comparing naturals. How the digits are then written out is the choice of a
`Layout`.
-/

set_option autoImplicit false

namespace EntityForge

/-- Significant decimal digits and the power of ten of the first: `d.ddd * 10 ^ exponent`. -/
structure Decimal where
  /-- The significant digits, without zeros at either end. -/
  digits : List Char
  /-- The power of ten of the first digit. -/
  exponent : Int
deriving DecidableEq, Repr

namespace Decimal

/-- Compares `a * 10 ^ k` with `b * 2 ^ q` exactly. -/
def compareScaled (a : Nat) (k : Int) (b : Nat) (q : Int) : Ordering :=
  compare (a * Binary64.tenTo k.toNat * Binary64.twoTo (-q).toNat)
    (b * Binary64.twoTo q.toNat * Binary64.tenTo (-k).toNat)

/-- Whether `c * 10 ^ k` rounds to `significand * 2 ^ exponent`. -/
def readsBack (significand : Nat) (exponent : Int) (c : Nat) (k : Int) : Bool :=
  let even := significand % 2 == 0
  let narrow := significand == Binary64.twoTo 52 && decide (-1074 < exponent)
  let low := if narrow then 4 * significand - 1 else 4 * significand - 2
  let high := 4 * significand + 2
  let above :=
    match compareScaled c k low (exponent - 2) with
    | .gt => true
    | .eq => even
    | .lt => false
  let below :=
    match compareScaled c k high (exponent - 2) with
    | .lt => true
    | .eq => even
    | .gt => false
  above && below

/-- The largest power of ten that is not above `significand * 2 ^ exponent`. -/
def leadingPower (significand : Nat) (exponent : Int) : Int :=
  let guess := ((significand.log2 : Int) + exponent) * 30103 / 100000
  let fits (power : Int) : Bool := compareScaled 1 power significand exponent != .gt
  if fits (guess + 1) then guess + 1
  else if fits guess then guess
  else guess - 1

/-- The natural number below `significand * 2 ^ exponent / 10 ^ k`. -/
def floorAt (significand : Nat) (exponent : Int) (k : Int) : Nat :=
  (significand * Binary64.twoTo exponent.toNat * Binary64.tenTo (-k).toNat)
    / (Binary64.tenTo k.toNat * Binary64.twoTo (-exponent).toNat)

/-- The grid point of `10 ^ k` that stands for the number, if one of the two next to it does. -/
def onGrid? (significand : Nat) (exponent : Int) (k : Int) : Option Nat :=
  let floor := floorAt significand exponent k
  let lower := readsBack significand exponent floor k
  let upper := readsBack significand exponent (floor + 1) k
  if lower && upper then
    match compareScaled (2 * floor + 1) k (2 * significand) exponent with
    | .gt => some floor
    | .lt => some (floor + 1)
    | .eq => some (if floor % 2 = 0 then floor else floor + 1)
  else if lower then some floor
  else if upper then some (floor + 1)
  else none

/-- The digits of a natural number without its final zeros. -/
def significantDigits (n : Nat) : List Char :=
  ((Nat.toDigits 10 n).reverse.dropWhile (· == '0')).reverse

/-- The decimal `c * 10 ^ k`. -/
def ofScaled (c : Nat) (k : Int) : Decimal :=
  ⟨significantDigits c, k + ((Nat.toDigits 10 c).length : Int) - 1⟩

/-- Tries grids of `count`, `count + 1`, … digits, `fuel` of them. -/
def search (significand : Nat) (exponent : Int) (leading : Int) : Nat → Nat → Option Decimal
  | 0, _ => none
  | fuel + 1, count =>
    let k := leading - (count : Int) + 1
    match onGrid? significand exponent k with
    | some c => some (ofScaled c k)
    | none => search significand exponent leading fuel (count + 1)

/-- The decimal with the fewest digits that rounds to a number other than zero. -/
def shortest (x : Binary64) : Decimal :=
  let leading := leadingPower x.significand x.exponent
  (search x.significand x.exponent leading 17 1).getD
    (ofScaled (floorAt x.significand x.exponent (leading - 16)) (leading - 16))

/-! ## Writing -/

/-- How digits and a power of ten are written out. -/
structure Layout where
  /-- The powers of ten whose numbers are written with a point and no exponent. -/
  positional : Int → Bool
  /-- Whether an exponent that is not negative has a plus sign. -/
  plusSign : Bool

/-- The text of a number with a point: digits before it, at least one, and digits after it. -/
def positionalText (d : Decimal) : List Char :=
  if d.exponent < 0 then
    '0' :: '.' :: (List.replicate ((-d.exponent).toNat - 1) '0' ++ d.digits)
  else
    let before := d.exponent.toNat + 1
    if d.digits.length ≤ before then
      d.digits ++ List.replicate (before - d.digits.length) '0' ++ ['.', '0']
    else
      d.digits.take before ++ '.' :: d.digits.drop before

/-- The text of a number with an exponent. -/
def exponentText (plusSign : Bool) (d : Decimal) : List Char :=
  let mantissa :=
    match d.digits with
    | [] => ['0']
    | [digit] => [digit]
    | digit :: rest => digit :: '.' :: rest
  let sign := if d.exponent < 0 then ['-'] else if plusSign then ['+'] else []
  mantissa ++ 'e' :: (sign ++ Nat.toDigits 10 d.exponent.natAbs)

/-- Writes the shortest decimal of a number; zero is `0.0`. -/
def text (layout : Layout) (x : Binary64) : List Char :=
  let sign := if x.negative then ['-'] else []
  if x.isZero then sign ++ ['0', '.', '0']
  else
    let d := shortest x
    sign ++ (if layout.positional d.exponent then d.positionalText
      else d.exponentText layout.plusSign)

end Decimal

end EntityForge

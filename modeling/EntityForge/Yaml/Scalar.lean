import EntityForge.Decimal
import EntityForge.Yaml.Refusal

/-!
# What a scalar means

A plain scalar without a tag may mean nothing, a truth value, an integer or a number; any other
scalar is text. A number that begins with a superfluous zero is text. A tag may promise one of these
meanings, and then a scalar that does not keep the promise is refused; a tag of the document's own
leaves a plain scalar its meaning.
-/

set_option autoImplicit false

namespace EntityForge.Yaml

/-! ## Integers -/

/-- The value of a digit in a base up to sixteen. -/
def digitIn? (base : Nat) (c : Char) : Option Nat :=
  let value :=
    if '0' ≤ c ∧ c ≤ '9' then c.toNat - 48
    else if 'a' ≤ c ∧ c ≤ 'f' then c.toNat - 87
    else if 'A' ≤ c ∧ c ≤ 'F' then c.toNat - 55
    else base
  if value < base then some value else none

/-- The value of digits in a base. -/
def digitsIn? (base : Nat) : Nat → List Char → Option Nat
  | value, [] => some value
  | value, c :: rest =>
    match digitIn? base c with
    | some digit => digitsIn? base (value * base + digit) rest
    | none => none

/-- The value of one or more digits in a base. -/
def naturalIn? (base : Nat) (text : List Char) : Option Nat :=
  if text.isEmpty then none else digitsIn? base 0 text

/-- The text after a plus sign, if there is one. -/
def afterPlus : List Char → List Char
  | '+' :: rest => rest
  | text => text

/-- Whether a text begins with a sign. -/
def isSigned : List Char → Bool
  | '+' :: _ => true
  | '-' :: _ => true
  | _ => false

/-- The base that a text states, and its digits. -/
def statedBase? : List Char → Option (Nat × List Char)
  | '0' :: 'x' :: digits => some (16, digits)
  | '0' :: 'o' :: digits => some (8, digits)
  | '0' :: 'b' :: digits => some (2, digits)
  | _ => none

/-- Whether a text consists of digits of which the first is a superfluous zero. -/
def hasSuperfluousZero (text : List Char) : Bool :=
  match text with
  | '-' :: rest | '+' :: rest => isPadded rest
  | rest => isPadded rest
where
  /-- Whether a zero stands before other digits. -/
  isPadded : List Char → Bool
    | '0' :: c :: rest => (c :: rest).all Char.isDigit
    | _ => false

/-- The natural number that a text means. -/
def natural? (text : List Char) : Option Nat :=
  let unsigned := afterPlus text
  match (statedBase? unsigned).bind (fun (base, digits) => naturalIn? base digits) with
  | some value => some value
  | none =>
    if isSigned unsigned || hasSuperfluousZero text then none else naturalIn? 10 unsigned

/-- The integer after a minus sign that a text means, or any integer in decimal digits. -/
def integer? (text : List Char) : Option Int :=
  let negative? (digits : Option Nat) : Option Int := digits.map (fun n => -(n : Int))
  match text with
  | '-' :: rest =>
    match (statedBase? rest).bind (fun (base, digits) => naturalIn? base digits) with
    | some value => some (-(value : Int))
    | none => if hasSuperfluousZero text then none else negative? (naturalIn? 10 rest)
  | _ => if hasSuperfluousZero text then none else (naturalIn? 10 (afterPlus text)).map Int.ofNat

/-- The integer that a text means, by the narrowest of four ranges that holds it. -/
def integerMeaning? (text : List Char) : Option Found :=
  let natural := natural? text
  let integer := integer? text
  let naturalBelow (bits : Nat) : Option Nat :=
    natural.filter (fun n => decide (n < Binary64.twoTo bits))
  let integerWithin (bits : Nat) : Option Int :=
    integer.filter (fun n =>
      decide (-(Binary64.twoTo bits : Int) ≤ n) && decide (n < (Binary64.twoTo bits : Int)))
  match naturalBelow 64 with
  | some n => some (.integer n)
  | none =>
    match integerWithin 63 with
    | some n => some (.integer n)
    | none =>
      match naturalBelow 128 with
      | some n => some (.wideNatural n)
      | none => (integerWithin 127).map .wideInteger

/-! ## Numbers -/

/-- A decimal that was read: its digits and the power of ten of the last one. -/
structure ReadDecimal where
  /-- The digits. -/
  digits : List Char
  /-- The power of ten of the last digit. -/
  exponent : Int

/-- Reads an exponent after its letter. -/
def exponent? (text : List Char) : Option Int :=
  match text with
  | '-' :: digits => (naturalIn? 10 digits).map (fun n => -(n : Int))
  | '+' :: digits => (naturalIn? 10 digits).map Int.ofNat
  | digits => (naturalIn? 10 digits).map Int.ofNat

/-- Reads digits with a point and an exponent, each of which may be missing. -/
def decimal? (text : List Char) : Option ReadDecimal :=
  let whole := text.takeWhile Char.isDigit
  let rest := text.dropWhile Char.isDigit
  let (fraction, rest) :=
    match rest with
    | '.' :: rest => (rest.takeWhile Char.isDigit, rest.dropWhile Char.isDigit)
    | rest => ([], rest)
  let digits := whole ++ fraction
  if digits.isEmpty then none
  else
    let scale := -(fraction.length : Int)
    match rest with
    | [] => some ⟨digits, scale⟩
    | 'e' :: rest | 'E' :: rest => (exponent? rest).map fun exponent => ⟨digits, scale + exponent⟩
    | _ => none

/-- The number nearest to a decimal, unless it is too large. Magnitudes far outside of the format
are recognised by the place of the first digit. -/
def nearestTo? (negative : Bool) (decimal : ReadDecimal) : Option Binary64 :=
  let digits := decimal.digits.dropWhile (· == '0')
  let magnitude := (digits.length : Int) + decimal.exponent
  if digits.isEmpty || decide (magnitude < -400) then some (Binary64.zero negative)
  else if 400 < magnitude then none
  else
    let value := (digitsIn? 10 0 digits).getD 0
    Binary64.ofRatio? negative (value * Binary64.tenTo decimal.exponent.toNat)
      (Binary64.tenTo (-decimal.exponent).toNat)

/-- The finite number that a text means. -/
def finite? (text : List Char) : Option Binary64 :=
  match text with
  | '-' :: digits => (decimal? digits).bind (nearestTo? true)
  | '+' :: digits => (decimal? digits).bind (nearestTo? false)
  | digits => (decimal? digits).bind (nearestTo? false)

/-- A number in a diagnostic has a point and no exponent. -/
def numberLayout : Decimal.Layout := ⟨fun _ => true, false⟩

/-- The number that a text means, as a diagnostic shows it. -/
def number? (text : List Char) : Option String :=
  let unsigned := afterPlus text
  if text.head? = some '+' ∧ isSigned unsigned then none
  else if [".inf", ".Inf", ".INF"].contains (String.ofList unsigned) then some "inf"
  else if ["-.inf", "-.Inf", "-.INF"].contains (String.ofList text) then some "-inf"
  else if [".nan", ".NaN", ".NAN"].contains (String.ofList text) then some "NaN"
  else (finite? unsigned).map fun x => String.ofList (Decimal.text numberLayout x)

/-! ## Meanings -/

/-- Whether a text means nothing. -/
def isNothing (text : String) : Bool := ["null", "Null", "NULL", "~"].contains text

/-- The truth value that a text means. -/
def boolean? (text : String) : Option Bool :=
  if ["true", "True", "TRUE"].contains text then some true
  else if ["false", "False", "FALSE"].contains text then some false
  else none

/-- What a plain scalar means. -/
def plainMeaning (chars : List Char) : Found :=
  let text := String.ofList chars
  if text.isEmpty || isNothing text then .nothing
  else
    match boolean? text with
    | some value => .boolean value
    | none =>
      match integerMeaning? chars with
      | some found => found
      | none =>
        if hasSuperfluousZero chars then .text text
        else
          match number? chars with
          | some decimal => .number decimal
          | none => .text text

/-- What tags begin with that promise a meaning. -/
def promiseSpace : String := "tag:yaml.org,2002:"

/-- What a scalar means, or the promise of its tag that it does not keep. -/
def meaning (tag : Option (List Char)) (plain : Bool) (chars : List Char) :
    Except Promise Found :=
  let text := String.ofList chars
  let kept (promise : Promise) (found : Option Found) : Except Promise Found :=
    match found with
    | some found => .ok found
    | none => .error promise
  match tag.map String.ofList with
  | none => .ok (if plain then plainMeaning chars else .text text)
  | some tag =>
    if tag = promiseSpace ++ "bool" then kept .boolean ((boolean? text).map .boolean)
    else if tag = promiseSpace ++ "int" then kept .integer (integerMeaning? chars)
    else if tag = promiseSpace ++ "float" then kept .number ((number? chars).map .number)
    else if tag = promiseSpace ++ "null" then
      kept .nothing (if isNothing text then some .nothing else none)
    else if plain && tag.startsWith "!" then .ok (plainMeaning chars)
    else .ok (.text text)

end EntityForge.Yaml

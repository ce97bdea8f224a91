/-!
# Finite binary floating-point values

A number that is written with a fraction, with an exponent, or outside the
64-bit integers is kept as a binary64 value.  Only its value matters to this
library, so a zero of either sign is the one value `zero`, and two values are
equal exactly when their canonical forms are.

Decimal text is read in two roundings: the leading digits that fit in 64 bits
are rounded first, and the result is then multiplied or divided by a rounded
power of ten.
-/

namespace ChangeRelay

/-- A finite binary64 value `± significand * 2 ^ exponent`.  `ofRatio?` builds
only canonical values: a non-zero significand below `2 ^ 52` comes with the
least exponent. -/
structure Binary64 where
  negative : Bool
  significand : Nat
  exponent : Int
deriving DecidableEq, Repr, Inhabited

namespace Binary64

/-- The one zero. -/
def zero : Binary64 :=
  ⟨false, 0, 0⟩

def isZero (x : Binary64) : Bool :=
  x.significand == 0

/-- The opposite value; zero is its own opposite. -/
def negate (x : Binary64) : Binary64 :=
  if x.isZero then zero else { x with negative := !x.negative }

/-- The nearest natural number to a quotient, a tie going to the even one. -/
def roundHalfEven (numerator denominator : Nat) : Nat :=
  let quotient := numerator / denominator
  let twice := 2 * (numerator % denominator)
  if twice < denominator then quotient
  else if denominator < twice then quotient + 1
  else quotient + quotient % 2

/-- The binary exponent of the unit in the last place for a quotient of this
size. -/
def unitExponent (numerator denominator : Nat) : Int :=
  let estimate : Int := (numerator.log2 : Int) - (denominator.log2 : Int)
  let below : Bool :=
    if 0 ≤ estimate then numerator < denominator * Nat.pow 2 estimate.toNat
    else numerator * Nat.pow 2 (-estimate).toNat < denominator
  let leading := if below then estimate - 1 else estimate
  max (leading - 52) (-1074)

/-- The binary64 value nearest to a non-negative quotient, a tie going to the
even significand; `none` beyond the finite range. -/
def ofRatio? (numerator denominator : Nat) : Option Binary64 :=
  if numerator = 0 then some zero
  else
    let unit := unitExponent numerator denominator
    let rounded :=
      if 0 ≤ unit then roundHalfEven numerator (denominator * Nat.pow 2 unit.toNat)
      else roundHalfEven (numerator * Nat.pow 2 (-unit).toNat) denominator
    if rounded = 0 then some zero
    else
      let (significand, exponent) :=
        if rounded = 9007199254740992 then (4503599627370496, unit + 1) else (rounded, unit)
      if 971 < exponent then none else some ⟨false, significand, exponent⟩

/-- Numerator of the magnitude. -/
def numerator (x : Binary64) : Nat :=
  if 0 ≤ x.exponent then x.significand * Nat.pow 2 x.exponent.toNat else x.significand

/-- Denominator of the magnitude. -/
def denominator (x : Binary64) : Nat :=
  if 0 ≤ x.exponent then 1 else Nat.pow 2 (-x.exponent).toNat

/-- Product of two magnitudes, rounded. -/
def mul? (x y : Binary64) : Option Binary64 :=
  ofRatio? (x.numerator * y.numerator) (x.denominator * y.denominator)

/-- Quotient of two magnitudes, rounded. -/
def div? (x y : Binary64) : Option Binary64 :=
  ofRatio? (x.numerator * y.denominator) (x.denominator * y.numerator)

/-- The rounded power of ten; there is one up to `10 ^ 308`. -/
def powerOfTen? (power : Nat) : Option Binary64 :=
  ofRatio? (Nat.pow 10 power) 1

/-- Divide by a power of ten, in strides of `10 ^ 308`. -/
def divideByPowerOfTen? (x : Binary64) (power : Nat) : Option Binary64 :=
  if x.isZero then some zero
  else if power ≤ 308 then do div? x (← powerOfTen? power)
  else do divideByPowerOfTen? (← div? x (← powerOfTen? 308)) (power - 308)
termination_by power

/-- The value of `digits * 10 ^ exponent` in two roundings; `none` when it is
beyond the finite range. -/
def ofDecimal? (digits : Nat) (exponent : Int) : Option Binary64 := do
  let leading ← ofRatio? digits 1
  if exponent < 0 then
    divideByPowerOfTen? leading (-exponent).toNat
  else if exponent ≤ 308 then
    mul? leading (← powerOfTen? exponent.toNat)
  else if leading.isZero then
    some zero
  else
    none

/-! ## Shortest decimal text -/

/-- The exponent `e` with `10 ^ (e - 1) ≤ x < 10 ^ e`, found by counting down
from a bound above every finite value. -/
def decimalPoint (x : Binary64) : Int :=
  search 640
where
  reaches (power : Int) : Bool :=
    if 0 ≤ power then x.denominator * Nat.pow 10 power.toNat ≤ x.numerator
    else x.denominator ≤ x.numerator * Nat.pow 10 (-power).toNat
  search : Nat → Int
    | 0 => -330
    | steps + 1 =>
      if reaches ((steps : Int) - 330) then (steps : Int) - 329 else search steps

/-- Decimal candidates on the grid of a unit `10 ^ power`: the neighbours of
the value, the nearer one first. -/
def gridNeighbours (x : Binary64) (power : Int) : List Nat :=
  let num := if 0 ≤ power then x.numerator else x.numerator * Nat.pow 10 (-power).toNat
  let den := if 0 ≤ power then x.denominator * Nat.pow 10 power.toNat else x.denominator
  let lower := num / den
  if 2 * (num % den) ≤ den then [lower, lower + 1] else [lower + 1, lower]

/-- Whether `digits * 10 ^ power` rounds to this value. -/
def readsBack (x : Binary64) (digits : Nat) (power : Int) : Bool :=
  let read :=
    if 0 ≤ power then ofRatio? (digits * Nat.pow 10 power.toNat) 1
    else ofRatio? digits (Nat.pow 10 (-power).toNat)
  read == some { x with negative := false }

/-- The same decimal without zeros at its end. -/
def withoutFinalZeros (digits : Nat) (power : Int) : Nat × Int :=
  if digits = 0 ∨ digits % 10 ≠ 0 then (digits, power)
  else withoutFinalZeros (digits / 10) (power + 1)
termination_by digits
decreasing_by omega

/-- The fewest digits that read back, as `digits * 10 ^ power`. -/
def shortest (x : Binary64) : Nat × Int :=
  search 17 1
where
  search : Nat → Nat → Nat × Int
    | 0, _ => (x.significand, 0)
    | steps + 1, count =>
      let power := x.decimalPoint - count
      match (x.gridNeighbours power).find? (x.readsBack · power) with
      | some digits => withoutFinalZeros digits power
      | none => search steps (count + 1)

/-- Decimal text: positional with a fraction up to `10 ^ 16`, with an exponent
outside of `10 ^ -5` to `10 ^ 16`. -/
def text (x : Binary64) : String :=
  let sign := if x.negative then "-" else ""
  if x.isZero then "0.0"
  else
    let (digits, power) := x.shortest
    let shown := toString digits
    let point : Int := shown.length + power
    let zeros (count : Int) := String.ofList (List.replicate count.toNat '0')
    let cut (count : Int) : String × String :=
      (String.ofList (shown.toList.take count.toNat),
        String.ofList (shown.toList.drop count.toNat))
    if 0 ≤ power ∧ point ≤ 16 then
      sign ++ shown ++ zeros power ++ ".0"
    else if 0 < point ∧ point ≤ 16 then
      sign ++ (cut point).1 ++ "." ++ (cut point).2
    else if -5 < point ∧ point ≤ 0 then
      sign ++ "0." ++ zeros (-point) ++ shown
    else if shown.length = 1 then
      sign ++ shown ++ "e" ++ toString (point - 1)
    else
      sign ++ (cut 1).1 ++ "." ++ (cut 1).2 ++ "e" ++ toString (point - 1)

end Binary64

end ChangeRelay

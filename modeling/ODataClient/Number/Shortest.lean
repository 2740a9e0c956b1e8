import ODataClient.Number.BinaryFloat

/-! # Shortest decimals
The decimal with the fewest digits among those that read back to a given binary number, and of
those the one nearest to it. The numbers that read back form an interval around the value: half the
gap to each neighbour, ends included when the significand is even. -/

namespace ODataClient

/-- A decimal number `coefficient · 10 ^ exponent`. -/
structure Decimal where
  /-- The integer factor. -/
  coefficient : Nat
  /-- The power of ten. -/
  exponent : Int
deriving DecidableEq, Repr

/-- Which of two equally near decimals is taken. -/
inductive TieRule
  /-- The larger one. -/
  | away
  /-- The one with the even last digit. -/
  | toEven
deriving DecidableEq, Repr

/-- The number of digits of a positive number. -/
def digitCount (value : Nat) : Nat := (Nat.toDigits 10 value).length

namespace Decimal

/-- Remove trailing zeros of the coefficient, at most `fuel` of them. -/
def stripZeros : Nat → Decimal → Decimal
  | 0, decimal => decimal
  | fuel + 1, decimal =>
    if decimal.coefficient % 10 = 0 ∧ decimal.coefficient ≠ 0 then
      stripZeros fuel ⟨decimal.coefficient / 10, decimal.exponent + 1⟩
    else decimal

end Decimal

/-- The interval of reals that read back to a number: value and ends over one denominator. -/
structure RoundingInterval where
  /-- The lower end. -/
  lower : Nat
  /-- The number itself. -/
  value : Nat
  /-- The upper end. -/
  upper : Nat
  /-- The denominator of all three. -/
  denominator : Nat
  /-- Whether the ends belong to the interval. -/
  closed : Bool

namespace RoundingInterval

/-- The interval of a finite number that is not zero. The gap below a power of two is half the gap
above it, except at the bottom of the range. -/
def ofFloat {format : FloatFormat} (number : BinaryFloat format) : RoundingInterval :=
  let factor := Nat.pow 2 (number.scale - 2).toNat
  let value := 4 * number.significand
  let below := if number.fractionField = 0 ∧ 1 < number.exponentField then 1 else 2
  { lower := (value - below) * factor
    value := value * factor
    upper := (value + 2) * factor
    denominator := Nat.pow 2 (2 - number.scale).toNat
    closed := number.significand % 2 == 0 }

/-- Whether a decimal lies in the interval. -/
def contains (interval : RoundingInterval) (decimal : Decimal) : Bool :=
  let point := decimal.coefficient * Nat.pow 10 decimal.exponent.toNat * interval.denominator
  let unit := Nat.pow 10 (-decimal.exponent).toNat
  let lower := interval.lower * unit
  let upper := interval.upper * unit
  (lower < point && point < upper) || (interval.closed && (point == lower || point == upper))

/-- The nearer of the two neighbours of the value on the grid `10 ^ exponent` that lies in the
interval, if one does. -/
def onGrid (interval : RoundingInterval) (tie : TieRule) (exponent : Int) : Option Decimal :=
  let numerator := interval.value * Nat.pow 10 (-exponent).toNat
  let denominator := interval.denominator * Nat.pow 10 exponent.toNat
  let floor := numerator / denominator
  let rest := 2 * (numerator % denominator)
  let below : Decimal := ⟨floor, exponent⟩
  let above : Decimal := ⟨floor + 1, exponent⟩
  match interval.contains below, interval.contains above with
  | false, false => none
  | true, false => some below
  | false, true => some above
  | true, true =>
    if rest < denominator || (rest == denominator && tie == .toEven && floor % 2 == 0) then
      some below
    else some above

/-- The first grid with a hit, going down from `exponent`. -/
def search (interval : RoundingInterval) (tie : TieRule) : Nat → Int → Decimal
  | 0, exponent =>
    ⟨interval.value * Nat.pow 10 (-exponent).toNat /
      (interval.denominator * Nat.pow 10 exponent.toNat), exponent⟩
  | fuel + 1, exponent =>
    (interval.onGrid tie exponent).getD (interval.search tie fuel (exponent - 1))

/-- The power of ten of the value's leading digit. -/
def leadingExponent (interval : RoundingInterval) : Int :=
  let guess : Int := digitCount interval.value - digitCount interval.denominator
  if interval.denominator * Nat.pow 10 guess.toNat ≤
      interval.value * Nat.pow 10 (-guess).toNat then guess
  else guess - 1

end RoundingInterval

/-- The shortest decimal that reads back to the absolute value of a finite number. -/
def BinaryFloat.shortest {format : FloatFormat} (tie : TieRule) (number : BinaryFloat format) :
    Decimal :=
  if number.isZero then ⟨0, 0⟩
  else
    let interval := RoundingInterval.ofFloat number
    (interval.search tie 17 interval.leadingExponent).stripZeros 17

end ODataClient

import ODataClient.Number.Shortest

/-! # Written numbers
Two ways of writing a decimal: positional, with every digit in its place, and scientific, with one
digit before the point and a power of ten behind it. -/

namespace ODataClient

/-- The digits of a natural number. -/
def naturalText (value : Nat) : String := value.repr

/-- Different numbers have different texts. -/
theorem naturalText_inj {first second : Nat} (same : naturalText first = naturalText second) :
    first = second := by
  have digits : Nat.toDigits 10 first = Nat.toDigits 10 second := by
    rw [← Nat.toList_repr, ← Nat.toList_repr]
    exact congrArg String.toList same
  calc
    first = Nat.ofDigitChars 10 (Nat.toDigits 10 first) 0 := Nat.ofDigitChars_ten_toDigits.symm
    _ = Nat.ofDigitChars 10 (Nat.toDigits 10 second) 0 := by rw [digits]
    _ = second := Nat.ofDigitChars_ten_toDigits

/-- The digits of an integer after its sign. -/
def integerText (value : Int) : String := value.repr

/-- A text with zeros before it up to a width. -/
def padZeros (width : Nat) (text : String) : String :=
  String.ofList (List.replicate (width - text.length) '0') ++ text

namespace Decimal

/-- An integer coefficient with a point before its last `places` digits. -/
def withPoint (places coefficient : Nat) : String :=
  let digits := (padZeros (places + 1) (naturalText coefficient)).toList
  if places = 0 then String.ofList digits
  else
    String.ofList (digits.take (digits.length - places)) ++ "." ++
      String.ofList (digits.drop (digits.length - places))

/-- A decimal with every digit in its place, and a point only before digits. -/
def positional (decimal : Decimal) : String :=
  withPoint (-decimal.exponent).toNat (decimal.coefficient * Nat.pow 10 decimal.exponent.toNat)

/-- The power of ten of the leading digit. -/
def leadingPower (decimal : Decimal) : Int :=
  decimal.exponent + (digitCount decimal.coefficient - 1 : Nat)

/-- A decimal with one digit before the point, and a signed power of ten. -/
def scientific (decimal : Decimal) : String :=
  let power := decimal.leadingPower
  withPoint (digitCount decimal.coefficient - 1) decimal.coefficient ++ "e" ++
    (if power < 0 then "-" else "+") ++ naturalText power.natAbs

end Decimal

namespace BinaryFloat

variable {format : FloatFormat}

/-- The sign of a number as it is written. -/
def signText (number : BinaryFloat format) : String := if number.isNegative then "-" else ""

/-- A number in positional notation with the fewest digits that read back, larger digits at a tie;
the infinities and non-numbers by name. -/
def text (number : BinaryFloat format) : String :=
  if number.isNaN then "NaN"
  else if number.isFinite then number.signText ++ (number.shortest .away).positional
  else number.signText ++ "inf"

end BinaryFloat

end ODataClient

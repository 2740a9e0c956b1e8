import ODataClient.Number.Notation

/-! # JSON numbers
A number is read from its digits. Without fraction and exponent it is an integer, as long as it fits
64 bits; any other number is floating-point. The digits are gathered into a significand of 64 bits;
digits beyond it only count towards the exponent. The floating-point number is then the nearest one
to the significand, multiplied or divided by the nearest one to a power of ten. -/

namespace ODataClient

/-- A JSON number: an integer or a finite floating-point number. -/
inductive JsonNumber
  /-- An integer between `-2 ^ 63` and `2 ^ 64 - 1`. -/
  | integer (value : Int)
  /-- Any other number. -/
  | double (value : Double)
deriving DecidableEq, Repr

/-- The parts of a number as it is written. -/
structure NumberText where
  /-- Whether a minus sign comes first. -/
  negative : Bool
  /-- The digits before the point. -/
  whole : List Nat
  /-- The digits behind the point; none without a point. -/
  fraction : List Nat
  /-- The power of ten, if one is written. -/
  exponent : Option Int
deriving DecidableEq, Repr

namespace JsonNumber

/-- The largest significand. -/
def maxSignificand : Nat := Nat.pow 2 64 - 1

/-- Append digits to a significand as long as it fits; the digits left over are returned too. -/
def gather (significand : Nat) : List Nat → Nat × List Nat
  | [] => (significand, [])
  | digit :: rest =>
    if significand * 10 + digit ≤ maxSignificand then gather (significand * 10 + digit) rest
    else (significand, digit :: rest)

/-- The floating-point number nearest to a power of ten. -/
def powerOfTen (exponent : Nat) : Double := .ofQuotient false (Nat.pow 10 exponent) 1

/-- The largest power of ten in the range of floating-point numbers. -/
def maxPower : Nat := 308

/-- A number divided by a power of ten, in steps of the largest power in range. -/
def divide (number : Double) (exponent : Nat) : Double :=
  if exponent ≤ maxPower then number.div (powerOfTen exponent)
  else if number.isZero then number
  else divide (number.div (powerOfTen maxPower)) (exponent - maxPower)
termination_by exponent
decreasing_by simp only [maxPower] at *; omega

/-- A number multiplied by a power of ten, if the product is in range. -/
def multiply (number : Double) (exponent : Nat) : Option Double :=
  if number.isZero then some number
  else if exponent ≤ maxPower then
    let product := number.mul (powerOfTen exponent)
    if product.isFinite then some product else none
  else none

/-- A significand scaled by a power of ten, if it is in range. -/
def scaled (significand : Nat) (exponent : Int) : Option Double :=
  let number : Double := .ofInt significand
  if 0 ≤ exponent then multiply number exponent.toNat else some (divide number (-exponent).toNat)

/-- A double with the sign of its text. -/
def signed (negative : Bool) (number : Double) : Double := if negative then number.negate else number

/-- The number denoted by its written parts, if it is in range. -/
def ofText? (text : NumberText) : Option JsonNumber :=
  let (significand, skipped) := gather 0 text.whole
  if skipped = [] ∧ text.fraction = [] ∧ text.exponent = none then
    if !text.negative then some (.integer significand)
    else if significand = 0 ∨ Nat.pow 2 63 < significand then
      some (.double (signed true (BinaryFloat.ofInt significand)))
    else some (.integer (-significand))
  else
    let (significand, unread) := gather significand text.fraction
    let exponent : Int := skipped.length - (text.fraction.length - unread.length : Nat)
    (scaled significand (exponent + text.exponent.getD 0)).map fun number =>
      .double (signed text.negative number)

/-- The text of a floating-point number: positional between `1e-5` and `1e16` and then always with
a point, scientific elsewhere. -/
def doubleText (number : Double) : String :=
  let decimal := number.shortest .toEven
  let power := decimal.leadingPower
  number.signText ++
    (if number.isZero then "0.0"
    else if -5 ≤ power ∧ power < 16 then
      if decimal.exponent < 0 then decimal.positional else decimal.positional ++ ".0"
    else decimal.scientific)

/-- The text of a number. -/
def text : JsonNumber → String
  | integer value => integerText value
  | double value => doubleText value

/-- The integer that a number is, if it was written as one. -/
def toInt? : JsonNumber → Option Int
  | integer value => some value
  | double _ => none

/-- A number as a floating-point number. -/
def toDouble : JsonNumber → Double
  | integer value => .ofInt value
  | double value => value

end JsonNumber

end ODataClient

/-! # Binary floating-point numbers
A floating-point number is kept as its bit pattern in a format with a fraction and an exponent
field. A finite pattern denotes `± significand · 2 ^ scale`; every operation here is the exact
rational result rounded to the nearest number of the format, a tie going to the even significand. -/

namespace ODataClient

/-- A binary interchange format, given by the widths of its two fields. -/
structure FloatFormat where
  /-- Width of the fraction field. -/
  fractionBits : Nat
  /-- Width of the exponent field. -/
  exponentBits : Nat
deriving DecidableEq, Repr

namespace FloatFormat

/-- The format of 32 bits. -/
def single : FloatFormat := ⟨23, 8⟩

/-- The format of 64 bits. -/
def double : FloatFormat := ⟨52, 11⟩

variable (format : FloatFormat)

/-- The exponent field of infinities and of patterns that are no number. -/
def topExponent : Nat := Nat.pow 2 format.exponentBits - 1

/-- The scale of the smallest numbers: the unit of the subnormal range is `2 ^ minScale`. -/
def minScale : Int := 2 - Nat.pow 2 (format.exponentBits - 1) - format.fractionBits

/-- The weight of the sign bit. -/
def signWeight : Nat := Nat.pow 2 (format.fractionBits + format.exponentBits)

/-- The pattern of positive infinity. -/
def infinityBits : Nat := format.topExponent * Nat.pow 2 format.fractionBits

end FloatFormat

/-- A number of a binary format, as its bit pattern. -/
structure BinaryFloat (format : FloatFormat) where
  /-- The pattern: sign, exponent field, fraction field. -/
  bits : Nat
deriving DecidableEq, Repr

/-- A number of 32 bits. -/
abbrev Single := BinaryFloat .single

/-- A number of 64 bits. -/
abbrev Double := BinaryFloat .double

namespace BinaryFloat

variable {format : FloatFormat}

/-- Whether the sign bit is set. -/
def isNegative (number : BinaryFloat format) : Bool :=
  number.bits / format.signWeight % 2 == 1

/-- The exponent field. -/
def exponentField (number : BinaryFloat format) : Nat :=
  number.bits / Nat.pow 2 format.fractionBits % Nat.pow 2 format.exponentBits

/-- The fraction field. -/
def fractionField (number : BinaryFloat format) : Nat :=
  number.bits % Nat.pow 2 format.fractionBits

/-- Whether the pattern denotes a real number. -/
def isFinite (number : BinaryFloat format) : Bool :=
  number.exponentField != format.topExponent

/-- Whether the pattern is no number at all. -/
def isNaN (number : BinaryFloat format) : Bool :=
  number.exponentField == format.topExponent && number.fractionField != 0

/-- The integer factor of a finite number. -/
def significand (number : BinaryFloat format) : Nat :=
  if number.exponentField = 0 then number.fractionField
  else Nat.pow 2 format.fractionBits + number.fractionField

/-- The power of two that a finite number's significand is multiplied by. -/
def scale (number : BinaryFloat format) : Int :=
  format.minScale + (number.exponentField - 1 : Nat)

/-- Whether the number is a zero of either sign. -/
def isZero (number : BinaryFloat format) : Bool :=
  number.exponentField == 0 && number.fractionField == 0

/-- The absolute value of a finite number as a quotient of naturals. -/
def magnitude (number : BinaryFloat format) : Nat × Nat :=
  (number.significand * Nat.pow 2 number.scale.toNat, Nat.pow 2 (-number.scale).toNat)

/-- The number with the given sign and bits of its absolute value. -/
def ofSigned (negative : Bool) (bits : Nat) : BinaryFloat format :=
  ⟨if negative then format.signWeight + bits else bits⟩

/-- The number with the opposite sign. -/
def negate (number : BinaryFloat format) : BinaryFloat format :=
  ofSigned (!number.isNegative) (number.bits % format.signWeight)

/-- The integer nearest to a quotient, a tie going to the even one. -/
def nearestEven (numerator denominator : Nat) : Nat :=
  let floor := numerator / denominator
  let rest := 2 * (numerator % denominator)
  if rest < denominator || (rest == denominator && floor % 2 == 0) then floor else floor + 1

/-- The binary exponent of a positive quotient: the largest `e` with `2 ^ e ≤ numerator / denominator`. -/
def binaryExponent (numerator denominator : Nat) : Int :=
  let guess : Int := numerator.log2 - denominator.log2
  if denominator * Nat.pow 2 guess.toNat ≤ numerator * Nat.pow 2 (-guess).toNat then guess
  else guess - 1

/-- The number nearest to a quotient with the given sign; infinite beyond the range. -/
def ofQuotient (negative : Bool) (numerator denominator : Nat) : BinaryFloat format :=
  if numerator = 0 then ofSigned negative 0
  else
    let scale := max format.minScale (binaryExponent numerator denominator - format.fractionBits)
    let significand :=
      nearestEven (numerator * Nat.pow 2 (-scale).toNat) (denominator * Nat.pow 2 scale.toNat)
    let bits := (scale - format.minScale).toNat * Nat.pow 2 format.fractionBits + significand
    ofSigned negative (min bits format.infinityBits)

/-- The number nearest to an integer. -/
def ofInt (value : Int) : BinaryFloat format := ofQuotient (value < 0) value.natAbs 1

/-- The product of two finite numbers. -/
def mul (left right : BinaryFloat format) : BinaryFloat format :=
  ofQuotient (left.isNegative != right.isNegative)
    (left.magnitude.1 * right.magnitude.1) (left.magnitude.2 * right.magnitude.2)

/-- The quotient of two finite numbers, the second not zero. -/
def div (left right : BinaryFloat format) : BinaryFloat format :=
  ofQuotient (left.isNegative != right.isNegative)
    (left.magnitude.1 * right.magnitude.2) (left.magnitude.2 * right.magnitude.1)

/-- The number of another format nearest to this one; infinities and non-numbers keep their kind. -/
def convert {target : FloatFormat} (number : BinaryFloat format) : BinaryFloat target :=
  if number.isFinite then ofQuotient number.isNegative number.magnitude.1 number.magnitude.2
  else ofSigned number.isNegative (target.infinityBits + if number.isNaN then 1 else 0)

end BinaryFloat

end ODataClient

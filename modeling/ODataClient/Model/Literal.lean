import ODataClient.Model.Guid
import ODataClient.Number.Notation
import ODataClient.Time.Calendar

/-! # Literal values
The constants of a filter, and the numbers among them. -/

namespace ODataClient

/-- A number of any of the kinds a record may hold. -/
inductive Number
  /-- An integer of any width. -/
  | integer (value : Int)
  /-- A floating-point number of 32 bits. -/
  | single (value : Single)
  /-- A floating-point number of 64 bits. -/
  | double (value : Double)
  /-- A decimal `mantissa / 10 ^ places`, written with all its places. -/
  | decimal (mantissa : Int) (places : Nat)
  /-- The decimal zero that keeps a minus sign, written with all its places. -/
  | negativeZero (places : Nat)
deriving DecidableEq, Repr

namespace Number

/-- The text of a number. -/
def text : Number → String
  | integer value => integerText value
  | single value => value.text
  | double value => value.text
  | decimal mantissa places =>
    (if mantissa < 0 then "-" else "") ++ Decimal.withPoint places mantissa.natAbs
  | negativeZero places => "-" ++ Decimal.withPoint places 0

/-- Whether a number denotes a real number. -/
def isFinite : Number → Bool
  | single value => value.isFinite
  | double value => value.isFinite
  | _ => true

/-- The numeric types that a field may be declared with. -/
inductive Kind
  /-- Floating-point numbers of 32 bits. -/
  | single
  /-- Floating-point numbers of 64 bits. -/
  | double
  /-- Integers. -/
  | integer
  /-- Decimals. -/
  | decimal
deriving DecidableEq, Repr

/-- A number as a value of a wider type; a number that is no narrower stays as it is. -/
def widen : Kind → Number → Number
  | .single, integer value => single (.ofInt value)
  | .double, integer value => double (.ofInt value)
  | .double, single value => double value.convert
  | .decimal, integer value => decimal value 0
  | _, number => number

end Number

/-- A constant operand of a filter. -/
inductive Literal
  /-- The absent value. -/
  | null
  /-- A text. -/
  | string (text : String)
  /-- A truth value. -/
  | bool (value : Bool)
  /-- A point in time. -/
  | datetime (value : Timestamp)
  /-- A globally unique identifier. -/
  | guid (value : Guid)
  /-- A member of an enumeration, by name. -/
  | enumeration (name : String)
  /-- A number. -/
  | number (value : Number)
  /-- Raw bytes, which no filter can express. -/
  | binary (bytes : List UInt8)
deriving DecidableEq, Repr

namespace Literal

/-- The name of a literal's kind. -/
def typeName : Literal → String
  | null => "null"
  | string _ => "string"
  | bool _ => "bool"
  | datetime _ => "datetime"
  | guid _ => "guid"
  | enumeration _ => "enum"
  | number _ => "number"
  | binary _ => "binary"

/-- Whether a literal is the absent value. -/
def isNull : Literal → Bool
  | null => true
  | _ => false

/-- A numeric literal as a value of a wider type. -/
def widen (kind : Number.Kind) : Literal → Literal
  | number value => number (value.widen kind)
  | literal => literal

end Literal

end ODataClient

import ODataClient.Text.Hexadecimal

/-! # Percent-encoded text
A text travels inside a query string as its UTF-8 bytes: an unreserved byte stands for itself and
every other byte is written as `%` and two upper-case hexadecimal digits. Since `&`, `=` and `%` are
not unreserved, an encoded text never contains a separator of the query string. -/

namespace ODataClient.Text

/-- The bytes of a text in UTF-8. -/
def utf8Bytes (text : String) : List UInt8 := text.toList.flatMap String.utf8EncodeChar

/-- The upper-case hexadecimal digit of a number below sixteen. -/
def hexDigit (value : Nat) : Char :=
  if value < 10 then Char.ofNat (48 + value) else Char.ofNat (55 + value)

/-- A byte written as `%` and its two hexadecimal digits. -/
def escapedByte (byte : UInt8) : List Char :=
  ['%', hexDigit (byte.toNat / 16), hexDigit (byte.toNat % 16)]

/-- A byte of the unreserved set stands for itself: letters, digits and `-`, `_`, `.`, `~`. -/
def isUnreserved (byte : UInt8) : Bool :=
  let char := Char.ofNat byte.toNat
  char.isAlphanum || char == '-' || char == '_' || char == '.' || char == '~'

/-- The written form of one byte. -/
def percentEncodeByte (byte : UInt8) : List Char :=
  if isUnreserved byte then [Char.ofNat byte.toNat] else escapedByte byte

/-- The percent-encoded form of a text. -/
def percentEncode (text : String) : String :=
  String.ofList ((utf8Bytes text).flatMap percentEncodeByte)

/-- Bytes with each escape of two hexadecimal digits replaced by the byte it stands for. -/
def unescape : List UInt8 → List UInt8
  | [] => []
  | byte :: high :: low :: rest =>
    match byte == 37, hexDigit? (Char.ofNat high.toNat), hexDigit? (Char.ofNat low.toNat) with
    | true, some high, some low => UInt8.ofNat (high * 16 + low) :: unescape rest
    | _, _, _ => byte :: unescape (high :: low :: rest)
  | byte :: rest => byte :: unescape rest
termination_by bytes => bytes.length

@[simp] theorem toList_percentEncode (text : String) :
    (percentEncode text).toList = (utf8Bytes text).flatMap percentEncodeByte := by
  simp [percentEncode]

end ODataClient.Text

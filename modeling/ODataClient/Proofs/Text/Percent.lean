import Mathlib.Data.List.Basic
import ODataClient.Text.Percent

/-! # Percent-encoded text read back

An encoded text is ASCII, and its escapes stand for bytes. Without them it is the text, and every text is
what its encoding stands for.

* **`unescape_flatMap_percentEncodeByte`** — the bytes behind their written forms, byte by byte.
* **`percentDecode?_percentEncode`** — every text is decoded from its encoding.
* **`percentDecode?_of_plain`** — a text without escapes is decoded to itself. -/

namespace ODataClient.Text

/-- The text that a percent-encoded text stands for, if its bytes are UTF-8. -/
def percentDecode? (text : String) : Option String :=
  String.fromUTF8? (unescape (utf8Bytes text)).toByteArray

/-- A byte that is no percent sign stands for itself. -/
theorem unescape_cons_of_ne {byte : UInt8} (plain : byte ≠ 37) (rest : List UInt8) :
    unescape (byte :: rest) = byte :: unescape rest := by
  match rest with
  | [] | [_] => simp [unescape]
  | high :: low :: others =>
    have other : (byte == 37) = false := beq_eq_false_iff_ne.mpr plain
    rw [unescape, other]

/-- A hexadecimal digit is one byte, and is read as its value. -/
theorem hexDigit?_hexDigit : ∀ value < 16,
    String.utf8EncodeChar (hexDigit value) = [UInt8.ofNat (hexDigit value).toNat] ∧
      hexDigit? (Char.ofNat (UInt8.ofNat (hexDigit value).toNat).toNat) = some value := by
  decide

/-- An unreserved byte is the one byte of its character, and is no percent sign. -/
theorem utf8EncodeChar_of_isUnreserved : ∀ value < 256, isUnreserved (.ofNat value) = true →
    String.utf8EncodeChar (Char.ofNat value) = [.ofNat value] ∧ UInt8.ofNat value ≠ 37 := by
  decide +kernel

/-- The written form of a byte stands for the byte. -/
theorem unescape_percentEncodeByte (byte : UInt8) (rest : List UInt8) :
    unescape ((percentEncodeByte byte).flatMap String.utf8EncodeChar ++ rest) =
      byte :: unescape rest := by
  have bound : byte.toNat < 256 := byte.toNat_lt
  rw [percentEncodeByte]
  split
  · rename_i unreserved
    obtain ⟨single, plain⟩ :=
      utf8EncodeChar_of_isUnreserved byte.toNat bound (by simpa using unreserved)
    rw [UInt8.ofNat_toNat] at single plain
    simp [single, unescape_cons_of_ne plain]
  · obtain ⟨highByte, highValue⟩ := hexDigit?_hexDigit (byte.toNat / 16) (by omega)
    obtain ⟨lowByte, lowValue⟩ := hexDigit?_hexDigit (byte.toNat % 16) (by omega)
    have percent : String.utf8EncodeChar '%' = [37] := by decide
    -- The two digits are the byte's quotient and remainder by the base.
    have whole : UInt8.ofNat (byte.toNat / 16 * 16 + byte.toNat % 16) = byte := by
      rw [Nat.div_add_mod' byte.toNat 16, UInt8.ofNat_toNat]
    simp only [escapedByte, List.flatMap_cons, List.flatMap_nil, percent, highByte, lowByte,
      List.append_nil, List.cons_append, List.nil_append]
    rw [unescape, highValue, lowValue]
    simp [whole]

/-- The written forms of bytes stand for the bytes. -/
theorem unescape_flatMap_percentEncodeByte (bytes : List UInt8) :
    unescape ((bytes.flatMap percentEncodeByte).flatMap String.utf8EncodeChar) = bytes := by
  induction bytes with
  | nil => rw [List.flatMap_nil, List.flatMap_nil, unescape]
  | cons byte rest ih =>
    rw [List.flatMap_cons, List.flatMap_append, unescape_percentEncodeByte, ih]

/-- The bytes of a text are read as the text. -/
theorem fromUTF8?_utf8Bytes (text : String) :
    String.fromUTF8? (utf8Bytes text).toByteArray = some text := by
  have bytes : (utf8Bytes text).toByteArray = text.toByteArray := by
    rw [← String.ofList_toList (s := text), String.toByteArray_ofList]
    simp [utf8Bytes, List.utf8Encode]
  rw [bytes, String.fromUTF8?, dif_pos text.isValidUTF8]
  rfl

/-- **Every text is decoded from its encoding.** -/
theorem percentDecode?_percentEncode (text : String) :
    percentDecode? (percentEncode text) = some text := by
  have bytes : unescape (utf8Bytes (percentEncode text)) = utf8Bytes text := by
    rw [utf8Bytes, toList_percentEncode]
    exact unescape_flatMap_percentEncodeByte (utf8Bytes text)
  rw [percentDecode?, bytes, fromUTF8?_utf8Bytes]

/-- The bytes of a character of ASCII are one, its code. -/
theorem utf8EncodeChar_of_ascii {char : Char} (ascii : char.toNat < 128) :
    String.utf8EncodeChar char = [.ofNat char.toNat] := by
  have each : ∀ code < 128, String.utf8EncodeChar (Char.ofNat code) = [.ofNat code] := by decide
  simpa using each char.toNat ascii

/-- Bytes without a percent sign stand for themselves. -/
theorem unescape_of_notMem {bytes : List UInt8} (plain : 37 ∉ bytes) : unescape bytes = bytes := by
  induction bytes with
  | nil => rw [unescape]
  | cons byte rest ih =>
    rw [List.mem_cons, not_or] at plain
    rw [unescape_cons_of_ne (Ne.symm plain.1), ih plain.2]

/-- **A text of ASCII without a percent sign is decoded to itself.** -/
theorem percentDecode?_of_plain {text : String}
    (plain : ∀ char ∈ text.toList, char.toNat < 128 ∧ char ≠ '%') : percentDecode? text = some text := by
  have free : 37 ∉ utf8Bytes text := by
    rw [utf8Bytes, List.mem_flatMap]
    rintro ⟨char, member, byte⟩
    obtain ⟨ascii, noPercent⟩ := plain char member
    rw [utf8EncodeChar_of_ascii ascii, List.mem_singleton] at byte
    have code : char.toNat = '%'.toNat := by
      have same := congrArg UInt8.toNat byte
      rw [UInt8.toNat_ofNat', Nat.mod_eq_of_lt (by omega)] at same
      exact same.symm
    exact noPercent (Char.toNat_inj.mp code)
  rw [percentDecode?, unescape_of_notMem free, fromUTF8?_utf8Bytes]

end ODataClient.Text

/-! # Blank text
The characters with the Unicode property `White_Space`, and texts that hold nothing else. -/

namespace ODataClient.Text

/-- Whether a character has the property `White_Space`. -/
def isBlank (char : Char) : Bool :=
  let code := char.toNat
  (9 ≤ code && code ≤ 13) || code == 0x20 || code == 0x85 || code == 0xA0 || code == 0x1680 ||
    (0x2000 ≤ code && code ≤ 0x200A) || code == 0x2028 || code == 0x2029 || code == 0x202F ||
    code == 0x205F || code == 0x3000

/-- Whether a text is empty or holds blank characters only. -/
def isBlankText (text : String) : Bool := text.toList.all isBlank

end ODataClient.Text

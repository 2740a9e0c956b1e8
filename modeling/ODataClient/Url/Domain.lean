import ODataClient.Text.Percent
import ODataClient.Url.Domain.Label

/-! # Domains
The names of hosts. A domain is read character by character, cut at its dots, checked label by label,
and written in ASCII. -/

namespace ODataClient.Domain

/-- An ASCII character that no domain may hold. -/
def isForbidden (char : Char) : Bool :=
  char.toNat ≤ 32 || char.toNat == 127 || "%#/:<>?@[\\]^|".toList.contains char

/-- Whether labels may stand in a domain together: each of them by itself, and if one holds a character
that runs from right to left, all of them keep to one direction. -/
def areSound (labels : List (List Char)) : Bool :=
  labels.all isSound && (!labels.any (·.any Text.runsRightToLeft) || labels.all keepsDirection)

/-- The labels of a text that is read already. -/
def labels? (chars : List Char) : Option (List (List Char)) := do
  if chars.any isForbidden then none
  let labels ← (Text.splitAtChar '.' chars).mapM meaning?
  if areSound labels then some labels else none

/-- The ASCII form of a domain given by its bytes, escapes among them. -/
def toAscii? (text : String) : Option (List Char) := do
  let decoded ← String.fromUTF8? (Text.unescape (Text.utf8Bytes text)).toByteArray
  let labels ← labels? (← read? decoded.toList)
  return ['.'].intercalate (labels.map asciiForm)

end ODataClient.Domain

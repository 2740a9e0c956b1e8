import ODataClient.Text.Hexadecimal

/-! # Globally unique identifiers
Identifiers of 128 bits, written as five groups of lower-case hexadecimal digits joined by hyphens. -/

namespace ODataClient

/-- An identifier of 128 bits. -/
structure Guid where
  /-- The bits as one number. -/
  bits : BitVec 128
deriving DecidableEq, Repr

namespace Guid

/-- Read thirty-two hexadecimal digits of either case, hyphens among them ignored. -/
def ofText? (text : String) : Option Guid := do
  let digits ← (text.toList.filter (· != '-')).mapM Text.hexDigit?
  if digits.length = 32 then some ⟨BitVec.ofNat 128 (digits.foldl (16 * · + ·) 0)⟩ else none

/-- The lower-case hexadecimal digits from position `start` on, counted from the front. -/
def digits (guid : Guid) (start count : Nat) : List Char :=
  (List.range count).map fun index =>
    Nat.digitChar (guid.bits.toNat / Nat.pow 16 (31 - (start + index)) % 16)

/-- The five groups of 8, 4, 4, 4 and 12 digits joined by hyphens. -/
def text (guid : Guid) : String :=
  String.ofList
    (guid.digits 0 8 ++ '-' :: guid.digits 8 4 ++ '-' :: guid.digits 12 4 ++ '-' ::
      guid.digits 16 4 ++ '-' :: guid.digits 20 12)

end Guid

end ODataClient

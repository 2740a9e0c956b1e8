import ODataClient.Text.Hexadecimal
import ODataClient.Text.Split

/-! # Sets of characters
Properties of characters are sets of code points, kept as ranges. A table writes its ranges in rows:
hexadecimal numbers between blanks, the ends of a range joined by a hyphen. All tables of characters
in this library hold version 17.0 of the Unicode character database. -/

namespace ODataClient.Text

/-- The words of a row: the parts between blanks that are not empty. -/
def words (row : String) : List (List Char) :=
  (splitAtChar ' ' row.toList).filter (!·.isEmpty)

/-- A range of code points, both ends included. -/
structure CodeRange where
  /-- The first code point. -/
  first : Nat
  /-- The last code point. -/
  last : Nat
deriving DecidableEq, Repr

namespace CodeRange

/-- The range that a word stands for; a number alone is a range of one code point. -/
def ofWord (word : List Char) : CodeRange :=
  match splitAtChar '-' word with
  | [first, last] => ⟨hexNumber first, hexNumber last⟩
  | _ => ⟨hexNumber word, hexNumber word⟩

/-- Whether a code point lies in a range. -/
def contains (range : CodeRange) (code : Nat) : Bool := range.first ≤ code && code ≤ range.last

end CodeRange

/-- A set of characters. -/
structure CharSet where
  /-- The ranges of its code points. -/
  ranges : List CodeRange

namespace CharSet

/-- The set that rows stand for. -/
def ofRows (rows : List String) : CharSet := ⟨rows.flatMap fun row => (words row).map .ofWord⟩

/-- Whether a character is in a set. -/
def contains (set : CharSet) (char : Char) : Bool := set.ranges.any (·.contains char.toNat)

theorem contains_iff {set : CharSet} {char : Char} :
    set.contains char = true ↔
      ∃ range ∈ set.ranges, range.first ≤ char.toNat ∧ char.toNat ≤ range.last := by
  simp [contains, CodeRange.contains]

end CharSet

/-- The first value whose set contains a character. -/
def valueIn? {Value : Type} (sets : List (Value × CharSet)) (char : Char) : Option Value :=
  (sets.find? fun entry => entry.2.contains char).map (·.1)

end ODataClient.Text

import ODataClient.Text.CharSet

/-! # Mappings of characters
Mappings that give single characters a text. A table writes them in rows of words: a hexadecimal
number with a colon names a character, and the words behind it are the texts of that character and
of those that follow it, each as its code points joined by plus signs. -/

namespace ODataClient.Text

/-- A mapping of characters to texts. -/
structure CharMap where
  /-- The characters that have a text, and their texts. -/
  entries : List (Char × List Char)

namespace CharMap

/-- The text that a word stands for. -/
def textOfWord (word : List Char) : List Char :=
  (splitAtChar '+' word).map fun digits => Char.ofNat (hexNumber digits)

/-- The entries of words, the first text being that of a given code point. -/
def entriesFrom (code : Nat) : List (List Char) → List (Char × List Char)
  | [] => []
  | word :: rest =>
    if word.getLast? = some ':' then entriesFrom (hexNumber word.dropLast) rest
    else (Char.ofNat code, textOfWord word) :: entriesFrom (code + 1) rest

/-- The mapping that rows stand for. -/
def ofRows (rows : List String) : CharMap := ⟨rows.flatMap fun row => entriesFrom 0 (words row)⟩

/-- The text of a character; none if the mapping gives it none. -/
def get? (map : CharMap) (char : Char) : Option (List Char) := map.entries.lookup char

end CharMap

end ODataClient.Text

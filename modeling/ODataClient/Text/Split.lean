/-! # Splitting
The parts of a text between the places of one character. -/

namespace ODataClient.Text

/-- The parts of a text between the places of a character. -/
def splitAtChar (separator : Char) : List Char → List (List Char)
  | [] => [[]]
  | char :: rest =>
    if char = separator then [] :: splitAtChar separator rest
    else
      match splitAtChar separator rest with
      | [] => [[char]]
      | part :: parts => (char :: part) :: parts

/-- There is always at least one part. -/
theorem splitAtChar_ne_nil (separator : Char) (chars : List Char) :
    splitAtChar separator chars ≠ [] := by
  cases chars with
  | nil => simp [splitAtChar]
  | cons char rest =>
    rw [splitAtChar]
    split
    · simp
    · split <;> simp

/-- The parts are those that the library gives. -/
theorem splitAtChar_eq_splitOn (separator : Char) (chars : List Char) :
    splitAtChar separator chars = chars.splitOn separator := by
  induction chars with
  | nil => rfl
  | cons char rest ih =>
    rw [splitAtChar, List.splitOn, List.splitOnP_cons_eq_if_modifyHead, ← List.splitOn, ← ih]
    by_cases same : char = separator
    · simp [same]
    · have goesOn : (char == separator) = false := beq_eq_false_iff_ne.mpr same
      rw [if_neg same, goesOn]
      cases parts : splitAtChar separator rest with
      | nil => exact absurd parts (splitAtChar_ne_nil separator rest)
      | cons part others => rfl

/-- Joined parts come apart where they were joined. -/
theorem splitAtChar_intercalate {separator : Char} {parts : List (List Char)}
    (free : ∀ part ∈ parts, separator ∉ part) (filled : parts ≠ []) :
    splitAtChar separator ([separator].intercalate parts) = parts := by
  rw [splitAtChar_eq_splitOn]
  exact List.splitOn_intercalate separator free filled

end ODataClient.Text

import ODataClient.Model.Literal

/-! # The characters of literals

What the texts of numbers, times and identifiers look like, as far as a reader of a filter has to
know: of which characters they consist, and that they are not empty or hold a hyphen.

* **`Text.Consists`** — a text has only characters of a kind.
* **`Number.isNumeral_text`** — a finite number has some digits, hyphens and points.
* **`Timestamp.consists_text`** — a time has digits and the marks `+ - : T Z`.
* **`Guid.consists_text`** — an identifier has letters, digits and hyphens. -/

namespace ODataClient

namespace Text

/-- A text all of whose characters are of a kind. -/
def Consists (kind : Char → Bool) (text : String) : Prop := ∀ char ∈ text.toList, kind char = true

variable {kind : Char → Bool}

@[simp] theorem consists_append {front back : String} :
    Consists kind (front ++ back) ↔ Consists kind front ∧ Consists kind back := by
  simp [Consists, or_imp, forall_and]

@[simp] theorem consists_ofList {chars : List Char} :
    Consists kind (String.ofList chars) ↔ ∀ char ∈ chars, kind char = true := by
  simp [Consists]

/-- A text of one kind is of every wider kind. -/
theorem Consists.mono {wider : Char → Bool} {text : String} (consists : Consists kind text)
    (wide : ∀ char, kind char = true → wider char = true) : Consists wider text :=
  fun char member => wide char (consists char member)

/-- The characters of numbers. -/
def isNumeralChar (char : Char) : Bool := char.isDigit || char == '-' || char == '.'

/-- The characters of times. -/
def isTimeChar (char : Char) : Bool := char.isDigit || "+-:TZ".toList.contains char

/-- The characters of globally unique identifiers. -/
def isGuidChar (char : Char) : Bool := char.isAlphanum || char == '-'

/-- A digit may stand in a number. -/
theorem isNumeralChar_of_isDigit {char : Char} (digit : char.isDigit = true) :
    isNumeralChar char = true := by
  simp [isNumeralChar, digit]

/-- A digit may stand in a time. -/
theorem isTimeChar_of_isDigit {char : Char} (digit : char.isDigit = true) :
    isTimeChar char = true := by
  simp [isTimeChar, digit]

end Text

open Text

/-! ## Numbers -/

/-- A natural number has digits only. -/
theorem consists_naturalText (value : Nat) : Consists Char.isDigit (naturalText value) := by
  intro char member
  rw [naturalText, Nat.toList_repr] at member
  exact Nat.isDigit_of_mem_toDigits (by decide) (by decide) member

/-- A natural number has a digit. -/
theorem naturalText_ne_empty (value : Nat) : naturalText value ≠ "" := Nat.repr_ne_empty

/-- Zeros in front of digits are digits. -/
theorem consists_padZeros (width : Nat) {text : String} (digits : Consists Char.isDigit text) :
    Consists Char.isDigit (padZeros width text) := by
  rw [padZeros, consists_append, consists_ofList]
  refine ⟨fun char member => ?_, digits⟩
  rw [List.eq_of_mem_replicate member]
  rfl

/-- The texts that numbers have: some digits, hyphens and points. -/
structure IsNumeral (text : String) : Prop where
  /-- There are no other characters. -/
  consists : Consists isNumeralChar text
  /-- There is a character. -/
  filled : text ≠ ""

/-- A sign may stand before a number. -/
theorem IsNumeral.signed {text : String} (numeral : IsNumeral text) (negative : Prop)
    [Decidable negative] : IsNumeral ((if negative then "-" else "") ++ text) where
  consists := by
    rw [consists_append]
    refine ⟨?_, numeral.consists⟩
    split <;> simp [Consists, isNumeralChar]
  filled := by simp [numeral.filled]

/-- A natural number is a numeral. -/
theorem isNumeral_naturalText (value : Nat) : IsNumeral (naturalText value) where
  consists := (consists_naturalText value).mono fun _ => isNumeralChar_of_isDigit
  filled := naturalText_ne_empty value

/-- A decimal without its sign is a numeral. -/
theorem Decimal.isNumeral_withPoint (places coefficient : Nat) :
    IsNumeral (Decimal.withPoint places coefficient) := by
  have digits : Consists isNumeralChar (padZeros (places + 1) (naturalText coefficient)) :=
    (consists_padZeros _ (consists_naturalText coefficient)).mono fun _ => isNumeralChar_of_isDigit
  rw [withPoint]
  split
  · rw [String.ofList_toList]
    exact ⟨digits, by simp [padZeros, naturalText_ne_empty]⟩
  · -- With places there is a point, and the digits before and behind it are some of the padded ones.
    refine ⟨?_, by simp⟩
    rw [consists_append, consists_append]
    refine ⟨⟨?_, by simp [Consists, isNumeralChar]⟩, ?_⟩
    · exact consists_ofList.mpr fun char member => digits char (List.mem_of_mem_take member)
    · exact consists_ofList.mpr fun char member => digits char (List.mem_of_mem_drop member)

/-- A finite floating-point number is a numeral. -/
theorem BinaryFloat.isNumeral_text {format : FloatFormat} {number : BinaryFloat format}
    (finite : number.isFinite = true) : IsNumeral number.text := by
  have isNumber : number.isNaN = false := by
    rw [isFinite, bne_iff_ne] at finite
    simp [isNaN, finite]
  rw [text, isNumber, finite]
  exact (Decimal.isNumeral_withPoint _ _).signed _

/-- **A finite number is a numeral.** -/
theorem Number.isNumeral_text {number : Number} (finite : number.isFinite = true) :
    IsNumeral number.text := by
  cases number with
  | integer value =>
    rw [text, integerText, Int.repr_eq_if]
    split
    · exact isNumeral_naturalText _
    · exact (isNumeral_naturalText _).signed True
  | single value => exact BinaryFloat.isNumeral_text finite
  | double value => exact BinaryFloat.isNumeral_text finite
  | decimal mantissa places => exact (Decimal.isNumeral_withPoint _ _).signed _
  | negativeZero places => exact (Decimal.isNumeral_withPoint places 0).signed True

/-! ## Times -/

/-- A year consists of the characters of times. -/
theorem CalendarDay.consists_yearText (year : Int) : Consists isTimeChar (yearText year) := by
  have padded (value : Nat) : Consists isTimeChar (padZeros 4 (naturalText value)) :=
    (consists_padZeros 4 (consists_naturalText value)).mono fun _ => isTimeChar_of_isDigit
  rw [yearText]
  split
  · exact padded _
  · refine consists_append.mpr ⟨?_, padded _⟩
    split <;> simp [Consists, isTimeChar]

/-- Two digits consist of the characters of times. -/
theorem Timestamp.consists_twoDigits (value : Nat) : Consists isTimeChar (twoDigits value) :=
  (consists_padZeros 2 (consists_naturalText value)).mono fun _ => isTimeChar_of_isDigit

/-- **A time has digits and the marks of times.** -/
theorem Timestamp.consists_text (timestamp : Timestamp) : Consists isTimeChar timestamp.text := by
  have marks : ∀ mark ∈ ["-", "T", ":", "Z"], Consists isTimeChar mark := by
    simp [Consists, isTimeChar]
  simp only [List.forall_mem_cons] at marks
  simp only [text, consists_append, CalendarDay.consists_yearText, consists_twoDigits, marks,
    and_self]

/-- A time has a hyphen. -/
theorem Timestamp.hyphen_mem_text (timestamp : Timestamp) : '-' ∈ timestamp.text.toList := by
  simp [text]

/-! ## Identifiers -/

/-- A hexadecimal digit is a letter or a digit. -/
theorem isAlphanum_digitChar {digit : Nat} (small : digit < 16) :
    (Nat.digitChar digit).isAlphanum = true := by
  revert digit
  decide

/-- **An identifier has letters, digits and hyphens.** -/
theorem Guid.consists_text (guid : Guid) : Consists isGuidChar guid.text := by
  have group (start count : Nat) : ∀ char ∈ guid.digits start count, isGuidChar char = true := by
    intro char member
    obtain ⟨index, -, rfl⟩ := List.mem_map.mp member
    simp [isGuidChar, isAlphanum_digitChar (Nat.mod_lt _ (by decide))]
  have hyphen : isGuidChar '-' = true := rfl
  rw [text, consists_ofList]
  simp only [List.forall_mem_append, List.forall_mem_cons, hyphen, true_and]
  exact ⟨⟨⟨⟨group 0 8, group 8 4⟩, group 12 4⟩, group 16 4⟩, group 20 12⟩

/-- An identifier has a hyphen. -/
theorem Guid.hyphen_mem_text (guid : Guid) : '-' ∈ guid.text.toList := by
  simp [text]

end ODataClient

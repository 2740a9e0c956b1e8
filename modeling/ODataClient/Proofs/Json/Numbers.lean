import ODataClient.Json.Syntax

/-! # Numbers read back

A number is written as digits, with a point before digits and a signed exponent where there is one.
The reader finds these parts again, provided that no digit, point or exponent follows.

* **`NumberText.chars`, `NumberText.IsRegular`** — how the parts of a number are written, and which
  parts the grammar admits; `unsignedNumber_append` reads them back.
* **`JsonNumber.written`** — the parts that each JSON number is written with;
  `JsonNumber.toList_text` says that its text is made of them.
* **`JsonNumber.ofText?_written`** — an integer of 64 bits is the value of its parts. -/

namespace ODataClient

/-! ## Digits -/

/-- The written form of digits. -/
def digitChars (digits : List Nat) : List Char := digits.map Nat.digitChar

/-- The digits of a natural number, the leading one first. -/
def decimalDigits (value : Nat) : List Nat := (Nat.toDigits 10 value).map (·.toNat - 48)

/-- A decimal digit is written as a character that is read as this digit. -/
theorem digit?_digitChar {digit : Nat} (decimal : digit < 10) :
    JsonSyntax.digit? digit.digitChar = some digit := by
  rw [JsonSyntax.digit?, Nat.isDigit_digitChar, if_pos (decide_eq_true decimal),
    Nat.toNat_digitChar_sub_48_of_lt_ten decimal]

/-- A character that is a digit is the written form of its value. -/
theorem digitChar_of_isDigit {char : Char} (digit : char.isDigit = true) :
    char.toNat - 48 < 10 ∧ (char.toNat - 48).digitChar = char := by
  have bounds : 48 ≤ char.toNat ∧ char.toNat ≤ 57 := by
    simpa [Char.isDigit, UInt32.le_iff_toNat_le] using digit
  have decimal : char.toNat - 48 < 10 := by omega
  refine ⟨decimal, Char.toNat_inj.mp ?_⟩
  rw [Nat.toNat_digitChar_of_lt_ten decimal]
  omega

/-- The digits of a natural number are decimal. -/
theorem lt_ten_of_mem_decimalDigits {value digit : Nat} (member : digit ∈ decimalDigits value) :
    digit < 10 := by
  obtain ⟨char, isChar, rfl⟩ := List.mem_map.mp member
  exact (digitChar_of_isDigit (Nat.isDigit_of_mem_toDigits (by decide) (by decide) isChar)).1

/-- The digits of a natural number are what its text is made of. -/
theorem digitChars_decimalDigits (value : Nat) :
    digitChars (decimalDigits value) = Nat.toDigits 10 value := by
  rw [digitChars, decimalDigits, List.map_map]
  refine (List.map_congr_left fun char member => ?_).trans (List.map_id _)
  exact (digitChar_of_isDigit (Nat.isDigit_of_mem_toDigits (by decide) (by decide) member)).2

/-- A number below ten is one digit, any other one has its last digit behind those of its tenth. -/
theorem decimalDigits_eq_ite (value : Nat) :
    decimalDigits value =
      if value < 10 then [value] else decimalDigits (value / 10) ++ [value % 10] := by
  rw [decimalDigits, Nat.toDigits_eq_if (by decide)]
  split
  · rename_i small
    rw [List.map_singleton, Nat.toNat_digitChar_sub_48_of_lt_ten small]
  · rw [List.map_append, List.map_singleton,
      Nat.toNat_digitChar_sub_48_of_lt_ten (Nat.mod_lt _ (by decide)), decimalDigits]

/-- A natural number has a digit. -/
theorem decimalDigits_ne_nil (value : Nat) : decimalDigits value ≠ [] := by
  rw [decimalDigits_eq_ite]
  split <;> simp

/-- Only zero has a zero for its leading digit. -/
theorem eq_zero_of_head?_decimalDigits {value : Nat}
    (leading : (decimalDigits value).head? = some 0) : value = 0 := by
  induction value using Nat.strongRecOn with
  | ind value ih =>
    rw [decimalDigits_eq_ite] at leading
    split at leading
    · exact Option.some.inj leading
    · have tenth : value / 10 = 0 := by
        refine ih (value / 10) (by omega) ?_
        rwa [List.head?_append, Option.or_of_isSome] at leading
        exact List.isSome_head?.mpr (decimalDigits_ne_nil _)
      omega

/-- The digits of a natural number denote it. -/
theorem foldl_decimalDigits (value : Nat) :
    (decimalDigits value).foldl (10 * · + ·) 0 = value := by
  have denoted := Nat.ofDigitChars_ten_toDigits (n := value)
  rw [Nat.ofDigitChars_eq_foldl] at denoted
  rw [decimalDigits, List.foldl_map]
  exact denoted

namespace NumberText

/-! ## Parts of a number -/

/-- The written form of the digits behind the point, with the point. -/
def fractionChars (fraction : List Nat) : List Char :=
  if fraction = [] then [] else '.' :: digitChars fraction

/-- The written form of an exponent, with its mark and its sign. -/
def exponentChars : Option Int → List Char
  | none => []
  | some exponent =>
    'e' :: (if exponent < 0 then '-' else '+') :: digitChars (decimalDigits exponent.natAbs)

/-- The written form of a number without its sign. -/
def unsignedChars (text : NumberText) : List Char :=
  digitChars text.whole ++ (fractionChars text.fraction ++ exponentChars text.exponent)

/-- The written form of a number. -/
def chars (text : NumberText) : List Char :=
  (if text.negative then ['-'] else []) ++ text.unsignedChars

/-- What the grammar asks of the digits of a number. -/
structure IsRegular (text : NumberText) : Prop where
  /-- There is a digit before the point. -/
  filled : text.whole ≠ []
  /-- A leading zero stands alone. -/
  leading : text.whole.head? = some 0 → text.whole = [0]
  /-- The digits before the point are decimal. -/
  whole_lt : ∀ digit ∈ text.whole, digit < 10
  /-- The digits behind the point are decimal. -/
  fraction_lt : ∀ digit ∈ text.fraction, digit < 10

end NumberText

namespace JsonSyntax

open NumberText

/-- What stands behind a number: nothing, or a character that does not go on with it. -/
def EndsNumber (rest : List Char) : Prop :=
  ∀ char ∈ rest.head?, char.isDigit = false ∧ char ∉ ['.', 'e', 'E']

/-- Digits are read up to the first character that is no digit. -/
theorem digits_append {found : List Nat} (decimal : ∀ digit ∈ found, digit < 10)
    {rest : List Char} (ends : ∀ char ∈ rest.head?, char.isDigit = false) :
    digits (digitChars found ++ rest) = (found, rest) := by
  induction found with
  | nil =>
    cases rest with
    | nil => rfl
    | cons char rest =>
      have other : digit? char = none := by
        rw [digit?, ends char rfl]
        rfl
      rw [digitChars, List.map_nil, List.nil_append, digits, other]
  | cons digit found ih =>
    rw [List.forall_mem_cons] at decimal
    have read := ih decimal.2
    rw [digitChars] at read
    rw [digitChars, List.map_cons, List.cons_append, digits, digit?_digitChar decimal.1, read]

/-- Digits without a superfluous zero in front are read as those before the point. -/
theorem wholePart_append {text : NumberText} (regular : text.IsRegular) {rest : List Char}
    (ends : ∀ char ∈ rest.head?, char.isDigit = false) :
    wholePart (digitChars text.whole ++ rest) = some (text.whole, rest) := by
  rw [wholePart, digits_append regular.whole_lt ends]
  have filled := regular.filled
  have leading := regular.leading
  generalize text.whole = whole at filled leading ⊢
  cases whole with
  | nil => exact absurd rfl filled
  | cons digit others =>
    cases digit with
    | succ digit => rfl
    | zero =>
      cases others with
      | nil => rfl
      | cons second others => cases leading rfl

/-- A point with digits behind it is read as these digits. -/
theorem fractionPart_append {fraction : List Nat} (decimal : ∀ digit ∈ fraction, digit < 10)
    {rest : List Char} (ends : ∀ char ∈ rest.head?, char.isDigit = false ∧ char ≠ '.') :
    fractionPart (fractionChars fraction ++ rest) = some (fraction, rest) := by
  rw [fractionChars]
  split
  · rename_i none
    rw [none, List.nil_append, fractionPart]
    intro others same
    rw [same] at ends
    exact (ends '.' rfl).2 rfl
  · rename_i some
    rw [List.cons_append, fractionPart, digits_append decimal fun char head => (ends char head).1]
    cases fraction with
    | nil => exact absurd rfl some
    | cons => rfl

/-- An exponent is read with its sign. -/
theorem exponentPart_append (exponent : Option Int) {rest : List Char}
    (ends : ∀ char ∈ rest.head?, char.isDigit = false ∧ char ∉ ['e', 'E']) :
    exponentPart (exponentChars exponent ++ rest) = some (exponent, rest) := by
  cases exponent with
  | none =>
    rw [exponentChars, List.nil_append, exponentPart]
    · rintro others rfl
      exact (ends 'e' rfl).2 (by decide)
    · rintro others rfl
      exact (ends 'E' rfl).2 (by decide)
  | some exponent =>
    have decimal : ∀ digit ∈ decimalDigits exponent.natAbs, digit < 10 :=
      fun digit => lt_ten_of_mem_decimalDigits
    have read := digits_append decimal fun char head => (ends char head).1
    have value := foldl_decimalDigits exponent.natAbs
    have sign (rest : List Char) : exponentSign ((if exponent < 0 then '-' else '+') :: rest) =
        (decide (exponent < 0), rest) := by
      by_cases negative : exponent < 0
      · simp [exponentSign, negative]
      · simp [exponentSign, negative]
    rw [exponentChars, List.cons_append, List.cons_append, exponentPart, exponentDigits, sign]
    simp only [read]
    cases digits : decimalDigits exponent.natAbs with
    | nil => exact absurd digits (decimalDigits_ne_nil _)
    | cons first others =>
      rw [digits] at value
      simp only [value]
      by_cases negative : exponent < 0
      · have signed : -(exponent.natAbs : Int) = exponent := by omega
        simp only [decide_eq_true negative, if_true, signed]
      · have signed : (exponent.natAbs : Int) = exponent := by omega
        simp only [decide_eq_false negative, Bool.false_eq_true, if_false, signed]

/-- An exponent, or what ends a number, goes on with neither digits nor a point. -/
theorem ends_exponentChars (exponent : Option Int) {rest : List Char} (ends : EndsNumber rest) :
    ∀ char ∈ (exponentChars exponent ++ rest).head?, char.isDigit = false ∧ char ≠ '.' := by
  cases exponent with
  | none =>
    intro char head
    obtain ⟨noDigit, others⟩ := ends char head
    refine ⟨noDigit, ?_⟩
    rintro rfl
    exact others List.mem_cons_self
  | some exponent =>
    rintro _ ⟨⟩
    decide

/-- A point goes on with no digits, and neither does what may stand in its place. -/
theorem ends_fractionChars (fraction : List Nat) {rest : List Char}
    (ends : ∀ char ∈ rest.head?, char.isDigit = false ∧ char ≠ '.') :
    ∀ char ∈ (fractionChars fraction ++ rest).head?, char.isDigit = false := by
  rw [fractionChars]
  split
  · exact fun char head => (ends char head).1
  · rintro _ ⟨⟩
    decide

/-- **A number is read back** from its written form, whatever ends it. -/
theorem unsignedNumber_append {text : NumberText} (regular : text.IsRegular) {rest : List Char}
    (ends : EndsNumber rest) :
    unsignedNumber text.negative (text.unsignedChars ++ rest) = some (text, rest) := by
  have behindFraction := ends_exponentChars text.exponent ends
  have behindWhole := ends_fractionChars text.fraction behindFraction
  have behindExponent : ∀ char ∈ rest.head?, char.isDigit = false ∧ char ∉ ['e', 'E'] := by
    intro char head
    obtain ⟨noDigit, others⟩ := ends char head
    exact ⟨noDigit, fun mark => others (List.mem_cons_of_mem _ mark)⟩
  rw [unsignedChars, List.append_assoc, List.append_assoc, unsignedNumber,
    wholePart_append regular behindWhole]
  simp only [Option.bind_eq_bind, Option.bind_some,
    fractionPart_append regular.fraction_lt behindFraction,
    exponentPart_append text.exponent behindExponent, Option.pure_def]

end JsonSyntax

/-! ## Texts of numbers -/

open NumberText

namespace Decimal

/-- The digits of a number, with zeros in front if they are no more than `places`. -/
def padded (places coefficient : Nat) : List Nat :=
  List.replicate (places + 1 - (decimalDigits coefficient).length) 0 ++ decimalDigits coefficient

/-- The parts of a decimal with a point before its last `places` digits. -/
def parts (places coefficient : Nat) : NumberText :=
  let digits := padded places coefficient
  { negative := false
    whole := digits.take (digits.length - places)
    fraction := digits.drop (digits.length - places)
    exponent := none }

/-- There are more digits than places. -/
theorem lt_length_padded (places coefficient : Nat) :
    places < (padded places coefficient).length := by
  rw [padded, List.length_append, List.length_replicate]
  omega

/-- Padded digits are decimal. -/
theorem lt_ten_of_mem_padded {places coefficient digit : Nat}
    (member : digit ∈ padded places coefficient) : digit < 10 := by
  rcases List.mem_append.mp member with zero | digit
  · rw [List.eq_of_mem_replicate zero]
    decide
  · exact lt_ten_of_mem_decimalDigits digit

/-- If the leading digit is zero, it is the only one before the point. -/
theorem length_padded_of_leading {places coefficient : Nat}
    (leading : (padded places coefficient).head? = some 0) :
    (padded places coefficient).length = places + 1 := by
  rw [padded, List.length_append, List.length_replicate]
  by_cases short : (decimalDigits coefficient).length ≤ places + 1
  · omega
  · -- Digits that need no zeros in front lead with a zero only if they are those of zero.
    have none : places + 1 - (decimalDigits coefficient).length = 0 := by omega
    rw [padded, none, List.replicate_zero, List.nil_append] at leading
    rw [eq_zero_of_head?_decimalDigits leading] at short
    exact absurd (Nat.succ_le_succ (Nat.zero_le places)) short

/-- The parts of a decimal are as the grammar asks. -/
theorem isRegular_parts (places coefficient : Nat) : (parts places coefficient).IsRegular := by
  have more := lt_length_padded places coefficient
  constructor
  · rw [parts, Ne, List.take_eq_nil_iff]
    rintro (zero | none)
    · omega
    · rw [none] at more
      cases more
  · intro leading
    dsimp only [parts] at leading ⊢
    cases digits : padded places coefficient with
    | nil =>
      rw [digits] at more
      cases more
    | cons first others =>
      rw [digits, List.take_cons (by rw [digits] at more; omega)] at leading
      obtain rfl : first = 0 := Option.some.inj leading
      have single := length_padded_of_leading (digits ▸ rfl : (padded places coefficient).head? = _)
      rw [← digits, single, Nat.add_sub_cancel_left, digits]
      rfl
  · exact fun digit member => lt_ten_of_mem_padded (List.mem_of_mem_take member)
  · exact fun digit member => lt_ten_of_mem_padded (List.mem_of_mem_drop member)

/-- Without places there is nothing behind the point. -/
theorem fraction_parts_zero (coefficient : Nat) : (parts 0 coefficient).fraction = [] := by
  rw [parts, Nat.sub_zero]
  exact List.drop_length

/-- With places there are digits behind the point. -/
theorem fraction_parts_ne_nil {places : Nat} (some : places ≠ 0) (coefficient : Nat) :
    (parts places coefficient).fraction ≠ [] := by
  have more := lt_length_padded places coefficient
  rw [parts, Ne, List.drop_eq_nil_iff]
  omega

/-- Padded digits are what padded texts are made of. -/
theorem digitChars_padded (places coefficient : Nat) :
    digitChars (padded places coefficient) =
      (padZeros (places + 1) (naturalText coefficient)).toList := by
  have length : (naturalText coefficient).length = (decimalDigits coefficient).length := by
    rw [naturalText, ← String.length_toList, Nat.toList_repr, decimalDigits, List.length_map]
  have zero : Nat.digitChar 0 = '0' := rfl
  rw [padZeros, String.toList_append, String.toList_ofList, length, naturalText, Nat.toList_repr,
    ← digitChars_decimalDigits, padded, digitChars, List.map_append, List.map_replicate, zero]
  rfl

/-- A text with a point is made of the parts of the decimal. -/
theorem toList_withPoint (places coefficient : Nat) :
    (withPoint places coefficient).toList = (parts places coefficient).unsignedChars := by
  have digits := digitChars_padded places coefficient
  have length : (padZeros (places + 1) (naturalText coefficient)).toList.length =
      (padded places coefficient).length := by
    rw [← digits, digitChars, List.length_map]
  have none : (parts places coefficient).exponent = none := rfl
  rw [unsignedChars, none, exponentChars, List.append_nil, fractionChars, withPoint]
  by_cases whole : places = 0
  · subst whole
    have all : (parts 0 coefficient).whole = padded 0 coefficient := by
      rw [parts, Nat.sub_zero, List.take_length]
    rw [if_pos rfl, String.toList_ofList, ← digits, if_pos (fraction_parts_zero coefficient), all,
      List.append_nil]
  · have point : ".".toList = ['.'] := rfl
    rw [if_neg whole, if_neg (fraction_parts_ne_nil whole coefficient), String.toList_append,
      String.toList_append, point, String.toList_ofList, String.toList_ofList, length, ← digits,
      digitChars, ← List.map_take, ← List.map_drop, List.append_assoc]
    rfl

/-- The parts of a decimal in positional notation. -/
def positionalParts (decimal : Decimal) : NumberText :=
  parts (-decimal.exponent).toNat (decimal.coefficient * Nat.pow 10 decimal.exponent.toNat)

/-- The parts of a decimal in scientific notation. -/
def scientificParts (decimal : Decimal) : NumberText :=
  { parts (digitCount decimal.coefficient - 1) decimal.coefficient with
    exponent := some decimal.leadingPower }

/-- A text in scientific notation is made of the parts of the decimal. -/
theorem toList_scientific (decimal : Decimal) :
    decimal.scientific.toList = decimal.scientificParts.unsignedChars := by
  have sign : (if decimal.leadingPower < 0 then "-" else "+").toList =
      [if decimal.leadingPower < 0 then '-' else '+'] := by
    split <;> rfl
  have mark : "e".toList = ['e'] := rfl
  have none : (parts (digitCount decimal.coefficient - 1) decimal.coefficient).exponent = none := rfl
  rw [scientific, String.toList_append, String.toList_append, String.toList_append, sign, mark,
    toList_withPoint, naturalText, Nat.toList_repr, ← digitChars_decimalDigits, unsignedChars, none]
  simp [scientificParts, unsignedChars, exponentChars]

end Decimal

namespace JsonNumber

/-- The parts of a floating-point number without its sign. -/
def doubleParts (number : Double) : NumberText :=
  let decimal := number.shortest .toEven
  let power := decimal.leadingPower
  if number.isZero then ⟨false, [0], [0], none⟩
  else if -5 ≤ power ∧ power < 16 then
    if decimal.exponent < 0 then decimal.positionalParts
    else { decimal.positionalParts with fraction := [0] }
  else decimal.scientificParts

/-- The parts that a number is written with. -/
def written : JsonNumber → NumberText
  | integer value => ⟨decide (value < 0), decimalDigits value.natAbs, [], none⟩
  | double value => { doubleParts value with negative := value.isNegative }

/-- The parts of a floating-point number are as the grammar asks. -/
theorem isRegular_doubleParts (number : Double) : (doubleParts number).IsRegular := by
  rw [doubleParts]
  generalize number.shortest .toEven = decimal
  have positional : decimal.positionalParts.IsRegular := Decimal.isRegular_parts _ _
  have scientific := Decimal.isRegular_parts (digitCount decimal.coefficient - 1)
    decimal.coefficient
  dsimp only
  split
  · exact ⟨by decide, fun _ => rfl, by decide, by decide⟩
  · split
    · split
      · exact positional
      · exact ⟨positional.filled, positional.leading, positional.whole_lt, by simp⟩
    · exact ⟨scientific.filled, scientific.leading, scientific.whole_lt, scientific.fraction_lt⟩

/-- The parts of a number are as the grammar asks. -/
theorem isRegular_written (number : JsonNumber) : number.written.IsRegular := by
  cases number with
  | integer value =>
    refine ⟨decimalDigits_ne_nil _, fun leading => ?_, fun _ => lt_ten_of_mem_decimalDigits, nofun⟩
    have zero := eq_zero_of_head?_decimalDigits leading
    rw [written, zero]
    rfl
  | double value =>
    obtain ⟨filled, leading, whole, fraction⟩ := isRegular_doubleParts value
    exact ⟨filled, leading, whole, fraction⟩

/-- The text of a floating-point number is made of its parts. -/
theorem toList_doubleText (number : Double) :
    (doubleText number).toList = (double number).written.chars := by
  have sign : number.signText.toList = if number.isNegative then ['-'] else [] := by
    rw [BinaryFloat.signText]
    split <;> rfl
  have parts : (double number).written.unsignedChars = (doubleParts number).unsignedChars := rfl
  rw [doubleText, chars, parts, doubleParts]
  generalize number.shortest .toEven = decimal
  dsimp only
  rw [String.toList_append, sign]
  refine congrArg (List.append (if number.isNegative then ['-'] else [])) ?_
  by_cases zero : number.isZero = true
  · rw [if_pos zero, if_pos zero]
    rfl
  · rw [if_neg zero, if_neg zero]
    by_cases moderate : -5 ≤ decimal.leadingPower ∧ decimal.leadingPower < 16
    · rw [if_pos moderate, if_pos moderate]
      by_cases broken : decimal.exponent < 0
      · rw [if_pos broken, if_pos broken]
        exact Decimal.toList_withPoint _ _
      · -- A whole number has no digits behind the point, so a zero is put there.
        have places : (-decimal.exponent).toNat = 0 := by omega
        have point : ".0".toList = ['.', '0'] := rfl
        have zero : digitChars [0] = ['0'] := rfl
        rw [if_neg broken, if_neg broken, String.toList_append, Decimal.positional,
          Decimal.toList_withPoint, Decimal.positionalParts, places, point]
        simp [unsignedChars, fractionChars, Decimal.parts, exponentChars, zero]
    · rw [if_neg moderate, if_neg moderate]
      exact decimal.toList_scientific

/-- **The text of a number is made of its parts.** -/
theorem toList_text (number : JsonNumber) : number.text.toList = number.written.chars := by
  cases number with
  | integer value =>
    rw [text, integerText, chars, unsignedChars, written, fractionChars, exponentChars,
      digitChars_decimalDigits]
    cases value with
    | ofNat value =>
      show (Nat.repr value).toList = _
      rw [Nat.toList_repr]
      simp
    | negSucc value =>
      show ("-" ++ Nat.repr (value + 1)).toList = _
      rw [String.toList_append, Nat.toList_repr]
      simp
  | double value => exact toList_doubleText value

/-! ## Values of integers -/

/-- More digits make no smaller number. -/
theorem le_foldl (digits : List Nat) (significand : Nat) :
    significand ≤ digits.foldl (10 * · + ·) significand := by
  induction digits generalizing significand with
  | nil => exact Nat.le_refl _
  | cons digit rest ih =>
    have more := ih (10 * significand + digit)
    rw [List.foldl_cons]
    omega

/-- Digits of a number that fits are all gathered. -/
theorem gather_eq_foldl {digits : List Nat} {significand : Nat}
    (fits : digits.foldl (10 * · + ·) significand ≤ maxSignificand) :
    gather significand digits = (digits.foldl (10 * · + ·) significand, []) := by
  induction digits generalizing significand with
  | nil => rfl
  | cons digit rest ih =>
    rw [List.foldl_cons] at fits ⊢
    have first := Nat.le_trans (le_foldl rest (10 * significand + digit)) fits
    rw [Nat.mul_comm 10] at fits first ⊢
    rw [gather, if_pos first]
    exact ih fits

/-- The integers of 64 bits, with or without a sign. -/
def IsWord (value : Int) : Prop := -9223372036854775808 ≤ value ∧ value ≤ 18446744073709551615

instance (value : Int) : Decidable (IsWord value) := inferInstanceAs (Decidable (_ ∧ _))

/-- **An integer of 64 bits is the value of its parts.** -/
theorem ofText?_written {value : Int} (word : IsWord value) :
    ofText? (integer value).written = some (integer value) := by
  obtain ⟨low, high⟩ := word
  have gathered : gather 0 (decimalDigits value.natAbs) = (value.natAbs, []) := by
    have fits : (decimalDigits value.natAbs).foldl (10 * · + ·) 0 ≤ maxSignificand := by
      rw [foldl_decimalDigits, show maxSignificand = 18446744073709551615 from rfl]
      omega
    rw [gather_eq_foldl fits, foldl_decimalDigits]
  rw [ofText?, written]
  simp only [gathered, and_self, if_true]
  by_cases negative : value < 0
  · have positive : ¬ (value.natAbs = 0 ∨ Nat.pow 2 63 < value.natAbs) := by
      rw [show Nat.pow 2 63 = 9223372036854775808 from rfl]
      omega
    have signed : -(value.natAbs : Int) = value := by omega
    rw [decide_eq_true negative, if_neg positive, signed]
    rfl
  · have signed : (value.natAbs : Int) = value := by omega
    rw [decide_eq_false negative, signed]
    rfl

end JsonNumber

end ODataClient

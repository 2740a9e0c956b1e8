import ODataClient.Proofs.Json.Numbers

/-! # Texts read back

The compact text of a value is accepted by the grammar, and what is read is the value as it was
written: members in their written order, equal keys kept apart. Every reader is run in front of a rest
that it leaves alone, so the lemmas of the parts compose to those of the whole.

* **`JsonSyntax.partOf`** — how a character of a string is read; `stringBody_append` reads back a
  whole string, with all of its escapes.
* **`JsonValue.written`** — the text of a value as the grammar reads it.
* **`JsonSyntax.ReadsBack`** — the invariant of the reader: a value is read up to whatever may stand
  behind one, with two units of fuel for each of its characters.
* **`readsBack`** — it holds of every value, with one lemma for each kind of value;
  `JsonSyntax.parse?_text` is the case of a whole text.
-/

namespace ODataClient

namespace JsonSyntax

/-! ## Strings -/

/-- The part that the written form of a character is read as: control characters without a letter of
their own are escaped as units. -/
def partOf (char : Char) : StringPart :=
  if char.toNat < 32 ∧ char ∉ ['\x08', '\x0c', '\n', '\r', '\t'] then .unit char.toNat
  else .char char

/-- The hexadecimal digits of an escape are read as their values. -/
theorem hexDigit?_digitChar : ∀ value < 16, Text.hexDigit? value.digitChar = some value := by
  decide

/-- An escaped control character is read as a unit. -/
theorem stringParts_controlEscape {char : Char} (control : char.toNat < 32) (rest : List Char) :
    stringParts (JsonValue.controlEscape char ++ rest) =
      withPart (.unit char.toNat) (stringParts rest) := by
  have zero : Text.hexDigit? '0' = some 0 := hexDigit?_digitChar 0 (by decide)
  have high := hexDigit?_digitChar (char.toNat / 16) (by omega)
  have low := hexDigit?_digitChar (char.toNat % 16) (by omega)
  have whole : ((0 * 16 + 0) * 16 + char.toNat / 16) * 16 + char.toNat % 16 = char.toNat := by
    omega
  rw [JsonValue.controlEscape, List.cons_append, List.cons_append, List.cons_append,
    List.cons_append, List.cons_append, List.cons_append, List.nil_append, stringParts, zero, high,
    low]
  simp only [whole]

/-- A character that needs no escape is read as itself. -/
theorem stringParts_cons {char : Char} (visible : 32 ≤ char.toNat) (noQuote : char ≠ '"')
    (noBackslash : char ≠ '\\') (rest : List Char) :
    stringParts (char :: rest) = withPart (.char char) (stringParts rest) := by
  rw [stringParts]
  · rw [if_neg (Nat.not_lt.mpr visible)]
  all_goals
    intros
    simp_all

/-- The characters that are escaped by a letter or by themselves. -/
def namedEscapes : List Char := ['"', '\\', '\x08', '\x0c', '\n', '\r', '\t']

/-- The written form of a character is read as its part. -/
theorem stringParts_charText (char : Char) (rest : List Char) :
    stringParts (JsonValue.charText char ++ rest) = withPart (partOf char) (stringParts rest) := by
  by_cases named : char ∈ namedEscapes
  · simp only [namedEscapes, List.mem_cons, List.not_mem_nil, or_false] at named
    rcases named with rfl | rfl | rfl | rfl | rfl | rfl | rfl
    all_goals
      show stringParts ('\\' :: _ :: rest) = _
      rw [stringParts]
      rfl
  · -- What has no escape of its own is a control character, or stands for itself.
    have others := named
    simp only [namedEscapes, List.mem_cons, List.not_mem_nil, or_false, not_or] at others
    obtain ⟨quote, backslash, back, feed, line, carriage, tab⟩ := others
    rw [JsonValue.charText, if_neg quote, if_neg backslash, if_neg back, if_neg feed, if_neg line,
      if_neg carriage, if_neg tab, partOf]
    by_cases control : char.toNat < 32
    · have lettered : char ∉ ['\x08', '\x0c', '\n', '\r', '\t'] := fun member =>
        named (List.mem_cons_of_mem _ (List.mem_cons_of_mem _ member))
      rw [if_pos control, if_pos ⟨control, lettered⟩, stringParts_controlEscape control]
    · rw [if_neg control, if_neg fun both => control both.1]
      exact stringParts_cons (Nat.le_of_not_lt control) quote backslash rest

/-- The written form of a string is read up to its closing quote. -/
theorem stringParts_flatMap_charText (chars rest : List Char) :
    stringParts (chars.flatMap JsonValue.charText ++ '"' :: rest) =
      some (chars.map partOf, rest) := by
  induction chars with
  | nil => rw [List.flatMap_nil, List.nil_append, stringParts, List.map_nil]
  | cons char chars ih =>
    rw [List.flatMap_cons, List.append_assoc, stringParts_charText, ih]
    rfl

/-- A unit that is no half stands for a character of its own. -/
theorem joinParts_unit {code : Nat} (whole : code < 0xD800) (parts : List StringPart) :
    joinParts (.unit code :: parts) = (joinParts parts).map (Char.ofNat code :: ·) := by
  have notHigh : isHighHalf code = false := by simp [isHighHalf]; omega
  have notLow : isLowHalf code = false := by simp [isLowHalf]; omega
  match parts with
  | [] | .char _ :: _ => simp [joinParts, notHigh, notLow]
  | .unit _ :: _ => rw [joinParts, notHigh, notLow]; rfl

/-- The parts of characters stand for the characters. -/
theorem joinParts_map_partOf (chars : List Char) : joinParts (chars.map partOf) = some chars := by
  induction chars with
  | nil => rfl
  | cons char chars ih =>
    rw [List.map_cons, partOf]
    split
    · rename_i control
      have whole : char.toNat < 0xD800 := by omega
      rw [joinParts_unit whole, ih, Char.ofNat_toNat]
      rfl
    · rw [joinParts, ih]
      rfl

/-- **A string is read back** from its written form behind the opening quote. -/
theorem stringBody_append (text : String) (rest : List Char) :
    stringBody (text.toList.flatMap JsonValue.charText ++ '"' :: rest) = some (some text, rest) := by
  rw [stringBody, stringParts_flatMap_charText]
  simp only [Option.bind_eq_bind, Option.bind_some, joinParts_map_partOf, Option.map_some,
    String.ofList_toList, Option.pure_def]

end JsonSyntax

/-! ## Texts of values -/

namespace JsonValue

mutual

/-- The text of a value as the grammar reads it. -/
def written : JsonValue → JsonSyntax
  | null => .null
  | bool value => .bool value
  | number value => .number value.written
  | string text => .string (some text)
  | array items => .array (writtenItems items)
  | object members => .object (writtenMembers members)

/-- The texts of items. -/
def writtenItems : List JsonValue → List JsonSyntax
  | [] => []
  | item :: rest => item.written :: writtenItems rest

/-- The texts of members. -/
def writtenMembers : List (String × JsonValue) → List (Option String × JsonSyntax)
  | [] => []
  | (key, value) :: rest => (some key, value.written) :: writtenMembers rest

end

end JsonValue

namespace JsonSyntax

/-- What stands behind a value: nothing, or what comes next in a list. -/
def EndsValue (rest : List Char) : Prop := ∀ char ∈ rest.head?, char ∈ [',', ']', '\x7d']

/-- A text that is read back, whatever stands behind it. -/
def ReadsBack (value : JsonValue) : Prop :=
  ∀ fuel ≥ 2 * value.text.toList.length, ∀ rest, EndsValue rest →
    readValue fuel (value.text.toList ++ rest) = some (value.written, rest)

/-- What ends a value ends a number. -/
theorem EndsValue.endsNumber {rest : List Char} (ends : EndsValue rest) : EndsNumber rest := by
  intro char head
  have listed := ends char head
  simp only [List.mem_cons, List.not_mem_nil, or_false] at listed
  rcases listed with rfl | rfl | rfl <;> decide

/-- Nothing is skipped before a character that is no space. -/
theorem skipSpace_cons {char : Char} (solid : isSpace char = false) (rest : List Char) :
    skipSpace (char :: rest) = char :: rest := by
  rw [skipSpace, List.dropWhile_cons, solid]
  rfl

/-- The characters that begin a value which is no number without a sign. -/
def valueMarks : List Char := ['n', 't', 'f', '"', '-', '[', '\x7b']

/-- Any other character is read as that of a number. -/
theorem readValue_of_notMem {char : Char} (solid : isSpace char = false)
    (other : char ∉ valueMarks) (fuel : Nat) (rest : List Char) :
    readValue (fuel + 1) (char :: rest) =
      (unsignedNumber false (char :: rest)).map fun (text, rest) => (number text, rest) := by
  rw [readValue, skipSpace_cons solid]
  split <;> simp_all [valueMarks]

/-- A digit is no space and begins no other value than a number. -/
theorem solid_of_isDigit {char : Char} (digit : char.isDigit = true) :
    isSpace char = false ∧ char ∉ valueMarks ∧ char ≠ ']' := by
  have bounds : 48 ≤ char.toNat ∧ char.toNat ≤ 57 := by
    simpa [Char.isDigit, UInt32.le_iff_toNat_le] using digit
  have apart {other : Char} (far : other.toNat < 48 ∨ 57 < other.toNat) : char ≠ other := by
    rintro rfl
    omega
  simp [isSpace, valueMarks, apart]

/-- A number without its sign begins with a digit. -/
theorem unsignedChars_eq_cons {text : NumberText} (regular : text.IsRegular) :
    ∃ char rest, text.unsignedChars = char :: rest ∧ char.isDigit = true := by
  rw [NumberText.unsignedChars]
  cases whole : text.whole with
  | nil => exact absurd whole regular.filled
  | cons digit others =>
    have decimal := regular.whole_lt digit (whole ▸ List.mem_cons_self)
    exact ⟨digit.digitChar, _, rfl, by rw [Nat.isDigit_digitChar, decide_eq_true decimal]⟩

/-! ## One value -/

/-- A text that is not empty leaves fuel for its first character. -/
theorem exists_fuel {chars : List Char} (filled : chars ≠ []) {fuel : Nat}
    (enough : 2 * chars.length ≤ fuel) : ∃ less, fuel = less + 1 := by
  have positive := List.length_pos_iff.mpr filled
  exact Nat.exists_eq_add_of_le' (by omega)

/-- The absent value is read back. -/
theorem readsBack_null : ReadsBack .null := by
  intro fuel enough rest _
  obtain ⟨fuel, rfl⟩ := exists_fuel (by decide) enough
  rfl

/-- A truth value is read back. -/
theorem readsBack_bool (value : Bool) : ReadsBack (.bool value) := by
  intro fuel enough rest _
  cases value with
  | false =>
    obtain ⟨fuel, rfl⟩ := exists_fuel (by decide) enough
    rfl
  | true =>
    obtain ⟨fuel, rfl⟩ := exists_fuel (by decide) enough
    rfl

/-- A number is read back. -/
theorem readsBack_number (value : JsonNumber) : ReadsBack (.number value) := by
  intro fuel enough rest ends
  have regular := value.isRegular_written
  have read := unsignedNumber_append regular ends.endsNumber
  have text : (JsonValue.number value).text.toList = value.written.chars := value.toList_text
  obtain ⟨char, others, unsigned, digit⟩ := unsignedChars_eq_cons regular
  rw [text] at enough ⊢
  rw [JsonValue.written]
  rw [NumberText.chars] at enough ⊢
  obtain ⟨fuel, rfl⟩ := exists_fuel (by simp [unsigned]) enough
  -- The sign is a mark of its own; without it the first digit leads to the number.
  cases negative : value.written.negative with
  | true =>
    rw [negative] at read
    rw [if_pos rfl, List.append_assoc, List.singleton_append, readValue, skipSpace_cons rfl]
    simp only [read, Option.map_some]
  | false =>
    obtain ⟨solid, other, -⟩ := solid_of_isDigit digit
    rw [negative, unsigned, List.cons_append] at read
    rw [if_neg (by decide), List.nil_append, unsigned, List.cons_append,
      readValue_of_notMem solid other, read, Option.map_some]

/-- A string is read back. -/
theorem readsBack_string (text : String) : ReadsBack (.string text) := by
  intro fuel enough rest _
  rw [JsonValue.text, JsonValue.toList_stringText] at enough ⊢
  obtain ⟨fuel, rfl⟩ := exists_fuel (by simp) enough
  rw [List.cons_append, List.cons_append, List.append_assoc, List.singleton_append, readValue,
    skipSpace_cons rfl]
  simp only [stringBody_append, Option.map_some, JsonValue.written]

/-- The characters of texts with commas between them. -/
def joinedChars (texts : List String) : List Char := (",".intercalate texts).toList

/-- One text stands alone. -/
theorem joinedChars_singleton (text : String) : joinedChars [text] = text.toList := by
  rw [joinedChars, String.intercalate_singleton]

/-- A comma stands between a text and the others. -/
theorem joinedChars_cons_cons (text next : String) (more : List String) :
    joinedChars (text :: next :: more) = text.toList ++ ',' :: joinedChars (next :: more) := by
  have comma : ",".toList = [','] := rfl
  rw [joinedChars, String.intercalate_cons_cons, String.toList_append, String.toList_append, comma,
    List.append_assoc]
  rfl

/-- Joined texts begin as the first of them. -/
theorem joinedChars_eq_cons {text : String} {char : Char} {tail : List Char}
    (first : text.toList = char :: tail) (others : List String) :
    ∃ rest, joinedChars (text :: others) = char :: rest := by
  cases others with
  | nil => exact ⟨tail, (joinedChars_singleton text).trans first⟩
  | cons next more =>
    rw [joinedChars_cons_cons, first, List.cons_append]
    exact ⟨_, rfl⟩

/-- The text of an array is that of its items between brackets. -/
theorem toList_text_array (items : List JsonValue) :
    (JsonValue.array items).text.toList = '[' :: joinedChars (JsonValue.itemTexts items) ++ [']'] := by
  have opened : "[".toList = ['['] := rfl
  have closed : "]".toList = [']'] := rfl
  rw [JsonValue.text, JsonValue.bracketed, String.toList_append, String.toList_append, opened,
    closed]
  rfl

/-- The text of an object is that of its members between brackets. -/
theorem toList_text_object (members : List (String × JsonValue)) :
    (JsonValue.object members).text.toList =
      '\x7b' :: joinedChars (JsonValue.memberTexts members) ++ ['\x7d'] := by
  have opened : "\x7b".toList = ['\x7b'] := rfl
  have closed : "\x7d".toList = ['\x7d'] := rfl
  rw [JsonValue.text, JsonValue.braced, String.toList_append, String.toList_append, opened, closed]
  rfl

/-- No text of a value begins with a space or the end of a list. -/
theorem text_eq_cons (value : JsonValue) :
    ∃ char rest, value.text.toList = char :: rest ∧ isSpace char = false ∧ char ≠ ']' := by
  cases value with
  | null => exact ⟨_, _, rfl, by decide, by decide⟩
  | bool value => cases value <;> exact ⟨_, _, rfl, by decide, by decide⟩
  | number value =>
    have text : (JsonValue.number value).text.toList = value.written.chars := value.toList_text
    obtain ⟨char, others, unsigned, digit⟩ := unsignedChars_eq_cons value.isRegular_written
    obtain ⟨solid, -, noEnd⟩ := solid_of_isDigit digit
    rw [text, NumberText.chars]
    cases value.written.negative with
    | true => exact ⟨_, _, rfl, by decide, by decide⟩
    | false => exact ⟨char, others, unsigned, solid, noEnd⟩
  | string text => exact ⟨_, _, JsonValue.toList_stringText text, by decide, by decide⟩
  | array items => exact ⟨_, _, toList_text_array items, by decide, by decide⟩
  | object members => exact ⟨_, _, toList_text_object members, by decide, by decide⟩

/-! ## Lists of values -/

/-- Items that are read back are read back in order, up to the end of their list. -/
theorem readItems_append {items : List JsonValue} (read : ∀ item ∈ items, ReadsBack item)
    (filled : items ≠ []) (fuel : Nat)
    (enough : 2 * (joinedChars (JsonValue.itemTexts items)).length < fuel) (rest : List Char) :
    readItems fuel (joinedChars (JsonValue.itemTexts items) ++ ']' :: rest) =
      some (JsonValue.writtenItems items, rest) := by
  induction items generalizing fuel with
  | nil => exact absurd rfl filled
  | cons item others ih =>
    rw [List.forall_mem_cons] at read
    obtain ⟨fuel, rfl⟩ : ∃ less, fuel = less + 1 := Nat.exists_eq_add_of_le' (by omega)
    cases others with
    | nil =>
      -- The bracket behind the last item ends its value.
      rw [JsonValue.itemTexts, JsonValue.itemTexts, joinedChars_singleton] at enough ⊢
      have first := read.1 fuel (by omega) (']' :: rest) (by rintro _ ⟨⟩; decide)
      rw [readItems, first]
      rfl
    | cons next more =>
      -- So does the comma behind any other one; the fuel that is left is enough for the rest.
      have joined := joinedChars_cons_cons item.text next.text (JsonValue.itemTexts more)
      have comma (rest : List Char) : skipSpace (',' :: rest) = ',' :: rest := skipSpace_cons rfl rest
      have others := ih read.2 (List.cons_ne_nil _ _) fuel
      rw [JsonValue.itemTexts, JsonValue.itemTexts] at enough ⊢
      rw [JsonValue.itemTexts] at others
      rw [joined, List.length_append, List.length_cons] at enough
      have first := read.1 fuel (by omega)
        (',' :: (joinedChars (next.text :: JsonValue.itemTexts more) ++ ']' :: rest))
        (by rintro _ ⟨⟩; decide)
      rw [joined, List.append_assoc, List.cons_append, readItems, first]
      simp only [Option.bind_eq_bind, Option.bind_some, comma, others (by omega)]
      rfl

/-- A key is read back with the colon behind it. -/
theorem readKey_append (key : String) (rest : List Char) :
    readKey ((JsonValue.stringText key).toList ++ ':' :: rest) = some (some key, rest) := by
  rw [JsonValue.toList_stringText, List.cons_append, List.cons_append, List.append_assoc,
    List.singleton_append, readKey, skipSpace_cons rfl]
  simp only [stringBody_append, Option.bind_eq_bind, Option.bind_some]
  rw [skipSpace_cons rfl]
  rfl

/-- The text of a member is that of its key, a colon, and that of its value. -/
theorem toList_memberText (key value : String) :
    (JsonValue.memberText key value).toList =
      (JsonValue.stringText key).toList ++ ':' :: value.toList := by
  have colon : ":".toList = [':'] := rfl
  rw [JsonValue.memberText, String.toList_append, String.toList_append, colon, List.append_assoc]
  rfl

/-- Members whose values are read back are read back in order, up to the end of their object. -/
theorem readMembers_append {members : List (String × JsonValue)}
    (read : ∀ member ∈ members, ReadsBack member.2) (filled : members ≠ []) (fuel : Nat)
    (enough : 2 * (joinedChars (JsonValue.memberTexts members)).length < fuel)
    (rest : List Char) :
    readMembers fuel (joinedChars (JsonValue.memberTexts members) ++ '\x7d' :: rest) =
      some (JsonValue.writtenMembers members, rest) := by
  induction members generalizing fuel with
  | nil => exact absurd rfl filled
  | cons member others ih =>
    obtain ⟨key, value⟩ := member
    obtain ⟨readValue, readOthers⟩ : ReadsBack value ∧ ∀ member ∈ others, ReadsBack member.2 :=
      List.forall_mem_cons.mp read
    obtain ⟨fuel, rfl⟩ : ∃ less, fuel = less + 1 := Nat.exists_eq_add_of_le' (by omega)
    have text := toList_memberText key value.text
    cases others with
    | nil =>
      rw [JsonValue.memberTexts, JsonValue.memberTexts, joinedChars_singleton, text] at enough ⊢
      rw [List.length_append, List.length_cons] at enough
      have first := readValue fuel (by omega) ('\x7d' :: rest) (by rintro _ ⟨⟩; decide)
      rw [List.append_assoc, List.cons_append, readMembers, readKey_append]
      simp only [Option.bind_eq_bind, Option.bind_some, first]
      rfl
    | cons next more =>
      obtain ⟨nextKey, nextValue⟩ := next
      have joined := joinedChars_cons_cons (JsonValue.memberText key value.text)
        (JsonValue.memberText nextKey nextValue.text) (JsonValue.memberTexts more)
      have comma (rest : List Char) : skipSpace (',' :: rest) = ',' :: rest := skipSpace_cons rfl rest
      have others := ih readOthers (List.cons_ne_nil _ _) fuel
      rw [JsonValue.memberTexts, JsonValue.memberTexts] at enough ⊢
      rw [JsonValue.memberTexts] at others
      rw [joined, text, List.length_append, List.length_append, List.length_cons,
        List.length_cons] at enough
      have first := readValue fuel (by omega)
        (',' :: (joinedChars (JsonValue.memberText nextKey nextValue.text ::
          JsonValue.memberTexts more) ++ '\x7d' :: rest))
        (by rintro _ ⟨⟩; decide)
      rw [joined, text, List.append_assoc, List.append_assoc, List.cons_append, List.cons_append,
        readMembers, readKey_append]
      simp only [Option.bind_eq_bind, Option.bind_some, first, comma, others (by omega)]
      rfl

/-- Behind the opening bracket of an array, any character but the closing bracket begins an item. -/
theorem readValue_items {char : Char} (solid : isSpace char = false) (noEnd : char ≠ ']')
    (fuel : Nat) (rest : List Char) :
    readValue (fuel + 1) ('[' :: char :: rest) =
      (readItems fuel (char :: rest)).map fun (items, rest) => (array items, rest) := by
  rw [readValue, skipSpace_cons rfl]
  simp only [skipSpace_cons solid]
  split
  · rename_i same
    exact absurd (List.cons.inj same).1 noEnd
  · rfl

/-- Behind the opening bracket of an object, any character but the closing bracket begins a member. -/
theorem readValue_members {char : Char} (solid : isSpace char = false) (noEnd : char ≠ '\x7d')
    (fuel : Nat) (rest : List Char) :
    readValue (fuel + 1) ('\x7b' :: char :: rest) =
      (readMembers fuel (char :: rest)).map fun (members, rest) => (object members, rest) := by
  rw [readValue, skipSpace_cons rfl]
  simp only [skipSpace_cons solid]
  split
  · rename_i same
    exact absurd (List.cons.inj same).1 noEnd
  · rfl

/-- An array is read back if its items are. -/
theorem readsBack_array {items : List JsonValue} (read : ∀ item ∈ items, ReadsBack item) :
    ReadsBack (.array items) := by
  intro fuel enough rest _
  rw [toList_text_array] at enough ⊢
  obtain ⟨fuel, rfl⟩ := exists_fuel (by simp) enough
  rw [List.length_append, List.length_cons, List.length_singleton] at enough
  rw [List.cons_append, List.cons_append, List.append_assoc, List.singleton_append]
  cases items with
  | nil => rfl
  | cons item others =>
    -- The first item begins with a character that does not close the array.
    obtain ⟨char, tail, text, solid, noEnd⟩ := text_eq_cons item
    obtain ⟨more, joined⟩ := joinedChars_eq_cons text (JsonValue.itemTexts others)
    have items := readItems_append read (List.cons_ne_nil _ _) fuel (by omega) rest
    rw [JsonValue.itemTexts, joined, List.cons_append] at items ⊢
    rw [readValue_items solid noEnd, items, Option.map_some, JsonValue.written]

/-- An object is read back if the values of its members are. -/
theorem readsBack_object {members : List (String × JsonValue)}
    (read : ∀ member ∈ members, ReadsBack member.2) : ReadsBack (.object members) := by
  intro fuel enough rest _
  rw [toList_text_object] at enough ⊢
  obtain ⟨fuel, rfl⟩ := exists_fuel (by simp) enough
  rw [List.length_append, List.length_cons, List.length_singleton] at enough
  rw [List.cons_append, List.cons_append, List.append_assoc, List.singleton_append]
  cases members with
  | nil => rfl
  | cons member others =>
    obtain ⟨key, value⟩ := member
    -- The first key begins with a quote, which does not close the object.
    have text := toList_memberText key value.text
    rw [JsonValue.toList_stringText, List.cons_append, List.cons_append] at text
    obtain ⟨more, joined⟩ := joinedChars_eq_cons text (JsonValue.memberTexts others)
    have members := readMembers_append read (List.cons_ne_nil _ _) fuel (by omega) rest
    rw [JsonValue.memberTexts, joined, List.cons_append] at members ⊢
    rw [readValue_members rfl (by decide), members, Option.map_some, JsonValue.written]

/-- **Every value is read back** as its text. -/
theorem readsBack (value : JsonValue) : ReadsBack value := by
  match value with
  | .null => exact readsBack_null
  | .bool value => exact readsBack_bool value
  | .number value => exact readsBack_number value
  | .string text => exact readsBack_string text
  | .array items => exact readsBack_array fun item member => readsBack item
  | .object members => exact readsBack_object fun member isMember => readsBack member.2
termination_by sizeOf value
decreasing_by
  · have smaller := List.sizeOf_lt_of_mem member
    simp only [JsonValue.array.sizeOf_spec]
    omega
  · have smaller := List.sizeOf_lt_of_mem isMember
    have inside : sizeOf member.2 < sizeOf member := by
      cases member
      simp only [Prod.mk.sizeOf_spec]
      omega
    simp only [JsonValue.object.sizeOf_spec]
    omega

/-- **Every compact text is read**, and nothing of the value is lost. -/
theorem parse?_text (value : JsonValue) : parse? value.text = some value.written := by
  have read := readsBack value (2 * value.text.toList.length + 2) (by omega) [] nofun
  rw [List.append_nil] at read
  rw [parse?]
  simp only [read]
  rfl

end JsonSyntax

end ODataClient

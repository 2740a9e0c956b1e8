import ODataClient.Proofs.Model.Plurals

/-! # Plurals and letter case

The case of the ASCII letters of a name has no say in which rule makes its plural: a rule for the name is
the rule for the name in lower case too. So the plural may be put in lower case, or the name before it.

* **`pluralizes_asciiLower`** — each rule, carried over to the name in lower case.
* **`plural_asciiLower`** — the plural of the name in lower case is the plural in lower case.
* **`entitySet_ignores_case`** — names that differ in letter case only have one entity set; of a name in
  ASCII the plural in lower case is the plural of the name in lower case. -/

namespace ODataClient.EntityName

open Text

variable {name text : String}

/-! ## Lower case twice -/

/-- The lower case of a character is that of its ASCII lower case. -/
theorem lowerChar_toLower (char : Char) : lowerChar char.toLower = lowerChar char := by
  by_cases ascii : char.toNat < 128
  · rw [lowerChar_of_ascii (toLower_toNat_lt ascii), lowerChar_of_ascii ascii, toLower_toLower]
  · rw [toLower_of_not_ascii ascii]

theorem lower_asciiLower (text : String) : lower (asciiLower text) = lower text := by
  refine String.ext_iff.mpr ?_
  rw [toList_lower, toList_lower, toList_asciiLower, List.map_map]
  exact List.map_congr_left fun char _ => lowerChar_toLower char

/-- What is put behind a name in lower case stays. -/
theorem asciiLower_append {suffix : String} (base : String)
    (small : suffix.toList.map Char.toLower = suffix.toList) :
    asciiLower (base ++ suffix) = asciiLower base ++ suffix := by
  refine String.ext_iff.mpr ?_
  rw [toList_asciiLower, String.toList_append, List.map_append, small, String.toList_append,
    toList_asciiLower]

/-! ## Ends of names in lower case -/

theorem endsIn_asciiLower_iff {letters : String} :
    EndsIn (asciiLower name) letters ↔ EndsIn name letters := by
  have twice : (name.toList.map Char.toLower).map Char.toLower = name.toList.map Char.toLower := by
    rw [List.map_map]
    exact List.map_congr_left fun char _ => toLower_toLower char
  rw [EndsIn, EndsIn, toList_asciiLower, twice]

theorem isSibilant_asciiLower_iff : IsSibilant (asciiLower name) ↔ IsSibilant name :=
  exists_congr fun _ => and_congr_right fun _ => endsIn_asciiLower_iff

theorem asciiLower_eq_empty_iff : asciiLower name = "" ↔ name = "" := by
  rw [String.ext_iff, toList_asciiLower, String.ext_iff]
  exact List.map_eq_nil_iff

/-- A consonant before `y` stays one in lower case. -/
theorem isConsonantY_asciiLower {stem : String} (ends : IsConsonantY name stem) :
    IsConsonantY (asciiLower name) (asciiLower stem) := by
  obtain ⟨written, last, isLast, noVowel⟩ := ends
  refine ⟨.inl ?_, last.toLower, ?_, ?_⟩
  · refine String.ext_iff.mpr ?_
    rcases written with rfl | rfl
    · rw [asciiLower_append stem (by decide)]
    · rw [toList_asciiLower, String.toList_append, List.map_append, String.toList_append,
        toList_asciiLower]
      rfl
  · rw [toList_asciiLower, List.getLast?_map]
    exact Option.mem_map_of_mem _ isLast
  · rwa [toLower_toLower]

/-- In lower case there is no other consonant before `y`. -/
theorem exists_isConsonantY_of_asciiLower {stem : String}
    (ends : IsConsonantY (asciiLower name) stem) : ∃ whole, IsConsonantY name whole := by
  obtain ⟨written, last, isLast, noVowel⟩ := ends
  obtain ⟨letter, isY, chars⟩ : ∃ letter : Char, letter.toLower = 'y' ∧
      name.toList.map Char.toLower = stem.toList ++ [letter] := by
    rw [← toList_asciiLower]
    rcases written with small | large
    · exact ⟨'y', by decide, by rw [small, String.toList_append]; rfl⟩
    · exact ⟨'Y', by decide, by rw [large, String.toList_append]; rfl⟩
  obtain ⟨before, behind, split, isStem, isBehind⟩ := List.map_eq_append_iff.mp chars
  obtain ⟨final, rfl, rfl⟩ := List.map_eq_singleton_iff.mp isBehind
  rw [toLower_toLower] at isY
  rw [← isStem, List.getLast?_map] at isLast
  obtain ⟨whole, isWhole, rfl⟩ := Option.map_eq_some_iff.mp isLast
  rw [toLower_toLower] at noVowel
  refine ⟨String.ofList before, ?_, whole, ?_, noVowel⟩
  · refine (toLower_eq_y_iff.mp isY).imp ?_ ?_
    · rintro rfl
      exact String.ext_iff.mpr (by simp [split])
    · rintro rfl
      exact String.ext_iff.mpr (by simp [split])
  · rwa [String.toList_ofList]

/-! ## Plurals in lower case -/

/-- **The rules do not see letter case.** -/
theorem pluralizes_asciiLower (made : Pluralizes name text) :
    Pluralizes (asciiLower name) (asciiLower text) := by
  cases made with
  | empty empty =>
    rw [asciiLower_eq_empty_iff.mpr rfl]
    exact .empty (asciiLower_eq_empty_iff.mpr empty)
  | passedOver ends =>
    rw [asciiLower_append name (by decide)]
    exact .passedOver (endsIn_asciiLower_iff.mpr ends)
  | doubled ends other =>
    rw [asciiLower_append name (by decide)]
    exact .doubled (endsIn_asciiLower_iff.mpr ends) (mt endsIn_asciiLower_iff.mp other)
  | hiss listed ends =>
    rw [asciiLower_append name (by decide)]
    exact .hiss listed (endsIn_asciiLower_iff.mpr ends)
  | consonantY ends =>
    rw [asciiLower_append _ (by decide)]
    exact .consonantY (isConsonantY_asciiLower ends)
  | other filled plain noStem =>
    rw [asciiLower_append name (by decide)]
    refine .other (mt asciiLower_eq_empty_iff.mp filled) (mt isSibilant_asciiLower_iff.mp plain) ?_
    intro stem ends
    obtain ⟨whole, ends⟩ := exists_isConsonantY_of_asciiLower ends
    exact noStem whole ends

theorem plural_asciiLower (name : String) : plural (asciiLower name) = asciiLower (plural name) :=
  (pluralizes_iff.mp (pluralizes_asciiLower (pluralizes_iff.mpr rfl))).symm

/-! ## Names in ASCII -/

/-- A text is written in ASCII. -/
def IsAscii (text : String) : Prop := ∀ char ∈ text.toList, char.toNat < 128

instance (text : String) : Decidable (IsAscii text) :=
  List.decidableBAll (fun char : Char => char.toNat < 128) text.toList

theorem IsAscii.append {first second : String} (isFirst : IsAscii first) (isSecond : IsAscii second) :
    IsAscii (first ++ second) := by
  intro char member
  rw [String.toList_append] at member
  exact (List.mem_append.mp member).elim (isFirst char) (isSecond char)

/-- In ASCII there is one lower case. -/
theorem IsAscii.lower_eq (ascii : IsAscii text) : lower text = asciiLower text := by
  refine String.ext_iff.mpr ?_
  rw [toList_lower, toList_asciiLower]
  exact List.map_congr_left fun char member => lowerChar_of_ascii (ascii char member)

/-- The plural of a name in ASCII is written in ASCII. -/
theorem isAscii_plural (ascii : IsAscii name) : IsAscii (plural name) := by
  have made : Pluralizes name (plural name) := pluralizes_iff.mpr rfl
  generalize plural name = text at made
  cases made with
  | empty empty => decide
  | passedOver => exact ascii.append (by decide)
  | doubled => exact ascii.append (by decide)
  | hiss => exact ascii.append (by decide)
  | @consonantY stem ends =>
    have part : IsAscii stem := by
      intro char member
      rcases ends.1 with rfl | rfl
      · exact ascii char (by rw [String.toList_append]; exact List.mem_append_left _ member)
      · exact ascii char (by rw [String.toList_append]; exact List.mem_append_left _ member)
    exact part.append (by decide)
  | other => exact ascii.append (by decide)

/-- **Entity sets ignore letter case.** Names that differ in the case of ASCII letters only have one entity
set, and for a name in ASCII the plural may be put in lower case or the name before it. -/
theorem entitySet_ignores_case :
    (∀ first second : String, first.toList.map Char.toLower = second.toList.map Char.toLower →
      entitySet first = entitySet second) ∧
    ∀ name : String, IsAscii name → lower (plural name) = plural (lower name) := by
  constructor
  · intro first second alike
    have same : asciiLower first = asciiLower second := by
      rwa [← String.toList_inj, toList_asciiLower, toList_asciiLower]
    calc entitySet first = lower (plural (asciiLower first)) := by
          rw [plural_asciiLower, lower_asciiLower, entitySet]
      _ = entitySet second := by rw [same, plural_asciiLower, lower_asciiLower, entitySet]
  · intro name ascii
    rw [ascii.lower_eq, plural_asciiLower, (isAscii_plural ascii).lower_eq]

/-- A vowel and a consonant before `y`, and a final `z`, each in upper and in lower case. -/
theorem entitySet_ignores_case_three_rules :
    "DAY".toList.map Char.toLower = "dAy".toList.map Char.toLower ∧
      entitySet "DAY" = entitySet "dAy" ∧
      "SupplY".toList.map Char.toLower = "sUPPLy".toList.map Char.toLower ∧
      entitySet "SupplY" = entitySet "sUPPLy" ∧
      IsAscii "QuiZ" ∧ lower (plural "QuiZ") = plural (lower "QuiZ") := by
  have day : "DAY".toList.map Char.toLower = "dAy".toList.map Char.toLower := by decide
  have supply : "SupplY".toList.map Char.toLower = "sUPPLy".toList.map Char.toLower := by decide
  have quiz : IsAscii "QuiZ" := by decide
  exact ⟨day, entitySet_ignores_case.1 _ _ day, supply, entitySet_ignores_case.1 _ _ supply, quiz,
    entitySet_ignores_case.2 _ quiz⟩

end ODataClient.EntityName

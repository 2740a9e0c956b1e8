import ODataClient.Model.EntityName

/-! # Plurals by the end of a name

The rules of the plural look at the last letters of a name in lower case, while the plural is made from
the name as it is. Each rule is told by the letters that the name ends in, whatever their case.

* **`EndsIn`**, **`IsSibilant`**, **`IsConsonantY`** — the ends of names. `endsIn_iff` says that the rules
  see them: beyond ASCII no character has the lower-case form of a letter that they look for.
* **`Pluralizes`** — the rules; `pluralizes_iff` says that the plural is what they make.
* **`plural_by_ending`** — what is added to a sibilant and to any other name. Names in `tz` are
  sibilants that the rules pass over, so their entity sets end in a sibilant and a bare `s`.
* **`waltz_without_es`** — one of them. -/

namespace ODataClient.EntityName

/-! ## Ends of names -/

/-- A name ends in some letters, whatever the case of its ASCII letters. -/
def EndsIn (name letters : String) : Prop := letters.toList <:+ name.toList.map Char.toLower

instance (name letters : String) : Decidable (EndsIn name letters) :=
  inferInstanceAs (Decidable (_ <:+ _))

/-- The letters that write a sibilant at the end of a name. -/
def sibilants : List String := ["s", "x", "z", "sh", "ch"]

/-- The sibilants that get a bare `es`. -/
def hisses : List String := ["s", "x", "sh", "ch"]

/-- A name ends in a sibilant. -/
def IsSibilant (name : String) : Prop := ∃ letters ∈ sibilants, EndsIn name letters

instance (name : String) : Decidable (IsSibilant name) :=
  inferInstanceAs (Decidable (∃ letters ∈ _, _))

/-- The vowels in lower case. -/
def vowels : List Char := "aeiou".toList

/-- A name is a stem and a final `y`, and the stem ends in a character that is no vowel of either case. -/
def IsConsonantY (name stem : String) : Prop :=
  (name = stem ++ "y" ∨ name = stem ++ "Y") ∧ ∃ last ∈ stem.toList.getLast?, last.toLower ∉ vowels

/-! ## The letters that the rules look for -/

/-- The letters at the end of a name that a rule looks for. -/
def endLetters : List Char := "sxzhcty".toList

theorem lt_of_mem_endLetters {letter : Char} (listed : letter ∈ endLetters) :
    letter.toNat < 128 := by
  have all : endLetters.all (·.toNat < 128) = true := by decide
  simpa using List.all_eq_true.mp all letter listed

theorem toLower_of_mem_endLetters {letter : Char} (listed : letter ∈ endLetters) :
    letter.toLower = letter := by
  have all : endLetters.all (fun letter => letter.toLower == letter) = true := by decide
  simpa using List.all_eq_true.mp all letter listed

/-- Beyond ASCII the case of a character stays. -/
theorem toLower_of_not_ascii {char : Char} (beyond : ¬ char.toNat < 128) : char.toLower = char := by
  refine dif_neg ?_
  rintro ⟨-, upper⟩
  have upper : char.toNat ≤ 90 := upper
  omega

theorem toLower_toLower (char : Char) : char.toLower.toLower = char.toLower := by
  by_cases ascii : char.toNat < 128
  · have twice : ∀ code < 128, (Char.ofNat code).toLower.toLower = (Char.ofNat code).toLower := by
      decide
    have same := twice char.toNat ascii
    rwa [Char.ofNat_toNat] at same
  · rw [toLower_of_not_ascii ascii, toLower_of_not_ascii ascii]

/-- A run of upper-case characters stays beyond ASCII, but for the dotted `I` and the sign of the
kelvin, which become `i` and `k`. -/
theorem shift_of_mem_caseRuns {run : Text.CaseRun} (listed : run ∈ Text.caseRuns) :
    128 ≤ run.first + run.shift ∨
      run.first = run.last ∧ (run.first + run.shift = 105 ∨ run.first + run.shift = 107) := by
  have all : Text.caseRuns.all (fun run => 128 ≤ run.first + run.shift ||
    run.first == run.last && (run.first + run.shift == 105 || run.first + run.shift == 107)) = true := by
    decide
  simpa using List.all_eq_true.mp all run listed

/-- Beyond ASCII no character has the lower-case form of a letter that a rule looks for. -/
theorem toLower_lowerChar_notMem {char : Char} (beyond : ¬ char.toNat < 128) :
    (Text.lowerChar char).toLower ∉ endLetters := by
  have outside {other : Char} (beyond : ¬ other.toNat < 128) : other.toLower ∉ endLetters := by
    rw [toLower_of_not_ascii beyond]
    exact fun listed => beyond (lt_of_mem_endLetters listed)
  rw [Text.lowerChar, if_neg beyond]
  split
  · rename_i run found
    have contained := List.find?_some found
    simp only [Text.CaseRun.contains, Bool.and_eq_true, decide_eq_true_eq] at contained
    obtain ⟨⟨first, last⟩, -⟩ := contained
    generalize moved : (char.toNat + run.shift).toNat = code
    rcases shift_of_mem_caseRuns (List.mem_of_find?_eq_some found) with far | ⟨single, near⟩
    · have passed : 128 ≤ code := by omega
      by_cases valid : code.isValidChar
      · have same : (Char.ofNat code).toNat = code := congrArg Char.toNat (dif_pos valid)
        exact outside (same.symm ▸ Nat.not_lt.mpr passed)
      · -- A code of no character gives the character zero.
        have zero : Char.ofNat code = '\x00' := dif_neg valid
        rw [zero]
        decide
    · obtain rfl | rfl : code = 105 ∨ code = 107 := by omega
      · decide
      · decide
  · exact outside beyond

/-- The letters that a rule looks for are seen in the lower-case form of a character as they are in the
character itself. -/
theorem lowerChar_eq_iff {letter : Char} (listed : letter ∈ endLetters) (char : Char) :
    (Text.lowerChar char = letter ↔ char.toLower = letter) ∧
      ((Text.lowerChar char).toLower = letter ↔ char.toLower = letter) := by
  by_cases ascii : char.toNat < 128
  · rw [Text.lowerChar_of_ascii ascii, toLower_toLower]
    exact ⟨Iff.rfl, Iff.rfl⟩
  · have unseen : (Text.lowerChar char).toLower ≠ letter :=
      fun same => toLower_lowerChar_notMem ascii (same ▸ listed)
    have unlisted : char.toLower ≠ letter := by
      rw [toLower_of_not_ascii ascii]
      rintro rfl
      exact ascii (lt_of_mem_endLetters listed)
    refine ⟨iff_of_false (fun same => unseen ?_) unlisted, iff_of_false unseen unlisted⟩
    rw [same, toLower_of_mem_endLetters listed]

/-! ## Ends in lower case -/

/-- Two maps that see some letters in the same characters find them at the same beginnings. -/
theorem isPrefix_map_iff {first second : Char → Char} {letters : List Char}
    (same : ∀ letter ∈ letters, ∀ char, first char = letter ↔ second char = letter)
    (chars : List Char) : letters <+: chars.map first ↔ letters <+: chars.map second := by
  induction letters generalizing chars with
  | nil => simp
  | cons letter rest ih =>
    cases chars with
    | nil => rfl
    | cons char chars =>
      have here := same letter List.mem_cons_self char
      have behind := ih (fun other member => same other (List.mem_cons_of_mem _ member)) chars
      rw [List.map_cons, List.map_cons, List.cons_prefix_cons, List.cons_prefix_cons, behind,
        eq_comm, here, eq_comm]

theorem endsIn_iff_isPrefix {name letters : String} :
    EndsIn name letters ↔ letters.toList.reverse <+: name.toList.reverse.map Char.toLower := by
  rw [EndsIn, ← List.reverse_prefix, List.map_reverse]

/-- **The rules see the ends of names**: read backwards in lower case, a name begins with the letters
that it ends in. -/
theorem endsIn_iff {name letters : String} (listed : letters.toList ⊆ endLetters) :
    EndsIn name letters ↔
      letters.toList.reverse <+: name.toList.reverse.map Text.lowerChar := by
  rw [endsIn_iff_isPrefix]
  refine isPrefix_map_iff (fun letter member char => ?_) _
  exact (lowerChar_eq_iff (listed (List.mem_reverse.mp member)) char).1.symm

/-- A name in lower case ends in a sibilant if the name does. -/
theorem isSibilant_lower_iff {name : String} : IsSibilant (Text.lower name) ↔ IsSibilant name := by
  have known : ∀ letters ∈ sibilants, letters.toList ⊆ endLetters := by decide
  refine exists_congr fun letters => and_congr_right fun member => ?_
  rw [endsIn_iff_isPrefix, endsIn_iff_isPrefix, Text.toList_lower, ← List.map_reverse, List.map_map]
  refine isPrefix_map_iff (fun letter found char => ?_) _
  exact (lowerChar_eq_iff (known letters member (List.mem_reverse.mp found)) char).2

/-! ## The rules -/

/-- The plural of a name, by the end of the name. -/
inductive Pluralizes (name : String) : String → Prop
  /-- There is no name. -/
  | empty (empty : name = "") : Pluralizes name ""
  /-- A final `tz` is passed over, and the name gets what any other name gets. -/
  | passedOver (ends : EndsIn name "tz") : Pluralizes name (name ++ "s")
  /-- Any other final `z` is doubled. -/
  | doubled (ends : EndsIn name "z") (other : ¬ EndsIn name "tz") : Pluralizes name (name ++ "zes")
  /-- The name ends in one of the other sibilants. -/
  | hiss {letters : String} (listed : letters ∈ hisses) (ends : EndsIn name letters) :
    Pluralizes name (name ++ "es")
  /-- A final `y` behind a character that is no vowel is replaced. -/
  | consonantY {stem : String} (ends : IsConsonantY name stem) : Pluralizes name (stem ++ "ies")
  /-- Any other name. -/
  | other (filled : name ≠ "") (plain : ¬ IsSibilant name) (noStem : ∀ stem, ¬ IsConsonantY name stem) :
    Pluralizes name (name ++ "s")

variable {name : String}

/-- What is put behind a name when the rules read it backwards. -/
theorem plural_eq_append {suffix : String}
    (read : pluralReversed name.toList.reverse = suffix.toList.reverse ++ name.toList.reverse) :
    plural name = name ++ suffix := by
  rw [plural, read, List.reverse_append, List.reverse_reverse, List.reverse_reverse,
    String.ofList_append, String.ofList_toList, String.ofList_toList]

theorem plural_of_tz (ends : EndsIn name "tz") : plural name = name ++ "s" := by
  obtain ⟨before, lowered⟩ := (endsIn_iff (by decide)).mp ends
  refine plural_eq_append ?_
  unfold pluralReversed
  rw [← lowered]
  rfl

theorem plural_of_z (ends : EndsIn name "z") (other : ¬ EndsIn name "tz") :
    plural name = name ++ "zes" := by
  obtain ⟨before, lowered⟩ := (endsIn_iff (by decide)).mp ends
  have noT : before.head? ≠ some 't' := by
    intro head
    obtain ⟨rest, rfl⟩ := List.head?_eq_some_iff.mp head
    exact other ((endsIn_iff (by decide)).mpr ⟨rest, lowered⟩)
  refine plural_eq_append ?_
  unfold pluralReversed
  rw [← lowered]
  exact if_neg noT

theorem plural_of_hiss {letters : String} (listed : letters ∈ hisses)
    (ends : EndsIn name letters) : plural name = name ++ "es" := by
  have known : ∀ letters ∈ hisses, letters.toList ⊆ endLetters := by decide
  obtain ⟨before, lowered⟩ := (endsIn_iff (known letters listed)).mp ends
  refine plural_eq_append ?_
  unfold pluralReversed
  rw [← lowered]
  simp only [hisses, List.mem_cons, List.not_mem_nil, or_false] at listed
  obtain rfl | rfl | rfl | rfl := listed
  · rfl
  · rfl
  · rfl
  · rfl

theorem isVowel_iff {char : Char} : isVowel char = true ↔ char.toLower ∈ vowels := by
  simp [isVowel, vowels, or_assoc]

/-- A `y` is the lower-case form of two characters. -/
theorem toLower_eq_y_iff {char : Char} : char.toLower = 'y' ↔ char = 'y' ∨ char = 'Y' := by
  by_cases ascii : char.toNat < 128
  · have all : ∀ code < 128, (Char.ofNat code).toLower = 'y' ↔
        Char.ofNat code = 'y' ∨ Char.ofNat code = 'Y' := by decide
    simpa using all char.toNat ascii
  · rw [toLower_of_not_ascii ascii]
    refine (or_iff_left ?_).symm
    rintro rfl
    exact ascii (by decide)

theorem lowerChar_eq_y_iff {char : Char} : Text.lowerChar char = 'y' ↔ char = 'y' ∨ char = 'Y' :=
  (lowerChar_eq_iff (by decide) char).1.trans toLower_eq_y_iff

theorem plural_of_consonantY {stem : String} (ends : IsConsonantY name stem) :
    plural name = stem ++ "ies" := by
  obtain ⟨written, last, isLast, noVowel⟩ := ends
  obtain ⟨before, chars⟩ := List.getLast?_eq_some_iff.mp isLast
  obtain ⟨letter, isY, reversed⟩ : ∃ letter, Text.lowerChar letter = 'y' ∧
      name.toList.reverse = letter :: last :: before.reverse := by
    rcases written with rfl | rfl
    · exact ⟨'y', by decide, by simp [chars]⟩
    · exact ⟨'Y', by decide, by simp [chars]⟩
  have consonant : ¬ isVowel last = true := mt isVowel_iff.mp noVowel
  have read : pluralReversed name.toList.reverse = 's' :: 'e' :: 'i' :: last :: before.reverse := by
    rw [reversed]
    unfold pluralReversed
    rw [List.map_cons, isY]
    exact if_neg consonant
  rw [plural, read, ← String.ofList_toList (s := stem), chars]
  simp [String.ext_iff]

theorem plural_of_other (filled : name ≠ "") (plain : ¬ IsSibilant name)
    (noStem : ∀ stem, ¬ IsConsonantY name stem) : plural name = name ++ "s" := by
  have known : ∀ letters ∈ sibilants, letters.toList ⊆ endLetters := by decide
  have unseen (letters : String) {before : List Char} (listed : letters ∈ sibilants)
      (lowered : name.toList.reverse.map Text.lowerChar = letters.toList.reverse ++ before) : False :=
    plain ⟨letters, listed, (endsIn_iff (known letters listed)).mpr ⟨before, lowered.symm⟩⟩
  refine plural_eq_append ?_
  unfold pluralReversed
  split
  · rename_i lowered
    exact absurd (by simpa using lowered) filled
  · rename_i lowered
    exact (unseen "z" (by decide) lowered).elim
  · rename_i lowered
    exact (unseen "s" (by decide) lowered).elim
  · rename_i lowered
    exact (unseen "x" (by decide) lowered).elim
  · rename_i lowered
    exact (unseen "sh" (by decide) lowered).elim
  · rename_i lowered
    exact (unseen "ch" (by decide) lowered).elim
  · rename_i lowered
    split
    · rename_i letter last before reversed
      split
      · rfl
      · rename_i consonant
        have isY : letter = 'y' ∨ letter = 'Y' := by
          rw [reversed, List.map_cons] at lowered
          exact lowerChar_eq_y_iff.mp (List.cons.inj lowered).1
        have chars : name.toList = before.reverse ++ [last] ++ [letter] := by
          rw [← List.reverse_reverse name.toList, reversed, List.reverse_cons, List.reverse_cons]
        refine absurd ⟨?_, last, ?_, mt isVowel_iff.mpr consonant⟩
          (noStem (String.ofList (before.reverse ++ [last])))
        · refine isY.imp ?_ ?_
          · rintro rfl
            exact String.ext_iff.mpr (by simp [chars])
          · rintro rfl
            exact String.ext_iff.mpr (by simp [chars])
        · simp
    · rfl
  · rfl

/-- **The plural is made by the rules.** -/
theorem pluralizes_iff {text : String} : Pluralizes name text ↔ text = plural name := by
  constructor
  · intro made
    cases made with
    | empty empty => rw [empty]; rfl
    | passedOver ends => exact (plural_of_tz ends).symm
    | doubled ends other => exact (plural_of_z ends other).symm
    | hiss listed ends => exact (plural_of_hiss listed ends).symm
    | consonantY ends => exact (plural_of_consonantY ends).symm
    | other filled plain noStem => exact (plural_of_other filled plain noStem).symm
  · rintro rfl
    by_cases filled : name = ""
    · exact filled ▸ .empty rfl
    by_cases tz : EndsIn name "tz"
    · rw [plural_of_tz tz]
      exact .passedOver tz
    by_cases z : EndsIn name "z"
    · rw [plural_of_z z tz]
      exact .doubled z tz
    by_cases hiss : ∃ letters ∈ hisses, EndsIn name letters
    · obtain ⟨letters, listed, ends⟩ := hiss
      rw [plural_of_hiss listed ends]
      exact .hiss listed ends
    by_cases consonantY : ∃ stem, IsConsonantY name stem
    · obtain ⟨stem, ends⟩ := consonantY
      rw [plural_of_consonantY ends]
      exact .consonantY ends
    have plain : ¬ IsSibilant name := by
      rintro ⟨letters, listed, ends⟩
      have either : ∀ letters ∈ sibilants, letters = "z" ∨ letters ∈ hisses := by decide
      rcases either letters listed with rfl | listed
      · exact z ends
      · exact hiss ⟨letters, listed, ends⟩
    have noStem := not_exists.mp consonantY
    rw [plural_of_other filled plain noStem]
    exact .other filled plain noStem

/-! ## Sibilants -/

/-- A name that ends in another letter is no sibilant. -/
theorem not_isSibilant_append (base : String) {letter : String} (listed : letter ∈ ["e", "y", "Y"]) :
    ¬ IsSibilant (base ++ letter) := by
  have other : ∀ letter ∈ ["e", "y", "Y"], ∀ letters ∈ sibilants, ∀ before,
      ¬ letters.toList.reverse <+: letter.toList.reverse.map Char.toLower ++ before := by
    simp [sibilants]
  rintro ⟨letters, isSibilant, ends⟩
  rw [endsIn_iff_isPrefix, String.toList_append, List.reverse_append, List.map_append] at ends
  exact other letter listed letters isSibilant _ ends

theorem IsConsonantY.not_isSibilant {stem : String} (ends : IsConsonantY name stem) :
    ¬ IsSibilant name := by
  rcases ends.1 with rfl | rfl
  · exact not_isSibilant_append stem (by decide)
  · exact not_isSibilant_append stem (by decide)

theorem isSibilant_of_tz (ends : EndsIn name "tz") : IsSibilant name :=
  have last : "z".toList <:+ "tz".toList := by decide
  ⟨"z", by decide, last.trans ends⟩

theorem not_tz_of_hiss {letters : String} (listed : letters ∈ hisses) (ends : EndsIn name letters) :
    ¬ EndsIn name "tz" := by
  intro tz
  obtain ⟨before, read⟩ := endsIn_iff_isPrefix.mp ends
  obtain ⟨others, readToo⟩ := endsIn_iff_isPrefix.mp tz
  have differ : ∀ letters ∈ hisses, ∀ before others,
      letters.toList.reverse ++ before ≠ "tz".toList.reverse ++ others := by
    simp [hisses]
  exact differ letters listed before others (read.trans readToo.symm)

/-- What is added to a sibilant ends in `es`, unless the rules pass it over. -/
theorem adds_es_iff (sibilant : IsSibilant name) :
    (∃ suffix, plural name = name ++ suffix ∧ "es".toList <:+ suffix.toList) ↔
      ¬ EndsIn name "tz" := by
  have made : Pluralizes name (plural name) := pluralizes_iff.mpr rfl
  generalize plural name = text at made
  constructor
  · rintro ⟨suffix, rfl, ends⟩ tz
    have bare : name ++ suffix = name ++ "s" := (pluralizes_iff.mp made).trans (plural_of_tz tz)
    obtain rfl := (String.append_right_inj name).mp bare
    exact absurd ends (by decide)
  · intro noTz
    cases made with
    | empty empty => exact absurd (empty ▸ sibilant) (by decide)
    | passedOver ends => exact absurd ends noTz
    | doubled => exact ⟨"zes", rfl, by decide⟩
    | hiss => exact ⟨"es", rfl, by decide⟩
    | consonantY ends => exact absurd sibilant ends.not_isSibilant
    | other _ plain => exact absurd sibilant plain

/-! ## Entity sets -/

/-- Where a plural ends in `s`, its entity set is named by a sibilant and this `s` if there is a sibilant
before it. -/
theorem sibilant_before_s_iff {base : String} (made : plural name = base ++ "s") :
    (∃ stem, IsSibilant stem ∧ entitySet name = stem ++ "s") ↔ IsSibilant base := by
  have lowered : entitySet name = Text.lower base ++ "s" := by
    have small : Text.lowerChar 's' = 's' := by decide
    rw [entitySet, made]
    exact String.ext_iff.mpr (by simp [small])
  rw [lowered, ← isSibilant_lower_iff]
  constructor
  · rintro ⟨stem, sibilant, same⟩
    rwa [(String.append_left_inj "s").mp same]
  · exact fun sibilant => ⟨_, sibilant, rfl⟩

/-- The entity sets that are named by a sibilant and a bare `s` are those of the names that the rules pass
over. -/
theorem entitySet_sibilant_iff :
    (∃ stem, IsSibilant stem ∧ entitySet name = stem ++ "s") ↔ EndsIn name "tz" := by
  have made : Pluralizes name (plural name) := pluralizes_iff.mpr rfl
  generalize isPlural : plural name = text at made
  cases made with
  | empty empty =>
    subst empty
    refine iff_of_false ?_ (by decide)
    rintro ⟨stem, -, same⟩
    have chars := congrArg String.toList same
    simp [entitySet, isPlural] at chars
  | passedOver ends =>
    rw [sibilant_before_s_iff isPlural]
    exact iff_of_true (isSibilant_of_tz ends) ends
  | doubled _ noTz =>
    have isPlural : plural name = name ++ "z" ++ "e" ++ "s" := by
      rw [isPlural, String.append_assoc, String.append_assoc]
      rfl
    rw [sibilant_before_s_iff isPlural]
    exact iff_of_false (not_isSibilant_append _ (by decide)) noTz
  | hiss listed ends =>
    have isPlural : plural name = name ++ "e" ++ "s" := by
      rw [isPlural, String.append_assoc]
      rfl
    rw [sibilant_before_s_iff isPlural]
    exact iff_of_false (not_isSibilant_append _ (by decide)) (not_tz_of_hiss listed ends)
  | @consonantY stem ends =>
    have isPlural : plural name = stem ++ "i" ++ "e" ++ "s" := by
      rw [isPlural, String.append_assoc, String.append_assoc]
      rfl
    rw [sibilant_before_s_iff isPlural]
    exact iff_of_false (not_isSibilant_append _ (by decide)) (mt isSibilant_of_tz ends.not_isSibilant)
  | other _ plain =>
    rw [sibilant_before_s_iff isPlural]
    exact iff_of_false plain (mt isSibilant_of_tz plain)

/-- **Plurals by the end of a name.** What is added to a sibilant ends in `es` exactly if the name does
not end in `tz`. To names in `tz` a bare `s` is added, and theirs are the only entity sets that are named
by a sibilant and a bare `s`. In any other name a final `y` behind a character that is no vowel is
replaced by `ies`, and a name without one is followed by `s`. -/
theorem plural_by_ending (name : String) :
    (IsSibilant name →
      ((∃ suffix, plural name = name ++ suffix ∧ "es".toList <:+ suffix.toList) ↔
        ¬ EndsIn name "tz")) ∧
    (EndsIn name "tz" → plural name = name ++ "s") ∧
    ((∃ stem, IsSibilant stem ∧ entitySet name = stem ++ "s") ↔ EndsIn name "tz") ∧
    (name ≠ "" → ¬ IsSibilant name →
      (∀ stem, IsConsonantY name stem → plural name = stem ++ "ies") ∧
      ((∀ stem, ¬ IsConsonantY name stem) → plural name = name ++ "s")) := by
  refine ⟨adds_es_iff, plural_of_tz, entitySet_sibilant_iff, ?_⟩
  intro filled plain
  exact ⟨fun stem => plural_of_consonantY, plural_of_other filled plain⟩

/-- A sibilant of each kind, a consonant before `y` and a vowel before it. -/
theorem plural_by_ending_five_names :
    (∃ suffix, plural "Quiz" = "Quiz" ++ suffix ∧ "es".toList <:+ suffix.toList) ∧
      (∃ suffix, plural "BATCH" = "BATCH" ++ suffix ∧ "es".toList <:+ suffix.toList) ∧
      plural "Waltz" = "Waltzs" ∧ plural "Company" = "Companies" ∧ plural "Journey" = "Journeys" := by
  have quiz : IsSibilant "Quiz" ∧ ¬ EndsIn "Quiz" "tz" := by decide
  have batch : IsSibilant "BATCH" ∧ ¬ EndsIn "BATCH" "tz" := by decide
  have waltz : EndsIn "Waltz" "tz" := by decide
  have company : IsConsonantY "Company" "Compan" := ⟨.inl rfl, 'n', by decide, by decide⟩
  have journey (stem : String) : ¬ IsConsonantY "Journey" stem := by
    rintro ⟨small | large, last, isLast, noVowel⟩
    · obtain rfl : "Journe" = stem := (String.append_left_inj "y").mp small
      obtain rfl : 'e' = last := Option.some.inj isLast
      exact noVowel (by decide)
    · have ends := congrArg (fun text => text.toList.getLast?) large
      simp at ends
  obtain ⟨-, -, -, consonantY⟩ := plural_by_ending "Company"
  obtain ⟨-, -, -, other⟩ := plural_by_ending "Journey"
  exact ⟨((plural_by_ending "Quiz").1 quiz.1).mpr quiz.2,
    ((plural_by_ending "BATCH").1 batch.1).mpr batch.2,
    (plural_by_ending "Waltz").2.1 waltz,
    (consonantY (by decide) (by decide)).1 "Compan" company,
    (other (by decide) (by decide)).2 journey⟩

/-- **Not every sibilant gets an `es`**: a waltz gets a bare `s`, and so does its entity set. -/
theorem waltz_without_es :
    IsSibilant "Waltz" ∧
      (¬ ∃ suffix, plural "Waltz" = "Waltz" ++ suffix ∧ "es".toList <:+ suffix.toList) ∧
      plural "Waltz" = "Waltzs" ∧ ∃ stem, IsSibilant stem ∧ entitySet "Waltz" = stem ++ "s" := by
  have tz : EndsIn "Waltz" "tz" := by decide
  have sibilant := isSibilant_of_tz tz
  exact ⟨sibilant, fun adds => (adds_es_iff sibilant).mp adds tz, rfl, entitySet_sibilant_iff.mpr tz⟩

end ODataClient.EntityName

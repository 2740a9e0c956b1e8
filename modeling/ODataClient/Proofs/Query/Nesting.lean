import ODataClient.Proofs.Filter.LiteralText
import ODataClient.Text.Quoted

/-! # Separators inside quotes and parentheses

A text can be embedded in another one without being encoded if its quotes are closed, its
parentheses match, and the separators of the outer text stand only inside of them. A reader that
counts parentheses and passes over strings then finds the parts again.

* **`Position`, `splitOutside`** — where such a reader stands, and the parts of a text between the
  separators that it sees outside quotes and parentheses.
* **`IsNested`, `Nested`** — the texts that may be embedded, as lists of characters and as strings,
  with a lemma for each way in which they are put together.
* **`splitOutside_intercalate`** — nested parts come apart where they were joined. -/

namespace ODataClient.Text

/-! ## Readers -/

/-- Where a reader of a text stands. -/
structure Position where
  /-- Whether it stands between quotes. -/
  quoted : Bool
  /-- The number of parentheses around it. -/
  depth : Nat
deriving DecidableEq, Repr

namespace Position

/-- Outside quotes and parentheses. -/
def outside : Position := ⟨false, 0⟩

/-- The position behind a character. A quote opens or closes a string, and parentheses in strings do
not count; a doubled quote closes the string and opens it again. -/
def next (position : Position) (char : Char) : Position :=
  if char = '\'' then { position with quoted := !position.quoted }
  else if position.quoted then position
  else if char = '(' then { position with depth := position.depth + 1 }
  else if char = ')' then { position with depth := position.depth - 1 }
  else position

end Position

/-- The parts of a text between the places of a separator outside quotes and parentheses, read from
a position on. -/
def splitFrom (separator : Char) : Position → List Char → List (List Char)
  | _, [] => [[]]
  | position, char :: rest =>
    if char = separator ∧ position = .outside then [] :: splitFrom separator position rest
    else (splitFrom separator (position.next char) rest).modifyHead (char :: ·)

/-- The parts of a text between the places of a separator outside quotes and parentheses. -/
def splitOutside (separator : Char) (text : String) : List String :=
  (splitFrom separator .outside text.toList).map String.ofList

/-! ## Nested texts -/

/-- The characters that open and close what is nested. -/
def nestingMarks : List Char := ['\'', '(', ')']

/-- Texts whose quotes are closed and whose parentheses match, with some separators only inside of
them. -/
inductive IsNested : List Char → List Char → Prop
  /-- The empty text. -/
  | nil {separators : List Char} : IsNested separators []
  /-- A character that is no mark and no separator comes first. -/
  | plain {separators rest : List Char} (char : Char) (isPlain : char ∉ nestingMarks ++ separators)
      (nested : IsNested separators rest) : IsNested separators (char :: rest)
  /-- A string comes first. -/
  | quoted {separators rest : List Char} (text : List Char) (nested : IsNested separators rest) :
      IsNested separators ('\'' :: doubleQuotes text ++ '\'' :: rest)
  /-- A group in parentheses comes first; in it, separators may stand anywhere. -/
  | group {separators inner rest : List Char} (inside : IsNested [] inner)
      (nested : IsNested separators rest) : IsNested separators ('(' :: inner ++ ')' :: rest)

namespace IsNested

variable {separators front back : List Char}

/-- One nested text behind another is nested. -/
theorem append (first : IsNested separators front) (second : IsNested separators back) :
    IsNested separators (front ++ back) := by
  induction first with
  | nil => exact second
  | plain char isPlain _ ih => exact .plain char isPlain (ih second)
  | quoted text _ ih =>
    rw [List.append_assoc]
    exact .quoted text (ih second)
  | group inside _ _ ih =>
    rw [List.append_assoc]
    exact .group inside (ih second)

/-- Fewer separators are easier to keep inside. -/
theorem mono {fewer chars : List Char} (nested : IsNested separators chars)
    (subset : fewer ⊆ separators) : IsNested fewer chars := by
  induction nested with
  | nil => exact .nil
  | plain char isPlain _ ih =>
    refine .plain char (fun mark => isPlain ?_) (ih subset)
    exact List.mem_append.mpr ((List.mem_append.mp mark).imp_right (subset ·))
  | quoted text _ ih => exact .quoted text (ih subset)
  | group inside _ _ ih => exact .group inside (ih subset)

/-- A text without marks and separators is nested. -/
theorem of_forall {chars : List Char}
    (isPlain : ∀ char ∈ chars, char ∉ nestingMarks ++ separators) : IsNested separators chars := by
  induction chars with
  | nil => exact .nil
  | cons char rest ih =>
    rw [List.forall_mem_cons] at isPlain
    exact .plain char isPlain.1 (ih isPlain.2)

end IsNested

/-- Nested texts, as strings. -/
def Nested (separators : List Char) (text : String) : Prop := IsNested separators text.toList

namespace Nested

variable {separators : List Char}

/-- One nested text behind another is nested. -/
theorem append {front back : String} (first : Nested separators front)
    (second : Nested separators back) : Nested separators (front ++ back) := by
  rw [Nested, String.toList_append]
  exact IsNested.append first second

/-- Fewer separators are easier to keep inside. -/
theorem mono {fewer : List Char} {text : String} (nested : Nested separators text)
    (subset : fewer ⊆ separators) : Nested fewer text :=
  IsNested.mono nested subset

/-- A text of characters of a kind is nested if no mark and no separator is of the kind. -/
theorem of_consists {kind : Char → Bool} (other : (nestingMarks ++ separators).any kind = false)
    {text : String} (consists : Consists kind text) : Nested separators text :=
  IsNested.of_forall fun char member mark =>
    List.any_eq_false.mp other char mark (consists char member)

/-- A fixed text without marks and separators is nested. -/
theorem of_all {text : String}
    (isPlain : text.toList.all (!(nestingMarks ++ separators).contains ·) = true) :
    Nested separators text :=
  IsNested.of_forall fun char member => by simpa using List.all_eq_true.mp isPlain char member

/-- A text between quotes is nested, whatever is in it. -/
theorem quoted (text : String) : Nested separators (quoted text) := by
  rw [Nested, toList_quoted]
  exact .quoted text.toList .nil

/-- A nested text in parentheses is nested, whatever separators are in it. -/
theorem parenthesized {inner : String} (inside : Nested [] inner) :
    Nested separators ("(" ++ inner ++ ")") := by
  have text : ("(" ++ inner ++ ")").toList = '(' :: inner.toList ++ [')'] := by simp
  rw [Nested, text]
  exact .group inside .nil

/-- A nested text before such parentheses is nested with them. -/
theorem applied {word inner : String} (nested : Nested separators word)
    (inside : Nested [] inner) : Nested separators (word ++ "(" ++ inner ++ ")") := by
  have text : word ++ "(" ++ inner ++ ")" = word ++ ("(" ++ inner ++ ")") := by
    simp only [String.append_assoc]
  rw [text]
  exact nested.append (.parenthesized inside)

/-- Joined nested texts are nested if what joins them is. -/
theorem intercalate {separator : String} (joint : Nested separators separator) {parts : List String}
    (nested : ∀ part ∈ parts, Nested separators part) :
    Nested separators (separator.intercalate parts) := by
  induction parts with
  | nil => exact .nil
  | cons part rest ih =>
    rw [List.forall_mem_cons] at nested
    cases rest with
    | nil => simpa using nested.1
    | cons next others =>
      rw [String.intercalate_cons_cons]
      exact (nested.1.append joint).append (ih nested.2)

end Nested

/-! ## Reading nested texts -/

section Reading

variable {separator : Char}

/-- A reader goes on behind a character that does not separate. -/
theorem splitFrom_cons_of_ne {position : Position} {char : Char}
    (goesOn : char ≠ separator ∨ position ≠ .outside) (rest : List Char) :
    splitFrom separator position (char :: rest) =
      (splitFrom separator (position.next char) rest).modifyHead (char :: ·) := by
  rw [splitFrom, if_neg]
  rintro ⟨same, outside⟩
  exact goesOn.elim (· same) (· outside)

variable (other : separator ∉ nestingMarks)
include other

/-- A reader between quotes goes on behind the quote that closes the string. -/
theorem splitFrom_doubleQuotes (text : List Char) (depth : Nat) (rest : List Char) :
    splitFrom separator ⟨true, depth⟩ (doubleQuotes text ++ '\'' :: rest) =
      (splitFrom separator ⟨false, depth⟩ rest).modifyHead (doubleQuotes text ++ '\'' :: ·) := by
  have noQuote : '\'' ≠ separator := by
    rintro rfl
    exact other (by decide)
  have inside {depth : Nat} : (⟨true, depth⟩ : Position) ≠ .outside := nofun
  induction text with
  | nil =>
    rw [doubleQuotes_nil, List.nil_append, splitFrom_cons_of_ne (.inr inside)]
    rfl
  | cons char text ih =>
    by_cases quote : char = '\''
    · -- The first quote closes the string and the second one opens it again.
      subst quote
      rw [doubleQuotes_quote, List.cons_append, List.cons_append,
        splitFrom_cons_of_ne (.inr inside), splitFrom_cons_of_ne (.inl noQuote)]
      have again : ((⟨true, depth⟩ : Position).next '\'').next '\'' = ⟨true, depth⟩ := rfl
      rw [again, ih, List.modifyHead_modifyHead, List.modifyHead_modifyHead]
      rfl
    · have stays : (⟨true, depth⟩ : Position).next char = ⟨true, depth⟩ := by
        simp [Position.next, quote]
      rw [doubleQuotes_cons quote, List.cons_append, splitFrom_cons_of_ne (.inr inside), stays, ih,
        List.modifyHead_modifyHead]
      rfl

/-- **A reader passes over a nested text** as a whole: inside parentheses, or outside of them if the
separator is one of those that the text keeps inside. -/
theorem splitFrom_append {separators text : List Char} (nested : IsNested separators text)
    (depth : Nat) (kept : depth = 0 → separator ∈ separators) (rest : List Char) :
    splitFrom separator ⟨false, depth⟩ (text ++ rest) =
      (splitFrom separator ⟨false, depth⟩ rest).modifyHead (text ++ ·) := by
  have mark {char : Char} (isMark : char ∈ nestingMarks) : char ≠ separator := by
    rintro rfl
    exact other isMark
  induction nested generalizing depth rest with
  | nil =>
    rw [List.nil_append]
    cases splitFrom separator ⟨false, depth⟩ rest <;> rfl
  | @plain separators behind char isPlain _ ih =>
    rw [List.mem_append, not_or] at isPlain
    have goesOn : char ≠ separator ∨ (⟨false, depth⟩ : Position) ≠ .outside := by
      by_cases top : depth = 0
      · exact .inl fun same => isPlain.2 (same ▸ kept top)
      · exact .inr fun outside => top (congrArg Position.depth outside)
    have stays : (⟨false, depth⟩ : Position).next char = ⟨false, depth⟩ := by
      have noMark := isPlain.1
      simp only [nestingMarks, List.mem_cons, List.not_mem_nil, or_false, not_or] at noMark
      simp [Position.next, noMark]
    rw [List.cons_append, splitFrom_cons_of_ne goesOn, stays, ih depth kept rest,
      List.modifyHead_modifyHead]
    rfl
  | @quoted separators behind string _ ih =>
    have opens : (⟨false, depth⟩ : Position).next '\'' = ⟨true, depth⟩ := rfl
    rw [List.append_assoc, List.cons_append, splitFrom_cons_of_ne (.inl (mark (by decide))), opens,
      List.cons_append, splitFrom_doubleQuotes other string depth (behind ++ rest),
      ih depth kept rest, List.modifyHead_modifyHead, List.modifyHead_modifyHead]
    simp [Function.comp_def]
  | @group separators inner behind _ _ ihInner ihBehind =>
    -- In the group the separator is shielded by the parenthesis.
    have opens : (⟨false, depth⟩ : Position).next '(' = ⟨false, depth + 1⟩ := rfl
    have closes : (⟨false, depth + 1⟩ : Position).next ')' = ⟨false, depth⟩ := rfl
    have deeper : (⟨false, depth + 1⟩ : Position) ≠ .outside := nofun
    rw [List.append_assoc, List.cons_append, splitFrom_cons_of_ne (.inl (mark (by decide))), opens,
      List.cons_append, ihInner (depth + 1) nofun (')' :: (behind ++ rest)),
      splitFrom_cons_of_ne (.inr deeper), closes, ihBehind depth kept rest]
    simp only [List.modifyHead_modifyHead]
    simp [Function.comp_def]

/-- A reader finds the nested parts of a list that was joined. -/
theorem splitFrom_intercalate {parts : List (List Char)} (filled : parts ≠ [])
    (nested : ∀ part ∈ parts, IsNested [separator] part) :
    splitFrom separator .outside ([separator].intercalate parts) = parts := by
  induction parts with
  | nil => exact absurd rfl filled
  | cons part rest ih =>
    rw [List.forall_mem_cons] at nested
    have passes (rest : List Char) : splitFrom separator .outside (part ++ rest) =
        (splitFrom separator .outside rest).modifyHead (part ++ ·) :=
      splitFrom_append other nested.1 0 (fun _ => List.mem_singleton_self separator) rest
    cases rest with
    | nil =>
      have alone := passes []
      rw [List.append_nil] at alone
      simpa [splitFrom] using alone
    | cons next others =>
      have more := ih (List.cons_ne_nil next others) nested.2
      have found : splitFrom separator .outside
          (separator :: [separator].intercalate (next :: others)) = [] :: next :: others := by
        rw [splitFrom, if_pos ⟨rfl, rfl⟩, more]
      rw [List.intercalate_cons_cons, List.append_assoc, passes, List.singleton_append, found]
      simp

/-- **Nested parts come apart where they were joined.** -/
theorem splitOutside_intercalate {joint : String} (single : joint.toList = [separator])
    {parts : List String} (filled : parts ≠ []) (nested : ∀ part ∈ parts, Nested [separator] part) :
    splitOutside separator (joint.intercalate parts) = parts := by
  have split : splitFrom separator .outside ([separator].intercalate (parts.map String.toList)) =
      parts.map String.toList :=
    splitFrom_intercalate other (by simpa using filled) (List.forall_mem_map.mpr nested)
  rw [splitOutside, String.toList_intercalate, single, split, List.map_map]
  simp [Function.comp_def]

end Reading

end ODataClient.Text

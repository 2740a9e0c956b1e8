import ODataClient.Proofs.Filter.Reader
import ODataClient.Proofs.Filter.Rendered

/-! # Atoms of filters

Quoted strings and words are read back in front of whatever may follow them in a filter, and a word
shows whether it is a member or a literal. Strings may hold any character.

* **`IsAtom`, `EndsAtom`** — the written forms of atoms, and what may stand behind one;
  `readAtom?_append` reads an atom back.
* **`EndsOperand`** — what may stand behind an atom that is a whole operand.
* **`Literal.isAtom_of_render`** — a literal is an atom, and is not taken for a member.
* **`MemberPath.IsReadable`** — the paths that are taken for members; `isAtom_wirePath` and
  `atomReading_wirePath` read them back. -/

namespace ODataClient

open Text

/-! ## Marks -/

namespace Text

@[simp] theorem skip?_nil (chars : List Char) : skip? [] chars = some chars := by
  simp [skip?]

@[simp] theorem skip?_cons_nil (mark : Char) (marks : List Char) :
    skip? (mark :: marks) [] = none := by
  simp [skip?]

@[simp] theorem skip?_cons_cons (mark char : Char) (marks chars : List Char) :
    skip? (mark :: marks) (char :: chars) = if mark = char then skip? marks chars else none := by
  by_cases same : mark = char <;> simp [skip?, same]

/-- Any other character than a quote belongs to a quoted string. -/
theorem unquote?_cons {char : Char} (plain : char ≠ '\'') (rest : List Char) :
    unquote? (char :: rest) = (unquote? rest).map fun (text, behind) => (char :: text, behind) := by
  rw [unquote?.eq_def]
  simp only [if_neg plain]

/-- A closing quote that is not doubled ends a quoted string. -/
theorem unquote?_doubleQuotes (text : List Char) {rest : List Char}
    (single : rest.head? ≠ some '\'') :
    unquote? (doubleQuotes text ++ '\'' :: rest) = some (text, rest) := by
  induction text with
  | nil =>
    cases rest with
    | nil => rfl
    | cons next others =>
      have plain : next ≠ '\'' := fun quote => single (congrArg some quote)
      simp [unquote?, plain]
  | cons char text ih =>
    by_cases quote : char = '\''
    · subst quote
      simp [unquote?, ih]
    · rw [doubleQuotes_cons quote, List.cons_append, unquote?_cons quote, ih]
      rfl

end Text

/-! ## Atoms -/

/-- The written forms of atoms: quoted strings, and words. -/
inductive IsAtom : List Char → Prop
  /-- A quoted string. -/
  | quoted (text : List Char) : IsAtom ('\'' :: doubleQuotes text ++ ['\''])
  /-- A word. -/
  | word (first : Char) (rest : List Char) (isWord : ∀ char ∈ first :: rest, isWordChar char = true) :
      IsAtom (first :: rest)

/-- A filled list of word characters is an atom. -/
theorem IsAtom.of_word {chars : List Char} (filled : chars ≠ [])
    (isWord : chars.all isWordChar = true) : IsAtom chars := by
  cases chars with
  | nil => exact absurd rfl filled
  | cons first rest => exact .word first rest (List.all_eq_true.mp isWord)

/-- What may stand behind an atom: nothing, or one of four marks. -/
def EndsAtom (rest : List Char) : Prop := ∀ char ∈ rest.head?, char ∈ " ,()".toList

/-- **An atom is read back** in front of whatever may stand behind it. -/
theorem readAtom?_append {atom rest : List Char} (isAtom : IsAtom atom) (ends : EndsAtom rest) :
    readAtom? (atom ++ rest) = some (atom, rest) := by
  cases isAtom with
  | quoted text =>
    -- No quote may stand behind the atom, so its last quote is not half of a doubled one.
    have single : rest.head? ≠ some '\'' := fun quote => by simpa using ends '\'' quote
    simp [readAtom?, unquote?_doubleQuotes text single]
  | word first others isWord =>
    rw [List.forall_mem_cons] at isWord
    have plain : first ≠ '\'' := by
      rintro rfl
      exact absurd isWord.1 (by decide)
    -- The word ends where the rest begins, for none of the four marks may stand in a word.
    have stops : rest.takeWhile isWordChar = [] ∧ rest.dropWhile isWordChar = rest := by
      cases rest with
      | nil => exact ⟨rfl, rfl⟩
      | cons mark rest =>
        have marks : " ,()".toList.any isWordChar = false := rfl
        have closed := List.any_eq_false.mp marks mark (ends mark rfl)
        simp [closed]
    simp only [readAtom?, List.cons_append, if_neg plain, isWord.1, if_true,
      List.takeWhile_append_of_pos isWord.2, List.dropWhile_append_of_pos isWord.2, stops.1, stops.2,
      List.append_nil]

/-- What may stand behind an operand: nothing, a comma, a closing parenthesis, or a keyword. -/
inductive EndsOperand : List Char → Prop
  /-- Nothing. -/
  | done : EndsOperand []
  /-- The next operand or value. -/
  | comma (rest : List Char) : EndsOperand (',' :: rest)
  /-- The end of a group. -/
  | close (rest : List Char) : EndsOperand (')' :: rest)
  /-- A blank with a keyword behind it. -/
  | keyword (letter : Char) (rest : List Char) (word : letter ≠ '(') :
      EndsOperand (' ' :: letter :: rest)

namespace EndsOperand

variable {rest : List Char} (ends : EndsOperand rest)
include ends

/-- An atom may be an operand. -/
theorem endsAtom : EndsAtom rest := by
  cases ends <;> simp [EndsAtom]

/-- An operand behind which a parenthesis stood would be the keyword of a call. -/
theorem no_call : skip? ['('] rest = none := by
  cases ends <;> simp

/-- An operand behind which a blank and a parenthesis stood would be the word of a negation. -/
theorem no_negation : skip? [' ', '('] rest = none := by
  cases ends with
  | keyword letter rest word => simp [Ne.symm word]
  | done | comma | close => simp

end EndsOperand

/-! ## Literals and members -/

/-- A kind of characters without the marks of the grammar may stand in words. -/
theorem all_isWordChar_of {kind : Char → Bool} (marks : " ,()'".toList.any kind = false)
    {chars : List Char} (isKind : ∀ char ∈ chars, kind char = true) :
    chars.all isWordChar = true := by
  refine List.all_eq_true.mpr fun char member => ?_
  rw [isWordChar, Bool.not_eq_true', List.contains_eq_mem, decide_eq_false_iff_not]
  intro mark
  exact List.any_eq_false.mp marks char mark (isKind char member)

/-- No member has a hyphen. -/
theorem isMemberAtom_of_hyphen {atom : List Char} (hyphen : '-' ∈ atom) :
    isMemberAtom atom = false := by
  have other : atom.all isPathChar = false :=
    List.all_eq_false.mpr ⟨'-', hyphen, by decide⟩
  rw [isMemberAtom, other, Bool.and_false]

/-- A digit is no letter. -/
theorem isAlpha_of_isDigit {char : Char} (digit : char.isDigit = true) : char.isAlpha = false := by
  have small : char.toNat ≤ 57 := (Char.isDigit_iff_toNat.mp digit).2
  have upper : char.isUpper = false := decide_eq_false fun range => by
    have large : 65 ≤ char.toNat := UInt32.le_iff_toNat_le.mp range.1
    omega
  have lower : char.isLower = false := by
    refine Bool.and_eq_false_iff.mpr (.inl (decide_eq_false fun range => ?_))
    have large : 97 ≤ char.toNat := UInt32.le_iff_toNat_le.mp range
    omega
  exact Bool.or_eq_false_iff.mpr ⟨upper, lower⟩

/-- No character of a number begins an identifier. -/
theorem isIdentifierStart_of_isNumeralChar {char : Char} (isNumeral : isNumeralChar char = true) :
    isIdentifierStart char = false := by
  simp only [isNumeralChar, Bool.or_eq_true, beq_iff_eq] at isNumeral
  rcases isNumeral with (digit | rfl) | rfl
  · have other : char ≠ '_' := by
      rintro rfl
      cases digit
    simp [isIdentifierStart, isAlpha_of_isDigit digit, other]
  · rfl
  · rfl

/-- No member begins like a number. -/
theorem isMemberAtom_of_numeral {atom : List Char}
    (consists : ∀ char ∈ atom, isNumeralChar char = true) : isMemberAtom atom = false := by
  cases atom with
  | nil => rfl
  | cons first rest =>
    have other := isIdentifierStart_of_isNumeralChar (consists first (List.mem_cons_self ..))
    simp [isMemberAtom, other]

/-- The text of a literal is an atom, and is not taken for a member. -/
theorem IsLiteralText.isAtom {text : String} (literal : IsLiteralText text) :
    IsAtom text.toList ∧ isMemberAtom text.toList = false := by
  cases literal with
  | word listed =>
    have words : ∀ word ∈ ["null", "true", "false"], word.toList ≠ [] ∧
        word.toList.all isWordChar = true ∧ isMemberAtom word.toList = false := by decide
    obtain ⟨filled, isWord, noMember⟩ := words _ listed
    exact ⟨.of_word filled isWord, noMember⟩
  | quoted content =>
    rw [toList_quoted]
    exact ⟨.quoted _, rfl⟩
  | time value =>
    have hyphen := value.hyphen_mem_text
    have isWord := all_isWordChar_of rfl value.consists_text
    exact ⟨.of_word (List.ne_nil_of_mem hyphen) isWord, isMemberAtom_of_hyphen hyphen⟩
  | guid value =>
    have hyphen := value.hyphen_mem_text
    have isWord := all_isWordChar_of rfl value.consists_text
    exact ⟨.of_word (List.ne_nil_of_mem hyphen) isWord, isMemberAtom_of_hyphen hyphen⟩
  | numeral numeral =>
    have isWord := all_isWordChar_of rfl numeral.consists
    have filled : text.toList ≠ [] := fun empty =>
      numeral.filled (String.toList_eq_nil_iff.mp empty)
    exact ⟨.of_word filled isWord, isMemberAtom_of_numeral numeral.consists⟩

/-- **A rendered literal is an atom, and is not taken for a member.** -/
theorem Literal.isAtom_of_render {value : Literal} {text : String}
    (rendered : value.render = .ok text) :
    IsAtom text.toList ∧ isMemberAtom text.toList = false :=
  (isLiteralText_of_render rendered).isAtom

/-- The paths that filters can tell from literals: some identifiers, and not one that is a literal. -/
structure MemberPath.IsReadable (path : MemberPath) : Prop where
  /-- There is a segment. -/
  filled : path.segments ≠ []
  /-- Every segment is an identifier on the wire. -/
  identifiers : ∀ field ∈ path.segments, isIdentifier field.wireName = true
  /-- A segment alone is no literal. -/
  noLiteral : ∀ field, path.segments = [field] → field.wireName ∉ literalWords

/-- The characters of a path are those of its names, with slashes between them. -/
theorem MemberPath.toList_wirePath (path : MemberPath) :
    path.wirePath.toList =
      ['/'].intercalate ((path.segments.map FieldName.wireName).map String.toList) := by
  simp [wirePath]

/-- The characters of an identifier continue one. -/
theorem isIdentifierPart_of_mem {name : List Char} (identifier : isIdentifierChars name = true) :
    ∀ char ∈ name, isIdentifierPart char = true := by
  cases name with
  | nil => cases identifier
  | cons first rest =>
    simp only [isIdentifierChars, Bool.and_eq_true, List.all_eq_true] at identifier
    refine List.forall_mem_cons.mpr ⟨?_, identifier.2⟩
    have start := identifier.1
    simp only [isIdentifierStart, isIdentifierPart, Bool.or_eq_true] at start ⊢
    exact start.imp_left fun letter => Bool.or_eq_true_iff.mpr (.inl letter)

/-- The characters of joined identifiers continue an identifier or are slashes. -/
theorem isPathChar_of_mem {names : List (List Char)}
    (identifiers : ∀ name ∈ names, isIdentifierChars name = true) :
    ∀ char ∈ ['/'].intercalate names, isPathChar char = true := by
  have part {name : List Char} (identifier : isIdentifierChars name = true) :
      ∀ char ∈ name, isPathChar char = true := fun char member => by
    simp [isPathChar, isIdentifierPart_of_mem identifier char member]
  induction names with
  | nil => simp
  | cons name rest ih =>
    rw [List.forall_mem_cons] at identifiers
    cases rest with
    | nil => simpa using part identifiers.1
    | cons next others =>
      rw [List.intercalate_cons_cons]
      simp only [List.forall_mem_append]
      exact ⟨⟨part identifiers.1, by simp [isPathChar]⟩, ih identifiers.2⟩

/-- Joined identifiers begin like the first of them. -/
theorem head?_intercalate {name : List Char} {rest : List (List Char)}
    (identifier : isIdentifierChars name = true) :
    ∃ first, (['/'].intercalate (name :: rest)).head? = some first ∧
      isIdentifierStart first = true := by
  cases name with
  | nil => cases identifier
  | cons first others =>
    simp only [isIdentifierChars, Bool.and_eq_true] at identifier
    exact ⟨first, by rw [List.intercalate_cons_cons_left]; rfl, identifier.1⟩

namespace MemberPath.IsReadable

variable {path : MemberPath} (readable : path.IsReadable)
include readable

/-- The names of a path, as lists of characters, are identifiers. -/
theorem isIdentifierChars_of_mem :
    ∀ name ∈ (path.segments.map FieldName.wireName).map String.toList,
      isIdentifierChars name = true := by
  simp only [List.map_map, List.forall_mem_map]
  exact readable.identifiers

/-- A path is none of the words that are literals: a single name by assumption, several names for the
slash between them. -/
theorem wirePath_notMem : path.wirePath ∉ literalWords := by
  obtain ⟨segments⟩ := path
  match segments with
  | [] => exact absurd rfl readable.filled
  | [field] =>
    have single := readable.noLiteral field rfl
    rwa [← MemberPath.wirePath_ofField field] at single
  | first :: second :: others =>
    have slash : '/' ∈ (MemberPath.wirePath ⟨first :: second :: others⟩).toList := by
      rw [MemberPath.toList_wirePath, List.map_cons, List.map_cons, List.map_cons, List.map_cons,
        List.intercalate_cons_cons]
      simp
    have none : ∀ word ∈ literalWords, '/' ∉ word.toList := by decide
    exact fun literal => none _ literal slash

/-- A path has characters of identifiers and slashes only. -/
theorem isPathChar_of_mem_wirePath : ∀ char ∈ path.wirePath.toList, isPathChar char = true := by
  rw [MemberPath.toList_wirePath]
  exact isPathChar_of_mem readable.isIdentifierChars_of_mem

/-- The first character of a path begins an identifier. -/
theorem head?_wirePath :
    ∃ first, path.wirePath.toList.head? = some first ∧ isIdentifierStart first = true := by
  have identifiers := readable.isIdentifierChars_of_mem
  rw [MemberPath.toList_wirePath]
  obtain ⟨segments⟩ := path
  cases segments with
  | nil => exact absurd rfl readable.filled
  | cons field rest => exact head?_intercalate (identifiers _ (List.mem_cons_self ..))

/-- A path is taken for a member. -/
theorem isMemberAtom_wirePath : isMemberAtom path.wirePath.toList = true := by
  obtain ⟨first, head, start⟩ := readable.head?_wirePath
  -- The list of words is compared by characters, as atoms are.
  have noLiteral : path.wirePath.toList ∉ literalWords.map String.toList := fun member => by
    obtain ⟨word, isWord, same⟩ := List.mem_map.mp member
    exact readable.wirePath_notMem (String.toList_inj.mp same ▸ isWord)
  have chars := List.all_eq_true.mpr readable.isPathChar_of_mem_wirePath
  rw [isMemberAtom, head, chars, List.contains_eq_mem, decide_eq_false noLiteral]
  simp [start]

/-- A path comes apart at the slashes into its names. -/
theorem splitOn_wirePath :
    path.wirePath.toList.splitOn '/' =
      (path.segments.map FieldName.wireName).map String.toList := by
  rw [MemberPath.toList_wirePath]
  refine List.splitOn_intercalate '/' ?_ (by simpa using readable.filled)
  intro name member slash
  exact absurd (isIdentifierPart_of_mem (readable.isIdentifierChars_of_mem name member) '/' slash)
    (by decide)

/-- **A member is an atom.** -/
theorem isAtom_wirePath : IsAtom path.wirePath.toList := by
  obtain ⟨first, head, -⟩ := readable.head?_wirePath
  have filled : path.wirePath.toList ≠ [] := by
    intro empty
    rw [empty] at head
    cases head
  exact .of_word filled (all_isWordChar_of rfl readable.isPathChar_of_mem_wirePath)

/-- **A member is read as its path.** -/
theorem atomReading_wirePath :
    atomReading path.wirePath.toList = .member (path.segments.map FieldName.wireName) := by
  rw [atomReading, readable.isMemberAtom_wirePath, if_pos rfl, readable.splitOn_wirePath]
  simp

end MemberPath.IsReadable

/-- A rendered literal is read as its text. -/
theorem Literal.atomReading_of_render {value : Literal} {text : String}
    (rendered : value.render = .ok text) : atomReading text.toList = .literal value.render := by
  rw [atomReading, (Literal.isAtom_of_render rendered).2, rendered, String.ofList_toList]
  rfl

end ODataClient

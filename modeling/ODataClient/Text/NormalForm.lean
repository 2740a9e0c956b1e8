import ODataClient.Text.CombiningClass
import ODataClient.Text.Decomposition

/-! # Composed normal form
One form for all texts that are written alike: take every character apart, bring the marks behind a
character into the order of their classes, and compose what can be composed.

* `orderMarks` — the canonical order of marks.
* `compose` — the composition of what is decomposed and ordered.
* `normalForm` — the composed normal form; `normalForm_of_ascii` says that ASCII is in it. -/

namespace ODataClient.Text

/-- A character in front of a text, behind the marks there whose class is lower than its own. -/
def insertByClass (char : Char) : List Char → List Char
  | [] => [char]
  | next :: rest =>
    if 0 < combiningClass next ∧ combiningClass next < combiningClass char then
      next :: insertByClass char rest
    else char :: next :: rest

/-- A text with the marks behind each character in ascending order of their classes. -/
def orderMarks (chars : List Char) : List Char := chars.foldr insertByClass []

/-- Compose a character with what follows it. Marks that did not compose are kept, the last first; a
character whose class is not above that of the mark before it does not reach the first character. -/
def composeBehind (first : Char) (kept : List Char) : List Char → List Char
  | [] => first :: kept.reverse
  | char :: rest =>
    let isBlocked := kept.head?.any fun mark => combiningClass char ≤ combiningClass mark
    match if isBlocked then none else composite? first char with
    | some composed => composeBehind composed kept rest
    | none =>
      if combiningClass char = 0 then first :: kept.reverse ++ composeBehind char [] rest
      else composeBehind first (char :: kept) rest

/-- The composition of a text; marks with nothing before them stay as they are. -/
def compose : List Char → List Char
  | [] => []
  | char :: rest =>
    if combiningClass char = 0 then composeBehind char [] rest else char :: compose rest

/-- The composed normal form of a text. -/
def normalForm (chars : List Char) : List Char := compose (orderMarks (chars.flatMap decompose))

theorem insertByClass_of_lt {char : Char} (h : char.toNat < 0x300) (chars : List Char) :
    insertByClass char chars = char :: chars := by
  cases chars <;> simp [insertByClass, combiningClass_of_lt h]

theorem orderMarks_of_ascii {chars : List Char} (h : ∀ char ∈ chars, char.toNat < 128) :
    orderMarks chars = chars := by
  induction chars with
  | nil => rfl
  | cons char rest ih =>
    simp only [List.mem_cons, forall_eq_or_imp] at h
    have rest_eq : rest.foldr insertByClass [] = rest := ih h.2
    simp only [orderMarks, List.foldr_cons, rest_eq]
    exact insertByClass_of_lt (by omega) rest

theorem composeBehind_of_ascii {first : Char} {chars : List Char}
    (h : ∀ char ∈ chars, char.toNat < 128) : composeBehind first [] chars = first :: chars := by
  induction chars generalizing first with
  | nil => simp [composeBehind]
  | cons char rest ih =>
    simp only [List.mem_cons, forall_eq_or_imp] at h
    have below : char.toNat < 0x300 := by omega
    simp [composeBehind, composite?_of_lt below, combiningClass_of_lt below, ih h.2]

/-- ASCII is in normal form. -/
theorem normalForm_of_ascii {chars : List Char} (h : ∀ char ∈ chars, char.toNat < 128) :
    normalForm chars = chars := by
  have parts : chars.flatMap decompose = chars := by
    induction chars with
    | nil => rfl
    | cons char rest ih =>
      simp only [List.mem_cons, forall_eq_or_imp] at h
      simp [decompose_of_lt (show char.toNat < 0xC0 by omega), ih h.2]
  rw [normalForm, parts, orderMarks_of_ascii h]
  cases chars with
  | nil => rfl
  | cons char rest =>
    simp only [List.mem_cons, forall_eq_or_imp] at h
    simp [compose, combiningClass_of_lt (show char.toNat < 0x300 by omega),
      composeBehind_of_ascii h.2]

end ODataClient.Text

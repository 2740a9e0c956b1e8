import ODataClient.Text.BidiClass
import ODataClient.Text.Joining
import ODataClient.Text.Mark
import ODataClient.Url.Domain.Reading
import ODataClient.Url.Punycode

/-! # Labels of a domain
The parts of a domain between its dots. A label with characters beyond ASCII has an ASCII form, and
can be given by it. Rules keep labels apart that look alike: marks need a character before them, the
characters that only join or part their neighbours may stand where they have an effect, and what
runs from right to left does not mix with what runs from left to right.

* `meaning?` — the label that an ASCII form stands for.
* `isSound`, `keepsDirection` — the rules.
* `asciiForm` — the ASCII form of a label. -/

namespace ODataClient.Domain

/-- What the ASCII form of a label with other characters begins with. -/
def punycodeMark : List Char := ['x', 'n', '-', '-']

/-- The length beyond which a label with other characters than ASCII is refused. -/
def labelLimit : Nat := 1000

/-- The length beyond which an ASCII form is refused, its mark left out. -/
def asciiFormLimit : Nat := 2000

/-- Whether a label holds no character beyond ASCII. -/
def isAscii (label : List Char) : Bool := label.all (·.toNat < 128)

/-- The label that a label stands for: itself unless it is marked as an ASCII form. An ASCII form must
be that of a label with other characters, and of one that is read as itself. -/
def meaning? (label : List Char) : Option (List Char) :=
  if punycodeMark.isPrefixOf label then do
    let written := label.drop punycodeMark.length
    if asciiFormLimit < written.length then none
    let decoded ← Punycode.decode written
    if !isAscii decoded && read? decoded == some decoded then some decoded else none
  else some label

/-! ## Joiners -/

/-- The character that keeps its neighbours from joining. -/
def nonJoiner : Char := '\u200c'

/-- The character that makes its neighbours join. -/
def joiner : Char := '\u200d'

/-- The nearest character that is not passed over when neighbours join. -/
def nearestJoining (chars : List Char) : Option Char :=
  chars.find? (Text.joiningType · != .transparent)

/-- Whether the joiners of a text have an effect, given the characters before the text from the last
one backwards. Both may follow a virama; the one that parts may also stand between letters that would
join without it. -/
def joinersFit (before : List Char) : List Char → Bool
  | [] => true
  | char :: rest =>
    let followsVirama := before.head?.any fun last => Text.combiningClass last == Text.virama
    let partsLetters :=
      (nearestJoining before).any Text.joinsForward && (nearestJoining rest).any Text.joinsBackward
    (if char = nonJoiner then followsVirama || partsLetters
      else if char = joiner then followsVirama
      else true) &&
    joinersFit (char :: before) rest

/-- Whether a label may stand in a domain, whatever the other labels are. -/
def isSound (label : List Char) : Bool :=
  isAscii label ||
    (!label.head?.any Text.isMark && joinersFit [] label && label.length ≤ labelLimit)

/-! ## Directions -/

/-- A class that may occur in a label of either direction. -/
def isNeutral : Text.BidiClass → Bool
  | .europeanNumber | .europeanSeparator | .europeanTerminator | .commonSeparator
  | .nonspacingMark | .boundaryNeutral | .otherNeutral => true
  | _ => false

/-- Whether the classes of a label, the marks at its end left out, make it run one way. A label begins
with a letter and ends with a letter or a digit of its own direction; one that runs from right to left
holds digits of one kind only. -/
def runsOneWay (classes : List Text.BidiClass) : Bool :=
  match classes.head? with
  | some .leftToRight =>
    classes.all (fun part => part == .leftToRight || isNeutral part) &&
      classes.getLast?.any fun last => last == .leftToRight || last == .europeanNumber
  | some .rightToLeft | some .arabicLetter =>
    classes.all (fun part => part.isRightToLeft || isNeutral part) &&
      (classes.getLast?.any fun last => last.isRightToLeft || last == .europeanNumber) &&
      !(classes.contains .europeanNumber && classes.contains .arabicNumber)
  | _ => false

/-- Whether a label keeps to one direction. -/
def keepsDirection (label : List Char) : Bool :=
  let classes := label.map Text.bidiClass
  let trimmed := (classes.reverse.dropWhile (· == .nonspacingMark)).reverse
  label.isEmpty || runsOneWay trimmed

/-! ## ASCII forms -/

/-- The ASCII form of a label. -/
def asciiForm (label : List Char) : List Char :=
  if isAscii label then label else punycodeMark ++ Punycode.encode label

theorem isSound_of_isAscii {label : List Char} (h : isAscii label = true) :
    isSound label = true := by
  simp [isSound, h]

theorem asciiForm_of_isAscii {label : List Char} (h : isAscii label = true) :
    asciiForm label = label := by
  simp [asciiForm, h]

/-- A label without the mark stands for itself. -/
theorem meaning?_of_not_marked {label : List Char} (h : punycodeMark.isPrefixOf label = false) :
    meaning? label = some label := by
  simp [meaning?, h]

end ODataClient.Domain

import ODataClient.Filter.Render
import ODataClient.Text.Identifier

/-! # A reader of filter texts

A filter text tells more than a string of characters: it can be read, from the front and without
trying alternatives. This module says what a reading is and reads it.

* **`FilterReading`** — what a text shows of a condition tree: no coercions, wire names in place of
  fields, string functions in place of method names, and texts in place of literals.
* **`Expr.reading`** — the reading of a tree.
* **`readAtom?`** — the first atom of a text: a quoted string, or a word that ends before a blank, a
  comma, a parenthesis or a quote.
* **`readOperand?`, `readValues?`, `readCondition?`** — the parts of the grammar, with a bound on
  their nesting.
* **`readFilter?`** — a whole text. A text is longer than it is nested, so its length is bound enough. -/

namespace ODataClient

/-- What a filter text shows of a condition tree. -/
inductive FilterReading
  /-- A comparison of two operands. -/
  | comparison (op : ComparisonOp) (left right : FilterReading)
  /-- Two conditions joined by a connective. -/
  | logical (op : LogicalOp) (left right : FilterReading)
  /-- The negation of a condition. -/
  | negation (inner : FilterReading)
  /-- A field, by the wire names of its path. -/
  | member (names : List String)
  /-- A constant, by its written form if it has one. -/
  | literal (written : Except QueryError String)
  /-- A string function of two operands, if the method is one. -/
  | call (function : Option StringFunction) (receiver argument : FilterReading)
  /-- The test whether an item is among a set. -/
  | membership (item set : FilterReading)
  /-- A collection of constants, by their written forms. -/
  | collection (written : List (Except QueryError String))

/-- The reading of a condition tree: its coercions erased, its methods resolved, its literals
written out. -/
def Expr.reading : Expr → FilterReading
  | comparison op left right => .comparison op left.reading right.reading
  | logical op left right => .logical op left.reading right.reading
  | negation inner => .negation inner.reading
  | member path => .member (path.segments.map FieldName.wireName)
  | literal value => .literal value.render
  | call method receiver argument =>
    .call (StringFunction.ofMethod? method) receiver.reading argument.reading
  | membership item set => .membership item.reading set.reading
  | collection values => .collection (values.map Literal.render)
  | convert inner => inner.reading

/-! ## Characters and marks -/

namespace Text

/-- A character that may stand in a word of a filter: any but blanks, commas, parentheses and
quotes. -/
def isWordChar (char : Char) : Bool := !" ,()'".toList.contains char

/-- What follows an expected beginning, if a text begins so. -/
def skip? (expected chars : List Char) : Option (List Char) :=
  if expected.isPrefixOf chars then some (chars.drop expected.length) else none

/-- The text up to the first quote that is not doubled, and what follows the quote. -/
def unquote? : List Char → Option (List Char × List Char)
  | [] => none
  | char :: rest =>
    if char = '\'' then
      match rest with
      | next :: others =>
        if next = '\'' then (unquote? others).map fun (text, behind) => ('\'' :: text, behind)
        else some ([], rest)
      | [] => some ([], [])
    else (unquote? rest).map fun (text, behind) => (char :: text, behind)

/-- The first atom of a text, in its written form, and what follows it. -/
def readAtom? : List Char → Option (List Char × List Char)
  | [] => none
  | first :: rest =>
    if first = '\'' then
      (unquote? rest).map fun (text, behind) => ('\'' :: doubleQuotes text ++ ['\''], behind)
    else if isWordChar first then
      some (first :: rest.takeWhile isWordChar, rest.dropWhile isWordChar)
    else none

end Text

open Text

/-! ## Operands -/

/-- The words that are literals although they look like members. -/
def literalWords : List String := ["null", "true", "false"]

/-- A character of a path: one of an identifier, or the slash. -/
def isPathChar (char : Char) : Bool := isIdentifierPart char || char == '/'

/-- Whether an atom is the path of a member: identifiers and slashes, and no literal. -/
def isMemberAtom (atom : List Char) : Bool :=
  !(literalWords.map String.toList).contains atom && atom.head?.any isIdentifierStart &&
    atom.all isPathChar

/-- The reading of an atom that stands for itself. -/
def atomReading (atom : List Char) : FilterReading :=
  if isMemberAtom atom then .member ((atom.splitOn '/').map String.ofList)
  else .literal (.ok (String.ofList atom))

/-- The string function of a keyword. -/
def functionOf? (atom : List Char) : Option StringFunction :=
  [StringFunction.contains, .startsWith, .endsWith].find? (·.keyword.toList == atom)

/-- Read an operand: an atom, or a call if a parenthesis follows the atom. -/
def readOperand? : Nat → List Char → Option (FilterReading × List Char)
  | 0, _ => none
  | depth + 1, chars => do
    let (atom, rest) ← readAtom? chars
    match skip? ['('] rest with
    | none => some (atomReading atom, rest)
    | some inner =>
      let function ← functionOf? atom
      let (receiver, rest) ← readOperand? depth inner
      let rest ← skip? [','] rest
      let (argument, rest) ← readOperand? depth rest
      let rest ← skip? [')'] rest
      some (.call (some function) receiver argument, rest)

/-! ## Conditions -/

/-- Read the values of a set, up to the parenthesis that closes it. -/
def readValues? : Nat → List Char → Option (List (List Char) × List Char)
  | 0, _ => none
  | depth + 1, chars => do
    let (atom, rest) ← readAtom? chars
    match skip? [','] rest with
    | some more =>
      let (atoms, rest) ← readValues? depth more
      some (atom :: atoms, rest)
    | none =>
      let rest ← skip? [')'] rest
      some ([atom], rest)

/-- What begins behind the item of a membership test. -/
def membershipMark : List Char := " in (".toList

/-- Read on behind an operand: it is the item of a membership test, or stands alone. -/
def readMembership? (depth : Nat) (item : FilterReading) (rest : List Char) :
    Option (FilterReading × List Char) :=
  match skip? membershipMark rest with
  | none => some (item, rest)
  | some inner => do
    let (atoms, rest) ← readValues? depth inner
    some (.membership item (.collection (atoms.map fun atom => .ok (String.ofList atom))), rest)

/-- What a keyword between two sides makes of them. -/
def infixes : List (String × (FilterReading → FilterReading → FilterReading)) :=
  [ComparisonOp.eq, .ne, .lt, .le, .gt, .ge].map (fun op => (op.keyword, .comparison op)) ++
    [LogicalOp.and, .or].map (fun op => (op.keyword, .logical op))

/-- Read a keyword between blanks. -/
def readInfix? (chars : List Char) :
    Option ((FilterReading → FilterReading → FilterReading) × List Char) := do
  let chars ← skip? [' '] chars
  let (atom, rest) ← readAtom? chars
  let rest ← skip? [' '] rest
  let node ← infixes.lookup (String.ofList atom)
  some (node, rest)

/-- Read a condition. A parenthesis opens an infix condition; an atom with a blank and a parenthesis
behind it is the word of a negation; any other atom begins an operand. -/
def readCondition? : Nat → List Char → Option (FilterReading × List Char)
  | 0, _ => none
  | depth + 1, chars =>
    match skip? ['('] chars with
    | some inner => do
      let (left, rest) ← readCondition? depth inner
      let (node, rest) ← readInfix? rest
      let (right, rest) ← readCondition? depth rest
      let rest ← skip? [')'] rest
      some (node left right, rest)
    | none => do
      let (atom, behind) ← readAtom? chars
      match skip? [' ', '('] behind with
      | some inner =>
        if atom = "not".toList then
          let (condition, rest) ← readCondition? depth inner
          let rest ← skip? [')'] rest
          some (.negation condition, rest)
        else none
      | none =>
        let (operand, rest) ← readOperand? (depth + 1) chars
        readMembership? (depth + 1) operand rest

/-- Read a whole filter text. -/
def readFilter? (text : String) : Option FilterReading :=
  match readCondition? (text.length + 1) text.toList with
  | some (reading, []) => some reading
  | _ => none

end ODataClient

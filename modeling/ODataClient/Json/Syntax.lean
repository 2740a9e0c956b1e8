import ODataClient.Json.Value
import ODataClient.Text.Hexadecimal

/-! # JSON texts
The reading of JSON in two steps. The first accepts the grammar and keeps everything as written:
numbers of any size, members with equal keys, nesting of any depth. The second gives a text its
value, which exists only within bounds on nesting and on the range of numbers; of members with equal
keys the last one counts. -/

namespace ODataClient

/-- A JSON text as it is written. -/
inductive JsonSyntax
  /-- The word `null`. -/
  | null
  /-- The words `true` and `false`. -/
  | bool (value : Bool)
  /-- A number. -/
  | number (text : NumberText)
  /-- A string; none if an escape of it stands for half a character. -/
  | string (text : Option String)
  /-- A list of texts. -/
  | array (items : List JsonSyntax)
  /-- Named texts. -/
  | object (members : List (Option String × JsonSyntax))
deriving Repr

namespace JsonSyntax

/-! ## Characters and words -/

/-- The white space of the grammar. -/
def isSpace (char : Char) : Bool :=
  char == ' ' || char == '\n' || char == '\t' || char == '\r'

/-- The rest of a text behind white space. -/
def skipSpace (chars : List Char) : List Char := chars.dropWhile isSpace

/-- The value of a decimal digit. -/
def digit? (char : Char) : Option Nat :=
  if char.isDigit then some (char.toNat - 48) else none

/-- The digits at the front of a text, and the rest. -/
def digits : List Char → List Nat × List Char
  | [] => ([], [])
  | char :: rest =>
    match digit? char with
    | some digit => (digit :: (digits rest).1, (digits rest).2)
    | none => ([], char :: rest)

/-- The rest of a text behind a word. -/
def afterWord : List Char → List Char → Option (List Char)
  | [], chars => some chars
  | letter :: word, char :: chars => if letter = char then afterWord word chars else none
  | _ :: _, [] => none

/-! ## Numbers -/

/-- Digits before the point: a zero alone, or digits that do not begin with a zero. -/
def wholePart (chars : List Char) : Option (List Nat × List Char) :=
  match digits chars with
  | ([], _) => none
  | (0 :: _ :: _, _) => none
  | (whole, rest) => some (whole, rest)

/-- A point and at least one digit, or nothing. -/
def fractionPart : List Char → Option (List Nat × List Char)
  | '.' :: rest =>
    match digits rest with
    | ([], _) => none
    | (fraction, rest) => some (fraction, rest)
  | chars => some ([], chars)

/-- The sign of an exponent: whether it is negative, and the rest. -/
def exponentSign : List Char → Bool × List Char
  | '+' :: rest => (false, rest)
  | '-' :: rest => (true, rest)
  | chars => (false, chars)

/-- The digits of an exponent behind its mark, at least one. -/
def exponentDigits (chars : List Char) : Option (Option Int × List Char) :=
  let (negative, chars) := exponentSign chars
  match digits chars with
  | ([], _) => none
  | (found, rest) =>
    let value : Int := (found.foldl (10 * · + ·) 0 : Nat)
    some (some (if negative then -value else value), rest)

/-- An exponent, or nothing. -/
def exponentPart : List Char → Option (Option Int × List Char)
  | 'e' :: rest => exponentDigits rest
  | 'E' :: rest => exponentDigits rest
  | chars => some (none, chars)

/-- A number without its sign. -/
def unsignedNumber (negative : Bool) (chars : List Char) : Option (NumberText × List Char) := do
  let (whole, chars) ← wholePart chars
  let (fraction, chars) ← fractionPart chars
  let (exponent, chars) ← exponentPart chars
  return ({ negative, whole, fraction, exponent }, chars)

/-! ## Strings -/

/-- A character of a string as it is written: itself, or a 16-bit unit by its number. -/
inductive StringPart
  /-- A character. -/
  | char (char : Char)
  /-- An escaped unit. -/
  | unit (code : Nat)
deriving DecidableEq, Repr

/-- Put a part in front of the parts that follow. -/
def withPart (part : StringPart) (following : Option (List StringPart × List Char)) :
    Option (List StringPart × List Char) :=
  following.map fun (parts, rest) => (part :: parts, rest)

/-- The parts of a string behind its opening quote, and the rest behind the closing one. -/
def stringParts : List Char → Option (List StringPart × List Char)
  | [] => none
  | '"' :: rest => some ([], rest)
  | '\\' :: '"' :: rest => withPart (.char '"') (stringParts rest)
  | '\\' :: '\\' :: rest => withPart (.char '\\') (stringParts rest)
  | '\\' :: '/' :: rest => withPart (.char '/') (stringParts rest)
  | '\\' :: 'b' :: rest => withPart (.char '\x08') (stringParts rest)
  | '\\' :: 'f' :: rest => withPart (.char '\x0c') (stringParts rest)
  | '\\' :: 'n' :: rest => withPart (.char '\n') (stringParts rest)
  | '\\' :: 'r' :: rest => withPart (.char '\r') (stringParts rest)
  | '\\' :: 't' :: rest => withPart (.char '\t') (stringParts rest)
  | '\\' :: 'u' :: a :: b :: c :: d :: rest =>
    match Text.hexDigit? a, Text.hexDigit? b, Text.hexDigit? c, Text.hexDigit? d with
    | some a, some b, some c, some d =>
      withPart (.unit (((a * 16 + b) * 16 + c) * 16 + d)) (stringParts rest)
    | _, _, _, _ => none
  | '\\' :: _ => none
  | char :: rest => if char.toNat < 32 then none else withPart (.char char) (stringParts rest)

/-- Whether a unit is the first half of a character. -/
def isHighHalf (code : Nat) : Bool := 0xD800 ≤ code && code < 0xDC00

/-- Whether a unit is the second half of a character. -/
def isLowHalf (code : Nat) : Bool := 0xDC00 ≤ code && code < 0xE000

/-- The characters that parts stand for; none if a half has no partner. -/
def joinParts : List StringPart → Option (List Char)
  | [] => some []
  | .char char :: rest => (joinParts rest).map (char :: ·)
  | .unit high :: .unit low :: rest =>
    if isHighHalf high then
      if isLowHalf low then
        (joinParts rest).map
          (Char.ofNat (0x10000 + (high - 0xD800) * 0x400 + (low - 0xDC00)) :: ·)
      else none
    else if isLowHalf high then none
    else (joinParts (.unit low :: rest)).map (Char.ofNat high :: ·)
  | .unit code :: rest =>
    if isHighHalf code || isLowHalf code then none
    else (joinParts rest).map (Char.ofNat code :: ·)

/-- A string behind its opening quote. -/
def stringBody (chars : List Char) : Option (Option String × List Char) := do
  let (parts, rest) ← stringParts chars
  return ((joinParts parts).map String.ofList, rest)

/-! ## Texts -/

/-- A key and the colon behind it; white space before either is skipped. -/
def readKey (chars : List Char) : Option (Option String × List Char) :=
  match skipSpace chars with
  | '"' :: rest => do
    let (key, rest) ← stringBody rest
    match skipSpace rest with
    | ':' :: rest => return (key, rest)
    | _ => none
  | _ => none

mutual

/-- A text at the front of the characters, and the rest; white space before it is skipped. Each call
uses up a unit of fuel, of which a text never needs more than two for each of its characters. -/
def readValue : Nat → List Char → Option (JsonSyntax × List Char)
  | 0, _ => none
  | fuel + 1, chars =>
    match skipSpace chars with
    | 'n' :: rest => (afterWord ['u', 'l', 'l'] rest).map (null, ·)
    | 't' :: rest => (afterWord ['r', 'u', 'e'] rest).map (bool true, ·)
    | 'f' :: rest => (afterWord ['a', 'l', 's', 'e'] rest).map (bool false, ·)
    | '"' :: rest => (stringBody rest).map fun (text, rest) => (string text, rest)
    | '-' :: rest => (unsignedNumber true rest).map fun (text, rest) => (number text, rest)
    | '[' :: rest =>
      match skipSpace rest with
      | ']' :: rest => some (array [], rest)
      | rest => (readItems fuel rest).map fun (items, rest) => (array items, rest)
    | '\x7b' :: rest =>
      match skipSpace rest with
      | '\x7d' :: rest => some (object [], rest)
      | rest => (readMembers fuel rest).map fun (members, rest) => (object members, rest)
    | rest => (unsignedNumber false rest).map fun (text, rest) => (number text, rest)

/-- The items of an array behind its opening bracket, at least one. -/
def readItems : Nat → List Char → Option (List JsonSyntax × List Char)
  | 0, _ => none
  | fuel + 1, chars => do
    let (item, rest) ← readValue fuel chars
    match skipSpace rest with
    | ',' :: rest => do
      let (items, rest) ← readItems fuel rest
      return (item :: items, rest)
    | ']' :: rest => return ([item], rest)
    | _ => none

/-- The members of an object behind its opening bracket, at least one. -/
def readMembers : Nat → List Char → Option (List (Option String × JsonSyntax) × List Char)
  | 0, _ => none
  | fuel + 1, chars => do
    let (key, rest) ← readKey chars
    let (value, rest) ← readValue fuel rest
    match skipSpace rest with
    | ',' :: rest => do
      let (members, rest) ← readMembers fuel rest
      return ((key, value) :: members, rest)
    | '\x7d' :: rest => return ([(key, value)], rest)
    | _ => none

end

/-- Read a whole text. -/
def parse? (text : String) : Option JsonSyntax :=
  let chars := text.toList
  match readValue (2 * chars.length + 2) chars with
  | some (tree, rest) => if (skipSpace rest).isEmpty then some tree else none
  | none => none

/-! ## Values -/

mutual

/-- The value of a text whose arrays and objects are nested at most `depth` deep. -/
def value? : Nat → JsonSyntax → Option JsonValue
  | _, null => some .null
  | _, bool value => some (.bool value)
  | _, number text => (JsonNumber.ofText? text).map .number
  | _, string text => text.map .string
  | 0, array _ => none
  | depth + 1, array items => (itemValues? depth items).map .array
  | 0, object _ => none
  | depth + 1, object members => (memberValues? depth members).map JsonValue.ofMembers

/-- The values of texts, if all have one. -/
def itemValues? : Nat → List JsonSyntax → Option (List JsonValue)
  | _, [] => some []
  | depth, item :: rest => do
    let value ← value? depth item
    let values ← itemValues? depth rest
    return value :: values

/-- The members of an object in their written order, if all have a key and a value. -/
def memberValues? : Nat → List (Option String × JsonSyntax) → Option (List (String × JsonValue))
  | _, [] => some []
  | depth, (key, item) :: rest => do
    let key ← key
    let value ← value? depth item
    let values ← memberValues? depth rest
    return (key, value) :: values

end

/-- How deep arrays and objects may be nested. -/
def maxDepth : Nat := 127

/-- The text that a string is. -/
def string? : JsonSyntax → Option String
  | string text => text
  | _ => none

end JsonSyntax

/-- Read a whole text as a value. -/
def JsonValue.parse? (text : String) : Option JsonValue := do
  let tree ← JsonSyntax.parse? text
  tree.value? JsonSyntax.maxDepth

end ODataClient

/-! # Punycode
The ASCII form of a label with other characters: its ASCII characters, and then the places of the
others, in ascending order of code point, as numbers in a variable-length base of thirty-six. The
thresholds between digits adapt to the size of the numbers written before. -/

namespace ODataClient.Punycode

/-- The first code point that needs a place. -/
def firstCode : Nat := 128

/-- The thresholds at the start. -/
def initialBias : Nat := 72

/-- The character of a digit below thirty-six. -/
def digitChar (digit : Nat) : Char :=
  if digit < 26 then Char.ofNat (97 + digit) else Char.ofNat (22 + digit)

/-- The digit of a character. -/
def digit? (char : Char) : Option Nat :=
  if 'a' ≤ char ∧ char ≤ 'z' then some (char.toNat - 97)
  else if 'A' ≤ char ∧ char ≤ 'Z' then some (char.toNat - 65)
  else if '0' ≤ char ∧ char ≤ '9' then some (char.toNat - 22)
  else none

/-- The threshold of a digit at a position that is a multiple of thirty-six. -/
def threshold (bias position : Nat) : Nat :=
  if position ≤ bias then 1 else if bias + 26 ≤ position then 26 else position - bias

theorem threshold_bounds (bias position : Nat) :
    1 ≤ threshold bias position ∧ threshold bias position ≤ 26 := by
  unfold threshold
  split
  · omega
  · split <;> omega

/-- The bias that a reduced number leads to. -/
def reduce (delta position : Nat) : Nat :=
  if 455 < delta then reduce (delta / 35) (position + 36)
  else position + 36 * delta / (delta + 38)
termination_by delta

/-- The bias after a number has been written. -/
def adapt (delta count : Nat) (first : Bool) : Nat :=
  let damped := if first then delta / 700 else delta / 2
  reduce (damped + damped / count) 0

/-- The digits of a number. -/
def encodeNumber (bias position number : Nat) : List Char :=
  let least := threshold bias position
  if number < least then [digitChar number]
  else
    digitChar (least + (number - least) % (36 - least)) ::
      encodeNumber bias (position + 36) ((number - least) / (36 - least))
termination_by number
decreasing_by
  have bounds := threshold_bounds bias position
  have := Nat.div_le_self (number - threshold bias position) (36 - threshold bias position)
  omega

/-- The state of writing. -/
structure Encoder where
  /-- What is written. -/
  output : List Char
  /-- The places passed over since the last number. -/
  delta : Nat
  /-- The thresholds. -/
  bias : Nat
  /-- The characters that have their place. -/
  handled : Nat

/-- Pass one character of the label, writing the number of places if it is the current one. -/
def Encoder.pass (basicCount code : Nat) (state : Encoder) (char : Char) : Encoder :=
  if char.toNat < code then { state with delta := state.delta + 1 }
  else if char.toNat = code then
    { output := state.output ++ encodeNumber state.bias 36 state.delta
      delta := 0
      bias := adapt state.delta (state.handled + 1) (state.handled == basicCount)
      handled := state.handled + 1 }
  else state

/-- Write the places of the characters with the given code points, from `next` on. -/
def Encoder.run (label : List Char) (basicCount : Nat) : List Nat → Nat → Encoder → Encoder
  | [], _, state => state
  | code :: rest, next, state =>
    let moved := { state with delta := state.delta + (code - next) * (state.handled + 1) }
    let passed := label.foldl (Encoder.pass basicCount code) moved
    run label basicCount rest (code + 1) { passed with delta := passed.delta + 1 }

/-- The written form of a label. -/
def encode (label : List Char) : List Char :=
  let basic := label.filter (·.toNat < firstCode)
  let codes := ((label.map Char.toNat).filter (firstCode ≤ ·)).mergeSort.eraseDups
  let start := { output := [], delta := 0, bias := initialBias, handled := basic.length }
  (if basic.isEmpty then [] else basic ++ ['-']) ++
    (Encoder.run label basic.length codes firstCode start).output

/-- The numbers of a written form stay below this bound. -/
def numberLimit : Nat := Nat.pow 2 32

/-- The number at the front of a text, and the rest. -/
def decodeNumber (bias : Nat) : Nat → Nat → Nat → List Char → Option (Nat × List Char)
  | _, _, _, [] => none
  | position, weight, sum, char :: rest =>
    match digit? char with
    | none => none
    | some digit =>
      let least := threshold bias position
      let total := sum + digit * weight
      if numberLimit ≤ total ∨ numberLimit ≤ weight then none
      else if digit < least then some (total, rest)
      else decodeNumber bias (position + 36) (weight * (36 - least)) total rest

/-- A number takes at least one character. -/
theorem length_lt_of_decodeNumber {bias position weight sum total : Nat} {text rest : List Char}
    (h : decodeNumber bias position weight sum text = some (total, rest)) :
    rest.length < text.length := by
  induction text generalizing position weight sum with
  | nil => simp [decodeNumber] at h
  | cons char text ih =>
    rw [decodeNumber] at h
    split at h
    · simp at h
    · dsimp only at h
      split at h
      · simp at h
      · split at h
        · simp only [Option.some.injEq, Prod.mk.injEq] at h
          simp [h.2]
        · exact Nat.lt_succ_of_lt (ih h)

/-- Put the characters whose places are written into a label. -/
def decodePlaces (code index bias : Nat) (label text : List Char) : Option (List Char) :=
  if text = [] then some label
  else
    match _read : decodeNumber bias 36 1 0 text with
    | none => none
    | some (delta, rest) =>
      let count := label.length + 1
      let place := index + delta
      let next := code + place / count
      if next.isValidChar then
        decodePlaces next (place % count + 1) (adapt delta count (index == 0))
          (label.insertIdx (place % count) (Char.ofNat next)) rest
      else none
termination_by text.length
decreasing_by exact length_lt_of_decodeNumber _read

/-- The ASCII characters of a written form and the rest behind the last hyphen; a hyphen with nothing
before it belongs to the rest. -/
def splitBasic (text : List Char) : List Char × List Char :=
  let reversed := text.reverse
  match reversed.dropWhile (· != '-') with
  | '-' :: basic =>
    if basic.isEmpty then ([], text)
    else (basic.reverse, (reversed.takeWhile (· != '-')).reverse)
  | _ => ([], text)

/-- The label of a written form. -/
def decode (text : List Char) : Option (List Char) :=
  let (basic, places) := splitBasic text
  if basic.all (·.toNat < firstCode) then
    decodePlaces firstCode 0 initialBias basic places
  else none

end ODataClient.Punycode

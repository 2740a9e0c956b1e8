import ODataClient.Number.Notation
import ODataClient.Url.Domain

/-! # Hosts
The hosts of web addresses: domains in their ASCII form, addresses of the fourth and sixth version of
the internet protocol, and, outside the special schemes, any text. -/

namespace ODataClient

/-- The cause why a text is no address. -/
inductive UrlError
  /-- A host is needed and there is none. -/
  | emptyHost
  /-- The domain has no ASCII form. -/
  | invalidDomain
  /-- The host holds a character that no host may have. -/
  | invalidHostCharacter
  /-- The port is no number below 65536. -/
  | invalidPort
  /-- The host ends in a number and is no address of the fourth version. -/
  | invalidIpv4
  /-- The host is in brackets and is no address of the sixth version. -/
  | invalidIpv6
  /-- The text has no scheme and there is no address to resolve it against. -/
  | missingBase
  /-- The text has no scheme and the address to resolve it against has no hierarchy. -/
  | opaqueBase
deriving DecidableEq, Repr

/-- The message of an error. -/
def UrlError.message : UrlError → String
  | emptyHost => "empty host"
  | invalidDomain => "invalid international domain name"
  | invalidHostCharacter => "invalid domain character"
  | invalidPort => "invalid port number"
  | invalidIpv4 => "invalid IPv4 address"
  | invalidIpv6 => "invalid IPv6 address"
  | missingBase => "relative URL without a base"
  | opaqueBase => "relative URL with a cannot-be-a-base base"

namespace Host

/-- The number that digits of a base denote; digits of no value make it none. -/
def numeral? (base : Nat) (chars : List Char) : Option Nat := do
  let digits ← chars.mapM Text.hexDigit?
  if digits.all (· < base) then some (digits.foldl (base * · + ·) 0) else none

/-! ## Addresses of the fourth version -/

/-- A number of an address: decimal, octal behind a zero, or hexadecimal behind `0x`. -/
def ipv4Number? (chars : List Char) : Option Nat :=
  match chars with
  | [] => none
  | '0' :: 'x' :: rest => numeral? 16 rest
  | '0' :: 'X' :: rest => numeral? 16 rest
  | '0' :: digit :: rest => numeral? 8 (digit :: rest)
  | _ => numeral? 10 chars

/-- The parts of a domain without an empty one at its end. -/
def numericParts (domain : List Char) : List (List Char) :=
  let parts := Text.splitAtChar '.' domain
  if parts.length ≠ 1 ∧ parts.getLast? = some [] then parts.dropLast else parts

/-- Whether the last part of a domain is a number. -/
def endsInNumber (domain : List Char) : Bool :=
  match (numericParts domain).getLast? with
  | none => false
  | some part => (!part.isEmpty && part.all Char.isDigit) || (ipv4Number? part).isSome

/-- The address whose last number fills all the bytes that the others leave. -/
def ipv4Value? : List Nat → Nat → Option Nat
  | [], _ => none
  | [last], room => if last < Nat.pow 256 room then some last else none
  | number :: rest, room => do
    let value ← ipv4Value? rest (room - 1)
    if number ≤ 255 then some (number * Nat.pow 256 (room - 1) + value) else none

/-- The address that a domain denotes. -/
def ipv4? (domain : List Char) : Option Nat := do
  let parts := numericParts domain
  if 4 < parts.length then none
  ipv4Value? (← parts.mapM ipv4Number?) 4

/-- The four numbers of an address joined by dots. -/
def ipv4Text (address : Nat) : String :=
  ".".intercalate
    ([3, 2, 1, 0].map fun place => naturalText (address / Nat.pow 256 place % 256))

/-! ## Addresses of the sixth version -/

/-- One number of an address of the fourth version inside one of the sixth: no leading zeros. -/
def dottedNumber? (chars : List Char) : Option Nat :=
  match chars with
  | [] => none
  | ['0'] => some 0
  | '0' :: _ => none
  | _ => (numeral? 10 chars).filter (· ≤ 255)

/-- Two pieces written as an address of the fourth version. -/
def dottedPieces? (chars : List Char) : Option (List Nat) := do
  match ← (Text.splitAtChar '.' chars).mapM dottedNumber? with
  | [a, b, c, d] => some [a * 256 + b, c * 256 + d]
  | _ => none

/-- One piece of at most four hexadecimal digits. -/
def piece? (chars : List Char) : Option Nat :=
  if chars.isEmpty || 4 < chars.length then none else numeral? 16 chars

/-- Pieces between colons; the last two may be written as an address of the fourth version. -/
def pieces? (dotted : Bool) : List (List Char) → Option (List Nat)
  | [] => some []
  | [last] =>
    if dotted && last.contains '.' then dottedPieces? last else (piece? last).map ([·])
  | group :: rest => do
    let piece ← piece? group
    let pieces ← pieces? dotted rest
    return piece :: pieces

/-- The texts before and behind the first double colon. -/
def splitAtDoubleColon : List Char → Option (List Char × List Char)
  | [] => none
  | ':' :: ':' :: rest => some ([], rest)
  | char :: rest => (splitAtDoubleColon rest).map fun (before, behind) => (char :: before, behind)

/-- The groups of a text between single colons; an empty text has none. -/
def groups (chars : List Char) : List (List Char) :=
  if chars.isEmpty then [] else Text.splitAtChar ':' chars

/-- The eight pieces of an address; a double colon stands for the zeros that are missing. -/
def ipv6? (chars : List Char) : Option (List Nat) :=
  match splitAtDoubleColon chars with
  | none => do
    let pieces ← pieces? true (groups chars)
    if pieces.length = 8 then some pieces else none
  | some (before, behind) => do
    let front ← pieces? false (groups before)
    let back ← pieces? true (groups behind)
    if front.length + back.length ≤ 7 then
      some (front ++ List.replicate (8 - front.length - back.length) 0 ++ back)
    else none

/-- The number of zeros at the front of a list. -/
def leadingZeros (pieces : List Nat) : Nat := (pieces.takeWhile (· == 0)).length

/-- The start and length of the first longest run of zeros. -/
def longestZeros (pieces : List Nat) : Nat × Nat :=
  (List.range pieces.length).foldl
    (fun best start =>
      let run := leadingZeros (pieces.drop start)
      if best.2 < run then (start, run) else best)
    (0, 0)

/-- A piece in lower-case hexadecimal digits. -/
def pieceText (piece : Nat) : String := String.ofList (Nat.toDigits 16 piece)

/-- The pieces between colons; the first longest run of at least two zeros is a double colon. -/
def ipv6Text (pieces : List Nat) : String :=
  let (start, run) := longestZeros pieces
  let join := fun part => ":".intercalate (part.map pieceText)
  "[" ++
    (if run < 2 then join pieces
    else join (pieces.take start) ++ "::" ++ join (pieces.drop (start + run))) ++ "]"

/-! ## Hosts of all kinds -/

/-- A host in brackets. -/
def bracketed? (chars : List Char) : Except UrlError String :=
  match chars.reverse with
  | ']' :: reversed =>
    match ipv6? reversed.reverse.tail with
    | some pieces => .ok (ipv6Text pieces)
    | none => .error .invalidIpv6
  | _ => .error .invalidIpv6

/-- The host of a special scheme. -/
def special (text : String) : Except UrlError String :=
  if text.toList.head? = some '[' then bracketed? text.toList
  else
    match Domain.toAscii? text with
    | none => .error .invalidDomain
    | some domain =>
      if domain.isEmpty then .error .emptyHost
      else if endsInNumber domain then
        match ipv4? domain with
        | some address => .ok (ipv4Text address)
        | none => .error .invalidIpv4
      else .ok (String.ofList domain)

/-- A character that no host may hold. -/
def isForbiddenInHost (char : Char) : Bool :=
  char.toNat == 0 || "\t\n\r #/:<>?@[\\]^|".toList.contains char

end Host

end ODataClient

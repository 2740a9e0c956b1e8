import ODataClient.Response.SubResponse
import ODataClient.Text.Blank

/-! # Envelopes
What a successful response carries: a page of records with a link to the next one, or the answers to
a batch. The body is read in two steps, first into untyped values, then into records. -/

namespace ODataClient

/-- The content of a successful response. -/
structure Envelope (α : Type) where
  /-- The status code. -/
  status : Nat
  /-- The records of the page. -/
  records : List α
  /-- The link to the next page. -/
  nextLink : Option String
  /-- The number of records on all pages. -/
  count : Option Nat
  /-- The answers to the requests of a batch. -/
  answers : List SubResponse
deriving Repr

namespace Envelope

/-- An envelope that carries nothing but a status code. -/
def empty {α : Type} (status : Nat) : Envelope α := ⟨status, [], none, none, []⟩

/-- Whether another page follows. -/
def hasNext {α : Type} (envelope : Envelope α) : Bool := envelope.nextLink.isSome

/-- The fields of an envelope. -/
def fieldNames : List String := ["value", "@odata.nextLink", "@odata.count", "responses"]

/-- The largest count. -/
def maxCount : Nat := Nat.pow 2 64 - 1

/-- The content of an array, each item read. -/
def list? {α : Type} (read : JsonValue → Option α) (value : JsonValue) : Option (List α) := do
  (← value.array?).mapM read

/-- A field that may be left out or absent. -/
def optional {α : Type} (read : JsonValue → Option α) : Option JsonValue → Option (Option α) :=
  JsonValue.fieldOr none (JsonValue.nullable? read)

/-- The envelope that the members of an object make up. -/
def ofFields (status : Nat) : List (Option JsonValue) → Option (Envelope JsonValue)
  | [value, nextLink, count, answers] => do
    return {
      status
      records := (← optional (list? some) value).getD []
      nextLink := ← optional JsonValue.string? nextLink
      count := ← optional (JsonValue.nat? maxCount) count
      answers := (← optional (list? SubResponse.ofValue?) answers).getD [] }
  | _ => none

/-- The envelope in the body of a successful response. A blank body and a value that is no object
make an empty envelope. -/
def ofBody (status : Nat) (body : String) : Except Error (Envelope JsonValue) :=
  if Text.isBlankText body then .ok (empty status)
  else
    match JsonValue.parse? body with
    | none => .error (.decode .malformed (some body))
    | some (.object members) =>
      match (JsonValue.object members).fields? fieldNames >>= ofFields status with
      | some envelope => .ok envelope
      | none => .error (.decode .malformed (some body))
    | some _ => .ok (empty status)

/-- The untyped envelope of a response, or the error that it reports. -/
def ofResponse (response : Response) : Except Error (Envelope JsonValue) :=
  if response.isSuccess then ofBody response.status response.body
  else .error (.api (.ofResponse response.status response.body))

/-- The records that values are, from the one at `index` on, or the index of the first that is
none. -/
def readRecords {α : Type} (type : RecordType α) : Nat → List JsonValue → Except Nat (List α)
  | _, [] => .ok []
  | index, value :: rest =>
    match type.read value with
    | none => .error index
    | some record => (readRecords type (index + 1) rest).map (record :: ·)

/-- The envelope with its values read as records, or the error that names the first that is none. -/
def typed {α : Type} (type : RecordType α) (envelope : Envelope JsonValue) :
    Except Error (Envelope α) :=
  match readRecords type 0 envelope.records with
  | .ok records => .ok { envelope with records }
  | .error index => .error (.decode (.badRecord index) none)

end Envelope

end ODataClient

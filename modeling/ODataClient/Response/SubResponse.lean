import ODataClient.Http.Error
import ODataClient.Response.Record

/-! # Answers inside a batch
The answer to one request of a batch. Its body is kept as a JSON value and read on demand, so a body
of an unexpected shape is no concern of the other answers. -/

namespace ODataClient

namespace ErrorDetail

/-- The fields of a detail. -/
def fieldNames : List String := ["code", "message"]

/-- The field of an error body that holds the detail. -/
def outerNames : List String := ["error"]

/-- A detail from its fields. -/
def ofFields {α : Type} (string? : α → Option String) : List (Option α) → Option ErrorDetail
  | [some code, some message] => do
    let code ← string? code
    let message ← string? message
    return ⟨code, message⟩
  | _ => none

/-- The only field of an error body. -/
def inner {α : Type} : List (Option α) → Option α
  | [some inner] => some inner
  | _ => none

/-- The detail in an error body given as a value. -/
def ofValue? (body : JsonValue) : Option ErrorDetail := do
  let inner ← inner (← body.fields? outerNames)
  ofFields JsonValue.string? (← inner.fields? fieldNames)

/-- The detail in an error body given as a text. -/
def ofText? (body : String) : Option ErrorDetail := do
  let inner ← inner (← (← JsonSyntax.parse? body).fields? outerNames)
  ofFields JsonSyntax.string? (← inner.fields? fieldNames)

end ErrorDetail

/-- The error of a response that reports no success. -/
def ApiError.ofResponse (status : Nat) (body : String) : ApiError :=
  { status, detail := ErrorDetail.ofText? body, body }

/-- The answer to one request of a batch. -/
structure SubResponse where
  /-- The id of the request. -/
  id : String
  /-- The status code. -/
  status : Nat
  /-- The headers, one for each spelling of a name. -/
  headers : List (String × String)
  /-- The body. -/
  body : JsonValue
deriving Repr

namespace SubResponse

/-- The largest status code. -/
def maxStatus : Nat := Nat.pow 2 16 - 1

/-- The largest numeric id. -/
def maxId : Nat := Nat.pow 2 64 - 1

/-- The fields of an answer. -/
def fieldNames : List String := ["id", "status", "headers", "body"]

/-- An id sent as a text or as a natural number, as a text. -/
def id? : JsonValue → Option String
  | .string text => some text
  | value => (value.nat? maxId).map naturalText

/-- Header values by name. -/
def headers? : JsonValue → Option (List (String × String))
  | .object members => members.mapM fun (name, value) => value.string?.map (name, ·)
  | _ => none

/-- An answer from the values of its fields; headers and body may be left out. -/
def ofFields : List (Option JsonValue) → Option SubResponse
  | [some id, some status, headers, body] => do
    return {
      id := ← id? id
      status := ← status.nat? maxStatus
      headers := ← JsonValue.fieldOr [] headers? headers
      body := body.getD .null }
  | _ => none

/-- The answer that a value is. -/
def ofValue? (value : JsonValue) : Option SubResponse := do
  ofFields (← value.fields? fieldNames)

/-- The values of fields given as texts, each nested at most as deep as is left below the record. -/
def fieldValues? : List (Option JsonSyntax) → Option (List (Option JsonValue))
  | [] => some []
  | none :: rest => (fieldValues? rest).map (none :: ·)
  | some field :: rest => do
    let value ← field.value? (JsonSyntax.maxDepth - 1)
    let values ← fieldValues? rest
    return some value :: values

/-- The answer that a text is. -/
def ofText? (text : String) : Option SubResponse := do
  ofFields (← fieldValues? (← (← JsonSyntax.parse? text).fields? fieldNames))

/-- Whether the answer reports success. -/
def isSuccess (answer : SubResponse) : Bool := isSuccessStatus answer.status

/-- The record that the whole body is. -/
def decode {α : Type} (answer : SubResponse) (type : RecordType α) : Option α :=
  type.read answer.body

/-- The records in the `value` array of the body. -/
def records {α : Type} (answer : SubResponse) (type : RecordType α) : Option (List α) := do
  match ← answer.body.fields? ["value"] with
  | [some value] => (← value.array?).mapM type.read
  | _ => none

/-- The error of an answer that reports no success. -/
def error? (answer : SubResponse) : Option ApiError :=
  if answer.isSuccess then none
  else some {
    status := answer.status
    detail := ErrorDetail.ofValue? answer.body
    body := answer.body.text }

/-- The value of the first header whose name agrees up to the case of ASCII letters. -/
def header? (answer : SubResponse) (name : String) : Option String :=
  (answer.headers.find? (Text.equalIgnoringAsciiCase ·.1 name)).map (·.2)

end SubResponse

end ODataClient

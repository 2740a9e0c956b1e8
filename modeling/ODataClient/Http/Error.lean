import ODataClient.Http.Message
import ODataClient.Query.Error

/-! # Errors of a client
The ways in which a call can fail: the query has no written form, the request could not be
decorated or sent, the service answered with an error, or its answer could not be read. -/

namespace ODataClient

/-- The cause why a request got no response. -/
inductive TransportError
  /-- No connection. -/
  | connect (detail : String)
  /-- No response in time. -/
  | timeout (detail : String)
  /-- Any other failure of the network. -/
  | network (detail : String)
  /-- The circuit breaker rejected the call and may admit one after a while. -/
  | circuitOpen (retryAfter : Duration)
deriving DecidableEq, Repr

namespace TransportError

/-- The message of an error. -/
def message : TransportError → String
  | connect detail => "Connection failed: " ++ detail
  | timeout detail => "Request timed out: " ++ detail
  | network detail => "Network error: " ++ detail
  | circuitOpen retryAfter => "Circuit open, retry after " ++ Duration.text retryAfter

/-- Whether the failure may pass by itself: all but a rejection by the breaker. -/
def isTransient : TransportError → Bool
  | circuitOpen _ => false
  | _ => true

end TransportError

/-- The result of sending a request: a response, or the cause why there is none. -/
abbrev Outcome := Except TransportError Response

/-- What a service says about an error. -/
structure ErrorDetail where
  /-- A code for programs. -/
  code : String
  /-- A message for people. -/
  message : String
deriving DecidableEq, Repr

/-- A code and message on one line. -/
def ErrorDetail.text (detail : ErrorDetail) : String :=
  "[" ++ detail.code ++ "] " ++ detail.message

/-- A response that reports no success. -/
structure ApiError where
  /-- The status code. -/
  status : Nat
  /-- What the service says, if the body tells. -/
  detail : Option ErrorDetail
  /-- The body as it was sent. -/
  body : String
deriving DecidableEq, Repr

namespace ApiError

/-- Whether the service is to blame. -/
def isServerError (error : ApiError) : Bool := isServerErrorStatus error.status

/-- The message of an error: its detail, or else its body, behind the status. -/
def message (error : ApiError) : String :=
  let head := "HTTP " ++ naturalText error.status
  match error.detail with
  | some detail => head ++ ": " ++ detail.text
  | none => if error.body.isEmpty then head else head ++ ": " ++ error.body

end ApiError

/-- The cause why a request could not be decorated. -/
inductive AuthError
  /-- There is no token. -/
  | tokenUnavailable (reason : String)
  /-- The token cannot be sent. -/
  | invalidToken (reason : String)
  /-- Any other cause. -/
  | other (reason : String)
deriving DecidableEq, Repr

/-- The message of an error. -/
def AuthError.message : AuthError → String
  | tokenUnavailable reason => "Token unavailable: " ++ reason
  | invalidToken reason => "Invalid token: " ++ reason
  | other reason => "Request decoration failed: " ++ reason

/-- The cause why a body could not be read. -/
inductive DecodeFault
  /-- The body is no envelope. -/
  | malformed
  /-- A record, counted from zero, is not of its type. -/
  | badRecord (index : Nat)
  /-- A cause given in words. -/
  | reported (reason : String)
deriving DecidableEq, Repr

namespace DecodeFault

/-- What the message about a record begins with. -/
def recordWord : String := "record "

/-- The cause in words. -/
def reason : DecodeFault → String
  | malformed => "malformed envelope"
  | badRecord index => recordWord ++ naturalText index ++ ": not of the record type"
  | reported reason => reason

/-- The number of 64 bits that decimal digits denote, if there are any and nothing else but a plus
sign before them. -/
def numeral? (chars : List Char) : Option Nat :=
  let digits := if chars.head? = some '+' then chars.tail else chars
  let value := Nat.ofDigitChars 10 digits 0
  if digits ≠ [] ∧ digits.all Char.isDigit ∧ value < Nat.pow 2 64 then some value else none

/-- The number between a word and a colon in a reason that begins so; zero if it is no number. -/
def numberIn? (reason : String) : Option Nat :=
  let word := recordWord.toList
  let chars := reason.toList
  if word.isPrefixOf chars then
    let behind := chars.drop word.length
    if ':' ∈ behind then some ((numeral? (behind.takeWhile (· != ':'))).getD 0) else none
  else none

/-- The record that a cause names, if it names one. -/
def record? : DecodeFault → Option Nat
  | malformed => none
  | badRecord index => some index
  | reported reason => numberIn? reason

end DecodeFault

/-- The cause why a call on a client failed. -/
inductive Error
  /-- The query has no written form. -/
  | query (error : QueryError)
  /-- The request got no response. -/
  | transport (error : TransportError)
  /-- The response reports no success. -/
  | api (error : ApiError)
  /-- The request could not be decorated. -/
  | auth (error : AuthError)
  /-- The body could not be read; it is given if it is at fault as a whole. -/
  | decode (fault : DecodeFault) (body : Option String)
  /-- An address is no valid one. -/
  | invalidUrl (reason : String)
deriving DecidableEq, Repr

namespace Error

/-- The message of an error. -/
def message : Error → String
  | query error => error.message
  | transport error => error.message
  | api error => error.message
  | auth error => error.message
  | decode fault _ => "Response decode error: " ++ fault.reason
  | invalidUrl reason => "Invalid URL: " ++ reason

/-- The status code of the response that an error is about. -/
def statusCode? : Error → Option Nat
  | api error => some error.status
  | _ => none

/-- Whether the same call may succeed when it is repeated. -/
def isRetryable : Error → Bool
  | transport error => error.isTransient
  | _ => false

end Error

end ODataClient

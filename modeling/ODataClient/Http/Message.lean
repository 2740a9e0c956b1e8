import ODataClient.Text.Lowercase
import ODataClient.Time.Duration

/-! # Requests and responses
The messages exchanged with a service. Header names are kept in lower case, one value for each. -/

namespace ODataClient

/-- Header values by lower-case name. -/
structure Headers where
  /-- The entries; no name occurs twice. -/
  entries : List (String × String)
deriving DecidableEq, Repr

namespace Headers

/-- No header. -/
def empty : Headers := ⟨[]⟩

/-- The value of a header, its name taken without regard to case. -/
def get? (headers : Headers) (name : String) : Option String :=
  headers.entries.lookup (Text.asciiLower name)

/-- Set a header in place of any earlier value. -/
def set (headers : Headers) (name value : String) : Headers :=
  let name := Text.asciiLower name
  ⟨headers.entries.filter (·.1 != name) ++ [(name, value)]⟩

@[simp] theorem get?_set_self (headers : Headers) (name value : String) :
    (headers.set name value).get? name = some value := by
  have absent : (headers.entries.filter (·.1 != Text.asciiLower name)).lookup
      (Text.asciiLower name) = none := by
    simp only [List.lookup_eq_none_iff, List.mem_filter]
    intro entry kept
    exact bne_comm.trans kept.2
  simp [get?, set, List.lookup_append, absent]

/-- Whether a text may be the value of a header: no control characters but the tab. -/
def isValue (text : String) : Bool :=
  text.toList.all fun char => (32 ≤ char.toNat && char.toNat != 127) || char == '\t'

/-- Whether a header value can be shown as text: visible ASCII, spaces and tabs. -/
def isVisible (value : String) : Bool :=
  value.toList.all fun char => (32 ≤ char.toNat && char.toNat < 127) || char == '\t'

end Headers

/-- The methods a client uses. -/
inductive Method
  /-- Read a resource. -/
  | get
  /-- Submit a body. -/
  | post
deriving DecidableEq, Repr

/-- The name of a method. -/
def Method.name : Method → String
  | get => "GET"
  | post => "POST"

/-- A request to a service. -/
structure Request where
  /-- The method. -/
  method : Method
  /-- The absolute address. -/
  url : String
  /-- The headers. -/
  headers : Headers
  /-- The body, if there is one. -/
  body : Option String
deriving DecidableEq, Repr

namespace Request

/-- The media type of JSON. -/
def jsonType : String := "application/json"

/-- A request that reads JSON. -/
def get (url : String) : Request :=
  { method := .get, url, headers := Headers.empty.set "accept" jsonType, body := none }

/-- A request that submits JSON and reads JSON. -/
def postJson (url body : String) : Request :=
  { method := .post
    url
    headers := (get url).headers.set "content-type" jsonType
    body := some body }

/-- Set a header in place of any earlier value. -/
def withHeader (request : Request) (name value : String) : Request :=
  { request with headers := request.headers.set name value }

end Request

/-- A response with its whole body. -/
structure Response where
  /-- The status code. -/
  status : Nat
  /-- The headers. -/
  headers : Headers
  /-- The body. -/
  body : String
deriving DecidableEq, Repr

/-- Whether a status code reports success. -/
def isSuccessStatus (status : Nat) : Bool := 200 ≤ status && status < 300

/-- Whether a status code reports an error of the service. -/
def isServerErrorStatus (status : Nat) : Bool := 500 ≤ status && status < 600

/-- The status code of a request that took the service too long to receive. -/
def requestTimeoutStatus : Nat := 408

namespace Response

/-- A response without headers. -/
def ofBody (status : Nat) (body : String) : Response := ⟨status, .empty, body⟩

/-- Whether the response reports success. -/
def isSuccess (response : Response) : Bool := isSuccessStatus response.status

/-- Whether the response reports an error of the service. -/
def isServerError (response : Response) : Bool := isServerErrorStatus response.status

/-- The value of a header, if it can be shown as text. -/
def header? (response : Response) (name : String) : Option String :=
  (response.headers.get? name).filter Headers.isVisible

end Response

end ODataClient

import ODataClient.Client.Address
import ODataClient.Client.Decoration
import ODataClient.Response.Decoder
import ODataClient.Url.Parse

/-! # Clients
A client sends requests to a service root: it decorates a request, sends it, and decodes the response.
A call yields a result, or the cause why there is none, and the world after it. -/

namespace ODataClient

/-- A client of a service. -/
structure Client (σ : Type) where
  /-- Where its requests go. -/
  root : ServiceRoot
  /-- How its requests are decorated. -/
  decoration : Decoration σ
  /-- How its requests are sent. -/
  transport : Transport σ
  /-- How the responses are read. -/
  decoder : ResponseDecoder

namespace Client

variable {σ α : Type}

/-- The version of the interface unless another one is asked for. -/
def standardVersion : String := "v2.0"

/-- A client, if its root is an absolute address. -/
def validated (client : Client σ) : Except Error (Client σ) :=
  match Url.parse client.root.baseUrl with
  | .ok _ => .ok client
  | .error error => .error (.invalidUrl (client.root.baseUrl ++ ": " ++ error.message))

/-- Decorate and send a request, and decode the response. -/
def execute (client : Client σ) (request : Request) (world : World σ) :
    Except Error (Envelope JsonValue) × World σ :=
  match client.decoration.decorate request world with
  | (.error error, world) => (.error (.auth error), world)
  | (.ok request, world) =>
    match client.transport.send request world with
    | (.error error, world) => (.error (.transport error), world)
    | (.ok response, world) => (client.decoder response, world)

/-- Read an address as records of a type. -/
def fetch (client : Client σ) (type : RecordType α) (url : String) (world : World σ) :
    Except Error (Envelope α) × World σ :=
  let (result, world) := client.execute (Request.get url) world
  (result.bind (Envelope.typed type), world)

/-- Read one page of the records that a query asks for. -/
def get (client : Client σ) (type : RecordType α) (query : Query) (world : World σ) :
    Except Error (Envelope α) × World σ :=
  client.fetch type (client.root.queryUrl type.entitySet query) world

/-- The address that a continuation link leads to: the link itself if it is absolute, else the link
taken relative to the service root. -/
def resolveLink (client : Client σ) (link : String) : Except Error String :=
  match Url.parse link with
  | .ok _ => .ok link
  | .error .missingBase =>
    match Url.parse (client.root.url "") >>= (Url.join · link) with
    | .ok url => .ok url.text
    | .error error => .error (.invalidUrl error.message)
  | .error error => .error (.invalidUrl error.message)

end Client

end ODataClient

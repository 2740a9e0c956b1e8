import ODataClient.Client.Basic

/-! # Batches
A batch bundles queries into one request. Each has an id, its position counted from one, by which its
answer is found among the answers. -/

namespace ODataClient

/-- One request of a batch. -/
structure BatchItem where
  /-- The position in the batch, counted from one. -/
  id : String
  /-- The method. -/
  method : Method
  /-- The path below the service root. -/
  url : String
  /-- The headers by name. -/
  headers : List (String × String)
deriving DecidableEq, Repr

namespace BatchItem

/-- The JSON value of a request. -/
def toJson (item : BatchItem) : JsonValue :=
  .object [
    ("id", .string item.id),
    ("method", .string item.method.name),
    ("url", .string item.url),
    ("headers", .object (item.headers.map fun header => (header.1, .string header.2)))]

end BatchItem

/-- The requests of a batch in order. -/
structure Batch where
  /-- The requests. -/
  items : List BatchItem
deriving DecidableEq, Repr

namespace Batch

/-- The batch without requests. -/
def empty : Batch := ⟨[]⟩

/-- Add the request that reads a path. -/
def add (batch : Batch) (path : String) : Batch :=
  ⟨batch.items ++ [{
    id := naturalText (batch.items.length + 1)
    method := .get
    url := path
    headers := [("Accept", Request.jsonType)] }]⟩

/-- The batch that reads some paths in order. -/
def ofPaths (paths : List String) : Batch := paths.foldl add empty

/-- The number of requests. -/
def size (batch : Batch) : Nat := batch.items.length

/-- The JSON value of a batch. -/
def toJson (batch : Batch) : JsonValue :=
  .object [("requests", .array (batch.items.map BatchItem.toJson))]

/-- The body that a batch is sent as. -/
def text (batch : Batch) : String := batch.toJson.text

end Batch

/-- The answers to a batch. -/
structure BatchResponse where
  /-- The status code of the batch as a whole. -/
  status : Nat
  /-- The answers in the order in which they came. -/
  answers : List SubResponse
deriving Repr

namespace BatchResponse

/-- The first answer with an id. -/
def get? (response : BatchResponse) (id : String) : Option SubResponse :=
  response.answers.find? (·.id == id)

/-- The records in the answer with an id. -/
def records {α : Type} (response : BatchResponse) (type : RecordType α) (id : String) :
    Option (List α) := do
  (← response.get? id).records type

/-- The number of answers. -/
def size (response : BatchResponse) : Nat := response.answers.length

/-- Whether every answer reports success. -/
def allSucceeded (response : BatchResponse) : Bool := response.answers.all SubResponse.isSuccess

/-- The ids of the answers in order. -/
def ids (response : BatchResponse) : List String := response.answers.map (·.id)

end BatchResponse

namespace Client

variable {σ : Type}

/-- The batch of some queries, each beside the entity set of its record type. -/
def batchOf (client : Client σ) (queries : List (String × Query)) : Batch :=
  Batch.ofPaths (queries.map fun query => client.root.queryPath query.1 query.2)

/-- Send a batch. -/
def sendBatch (client : Client σ) (batch : Batch) (world : World σ) :
    Except Error BatchResponse × World σ :=
  let request := Request.postJson client.root.batchUrl batch.text
  let (result, world) := client.execute request world
  (result.map fun envelope => ⟨envelope.status, envelope.answers⟩, world)

end Client

end ODataClient

import ODataClient.Client.Basic
import ODataClient.Transport.Schedule

/-! # Concurrent requests of a client
Requests that a client makes side by side over a backend that replies at once. All share the breaker;
while one pauses before its next attempt the others go on. -/

namespace ODataClient.Client

variable {σ α : Type}

/-- Decorate requests in order, and name each by its position, counted from `position` on. -/
def decorateAll (client : Client σ) :
    Nat → List Request → World σ → List (String × Except AuthError Request) × World σ
  | _, [], world => ([], world)
  | position, request :: rest, world =>
    let (decorated, world) := client.decoration.decorate request world
    let (others, world) := decorateAll client (position + 1) rest world
    ((naturalText position, decorated) :: others, world)

/-- The requests that were decorated without an error, with their names. -/
def readyRequests (decorated : List (String × Except AuthError Request)) :
    List (String × Request) :=
  decorated.filterMap fun (name, result) => result.toOption.map (name, ·)

/-- The rules that concurrent requests of a client follow. -/
def traffic (client : Client σ) (ready : List (String × Request)) : Traffic σ where
  outcomes := .ofBackend client.transport.backend (List.lookup · ready)
  retry := client.transport.retry
  breaker := client.transport.breaker

/-- The schedule of requests that are made side by side, after all have ended. -/
def scheduleOf (client : Client σ) (ready : List (String × Request)) (world : World σ) : Schedule σ :=
  let traffic := client.traffic ready
  let start := { Schedule.initial world.environment with now := world.now, breaker := world.breaker }
  traffic.finishAll (ready.foldl (fun schedule call => traffic.start call.1 schedule) start)

/-- What a request yields, if it has ended. -/
def resultOf (client : Client σ) (schedule : Schedule σ) :
    String × Except AuthError Request → Option (Except Error (Envelope JsonValue))
  | (_, .error error) => some (.error (.auth error))
  | (name, .ok _) =>
    (schedule.ended.lookup name).map fun
      | .ok response => client.decoder response
      | .error error => .error (.transport error)

/-- Decorate requests, send them side by side, and decode the responses. -/
def executeAll (client : Client σ) (requests : List Request) (world : World σ) :
    List (Except Error (Envelope JsonValue)) × World σ :=
  let (decorated, world) := client.decorateAll 1 requests world
  let ready := readyRequests decorated
  let schedule := client.scheduleOf ready world
  let attempts := schedule.begun.filterMap fun name => (ready.lookup name).map Event.attempt
  (decorated.filterMap (client.resultOf schedule),
    { now := schedule.now
      environment := schedule.source
      breaker := schedule.breaker
      journal := world.journal ++ attempts })

/-- Read one page for each of some queries, side by side. -/
def getTogether (client : Client σ) (type : RecordType α) (queries : List Query)
    (world : World σ) : List (Except Error (Envelope α)) × World σ :=
  let requests := queries.map fun query => Request.get (client.root.queryUrl type.entitySet query)
  let (results, world) := client.executeAll requests world
  (results.map (·.bind (Envelope.typed type)), world)

end ODataClient.Client

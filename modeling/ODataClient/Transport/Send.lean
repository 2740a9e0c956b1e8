import ODataClient.Transport.Breaker
import ODataClient.Transport.Retry

/-! # Sending requests
A call asks the breaker for admission once, repeats its attempts as the retry policy says, and reports
its final outcome to the breaker once. Everything a call can see or change is a value: the time, the
state of the environment, the breaker, and a journal of what was done. -/

namespace ODataClient

/-- What comes back when the environment is asked for something. -/
structure Reply (α σ : Type) where
  /-- The result. -/
  result : α
  /-- The time until the result is known. -/
  elapsed : Duration
  /-- The state of the environment afterwards. -/
  environment : σ

/-- A backend, which answers requests out of the environment. -/
structure Backend (σ : Type) where
  /-- The reply to a request. -/
  answer : Request → σ → Reply Outcome σ

/-- Something that a call did. -/
inductive Event
  /-- It asked for an access token. -/
  | tokenRequest
  /-- It sent a request to the backend. -/
  | attempt (request : Request)
  /-- It paused before the next attempt. -/
  | pause (delay : Duration)
deriving DecidableEq, Repr

/-- The request of an attempt. -/
def Event.request? : Event → Option Request
  | attempt request => some request
  | tokenRequest => none
  | pause _ => none

/-- Everything that calls act on. -/
structure World (σ : Type) where
  /-- The time. -/
  now : Instant
  /-- The state of the environment. -/
  environment : σ
  /-- The breaker. -/
  breaker : Breaker
  /-- What calls did, in order. -/
  journal : List Event

/-- When a pause ends that is due at an instant: at the next full millisecond. -/
def wakeTime (due : Instant) : Instant :=
  (due + (Duration.perMillisecond - 1)) / Duration.perMillisecond * Duration.perMillisecond

namespace World

variable {σ : Type}

/-- A world at the start of time, with a closed circuit. -/
def initial (environment : σ) : World σ := ⟨0, environment, .initial, []⟩

/-- Let time pass without doing anything. -/
def wait (world : World σ) (span : Duration) : World σ := { world with now := world.now + span }

/-- Take up a reply, and note what it was asked for by. -/
def receive {α : Type} (world : World σ) (event : Event) (reply : Reply α σ) : World σ :=
  { world with
    now := world.now + reply.elapsed
    environment := reply.environment
    journal := world.journal ++ [event] }

/-- Pause before the next attempt. -/
def pause (world : World σ) (delay : Duration) : World σ :=
  { world with now := wakeTime (world.now + delay), journal := world.journal ++ [.pause delay] }

/-- The requests sent to the backend, in order. -/
def requests (world : World σ) : List Request := world.journal.filterMap Event.request?

/-- The world with an empty journal. -/
def forget (world : World σ) : World σ := { world with journal := [] }

@[simp] theorem requests_wait (world : World σ) (span : Duration) :
    (world.wait span).requests = world.requests := rfl

@[simp] theorem requests_pause (world : World σ) (delay : Duration) :
    (world.pause delay).requests = world.requests := by
  simp [requests, pause, Event.request?]

@[simp] theorem requests_receive_attempt (world : World σ) (request : Request)
    (reply : Reply Outcome σ) :
    (world.receive (.attempt request) reply).requests = world.requests ++ [request] := by
  simp [requests, receive, Event.request?]

end World

/-- The way from a client to a service. -/
structure Transport (σ : Type) where
  /-- The backend. -/
  backend : Backend σ
  /-- When attempts are repeated. -/
  retry : RetryPolicy
  /-- When calls are rejected. -/
  breaker : BreakerPolicy

namespace Transport

variable {σ : Type}

/-- Send a request to the backend once. -/
def attempt (transport : Transport σ) (request : Request) (world : World σ) : Outcome × World σ :=
  let reply := transport.backend.answer request world.environment
  (reply.result, world.receive (.attempt request) reply)

/-- Send a request until its outcome stands, given the number of retries made and the number that is
left. -/
def attempts (transport : Transport σ) (request : Request) :
    Nat → Nat → World σ → Outcome × World σ
  | _, 0, world => transport.attempt request world
  | retries, left + 1, world =>
    let (outcome, after) := transport.attempt request world
    match transport.retry.nextDelay retries outcome with
    | none => (outcome, after)
    | some delay => attempts transport request (retries + 1) left (after.pause delay)

/-- Make a call. -/
def send (transport : Transport σ) (request : Request) (world : World σ) : Outcome × World σ :=
  match world.breaker.acquire transport.breaker world.now with
  | (.error retryAfter, breaker) => (.error (.circuitOpen retryAfter), { world with breaker })
  | (.ok admission, breaker) =>
    let (outcome, after) :=
      transport.attempts request 0 transport.retry.maxRetries { world with breaker }
    (outcome,
      { after with
        breaker := after.breaker.record transport.breaker after.now admission (isTransient outcome) })

end Transport

/-- A backend that gives prepared outcomes in order, each at once, and then another one forever. -/
def Backend.scripted (afterwards : Outcome) : Backend (List Outcome) where
  answer _ script :=
    match script with
    | [] => ⟨afterwards, 0, []⟩
    | outcome :: rest => ⟨outcome, 0, rest⟩

end ODataClient

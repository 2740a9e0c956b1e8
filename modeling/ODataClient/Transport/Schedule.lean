import ODataClient.Transport.Send

/-! # Concurrent calls
Calls that run beside each other over one breaker and one clock. A call stops where it waits for the
outcome of its attempt or for the end of a pause; whatever can go on does so in the order in which
pauses end, calls started earlier first. -/

namespace ODataClient

/-- Where the outcomes of attempts come from: none as long as the attempt of a call waits. -/
structure OutcomeSource (σ : Type) where
  /-- The outcome of the attempt that a call makes. -/
  take : String → σ → Option (Outcome × σ)

/-- What a call under way waits for. -/
inductive Phase
  /-- The outcome of its attempt. -/
  | attempting
  /-- The end of a pause. -/
  | paused (due : Instant)
deriving DecidableEq, Repr

/-- A call under way. -/
structure Flight where
  /-- The name of the call. -/
  id : String
  /-- How the call was admitted. -/
  admission : Admission
  /-- The retries made so far. -/
  retries : Nat
  /-- What the call waits for. -/
  phase : Phase
deriving DecidableEq, Repr

/-- Calls under way, and what came of the others. -/
structure Schedule (σ : Type) where
  /-- The time. -/
  now : Instant
  /-- The breaker. -/
  breaker : Breaker
  /-- The outcomes to come. -/
  source : σ
  /-- The calls under way, in the order in which they started. -/
  flights : List Flight
  /-- The calls whose attempts were begun, in order. -/
  begun : List String
  /-- The calls that ended, in order. -/
  ended : List (String × Outcome)

/-- The rules that concurrent calls follow. -/
structure Traffic (σ : Type) where
  /-- Where outcomes come from. -/
  outcomes : OutcomeSource σ
  /-- When attempts are repeated. -/
  retry : RetryPolicy
  /-- When calls are rejected. -/
  breaker : BreakerPolicy

namespace Schedule

variable {σ : Type}

/-- No call under way at the start of time. -/
def initial (source : σ) : Schedule σ := ⟨0, .initial, source, [], [], []⟩

/-- The schedule with empty records of attempts and of ended calls. -/
def forget (schedule : Schedule σ) : Schedule σ := { schedule with begun := [], ended := [] }

/-- Put a call back among those under way: in place of its former self, or at the end. -/
def keep (schedule : Schedule σ) (flight : Flight) : Schedule σ :=
  if schedule.flights.any (·.id == flight.id) then
    { schedule with
      flights := schedule.flights.map fun other => if other.id == flight.id then flight else other }
  else { schedule with flights := schedule.flights ++ [flight] }

/-- Take a call from those under way. -/
def remove (schedule : Schedule σ) (id : String) : Schedule σ :=
  { schedule with flights := schedule.flights.filter (·.id != id) }

/-- End a call with an outcome. -/
def finish (schedule : Schedule σ) (id : String) (outcome : Outcome) : Schedule σ :=
  { schedule.remove id with ended := schedule.ended ++ [(id, outcome)] }

/-- Note that an attempt of a call is begun. -/
def begin (schedule : Schedule σ) (id : String) : Schedule σ :=
  { schedule with begun := schedule.begun ++ [id] }

/-- Whether a call is under way. -/
def isUnderWay (schedule : Schedule σ) (id : String) : Bool := schedule.flights.any (·.id == id)

/-- The pauses that have an end, with the calls they belong to. -/
def pauses (schedule : Schedule σ) : List (Instant × Flight) :=
  schedule.flights.filterMap fun flight =>
    match flight.phase with
    | .paused due => some (due, flight)
    | .attempting => none

/-- The pause that ends first; of pauses that end together the one of the earlier call. -/
def nextPause (schedule : Schedule σ) : Option (Instant × Flight) :=
  schedule.pauses.foldl
    (fun best pause =>
      match best with
      | none => some pause
      | some earliest => if pause.1 < earliest.1 then some pause else best)
    none

end Schedule

namespace Traffic

variable {σ : Type}

/-- Take an attempt of a call as far as it goes, given the number of retries that is left. -/
def proceed (traffic : Traffic σ) : Nat → Flight → Schedule σ → Schedule σ
  | left, flight, schedule =>
    match traffic.outcomes.take flight.id schedule.source with
    | none => schedule.keep { flight with phase := .attempting }
    | some (outcome, source) =>
      let schedule := { schedule with source }
      match traffic.retry.nextDelay flight.retries outcome, left with
      | some delay, left + 1 =>
        let due := wakeTime (schedule.now + delay)
        if due ≤ schedule.now then
          proceed traffic left { flight with retries := flight.retries + 1 }
            (schedule.begin flight.id)
        else schedule.keep { flight with phase := .paused due }
      | _, _ =>
        let finished := schedule.finish flight.id outcome
        { finished with
          breaker := finished.breaker.record traffic.breaker finished.now flight.admission
            (isTransient outcome) }

/-- The retries that a call has left. -/
def retriesLeft (traffic : Traffic σ) (flight : Flight) : Nat :=
  traffic.retry.maxRetries - flight.retries

/-- Begin the attempt after a pause. -/
def resume (traffic : Traffic σ) (flight : Flight) (schedule : Schedule σ) : Schedule σ :=
  let next := { flight with retries := flight.retries + 1, phase := .attempting }
  traffic.proceed (traffic.retriesLeft next) next (schedule.begin flight.id)

/-- Start a call. -/
def start (traffic : Traffic σ) (id : String) (schedule : Schedule σ) : Schedule σ :=
  match schedule.breaker.acquire traffic.breaker schedule.now with
  | (.error retryAfter, breaker) =>
    { schedule with breaker }.finish id (.error (.circuitOpen retryAfter))
  | (.ok admission, breaker) =>
    traffic.proceed traffic.retry.maxRetries ⟨id, admission, 0, .attempting⟩
      ({ schedule with breaker }.begin id)

/-- Let a call that waits for an outcome look for it again. -/
def poll (traffic : Traffic σ) (id : String) (schedule : Schedule σ) : Schedule σ :=
  match schedule.flights.find? (fun flight => flight.id == id && flight.phase == .attempting) with
  | some flight => traffic.proceed (traffic.retriesLeft flight) flight schedule
  | none => schedule

/-- Resume the calls whose pauses have ended, at most `fuel` times. -/
def wake (traffic : Traffic σ) : Nat → Schedule σ → Schedule σ
  | 0, schedule => schedule
  | fuel + 1, schedule =>
    match schedule.nextPause with
    | some (due, flight) =>
      if due ≤ schedule.now then wake traffic fuel (traffic.resume flight schedule) else schedule
    | none => schedule

/-- The number of times that calls can be resumed before all are done or wait for an outcome. -/
def resumptions (traffic : Traffic σ) (schedule : Schedule σ) : Nat :=
  schedule.flights.length * traffic.retry.maxRetries

/-- Let time pass in one jump, and then resume the calls whose pauses have ended. -/
def elapse (traffic : Traffic σ) (span : Duration) (schedule : Schedule σ) : Schedule σ :=
  let later := { schedule with now := schedule.now + span }
  traffic.wake (traffic.resumptions later) later

/-- Let time pass from the end of one pause to the next while a condition holds, at most `fuel`
times. -/
def drive (traffic : Traffic σ) (continues : Schedule σ → Bool) : Nat → Schedule σ → Schedule σ
  | 0, schedule => schedule
  | fuel + 1, schedule =>
    if continues schedule then
      match schedule.nextPause with
      | some (due, _) =>
        drive traffic continues fuel (traffic.elapse (due - schedule.now) schedule)
      | none => schedule
    else schedule

/-- Let time pass until a call has ended or nothing can go on. -/
def finishCall (traffic : Traffic σ) (id : String) (schedule : Schedule σ) : Schedule σ :=
  traffic.drive (·.isUnderWay id) (traffic.resumptions schedule) schedule

/-- Let time pass until all calls have ended or nothing can go on. -/
def finishAll (traffic : Traffic σ) (schedule : Schedule σ) : Schedule σ :=
  traffic.drive (fun schedule => !schedule.flights.isEmpty) (traffic.resumptions schedule) schedule

end Traffic

/-- The replies of a backend to the requests of calls, each taken as if it came at once. -/
def OutcomeSource.ofBackend {σ : Type} (backend : Backend σ) (request? : String → Option Request) :
    OutcomeSource σ where
  take id environment :=
    (request? id).map fun request =>
      let reply := backend.answer request environment
      (reply.result, reply.environment)

end ODataClient

import ODataClient.Http.Error

/-! # Circuit breaker
A breaker counts consecutive failures of calls. At a threshold it opens and rejects every call for a
while; then it is half open and admits one probe at a time, whose outcome closes it or opens it again.
A probe that never reports stops blocking after one break. Calls that were admitted through a closed
circuit have no say in it while it is open or half open. All instants that a breaker computes are assumed
to be ones that the clock can represent. -/

namespace ODataClient

/-- The setting of a breaker. -/
structure BreakerPolicy where
  /-- Whether the breaker does anything at all. -/
  enabled : Bool
  /-- The number of consecutive failures that opens the circuit. -/
  threshold : Nat
  /-- How long an open circuit rejects calls. -/
  breakDuration : Duration
deriving DecidableEq, Repr

namespace BreakerPolicy

/-- Open after five failures for thirty seconds. -/
def standard : BreakerPolicy := ⟨true, 5, Duration.ofSeconds 30⟩

/-- Never open. -/
def disabled : BreakerPolicy := { standard with enabled := false }

/-- Open after another number of failures, but at least one. -/
def withThreshold (policy : BreakerPolicy) (threshold : Nat) : BreakerPolicy :=
  { policy with threshold := max threshold 1 }

end BreakerPolicy

/-- The states of a circuit. -/
inductive CircuitState
  /-- Calls pass. -/
  | closed
  /-- Calls are rejected. -/
  | opened
  /-- A probe may pass. -/
  | halfOpen
deriving DecidableEq, Repr

/-- How a call was admitted. -/
inductive Admission
  /-- Through a closed circuit. -/
  | regular
  /-- As the probe of a half-open circuit. -/
  | probe
deriving DecidableEq, Repr

/-- A circuit breaker. -/
structure Breaker where
  /-- The state of the circuit. -/
  state : CircuitState
  /-- The consecutive failures counted while closed. -/
  failures : Nat
  /-- When an open circuit admits a probe. -/
  openUntil : Option Instant
  /-- When the probe under way was admitted. -/
  probeStarted : Option Instant
deriving DecidableEq, Repr

namespace Breaker

/-- A closed circuit without failures. -/
def initial : Breaker := ⟨.closed, 0, none, none⟩

/-- The largest number of failures that is counted. -/
def maxFailures : Nat := Nat.pow 2 32 - 1

/-- The circuit opened at an instant. The end of the break is assumed to be an instant that the clock can
represent; with any other one the sum fails behind the change of state, which leaves an open circuit without
a deadline. -/
def trip (policy : BreakerPolicy) (now : Instant) (breaker : Breaker) : Breaker :=
  { breaker with
    state := .opened
    openUntil := some (now + policy.breakDuration)
    probeStarted := none }

/-- A half-open circuit asked for a probe: rejected while another one is under way. -/
def admitProbe (policy : BreakerPolicy) (now : Instant) (breaker : Breaker) :
    Except Duration Admission × Breaker :=
  match breaker.probeStarted with
  | some started =>
    if now - started < policy.breakDuration then
      (.error (policy.breakDuration - (now - started)), breaker)
    else (.ok .probe, { breaker with probeStarted := some now })
  | none => (.ok .probe, { breaker with probeStarted := some now })

/-- The circuit made half open, without a probe. -/
def halfOpened (breaker : Breaker) : Breaker :=
  { breaker with state := .halfOpen, openUntil := none, probeStarted := none }

/-- Ask for admission at an instant: how the call is admitted, or how long it is still rejected. -/
def acquire (policy : BreakerPolicy) (now : Instant) (breaker : Breaker) :
    Except Duration Admission × Breaker :=
  if policy.enabled then
    match breaker.state, breaker.openUntil with
    | .closed, _ => (.ok .regular, breaker)
    | .opened, some deadline =>
      if now < deadline then (.error (deadline - now), breaker)
      else admitProbe policy now breaker.halfOpened
    | .opened, none => admitProbe policy now breaker.halfOpened
    | .halfOpen, _ => admitProbe policy now breaker
  else (.ok .regular, breaker)

/-- Record a call that ended in no transient failure. -/
def recordSuccess (policy : BreakerPolicy) (admission : Admission) (breaker : Breaker) : Breaker :=
  if policy.enabled then
    match breaker.state, admission with
    | .closed, _ => { breaker with failures := 0 }
    | .halfOpen, .probe => initial
    | _, _ => breaker
  else breaker

/-- Count one more failure, up to the largest number. -/
def countFailure (breaker : Breaker) : Breaker :=
  { breaker with failures := min (breaker.failures + 1) maxFailures }

/-- Record a call that ended in a transient failure at an instant. -/
def recordFailure (policy : BreakerPolicy) (now : Instant) (admission : Admission)
    (breaker : Breaker) : Breaker :=
  if policy.enabled then
    match breaker.state, admission with
    | .closed, _ =>
      let counted := breaker.countFailure
      if policy.threshold ≤ counted.failures then counted.trip policy now else counted
    | .halfOpen, .probe => breaker.trip policy now
    | _, _ => breaker
  else breaker

/-- Record whether a call failed. -/
def record (policy : BreakerPolicy) (now : Instant) (admission : Admission) (failed : Bool)
    (breaker : Breaker) : Breaker :=
  if failed then breaker.recordFailure policy now admission
  else breaker.recordSuccess policy admission

end Breaker

end ODataClient

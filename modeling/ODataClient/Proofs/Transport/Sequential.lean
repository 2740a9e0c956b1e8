import ODataClient.Proofs.Breaker.Shape
import ODataClient.Transport.Send

/-! # Calls one after another

Calls that do not overlap see a circuit of two states only. A probe reports before the next call asks
for admission, so neither the half-open state nor a lost probe shows, and one outcome stands for a
whole retry loop.

* **`TransientFailure`** — the outcomes that count against the service, case by case.
* **`SequentialCircuit`** — the automaton of two states: closed with a number of failures, or open
  until a deadline.
* **`attempts_withBreaker`** — a retry loop does not look at the breaker.
* **`gatedSendAll`** — the calls of a sequence under the automaton; no call looks at a breaker.
* **`sendAll_eq_gatedSendAll`** — calls through the breaker give the same outcomes and leave the same
  world. `SequentialCircuit.Matches` ties the two states together; `send_eq_gatedSend` is the step. -/

namespace ODataClient

/-- The outcomes that are transient failures, whatever is retried. -/
inductive TransientFailure : Outcome → Prop
  /-- An error of the service. -/
  | serverError (response : Response) (low : 500 ≤ response.status)
      (high : response.status < 600) : TransientFailure (.ok response)
  /-- The service waited for the request too long. -/
  | requestTimeout (response : Response) (status : response.status = 408) :
      TransientFailure (.ok response)
  /-- No connection. -/
  | connect (detail : String) : TransientFailure (.error (.connect detail))
  /-- No response in time. -/
  | timeout (detail : String) : TransientFailure (.error (.timeout detail))
  /-- Any other failure of the network. -/
  | network (detail : String) : TransientFailure (.error (.network detail))

/-- What the breaker is told about an outcome is whether it is a transient failure. -/
theorem isTransient_iff (outcome : Outcome) :
    isTransient outcome = true ↔ TransientFailure outcome := by
  constructor
  · intro transient
    match outcome with
    | .ok response =>
      simp only [isTransient, Response.isServerError, isServerErrorStatus, requestTimeoutStatus,
        Bool.or_eq_true, beq_iff_eq, Bool.and_eq_true, decide_eq_true_eq] at transient
      rcases transient with status | ⟨low, high⟩
      · exact .requestTimeout response status
      · exact .serverError response low high
    | .error (.connect detail) => exact .connect detail
    | .error (.timeout detail) => exact .timeout detail
    | .error (.network detail) => exact .network detail
    | .error (.circuitOpen retryAfter) => cases transient
  · intro failure
    cases failure with
    | serverError response low high =>
      simp [isTransient, Response.isServerError, isServerErrorStatus, low, high]
    | requestTimeout response status => simp [isTransient, requestTimeoutStatus, status]
    | connect | timeout | network => rfl

instance (outcome : Outcome) : Decidable (TransientFailure outcome) :=
  decidable_of_iff _ (isTransient_iff outcome)

/-- The flag that the breaker is told, as a decision. -/
theorem isTransient_eq_decide (outcome : Outcome) :
    isTransient outcome = decide (TransientFailure outcome) := by
  simp [← isTransient_iff]

/-! ## The automaton -/

/-- A circuit as calls see it that do not overlap. -/
inductive SequentialCircuit
  /-- Calls pass; so many of them failed in a row. -/
  | closed (failures : Nat)
  /-- Calls are rejected until a deadline. -/
  | opened (deadline : Instant)
deriving DecidableEq, Repr

namespace SequentialCircuit

/-- How long a call at an instant is still rejected, if it is rejected. -/
def rejection? (now : Instant) : SequentialCircuit → Option Duration
  | closed _ => none
  | opened deadline => if now < deadline then some (deadline - now) else none

/-- The circuit after a call that passed and ended at an instant. -/
def next (policy : BreakerPolicy) (ended : Instant) (outcome : Outcome) :
    SequentialCircuit → SequentialCircuit
  | closed failures =>
    if TransientFailure outcome then
      if failures + 1 = policy.threshold then opened (ended + policy.breakDuration)
      else closed (failures + 1)
    else closed 0
  | opened _ =>
    if TransientFailure outcome then opened (ended + policy.breakDuration) else closed 0

/-- The breakers that a state of the automaton stands for between two calls. -/
inductive Matches (policy : BreakerPolicy) : SequentialCircuit → Breaker → Prop
  /-- Closed, with the same count below the threshold. -/
  | closed (failures : Nat) (below : failures < policy.threshold) :
      Matches policy (closed failures) (.closedWith failures)
  /-- Open, with the same deadline; the count no longer matters. -/
  | opened (failures : Nat) (deadline : Instant) :
      Matches policy (opened deadline) (.openedUntil failures deadline)

end SequentialCircuit

/-! ## Worlds that differ in the breaker -/

/-- The world with another breaker. -/
def World.withBreaker {σ : Type} (world : World σ) (breaker : Breaker) : World σ :=
  { world with breaker }

namespace Transport

variable {σ : Type} (transport : Transport σ)

/-- **The frame of a retry loop**: it neither reads nor changes the breaker. -/
theorem attempts_withBreaker (request : Request) (breaker : Breaker) (retries left : Nat)
    (world : World σ) :
    transport.attempts request retries left (world.withBreaker breaker) =
      ((transport.attempts request retries left world).1,
        (transport.attempts request retries left world).2.withBreaker breaker) := by
  induction left generalizing retries world with
  | zero => rfl
  | succ left ih =>
    simp only [attempts]
    -- An attempt gives the same outcome in both worlds, so both repeat it or both stop.
    have same : (transport.attempt request (world.withBreaker breaker)).1 =
        (transport.attempt request world).1 := rfl
    rw [same]
    split
    · rfl
    · rename_i delay _
      exact ih (retries + 1) ((transport.attempt request world).2.pause delay)

/-! ## Sequences of calls -/

/-- A call under the automaton: rejected without an attempt, or passed on to the backend. -/
def gatedSend (request : Request) (circuit : SequentialCircuit) (world : World σ) :
    Outcome × SequentialCircuit × World σ :=
  match circuit.rejection? world.now with
  | some retryAfter => (.error (.circuitOpen retryAfter), circuit, world)
  | none =>
    let (outcome, after) := transport.attempts request 0 transport.retry.maxRetries world
    (outcome, circuit.next transport.breaker after.now outcome, after)

/-- Calls one after another, each after some idle time: their outcomes in order, and the world
behind them. -/
def sendAll : List (Duration × Request) → World σ → List Outcome × World σ
  | [], world => ([], world)
  | (idle, request) :: rest, world =>
    let (outcome, after) := transport.send request (world.wait idle)
    let (outcomes, last) := sendAll rest after
    (outcome :: outcomes, last)

/-- Calls one after another under the automaton. -/
def gatedSendAll : List (Duration × Request) → SequentialCircuit → World σ →
    List Outcome × SequentialCircuit × World σ
  | [], circuit, world => ([], circuit, world)
  | (idle, request) :: rest, circuit, world =>
    let (outcome, next, after) := transport.gatedSend request circuit (world.wait idle)
    let (outcomes, last) := gatedSendAll rest next after
    (outcome :: outcomes, last)

end Transport

/-! ## The simulation -/

section Outcomes

variable {policy : BreakerPolicy} (active : policy.IsActive)
include active

/-- The outcome of a call that a closed circuit admitted moves breaker and automaton alike. -/
theorem SequentialCircuit.matches_next_closed {failures : Nat} (below : failures < policy.threshold)
    (admission : Admission) (ended : Instant) (outcome : Outcome) :
    Matches policy ((closed failures).next policy ended outcome)
      ((Breaker.closedWith failures).record policy ended admission (isTransient outcome)) := by
  rw [isTransient_eq_decide]
  by_cases failed : TransientFailure outcome
  · rw [decide_eq_true failed, Breaker.record_closedWith_below active below]
    simp only [next, if_pos failed]
    by_cases reached : failures + 1 = policy.threshold
    · rw [if_pos reached, if_pos (Nat.le_of_eq reached.symm)]
      exact .opened _ _
    · rw [if_neg reached, if_neg (by omega)]
      exact .closed _ (by omega)
  · rw [decide_eq_false failed, Breaker.record_closedWith_succeeded active.enabled]
    simp only [next, if_neg failed]
    exact .closed 0 active.positive

/-- The outcome of a probe moves breaker and automaton alike. -/
theorem SequentialCircuit.matches_next_opened (failures : Nat) (deadline started ended : Instant)
    (outcome : Outcome) :
    Matches policy ((opened deadline).next policy ended outcome)
      ((Breaker.probingSince failures started).record policy ended .probe (isTransient outcome)) := by
  rw [isTransient_eq_decide, Breaker.record_probingSince_probe active.enabled]
  by_cases failed : TransientFailure outcome
  · simp only [next, if_pos failed, decide_eq_true_eq]
    exact .opened failures _
  · simp only [next, if_neg failed, decide_eq_true_eq]
    exact .closed 0 active.positive

end Outcomes

namespace Transport

variable {σ : Type} (transport : Transport σ)

/-- A call that is not admitted makes no attempt. -/
theorem send_of_acquire_error {breaker : Breaker} {request : Request} {world : World σ}
    {retryAfter : Duration}
    (rejected : breaker.acquire transport.breaker world.now = (.error retryAfter, breaker)) :
    transport.send request (world.withBreaker breaker) =
      (.error (.circuitOpen retryAfter), world.withBreaker breaker) := by
  simp only [send, World.withBreaker, rejected]

/-- An admitted call runs its retry loop, and the breaker takes up the outcome when it ends. -/
theorem send_of_acquire_ok {breaker admitted : Breaker} {request : Request} {world : World σ}
    {admission : Admission}
    (acquired : breaker.acquire transport.breaker world.now = (.ok admission, admitted)) :
    let passed := transport.attempts request 0 transport.retry.maxRetries world
    transport.send request (world.withBreaker breaker) =
      (passed.1, passed.2.withBreaker
        (admitted.record transport.breaker passed.2.now admission (isTransient passed.1))) := by
  have framed := transport.attempts_withBreaker request admitted 0 transport.retry.maxRetries world
  simp only [World.withBreaker] at framed
  simp only [send, World.withBreaker, acquired, framed]

/-- **One call.** From a breaker that the state of the automaton stands for, a call has the outcome
that the automaton gives it, and leaves the same world with a breaker that the next state stands
for. -/
theorem send_eq_gatedSend (active : transport.breaker.IsActive) (request : Request)
    {circuit : SequentialCircuit} {breaker : Breaker}
    (agree : circuit.Matches transport.breaker breaker) (world : World σ) :
    ∃ after, (transport.gatedSend request circuit world).2.1.Matches transport.breaker after ∧
      transport.send request (world.withBreaker breaker) =
        ((transport.gatedSend request circuit world).1,
          (transport.gatedSend request circuit world).2.2.withBreaker after) := by
  have enabled := active.enabled
  cases agree with
  | closed failures below =>
    -- Every call is admitted, and its outcome is recorded before the next one asks.
    refine ⟨_, ?_, transport.send_of_acquire_ok (Breaker.acquire_closedWith enabled _ _)⟩
    exact SequentialCircuit.matches_next_closed active below _ _ _
  | opened failures deadline =>
    have answer := Breaker.acquire_openedUntil enabled world.now failures deadline
    by_cases early : world.now < deadline
    · rw [if_pos early] at answer
      have rejected : transport.gatedSend request (.opened deadline) world =
          (.error (.circuitOpen (deadline - world.now)), .opened deadline, world) := by
        simp [gatedSend, SequentialCircuit.rejection?, early]
      rw [rejected, transport.send_of_acquire_error answer]
      exact ⟨_, .opened failures deadline, rfl⟩
    · -- The call is the probe, and reports while the circuit still waits for it.
      rw [if_neg early] at answer
      have passes : (SequentialCircuit.opened deadline).rejection? world.now = none :=
        if_neg early
      rw [transport.send_of_acquire_ok answer]
      simp only [gatedSend, passes]
      exact ⟨_, SequentialCircuit.matches_next_opened active failures deadline _ _ _, rfl⟩

/-- **Any number of calls**, from any matching states. -/
theorem sendAll_withBreaker (active : transport.breaker.IsActive)
    (calls : List (Duration × Request)) {circuit : SequentialCircuit} {breaker : Breaker}
    (agree : circuit.Matches transport.breaker breaker) (world : World σ) :
    ∃ after, (transport.gatedSendAll calls circuit world).2.1.Matches transport.breaker after ∧
      transport.sendAll calls (world.withBreaker breaker) =
        ((transport.gatedSendAll calls circuit world).1,
          (transport.gatedSendAll calls circuit world).2.2.withBreaker after) := by
  induction calls generalizing circuit breaker world with
  | nil => exact ⟨breaker, agree, rfl⟩
  | cons call rest ih =>
    obtain ⟨idle, request⟩ := call
    obtain ⟨between, agreed, sent⟩ :=
      transport.send_eq_gatedSend active request agree (world.wait idle)
    obtain ⟨after, agreed, continued⟩ :=
      ih agreed (transport.gatedSend request circuit (world.wait idle)).2.2
    refine ⟨after, agreed, ?_⟩
    have waited : (world.withBreaker breaker).wait idle = (world.wait idle).withBreaker breaker := rfl
    simp only [sendAll, gatedSendAll, waited, sent, continued]

/-- **Sequential calls refine the automaton.** With a new breaker whose settings are active, calls
one after another have exactly the outcomes that the automaton gives them from its closed state
without failures, whatever the backend answers and however long it takes. They make the same
attempts and pauses at the same times, and the breaker behind them is one that the last state of the
automaton stands for. -/
theorem sendAll_eq_gatedSendAll (active : transport.breaker.IsActive)
    (calls : List (Duration × Request)) (world : World σ) (new : world.breaker = .initial) :
    ∃ after,
      (transport.gatedSendAll calls (.closed 0) world).2.1.Matches transport.breaker after ∧
        transport.sendAll calls world =
          ((transport.gatedSendAll calls (.closed 0) world).1,
            (transport.gatedSendAll calls (.closed 0) world).2.2.withBreaker after) := by
  have agree : (SequentialCircuit.closed 0).Matches transport.breaker world.breaker := by
    rw [new, Breaker.initial_eq_closedWith]
    exact .closed 0 active.positive
  exact transport.sendAll_withBreaker active calls agree world

/-- Two failures open a circuit of threshold two for ten nanoseconds. A call after nine is rejected
for one more; a call after ten passes, succeeds and closes the circuit. -/
theorem sendAll_eq_gatedSendAll_two_failures :
    let request := Request.get "http://x/a"
    let failed := Response.ofBody 500 ""
    let passed := Response.ofBody 200 ""
    let transport : Transport (List Outcome) :=
      ⟨.scripted (.ok passed), .never, ⟨true, 2, 10⟩⟩
    let calls := [(0, request), (0, request), (9, request), (1, request)]
    (transport.sendAll calls (.initial [.ok failed, .ok failed])).1 =
      [.ok failed, .ok failed, .error (.circuitOpen 1), .ok passed] := by
  intro request failed passed transport calls
  obtain ⟨after, -, run⟩ := transport.sendAll_eq_gatedSendAll
    ⟨rfl, by decide, by decide⟩ calls (.initial [.ok failed, .ok failed]) rfl
  rw [run]
  rfl

end Transport

end ODataClient

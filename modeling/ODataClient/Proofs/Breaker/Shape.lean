import ODataClient.Transport.Breaker

/-! # The three shapes of a breaker

The state of a breaker decides which of its instants are present: a closed circuit has neither a
deadline nor a probe, an open one has a deadline only, a half-open one a probe only. This rests on the
assumption of `Breaker.trip` that the end of a break is an instant of the clock, as does every result about
breakers behind this module.

* **`BreakerPolicy.IsActive`** — the settings under which a breaker does its work.
* **`closedWith`, `openedUntil`, `probingSince`** — the breakers of the three shapes.
* **`Shaped`** — being one of them; under that assumption the branch of an open circuit without a
  deadline is never reached.
* **`Move`** — the seven things that an operation can do to a shape; `Shaped.move_acquire` and
  `Shaped.move_record` say that `acquire` and `record` do nothing else.
* **`acquire_openedUntil`, `record_closedWith_failed`, …** — what each operation does to each
  shape. Later proofs cite these equations and do not open the operations. -/

namespace ODataClient

/-- The settings under which a breaker does its work: it is enabled, and its threshold is a positive
number that can be counted to. -/
structure BreakerPolicy.IsActive (policy : BreakerPolicy) : Prop where
  /-- The breaker is enabled. -/
  enabled : policy.enabled = true
  /-- No circuit opens without a failure. -/
  positive : 1 ≤ policy.threshold
  /-- The threshold has a width of 32 bits. -/
  countable : policy.threshold ≤ Breaker.maxFailures

namespace Breaker

/-- A closed circuit that has counted some failures. -/
def closedWith (failures : Nat) : Breaker := ⟨.closed, failures, none, none⟩

/-- A circuit that rejects calls until a deadline. -/
def openedUntil (failures : Nat) (deadline : Instant) : Breaker :=
  ⟨.opened, failures, some deadline, none⟩

/-- A half-open circuit whose probe was admitted at an instant. -/
def probingSince (failures : Nat) (started : Instant) : Breaker :=
  ⟨.halfOpen, failures, none, some started⟩

/-- The breakers whose instants fit their state. -/
inductive Shaped : Breaker → Prop
  /-- Closed, without deadline and probe. -/
  | closed (failures : Nat) : Shaped (closedWith failures)
  /-- Open, with a deadline. -/
  | opened (failures : Nat) (deadline : Instant) : Shaped (openedUntil failures deadline)
  /-- Half open, with a probe. -/
  | probing (failures : Nat) (started : Instant) : Shaped (probingSince failures started)

@[simp] theorem state_closedWith (failures : Nat) : (closedWith failures).state = .closed := rfl

@[simp] theorem state_openedUntil (failures : Nat) (deadline : Instant) :
    (openedUntil failures deadline).state = .opened := rfl

@[simp] theorem state_probingSince (failures : Nat) (started : Instant) :
    (probingSince failures started).state = .halfOpen := rfl

/-- The breaker at the start is closed and has counted nothing. -/
theorem initial_eq_closedWith : initial = closedWith 0 := rfl

/-- Everything that an operation at an instant can do to a breaker of one of the shapes. -/
inductive Move (policy : BreakerPolicy) (now : Instant) : Breaker → Breaker → Prop
  /-- Nothing changes. -/
  | stay (breaker : Breaker) : Move policy now breaker breaker
  /-- A closed circuit counts anew. -/
  | count (before after : Nat) : Move policy now (closedWith before) (closedWith after)
  /-- A closed circuit opens. -/
  | trip (before after : Nat) :
      Move policy now (closedWith before) (openedUntil after (now + policy.breakDuration))
  /-- The break is over, and a probe is admitted. -/
  | probe (failures : Nat) (deadline : Instant) (ended : deadline ≤ now) :
      Move policy now (openedUntil failures deadline) (probingSince failures now)
  /-- A probe that has not reported within a break is replaced. -/
  | replace (failures : Nat) (started : Instant) (lost : policy.breakDuration ≤ now - started) :
      Move policy now (probingSince failures started) (probingSince failures now)
  /-- A probe has failed. -/
  | reopen (failures : Nat) (started : Instant) :
      Move policy now (probingSince failures started)
        (openedUntil failures (now + policy.breakDuration))
  /-- A probe has succeeded. -/
  | close (failures : Nat) (started : Instant) :
      Move policy now (probingSince failures started) (closedWith 0)

/-- A move leads from shape to shape. -/
theorem Move.shaped {policy : BreakerPolicy} {now : Instant} {before after : Breaker}
    (move : Move policy now before after) (shaped : before.Shaped) : after.Shaped := by
  cases move with
  | stay => exact shaped
  | count => exact .closed _
  | trip => exact .opened _ _
  | probe => exact .probing _ _
  | replace => exact .probing _ _
  | reopen => exact .opened _ _
  | close => exact .closed _

section Operations

variable {policy : BreakerPolicy} (enabled : policy.enabled = true)
include enabled

/-- A closed circuit admits every call and stays as it is. -/
theorem acquire_closedWith (now : Instant) (failures : Nat) :
    (closedWith failures).acquire policy now = (.ok .regular, closedWith failures) := by
  simp [acquire, enabled, closedWith]

/-- An open circuit rejects until its deadline; the first call from then on is the probe. -/
theorem acquire_openedUntil (now : Instant) (failures : Nat) (deadline : Instant) :
    (openedUntil failures deadline).acquire policy now =
      if now < deadline then (.error (deadline - now), openedUntil failures deadline)
      else (.ok .probe, probingSince failures now) := by
  simp [acquire, enabled, openedUntil, admitProbe, halfOpened, probingSince]

/-- A half-open circuit rejects while its probe is younger than a break; then the next call is the
probe in its place. -/
theorem acquire_probingSince (now : Instant) (failures : Nat) (started : Instant) :
    (probingSince failures started).acquire policy now =
      if now - started < policy.breakDuration then
        (.error (policy.breakDuration - (now - started)), probingSince failures started)
      else (.ok .probe, probingSince failures now) := by
  simp [acquire, enabled, probingSince, admitProbe]

/-- A success clears the count of a closed circuit, however the call was admitted. -/
theorem record_closedWith_succeeded (now : Instant) (admission : Admission) (failures : Nat) :
    (closedWith failures).record policy now admission false = closedWith 0 := by
  simp [record, recordSuccess, enabled, closedWith]

/-- A failure adds to the count of a closed circuit, and opens it at the threshold. -/
theorem record_closedWith_failed (now : Instant) (admission : Admission) (failures : Nat) :
    (closedWith failures).record policy now admission true =
      if policy.threshold ≤ min (failures + 1) maxFailures then
        openedUntil (min (failures + 1) maxFailures) (now + policy.breakDuration)
      else closedWith (min (failures + 1) maxFailures) := by
  simp only [record, recordFailure, enabled, if_true, closedWith, countFailure, trip, openedUntil]
  rfl

/-- An open circuit takes no notice of outcomes. -/
theorem record_openedUntil (now : Instant) (admission : Admission) (failed : Bool)
    (failures : Nat) (deadline : Instant) :
    (openedUntil failures deadline).record policy now admission failed =
      openedUntil failures deadline := by
  cases failed <;> simp [record, recordSuccess, recordFailure, enabled, openedUntil]

/-- A half-open circuit takes no notice of a call that was admitted while it was closed. -/
theorem record_probingSince_regular (now : Instant) (failed : Bool) (failures : Nat)
    (started : Instant) :
    (probingSince failures started).record policy now .regular failed =
      probingSince failures started := by
  cases failed <;> simp [record, recordSuccess, recordFailure, enabled, probingSince]

/-- The outcome of a probe closes a half-open circuit or opens it again. -/
theorem record_probingSince_probe (now : Instant) (failed : Bool) (failures : Nat)
    (started : Instant) :
    (probingSince failures started).record policy now .probe failed =
      if failed then openedUntil failures (now + policy.breakDuration) else closedWith 0 := by
  cases failed <;>
    simp [record, recordSuccess, recordFailure, enabled, probingSince, trip, openedUntil, initial,
      closedWith]

/-- **Asking for admission is a move.** -/
theorem Shaped.move_acquire {breaker : Breaker} (shaped : breaker.Shaped) (now : Instant) :
    Move policy now breaker (breaker.acquire policy now).2 := by
  cases shaped with
  | closed failures =>
    rw [acquire_closedWith enabled]
    exact .stay _
  | opened failures deadline =>
    rw [acquire_openedUntil enabled]
    split
    · exact .stay _
    · rename_i late
      exact .probe failures deadline (Nat.le_of_not_lt late)
  | probing failures started =>
    rw [acquire_probingSince enabled]
    split
    · exact .stay _
    · rename_i late
      exact .replace failures started (Nat.le_of_not_lt late)

/-- **Recording an outcome is a move.** -/
theorem Shaped.move_record {breaker : Breaker} (shaped : breaker.Shaped) (now : Instant)
    (admission : Admission) (failed : Bool) :
    Move policy now breaker (breaker.record policy now admission failed) := by
  cases shaped with
  | closed failures =>
    cases failed with
    | false =>
      rw [record_closedWith_succeeded enabled]
      exact .count failures 0
    | true =>
      rw [record_closedWith_failed enabled]
      split
      · exact .trip failures _
      · exact .count failures _
  | opened failures deadline =>
    rw [record_openedUntil enabled]
    exact .stay _
  | probing failures started =>
    cases admission with
    | regular =>
      rw [record_probingSince_regular enabled]
      exact .stay _
    | probe =>
      rw [record_probingSince_probe enabled]
      split
      · exact .reopen failures started
      · exact .close failures started

end Operations

/-- A count below the threshold of an active breaker goes up by one with every failure. -/
theorem record_closedWith_below {policy : BreakerPolicy} (active : policy.IsActive) {failures : Nat}
    (below : failures < policy.threshold) (now : Instant) (admission : Admission) :
    (closedWith failures).record policy now admission true =
      if policy.threshold ≤ failures + 1 then
        openedUntil (failures + 1) (now + policy.breakDuration)
      else closedWith (failures + 1) := by
  have counted : min (failures + 1) maxFailures = failures + 1 :=
    Nat.min_eq_left (Nat.le_trans below active.countable)
  rw [record_closedWith_failed active.enabled, counted]

end Breaker

end ODataClient

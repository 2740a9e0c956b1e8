import Mathlib.Data.List.Nodup
import ODataClient.Proofs.Breaker.Shape

/-! # A breaker shared by many callers

Any number of callers ask one breaker for admission and report outcomes, in any order, under a clock
that does not run backwards. Each admission is reported at most once; a call that never reports
stays pending forever.

* **`SharedBreaker`** — the breaker, the time of the last event, the pending calls, and how often the
  circuit has opened so far.
* **`step?`, `play?`** — one event and a list of events; `none` for an event that cannot happen (an
  earlier instant than the last one, or a report of a call that is not pending).
* **`step?_cases`** — everything an event can do; `play?_invariant` carries what one event keeps
  through a whole run.
* **`Sound`** — the invariant of all runs (`sound_of_play?`): the breaker has one of the three shapes,
  and a call admitted before the circuit last opened is older than the open or half-open circuit by
  at least one break. -/

namespace ODataClient

/-- A call that was admitted and has not reported its outcome. -/
structure Pass where
  /-- The number of the admission, counted from zero. -/
  serial : Nat
  /-- How the call was admitted. -/
  admission : Admission
  /-- When it was admitted. -/
  admittedAt : Instant
  /-- How often the circuit had opened before. -/
  epoch : Nat
deriving DecidableEq, Repr

/-- A breaker in the hands of any number of callers. -/
structure SharedBreaker where
  /-- The breaker. -/
  breaker : Breaker
  /-- The instant of the last event. -/
  now : Instant
  /-- The number of admissions so far. -/
  issued : Nat
  /-- The admitted calls that have not reported. -/
  pending : List Pass
  /-- How often the circuit has opened. -/
  trips : Nat
deriving DecidableEq, Repr

/-- What a caller does with a breaker. -/
inductive BreakerAction
  /-- Ask for admission. -/
  | acquire
  /-- Report whether the call of an admission failed. -/
  | report (serial : Nat) (failed : Bool)
deriving DecidableEq, Repr

/-- An action at an instant. -/
structure BreakerEvent where
  /-- When it happens. -/
  instant : Instant
  /-- What happens. -/
  action : BreakerAction
deriving DecidableEq, Repr

/-- Whether a call was admitted before the circuit last opened. -/
def Pass.IsStale (pass : Pass) (shared : SharedBreaker) : Prop := pass.epoch < shared.trips

namespace SharedBreaker

/-- A new breaker at the start of time. -/
def initial : SharedBreaker := ⟨.initial, 0, 0, [], 0⟩

/-- The breaker as an event at an instant leaves it; an opening of the circuit is counted. -/
def settle (shared : SharedBreaker) (now : Instant) (breaker : Breaker) : SharedBreaker :=
  { shared with
    breaker
    now
    trips := shared.trips + if shared.breaker.state ≠ .opened ∧ breaker.state = .opened then 1 else 0 }

/-- A caller asks for admission; if it is admitted, its call is pending from now on. -/
def acquire (policy : BreakerPolicy) (now : Instant) (shared : SharedBreaker) : SharedBreaker :=
  let settled := shared.settle now (shared.breaker.acquire policy now).2
  match (shared.breaker.acquire policy now).1 with
  | .ok admission =>
    { settled with
      issued := shared.issued + 1
      pending := ⟨shared.issued, admission, now, settled.trips⟩ :: shared.pending }
  | .error _ => settled

/-- A pending call reports its outcome. -/
def report (policy : BreakerPolicy) (now : Instant) (pass : Pass) (failed : Bool)
    (shared : SharedBreaker) : SharedBreaker :=
  { shared.settle now (shared.breaker.record policy now pass.admission failed) with
    pending := shared.pending.erase pass }

/-- One event, if it can happen. -/
def step? (policy : BreakerPolicy) (event : BreakerEvent) (shared : SharedBreaker) :
    Option SharedBreaker :=
  if event.instant < shared.now then none
  else
    match event.action with
    | .acquire => some (shared.acquire policy event.instant)
    | .report serial failed =>
      (shared.pending.find? (·.serial == serial)).map fun pass =>
        shared.report policy event.instant pass failed

/-- The events of a run in order, if they can happen. -/
def play? (policy : BreakerPolicy) : List BreakerEvent → SharedBreaker → Option SharedBreaker
  | [], shared => some shared
  | event :: rest, shared => (shared.step? policy event).bind (play? policy rest)

@[simp] theorem breaker_settle (shared : SharedBreaker) (now : Instant) (breaker : Breaker) :
    (shared.settle now breaker).breaker = breaker := rfl

/-- An event never lowers the number of openings. -/
theorem trips_le_settle (shared : SharedBreaker) (now : Instant) (breaker : Breaker) :
    shared.trips ≤ (shared.settle now breaker).trips :=
  Nat.le_add_right _ _

/-- The number of openings stays when the circuit is not open afterwards. -/
theorem trips_settle_of_not_opened {shared : SharedBreaker} {now : Instant} {breaker : Breaker}
    (h : breaker.state ≠ .opened) : (shared.settle now breaker).trips = shared.trips := by
  simp [settle, h]

/-- The number of openings stays when the breaker stays as it is. -/
theorem trips_settle_self (shared : SharedBreaker) (now : Instant) :
    (shared.settle now shared.breaker).trips = shared.trips := by
  simp [settle]

section Acquire

variable (policy : BreakerPolicy) (now : Instant) (shared : SharedBreaker)

@[simp] theorem breaker_acquire :
    (shared.acquire policy now).breaker = (shared.breaker.acquire policy now).2 := by
  unfold acquire
  split <;> rfl

@[simp] theorem now_acquire : (shared.acquire policy now).now = now := by
  unfold acquire
  split <;> rfl

end Acquire

/-- A request for admission that is granted: its call is pending from now on. -/
theorem acquire_of_ok {policy : BreakerPolicy} {now : Instant} {shared : SharedBreaker}
    {admission : Admission} (granted : (shared.breaker.acquire policy now).1 = .ok admission) :
    shared.acquire policy now =
      { shared.settle now (shared.breaker.acquire policy now).2 with
        issued := shared.issued + 1
        pending :=
          ⟨shared.issued, admission, now,
            (shared.settle now (shared.breaker.acquire policy now).2).trips⟩ :: shared.pending } := by
  unfold acquire
  rw [granted]

/-- A request for admission that is rejected: no call is pending for it. -/
theorem acquire_of_error {policy : BreakerPolicy} {now : Instant} {shared : SharedBreaker}
    {retryAfter : Duration} (rejected : (shared.breaker.acquire policy now).1 = .error retryAfter) :
    shared.acquire policy now = shared.settle now (shared.breaker.acquire policy now).2 := by
  unfold acquire
  rw [rejected]

/-- Everything that an event can do. -/
theorem step?_cases {policy : BreakerPolicy} {event : BreakerEvent} {shared next : SharedBreaker}
    (h : shared.step? policy event = some next) :
    shared.now ≤ event.instant ∧
      ((event.action = .acquire ∧ next = shared.acquire policy event.instant) ∨
        ∃ pass ∈ shared.pending, ∃ failed, event.action = .report pass.serial failed ∧
          next = shared.report policy event.instant pass failed) := by
  unfold step? at h
  split at h
  · cases h
  · rename_i later
    refine ⟨Nat.le_of_not_lt later, ?_⟩
    split at h
    · rename_i action
      exact .inl ⟨action, (Option.some.inj h).symm⟩
    · rename_i serial failed action
      obtain ⟨pass, found, rfl⟩ := Option.map_eq_some_iff.mp h
      have named : pass.serial = serial := by simpa using List.find?_some found
      exact .inr ⟨pass, List.mem_of_find?_eq_some found, failed, named ▸ action, rfl⟩

/-- A run of one more event at the front is the event and then the rest. -/
theorem play?_cons_eq_some {policy : BreakerPolicy} {event : BreakerEvent}
    {rest : List BreakerEvent} {shared last : SharedBreaker} :
    shared.play? policy (event :: rest) = some last ↔
      ∃ next, shared.step? policy event = some next ∧ next.play? policy rest = some last :=
  Option.bind_eq_some_iff

/-- A run of some events and then others is one run after the other. -/
theorem play?_append (policy : BreakerPolicy) (front back : List BreakerEvent)
    (shared : SharedBreaker) :
    shared.play? policy (front ++ back) =
      (shared.play? policy front).bind (play? policy back) := by
  induction front generalizing shared with
  | nil => rfl
  | cons event rest ih =>
    rw [List.cons_append, play?, play?, Option.bind_assoc]
    congr 1
    funext next
    exact ih next

/-- **What every event keeps, every run keeps.** -/
theorem play?_invariant {policy : BreakerPolicy} (Keeps : SharedBreaker → Prop)
    {events : List BreakerEvent} {shared last : SharedBreaker}
    (step : ∀ event ∈ events, ∀ before after, Keeps before →
      before.step? policy event = some after → Keeps after)
    (start : Keeps shared) (played : shared.play? policy events = some last) : Keeps last := by
  induction events generalizing shared with
  | nil => exact Option.some.inj played ▸ start
  | cons event rest ih =>
    obtain ⟨next, stepped, played⟩ := play?_cons_eq_some.mp played
    exact ih (fun event member => step event (List.mem_cons_of_mem _ member))
      (step event List.mem_cons_self shared next start stepped) played

/-! ## Numbers of admissions -/

/-- Whether the pending calls can be told apart by their numbers. -/
structure Numbered (shared : SharedBreaker) : Prop where
  /-- Different calls have different numbers. -/
  nodup : (shared.pending.map (·.serial)).Nodup
  /-- No number is one that the next call could get. -/
  serial_lt : ∀ pass ∈ shared.pending, pass.serial < shared.issued

namespace Numbered

variable {policy : BreakerPolicy} {shared : SharedBreaker} (numbered : shared.Numbered)
include numbered

/-- A request for admission takes a new number. -/
theorem acquire (now : Instant) : (shared.acquire policy now).Numbered := by
  cases answer : (shared.breaker.acquire policy now).1 with
  | error retryAfter =>
    rw [acquire_of_error answer]
    exact ⟨numbered.nodup, numbered.serial_lt⟩
  | ok admission =>
    rw [acquire_of_ok answer]
    refine ⟨List.nodup_cons.mpr ⟨fun old => ?_, numbered.nodup⟩, fun pass member => ?_⟩
    · obtain ⟨pass, member, same⟩ := List.mem_map.mp old
      exact absurd same (Nat.ne_of_lt (numbered.serial_lt pass member))
    · rcases List.mem_cons.mp member with rfl | member
      · exact Nat.lt_succ_self shared.issued
      · exact Nat.lt_succ_of_lt (numbered.serial_lt pass member)

/-- A report gives a number back. -/
theorem report (now : Instant) (pass : Pass) (failed : Bool) :
    (shared.report policy now pass failed).Numbered where
  nodup := numbered.nodup.sublist (List.erase_sublist.map _)
  serial_lt other member := numbered.serial_lt other (List.mem_of_mem_erase member)

/-- A report under the number of a pending call is the report of that call. -/
theorem step?_report {now : Instant} (later : shared.now ≤ now) {pass : Pass}
    (member : pass ∈ shared.pending) (failed : Bool) :
    shared.step? policy ⟨now, .report pass.serial failed⟩ =
      some (shared.report policy now pass failed) := by
  have found : shared.pending.find? (·.serial == pass.serial) = some pass := by
    have held : (shared.pending.find? (·.serial == pass.serial)).isSome :=
      List.find?_isSome.mpr ⟨pass, member, beq_self_eq_true pass.serial⟩
    obtain ⟨other, found⟩ := Option.isSome_iff_exists.mp held
    have same : other.serial = pass.serial := by simpa using List.find?_some found
    rw [found, List.inj_on_of_nodup_map numbered.nodup (List.mem_of_find?_eq_some found) member same]
  simp [step?, Nat.not_lt.mpr later, found]

end Numbered

/-! ## The invariant of all runs -/

/-- What holds of a shared breaker at every moment of every run. -/
structure Sound (policy : BreakerPolicy) (shared : SharedBreaker) : Prop where
  /-- The instants of the breaker fit its state. -/
  shaped : shared.breaker.Shaped
  /-- The probe under way was admitted in the past. -/
  started_le : ∀ started, shared.breaker.probeStarted = some started → started ≤ shared.now
  /-- Pending calls were admitted in the past. -/
  admittedAt_le : ∀ pass ∈ shared.pending, pass.admittedAt ≤ shared.now
  /-- Pending calls have seen no opening that has not happened. -/
  epoch_le : ∀ pass ∈ shared.pending, pass.epoch ≤ shared.trips
  /-- A stale call was admitted at least one break before an open circuit's deadline. -/
  stale_deadline : ∀ deadline, shared.breaker.openUntil = some deadline →
    ∀ pass ∈ shared.pending, pass.IsStale shared →
      pass.admittedAt + policy.breakDuration ≤ deadline
  /-- A stale call was admitted at least one break before a half-open circuit's probe. -/
  stale_started : ∀ started, shared.breaker.probeStarted = some started →
    ∀ pass ∈ shared.pending, pass.IsStale shared →
      pass.admittedAt + policy.breakDuration ≤ started

/-- A new breaker is sound. -/
theorem sound_initial (policy : BreakerPolicy) : initial.Sound policy where
  shaped := .closed 0
  started_le := by simp [initial, Breaker.initial]
  admittedAt_le := by simp [initial]
  epoch_le := by simp [initial]
  stale_deadline := by simp [initial]
  stale_started := by simp [initial]

namespace Sound

variable {policy : BreakerPolicy} {shared : SharedBreaker} (sound : shared.Sound policy)
include sound

/-- A move of the breaker keeps the invariant. -/
theorem settle {now : Instant} {breaker : Breaker} (later : shared.now ≤ now)
    (move : Breaker.Move policy now shared.breaker breaker) :
    (shared.settle now breaker).Sound policy := by
  have admitted : ∀ pass ∈ shared.pending, pass.admittedAt ≤ now :=
    fun pass member => Nat.le_trans (sound.admittedAt_le pass member) later
  have epoch : ∀ pass ∈ shared.pending, pass.epoch ≤ (shared.settle now breaker).trips :=
    fun pass member => Nat.le_trans (sound.epoch_le pass member) (trips_le_settle shared now breaker)
  -- A call that is stale after a move that opens nothing was stale before it.
  have stale {pass : Pass} (same : (shared.settle now breaker).trips = shared.trips)
      (h : pass.IsStale (shared.settle now breaker)) : pass.IsStale shared := by
    rwa [Pass.IsStale, same] at h
  refine ⟨move.shaped sound.shaped, ?_, admitted, epoch, ?_, ?_⟩
  · intro started running
    generalize before : shared.breaker = old at move
    cases move with
    | stay =>
      rw [breaker_settle, ← before] at running
      exact Nat.le_trans (sound.started_le started running) later
    | probe | replace => exact Nat.le_of_eq (Option.some.inj running).symm
    | count | trip | reopen | close => cases running
  · intro deadline open_ pass member h
    generalize before : shared.breaker = old at move
    cases move with
    | stay =>
      rw [breaker_settle, ← before] at open_
      exact sound.stale_deadline deadline open_ pass member
        (stale (before ▸ trips_settle_self shared now) h)
    | trip | reopen =>
      rw [← Option.some.inj open_]
      exact Nat.add_le_add_right (admitted pass member) _
    | count | probe | replace | close => cases open_
  · intro started running pass member h
    generalize before : shared.breaker = old at move
    cases move with
    | stay =>
      rw [breaker_settle, ← before] at running
      exact sound.stale_started started running pass member
        (stale (before ▸ trips_settle_self shared now) h)
    | probe failures deadline ended =>
      have since := sound.stale_deadline deadline (before ▸ rfl) pass member
        (stale (trips_settle_of_not_opened (by simp)) h)
      rw [← Option.some.inj running]
      exact Nat.le_trans since ended
    | replace failures previous =>
      have since := sound.stale_started previous (before ▸ rfl) pass member
        (stale (trips_settle_of_not_opened (by simp)) h)
      have past : previous ≤ shared.now := sound.started_le previous (before ▸ rfl)
      rw [← Option.some.inj running]
      exact Nat.le_trans since (Nat.le_trans past later)
    | count | trip | reopen | close => cases running

/-- Calls may report, and a call may be admitted now, after all openings. -/
theorem withPending {issued : Nat} {pending : List Pass}
    (members : ∀ pass ∈ pending,
      pass ∈ shared.pending ∨ pass.admittedAt = shared.now ∧ pass.epoch = shared.trips) :
    ({ shared with issued, pending } : SharedBreaker).Sound policy := by
  -- A call admitted now is not stale, so what is said of stale calls is said of the old ones only.
  have old {pass : Pass} (member : pass ∈ pending) (h : pass.epoch < shared.trips) :
      pass ∈ shared.pending := by
    rcases members pass member with before | ⟨-, epoch⟩
    · exact before
    · exact absurd h (by omega)
  refine ⟨sound.shaped, sound.started_le, ?_, ?_, ?_, ?_⟩
  · intro pass member
    rcases members pass member with before | ⟨admitted, -⟩
    · exact sound.admittedAt_le pass before
    · exact Nat.le_of_eq admitted
  · intro pass member
    rcases members pass member with before | ⟨-, epoch⟩
    · exact sound.epoch_le pass before
    · exact Nat.le_of_eq epoch
  · intro deadline open_ pass member h
    exact sound.stale_deadline deadline open_ pass (old member h) h
  · intro started running pass member h
    exact sound.stale_started started running pass (old member h) h

/-- **Every event keeps the invariant.** -/
theorem step? (enabled : policy.enabled = true) {event : BreakerEvent} {next : SharedBreaker}
    (stepped : shared.step? policy event = some next) : next.Sound policy := by
  obtain ⟨later, ⟨-, rfl⟩ | ⟨pass, -, failed, -, rfl⟩⟩ := step?_cases stepped
  · have settled := sound.settle later (sound.shaped.move_acquire enabled event.instant)
    unfold acquire
    split
    · refine settled.withPending fun pass member => ?_
      rcases List.mem_cons.mp member with rfl | before
      · exact .inr ⟨rfl, rfl⟩
      · exact .inl before
    · exact settled
  · have settled := sound.settle later
      (sound.shaped.move_record enabled event.instant pass.admission failed)
    exact settled.withPending fun pass member => .inl (List.mem_of_mem_erase member)

end Sound

/-- **Every run of an enabled breaker is sound.** -/
theorem sound_of_play? {policy : BreakerPolicy} (enabled : policy.enabled = true)
    {events : List BreakerEvent} {shared : SharedBreaker}
    (played : initial.play? policy events = some shared) : shared.Sound policy :=
  play?_invariant (Sound policy) (fun _ _ _ _ sound stepped => sound.step? enabled stepped)
    (sound_initial policy) played

end SharedBreaker

end ODataClient

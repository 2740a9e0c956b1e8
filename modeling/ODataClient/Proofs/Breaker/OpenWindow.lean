import ODataClient.Proofs.Breaker.Shared

/-! # The window of an open circuit

From the failure that opens a circuit until one break later every call is rejected, and told exactly
how much of the break is left; the first call from then on is the probe. Outcomes of other calls that
are recorded meanwhile change nothing.

* **`Breaker.Move.opened_eq`** — a circuit opens in two ways only, and both set the deadline one
  break ahead.
* **`OpensAt`** — being open since an instant; kept by every event but a request for admission at or
  after the deadline (`OpensAt.step?`).
* **`acquire_after_trip`** — the answers inside the window and behind it. -/

namespace ODataClient

/-- A move that opens a circuit sets its deadline one break ahead. -/
theorem Breaker.Move.opened_eq {policy : BreakerPolicy} {now : Instant} {before after : Breaker}
    (move : Breaker.Move policy now before after) (closed : before.state ≠ .opened)
    (opened : after.state = .opened) :
    ∃ failures, after = openedUntil failures (now + policy.breakDuration) := by
  cases move with
  | stay => exact absurd opened closed
  | trip before after => exact ⟨after, rfl⟩
  | reopen failures started => exact ⟨failures, rfl⟩
  | count | probe | replace | close => cases opened

namespace SharedBreaker

/-- Whether the circuit is open since an instant, so its deadline lies one break behind that. -/
def OpensAt (policy : BreakerPolicy) (instant : Instant) (shared : SharedBreaker) : Prop :=
  ∃ failures, shared.breaker = .openedUntil failures (instant + policy.breakDuration)

/-- A run does not lead back in time. -/
theorem now_le_of_play? {policy : BreakerPolicy} {events : List BreakerEvent}
    {shared last : SharedBreaker} (played : shared.play? policy events = some last) :
    shared.now ≤ last.now := by
  refine play?_invariant (fun current => shared.now ≤ current.now) ?_ (Nat.le_refl _) played
  intro event _ before after keeps stepped
  obtain ⟨later, ⟨-, rfl⟩ | ⟨pass, -, failed, -, rfl⟩⟩ := step?_cases stepped
  · rw [now_acquire]
    exact Nat.le_trans keeps later
  · exact Nat.le_trans keeps later

/-- An event that happened leaves its instant as the time. -/
theorem now_of_step? {policy : BreakerPolicy} {event : BreakerEvent} {shared next : SharedBreaker}
    (stepped : shared.step? policy event = some next) : next.now = event.instant := by
  obtain ⟨-, ⟨-, rfl⟩ | ⟨pass, -, failed, -, rfl⟩⟩ := step?_cases stepped
  · exact now_acquire policy event.instant shared
  · rfl

/-- No event of a run comes after its end. -/
theorem instant_le_of_play? {policy : BreakerPolicy} {events : List BreakerEvent}
    {shared last : SharedBreaker} (played : shared.play? policy events = some last) :
    ∀ event ∈ events, event.instant ≤ last.now := by
  induction events generalizing shared with
  | nil => simp
  | cons first rest ih =>
    obtain ⟨next, stepped, continued⟩ := play?_cons_eq_some.mp played
    intro event member
    rcases List.mem_cons.mp member with rfl | member
    · rw [← now_of_step? stepped]
      exact now_le_of_play? continued
    · exact ih continued event member

/-- **What keeps a circuit open**: every report, and every request before the deadline. -/
theorem OpensAt.step? {policy : BreakerPolicy} (enabled : policy.enabled = true) {instant : Instant}
    {shared next : SharedBreaker} (opens : shared.OpensAt policy instant) {event : BreakerEvent}
    (early : event.action = .acquire → event.instant < instant + policy.breakDuration)
    (stepped : shared.step? policy event = some next) : next.OpensAt policy instant := by
  obtain ⟨failures, opened⟩ := opens
  refine ⟨failures, ?_⟩
  obtain ⟨-, ⟨action, rfl⟩ | ⟨pass, -, failed, -, rfl⟩⟩ := step?_cases stepped
  · rw [breaker_acquire, opened, Breaker.acquire_openedUntil enabled, if_pos (early action)]
  · show shared.breaker.record policy event.instant pass.admission failed = _
    rw [opened, Breaker.record_openedUntil enabled]

/-- **The open window.** When the report of a failure opens the circuit at an instant, then after
any further events a request before the end of the break is rejected with exactly the time that is
left and changes nothing, and the first request from the end of the break on is admitted as the
probe. -/
theorem acquire_after_trip {policy : BreakerPolicy} (enabled : policy.enabled = true)
    {before between : List BreakerEvent} {shared opened last : SharedBreaker}
    (reached : initial.play? policy before = some shared)
    (notOpen : shared.breaker.state ≠ .opened) {instant : Instant} {serial : Nat}
    (failure : shared.step? policy ⟨instant, .report serial true⟩ = some opened)
    (tripped : opened.breaker.state = .opened)
    (played : opened.play? policy between = some last) {now : Instant} (later : last.now ≤ now) :
    (now < instant + policy.breakDuration →
        last.breaker.acquire policy now =
          (.error (instant + policy.breakDuration - now), last.breaker)) ∧
      (instant + policy.breakDuration ≤ now →
        (∀ event ∈ between, event.action = .acquire →
          event.instant < instant + policy.breakDuration) →
        (last.breaker.acquire policy now).1 = .ok .probe) := by
  have opens : opened.OpensAt policy instant := by
    obtain ⟨-, ⟨action, -⟩ | ⟨pass, -, failed, -, rfl⟩⟩ := step?_cases failure
    · cases action
    · have shaped := (sound_of_play? enabled reached).shaped
      exact (shaped.move_record enabled instant pass.admission failed).opened_eq notOpen tripped
  -- The circuit stays open as long as no request comes at or after the deadline.
  have stays (early : ∀ event ∈ between, event.action = .acquire →
      event.instant < instant + policy.breakDuration) : last.OpensAt policy instant :=
    play?_invariant (OpensAt policy instant)
      (fun event member _ _ keeps stepped => keeps.step? enabled (early event member) stepped)
      opens played
  constructor
  · intro soon
    have early : ∀ event ∈ between, event.action = .acquire →
        event.instant < instant + policy.breakDuration := fun event member _ =>
      Nat.lt_of_le_of_lt (Nat.le_trans (instant_le_of_play? played event member) later) soon
    obtain ⟨failures, breaker⟩ := stays early
    rw [breaker, Breaker.acquire_openedUntil enabled, if_pos soon]
  · intro late early
    obtain ⟨failures, breaker⟩ := stays early
    rw [breaker, Breaker.acquire_openedUntil enabled, if_neg (Nat.not_lt.mpr late)]

/-- Two calls are admitted; the failure of the first one opens the circuit at seven nanoseconds for
five; the second call succeeds inside the window. A request at ten is told to come back after two,
one at twelve is the probe. -/
theorem acquire_after_trip_at_seven :
    ((Breaker.openedUntil 1 12).acquire ⟨true, 1, 5⟩ 10 = (.error 2, .openedUntil 1 12)) ∧
      ((Breaker.openedUntil 1 12).acquire ⟨true, 1, 5⟩ 12).1 = .ok .probe := by
  let policy : BreakerPolicy := ⟨true, 1, 5⟩
  let shared : SharedBreaker :=
    ⟨.closedWith 0, 0, 2, [⟨1, .regular, 0, 0⟩, ⟨0, .regular, 0, 0⟩], 0⟩
  let opened : SharedBreaker := ⟨.openedUntil 1 12, 7, 2, [⟨1, .regular, 0, 0⟩], 1⟩
  let last : SharedBreaker := ⟨.openedUntil 1 12, 9, 2, [], 1⟩
  have reached : initial.play? policy [⟨0, .acquire⟩, ⟨0, .acquire⟩] = some shared := rfl
  have failure : shared.step? policy ⟨7, .report 0 true⟩ = some opened := rfl
  have played : opened.play? policy [⟨9, .report 1 false⟩] = some last := rfl
  have window {now : Instant} (later : 9 ≤ now) :=
    acquire_after_trip rfl reached (by decide) failure rfl played later
  exact ⟨(window (by decide)).1 (by decide), (window (by decide)).2 (by decide) (by decide)⟩

end SharedBreaker

end ODataClient

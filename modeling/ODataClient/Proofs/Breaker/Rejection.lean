import ODataClient.Proofs.Breaker.Probes

/-! # Rejected calls

A breaker that rejects a call stays as it is, and tells the caller exactly how long the rejection lasts:
never longer than one break. As long as nobody reports an outcome, every call before that instant is
rejected with the time that is left, and the first one from then on is the probe.

* **`Breaker.Rejection`** — the two reasons to reject a call, with the instants that the time left is
  computed from; these are in order, so that no difference is cut off at zero.
* **`Breaker.WaitsUntil.run_early`** — requests before the limit leave the breaker as it is;
  `WaitsUntil.run_unadmitted` says so of requests that nobody is admitted by, and
  `WaitsUntil.acquire_behind` what a request is answered behind them.
* **`Breaker.acquire_of_rejected`** — what a rejection says about the calls behind it. -/

namespace ODataClient.Breaker

/-- Why a breaker rejects a call at an instant, and for how long. -/
inductive Rejection (policy : BreakerPolicy) (now : Instant) : Breaker → Duration → Prop
  /-- The circuit is open, and its deadline lies ahead. -/
  | opened (failures : Nat) (deadline : Instant) (ahead : now < deadline) :
      Rejection policy now (openedUntil failures deadline) (deadline - now)
  /-- The circuit is half open, and its probe was admitted in the past and less than a break ago. -/
  | probing (failures : Nat) (started : Instant) (past : started ≤ now)
      (young : now - started < policy.breakDuration) :
      Rejection policy now (probingSince failures started) (policy.breakDuration - (now - started))

variable {policy : BreakerPolicy} {clock now : Instant} {granted : List Grant} {breaker : Breaker}
  {retryAfter : Duration}

/-- **A call is rejected for one of the two reasons.** -/
theorem Dated.rejection (enabled : policy.enabled = true)
    (dated : Dated policy clock granted breaker) (later : clock ≤ now)
    (rejected : (breaker.acquire policy now).1 = .error retryAfter) :
    Rejection policy now breaker retryAfter := by
  cases dated with
  | closed failures =>
    rw [acquire_closedWith enabled] at rejected
    cases rejected
  | opened failures deadline =>
    rw [acquire_openedUntil enabled] at rejected
    split at rejected
    · rename_i ahead
      cases rejected
      exact .opened failures deadline ahead
    · cases rejected
  | probing failures started past =>
    rw [acquire_probingSince enabled] at rejected
    split at rejected
    · rename_i young
      cases rejected
      exact .probing failures started (past.trans later) young
    · cases rejected

/-- A closed circuit rejects nobody. -/
theorem Rejection.tripped (rejection : Rejection policy now breaker retryAfter) :
    breaker.state ≠ .closed := by
  cases rejection <;> nofun

namespace WaitsUntil

variable {since limit : Instant} (waits : breaker.WaitsUntil policy since limit)
include waits

/-- Requests before the limit leave the breaker as it is. -/
theorem run_early {times : List Instant} (since_le : ∀ time ∈ times, since ≤ time)
    (early : ∀ time ∈ times, time < limit) :
    breaker.run policy (times.map .acquire) = breaker := by
  induction times with
  | nil => rfl
  | cons time rest ih =>
    have answer := waits time (since_le time List.mem_cons_self)
    rw [if_pos (early time List.mem_cons_self)] at answer
    rw [List.map_cons, run, List.foldl_cons, BreakerUse.apply, answer]
    exact ih (fun other member => since_le other (List.mem_cons_of_mem _ member))
      (fun other member => early other (List.mem_cons_of_mem _ member))

/-- Requests that nobody is admitted by leave the breaker as it is. -/
theorem run_unadmitted {times : List Instant} (since_le : ∀ time ∈ times, since ≤ time)
    (unadmitted : breaker.grants policy (times.map .acquire) = []) :
    breaker.run policy (times.map .acquire) = breaker := by
  induction times with
  | nil => rfl
  | cons time rest ih =>
    obtain ⟨-, answer⟩ | ⟨-, answer⟩ := waits.cases (since_le time List.mem_cons_self)
    · simp only [List.map_cons, grants, BreakerUse.grant?, BreakerUse.apply, answer,
        Option.toList_none, List.nil_append] at unadmitted
      rw [List.map_cons, run, List.foldl_cons, BreakerUse.apply, answer]
      exact ih (fun other member => since_le other (List.mem_cons_of_mem _ member)) unadmitted
    · simp [grants, BreakerUse.grant?, answer] at unadmitted

/-- What a request is answered behind other ones: the time left before the limit, and an admission as
the probe from then on if nobody was admitted in between. -/
theorem acquire_behind {between : List Instant} {time : Instant}
    (inOrder : (since :: (between ++ [time])).Pairwise (· ≤ ·)) :
    (time < limit → (breaker.run policy (between.map .acquire)).acquire policy time =
      (.error (limit - time), breaker)) ∧
    (limit ≤ time → breaker.grants policy (between.map .acquire) = [] →
      ((breaker.run policy (between.map .acquire)).acquire policy time).1 = .ok .probe) := by
  obtain ⟨since_le, rest⟩ := List.pairwise_cons.mp inOrder
  have requests : ∀ other ∈ between, since ≤ other := fun other member =>
    since_le other (List.mem_append_left _ member)
  have answer := waits time (since_le time List.mem_concat_self)
  constructor
  · intro early
    have allEarly : ∀ other ∈ between, other < limit := fun other member =>
      Nat.lt_of_le_of_lt
        ((List.pairwise_append.mp rest).2.2 other member time (List.mem_singleton_self _)) early
    rw [waits.run_early requests allEarly, answer, if_pos early]
  · intro late unadmitted
    rw [waits.run_unadmitted requests unadmitted, answer, if_neg (Nat.not_lt.mpr late)]

end WaitsUntil

/-- **Rejections are pure and exact.** Let callers use a new breaker that is enabled, in any order and
under a clock that does not run backwards, and let the next request be rejected. Then the breaker stays
as it is, one of the two reasons applies, and the time that the caller is told is positive and at most
one break. Let more requests follow, and no outcome be reported. A request before the time is over is
rejected and told how much of it is left, and the breaker is still the same; from then on a request is
admitted as the probe if nobody was admitted in between. So callers are locked out for one break at
most. -/
theorem acquire_of_rejected (enabled : policy.enabled = true) {uses : List BreakerUse}
    (inOrder : BreakerUse.InOrder (uses ++ [.acquire now]))
    (rejected : ((initial.run policy uses).acquire policy now).1 = .error retryAfter) :
    let breaker := initial.run policy uses
    let behind := (breaker.acquire policy now).2
    behind = breaker ∧ Rejection policy now breaker retryAfter ∧
      0 < retryAfter ∧ retryAfter ≤ policy.breakDuration ∧
      ∀ (between : List Instant) (time : Instant),
        (now :: (between ++ [time])).Pairwise (· ≤ ·) →
        (time < now + retryAfter →
          (behind.run policy (between.map .acquire)).acquire policy time =
            (.error (now + retryAfter - time), breaker)) ∧
        (now + retryAfter ≤ time → behind.grants policy (between.map .acquire) = [] →
          ((behind.run policy (between.map .acquire)).acquire policy time).1 = .ok .probe) := by
  intro breaker behind
  obtain ⟨usesInOrder, -, before⟩ := List.pairwise_append.mp inOrder
  have later : BreakerUse.clockBehind 0 uses ≤ now :=
    BreakerUse.clockBehind_le (Nat.zero_le _) fun use member => before use member _ List.mem_cons_self
  have dated := (dated_run_initial enabled usesInOrder).1.wait later
  have rejection := dated.rejection enabled le_rfl rejected
  obtain ⟨limit, near, waits, -⟩ := dated.waitsUntil enabled rejection.tripped
  obtain ⟨ahead, answer⟩ | ⟨-, answer⟩ := waits.cases le_rfl
  · have unchanged : behind = breaker := congrArg Prod.snd answer
    have left : limit - now = retryAfter := by
      rw [answer] at rejected
      exact Except.error.inj rejected
    have ended : now + retryAfter = limit := by rw [← left, Nat.add_sub_of_le ahead.le]
    rw [unchanged, ended]
    refine ⟨rfl, rejection, ?_, ?_, fun between time inOrder => waits.acquire_behind inOrder⟩
    · exact left ▸ Nat.sub_pos_of_lt ahead
    · exact left ▸ Nat.sub_le_of_le_add (Nat.add_comm now _ ▸ near)
  · rw [answer] at rejected
    cases rejected

/-- With a threshold of one and a break of ten, the circuit opens at three. A request at five is told to
come back after eight: one at twelve is rejected for one more, and one at thirteen is the probe. The
probe does not report, so a request at twenty is rejected until twenty-three. -/
theorem acquire_of_rejected_twice :
    let policy : BreakerPolicy := ⟨true, 1, 10⟩
    let opening : List BreakerUse := [.acquire 3, .record 3 .regular true]
    let probing : List BreakerUse := opening ++ [.acquire 5, .acquire 13]
    ((initial.run policy opening).run policy [.acquire 5, .acquire 7]).acquire policy 12 =
        (.error 1, initial.run policy opening) ∧
      (((initial.run policy opening).run policy [.acquire 5, .acquire 7]).acquire policy 13).1 =
        .ok .probe ∧
      ((initial.run policy probing).acquire policy 20).2 = initial.run policy probing ∧
      (((initial.run policy probing).run policy [.acquire 20]).acquire policy 23).1 = .ok .probe := by
  intro policy opening probing
  have enabled : policy.enabled = true := rfl
  have openRejects : ((initial.run policy opening).acquire policy 5).1 = .error 8 := rfl
  have probeRejects : ((initial.run policy probing).acquire policy 20).1 = .error 3 := rfl
  obtain ⟨-, -, -, -, opened⟩ := acquire_of_rejected enabled (by decide) openRejects
  obtain ⟨unchanged, -, -, -, halfOpen⟩ := acquire_of_rejected enabled (by decide) probeRejects
  exact ⟨(opened [7] 12 (by decide)).1 (by decide), (opened [7] 13 (by decide)).2 (by decide) rfl,
    unchanged, (halfOpen [] 23 (by decide)).2 (by decide) rfl⟩

end ODataClient.Breaker

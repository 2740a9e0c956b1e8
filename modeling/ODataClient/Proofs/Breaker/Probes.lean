import ODataClient.Proofs.Breaker.Counting

/-! # Probes keep their distance

Between two probes a circuit may wait for the first one in vain, open again, or close and trip anew.
Whatever happens, the second probe is admitted at least one break after the first one. Callers use the
breaker in any order under a clock that does not run backwards, and calls may never report. The clock
can represent the end of every break, as `Breaker.trip` assumes.

* **`BreakerUse.InOrder`** — the uses of a run under such a clock.
* **`Grant`, `Breaker.grants`** — the calls that a run admits, each with its instant.
* **`Breaker.Dated`** — the invariant: it ties the instants of a breaker to the clock and to the probes
  so far. `Dated.apply` is its step, and `Dated.run` the induction.
* **`Breaker.Dated.apart`** — a new probe comes at least one break after all earlier ones.
* **`Breaker.grants_apart`** — the distance of probes in any run, who is admitted while the circuit is
  not closed, and what closes it. -/

namespace ODataClient

/-! ## Runs under a clock -/

/-- An admission at an instant. -/
structure Grant where
  /-- When the call was admitted. -/
  instant : Instant
  /-- How it was admitted. -/
  admission : Admission
deriving DecidableEq, Repr

/-- Whether the second of two calls came at least one break after the first one, should both be
probes. -/
def Grant.Apart (policy : BreakerPolicy) (earlier later : Grant) : Prop :=
  earlier.admission = .probe → later.admission = .probe →
    earlier.instant + policy.breakDuration ≤ later.instant

namespace BreakerUse

/-- When a use happens. -/
def instant : BreakerUse → Instant
  | acquire now => now
  | record now _ _ => now

/-- Uses under a clock that does not run backwards. -/
def InOrder (uses : List BreakerUse) : Prop :=
  uses.Pairwise fun earlier later => earlier.instant ≤ later.instant

instance (uses : List BreakerUse) : Decidable (InOrder uses) :=
  inferInstanceAs (Decidable (uses.Pairwise fun earlier later => earlier.instant ≤ later.instant))

/-- The time behind some uses: the instant of the last one, or the time before if there is none. -/
def clockBehind (clock : Instant) (uses : List BreakerUse) : Instant :=
  uses.foldl (fun _ use => use.instant) clock

/-- The time behind some uses is no later than an instant that none of them comes after. -/
theorem clockBehind_le {clock now : Instant} {uses : List BreakerUse} (start : clock ≤ now)
    (before : ∀ use ∈ uses, use.instant ≤ now) : clockBehind clock uses ≤ now := by
  refine List.foldlRecOn (motive := (· ≤ now)) uses _ start fun _ _ use member => ?_
  exact before use member

/-- The admission that a use gets from a breaker, if it asks for one and is not rejected. -/
def grant? (policy : BreakerPolicy) (breaker : Breaker) : BreakerUse → Option Grant
  | acquire now =>
    match (breaker.acquire policy now).1 with
    | .ok admission => some ⟨now, admission⟩
    | .error _ => none
  | record _ _ _ => none

end BreakerUse

namespace Breaker

/-- The admissions of a run in order. -/
def grants (policy : BreakerPolicy) (breaker : Breaker) : List BreakerUse → List Grant
  | [] => []
  | use :: rest =>
    (use.grant? policy breaker).toList ++ (use.apply policy breaker).grants policy rest

variable {policy : BreakerPolicy} {clock now : Instant} {granted : List Grant} {breaker : Breaker}

/-! ## The invariant -/

/-- How the instants of a breaker fit the clock and the admissions so far. -/
inductive Dated (policy : BreakerPolicy) (clock : Instant) (granted : List Grant) : Breaker → Prop
  /-- The probes of a closed circuit lie in the past. -/
  | closed (failures : Nat)
      (past : ∀ grant ∈ granted, grant.admission = .probe → grant.instant ≤ clock) :
      Dated policy clock granted (closedWith failures)
  /-- The deadline of an open circuit is at most one break ahead, and at least one break behind every
  probe. -/
  | opened (failures : Nat) (deadline : Instant) (near : deadline ≤ clock + policy.breakDuration)
      (behind : ∀ grant ∈ granted, grant.admission = .probe →
        grant.instant + policy.breakDuration ≤ deadline) :
      Dated policy clock granted (openedUntil failures deadline)
  /-- The probe of a half-open circuit was admitted in the past, and is the last one. -/
  | probing (failures : Nat) (started : Instant) (past : started ≤ clock)
      (last : ∀ grant ∈ granted, grant.admission = .probe → grant.instant ≤ started) :
      Dated policy clock granted (probingSince failures started)

/-- A new breaker has admitted nobody. -/
theorem dated_initial (policy : BreakerPolicy) (clock : Instant) : Dated policy clock [] initial :=
  .closed 0 nofun

/-- The invariant outlasts any wait. -/
theorem Dated.wait (dated : Dated policy clock granted breaker) (later : clock ≤ now) :
    Dated policy now granted breaker := by
  cases dated with
  | closed failures past =>
    exact .closed failures fun grant member probe => (past grant member probe).trans later
  | opened failures deadline near behind =>
    exact .opened failures deadline (near.trans (Nat.add_le_add_right later _)) behind
  | probing failures started past last => exact .probing failures started (past.trans later) last

/-- Only the probes among the admissions matter. -/
theorem Dated.of_probes {more : List Grant} (dated : Dated policy clock granted breaker)
    (known : ∀ grant ∈ more, grant.admission = .probe → grant ∈ granted) :
    Dated policy clock more breaker := by
  cases dated with
  | closed failures past =>
    exact .closed failures fun grant member probe => past grant (known grant member probe) probe
  | opened failures deadline near behind =>
    exact .opened failures deadline near fun grant member probe =>
      behind grant (known grant member probe) probe
  | probing failures started past last =>
    exact .probing failures started past fun grant member probe =>
      last grant (known grant member probe) probe

/-- The instants of such a breaker fit its state. -/
theorem Dated.shaped (dated : Dated policy clock granted breaker) : breaker.Shaped := by
  cases dated with
  | closed => exact .closed _
  | opened => exact .opened _ _
  | probing => exact .probing _ _

/-- **Every move of the breaker keeps the invariant**, as long as nobody is admitted by it. -/
theorem Dated.move {next : Breaker} (dated : Dated policy clock granted breaker)
    (later : clock ≤ now) (move : Move policy now breaker next) :
    Dated policy now granted next := by
  cases move with
  | stay => exact dated.wait later
  | count before after =>
    cases dated with
    | closed _ past =>
      exact .closed after fun grant member probe => (past grant member probe).trans later
  | trip before after =>
    cases dated with
    | closed _ past =>
      exact .opened after _ le_rfl fun grant member probe =>
        Nat.add_le_add_right ((past grant member probe).trans later) _
  | probe failures deadline ended =>
    cases dated with
    | opened _ _ near behind =>
      exact .probing failures now le_rfl fun grant member probe =>
        (Nat.le_add_right _ _).trans ((behind grant member probe).trans ended)
  | replace failures started =>
    cases dated with
    | probing _ _ past last =>
      exact .probing failures now le_rfl fun grant member probe =>
        (last grant member probe).trans (past.trans later)
  | reopen failures started =>
    cases dated with
    | probing _ _ past last =>
      exact .opened failures _ le_rfl fun grant member probe =>
        Nat.add_le_add_right ((last grant member probe).trans (past.trans later)) _
  | close failures started =>
    cases dated with
    | probing _ _ past last =>
      exact .closed 0 fun grant member probe => (last grant member probe).trans (past.trans later)

/-! ## Requests while the circuit is not closed -/

/-- Whether a breaker rejects every call from an instant on until another one, telling it how long that
is, and then admits the first call as the probe. -/
def WaitsUntil (policy : BreakerPolicy) (since limit : Instant) (breaker : Breaker) : Prop :=
  ∀ now, since ≤ now → breaker.acquire policy now =
    if now < limit then (.error (limit - now), breaker)
    else (.ok .probe, probingSince breaker.failures now)

/-- The answer of a breaker that waits, and what it is behind the answer. -/
theorem WaitsUntil.cases {since limit : Instant} (waits : breaker.WaitsUntil policy since limit)
    (later : since ≤ now) :
    (now < limit ∧ breaker.acquire policy now = (.error (limit - now), breaker)) ∨
      (limit ≤ now ∧
        breaker.acquire policy now = (.ok .probe, probingSince breaker.failures now)) := by
  have answer := waits now later
  by_cases early : now < limit
  · rw [if_pos early] at answer
    exact .inl ⟨early, answer⟩
  · rw [if_neg early] at answer
    exact .inr ⟨Nat.le_of_not_lt early, answer⟩

/-- **An open circuit and a half-open one wait alike**: for at most one break, and at least until one
break behind every probe. -/
theorem Dated.waitsUntil (enabled : policy.enabled = true)
    (dated : Dated policy clock granted breaker) (tripped : breaker.state ≠ .closed) :
    ∃ limit ≤ clock + policy.breakDuration, breaker.WaitsUntil policy clock limit ∧
      ∀ grant ∈ granted, grant.admission = .probe →
        grant.instant + policy.breakDuration ≤ limit := by
  cases dated with
  | closed => exact absurd rfl tripped
  | opened failures deadline near behind =>
    exact ⟨deadline, near, fun now _ => acquire_openedUntil enabled now failures deadline, behind⟩
  | probing failures started past last =>
    refine ⟨started + policy.breakDuration, Nat.add_le_add_right past _, fun now later => ?_,
      fun grant member probe => Nat.add_le_add_right (last grant member probe) _⟩
    have started_le : started ≤ now := past.trans later
    -- The rest of the break is counted from the probe here, and up to the limit there.
    rw [acquire_probingSince enabled, Nat.sub_sub_right _ started_le,
      Nat.add_comm policy.breakDuration]
    simp only [Nat.sub_lt_iff_lt_add' started_le]
    rfl

/-! ## One more use -/

/-- A use is a move of the breaker. -/
theorem Shaped.move_apply (enabled : policy.enabled = true) (shaped : breaker.Shaped)
    (use : BreakerUse) : Move policy use.instant breaker (use.apply policy breaker) := by
  cases use with
  | acquire now => exact shaped.move_acquire enabled now
  | record now admission failed => exact shaped.move_record enabled now admission failed

/-- **Who is admitted, and how**: any call while the circuit is closed; otherwise a probe, which the
circuit then waits for, at least one break behind all earlier ones. -/
theorem Dated.grant?_cases (enabled : policy.enabled = true)
    (dated : Dated policy clock granted breaker) {use : BreakerUse} (later : clock ≤ use.instant)
    {grant : Grant} (isGranted : use.grant? policy breaker = some grant) :
    grant.admission = .regular ∨
      (grant.instant = use.instant ∧
        use.apply policy breaker = probingSince breaker.failures grant.instant ∧
        ∀ earlier ∈ granted, earlier.admission = .probe →
          earlier.instant + policy.breakDuration ≤ grant.instant) := by
  cases use with
  | record => cases isGranted
  | acquire now =>
    by_cases closed : breaker.state = .closed
    · cases dated with
      | opened | probing => cases closed
      | closed failures =>
        rw [BreakerUse.grant?, acquire_closedWith enabled] at isGranted
        cases isGranted
        exact .inl rfl
    · obtain ⟨limit, -, waits, behind⟩ := dated.waitsUntil enabled closed
      have later : clock ≤ now := later
      rw [BreakerUse.grant?] at isGranted
      rw [BreakerUse.apply]
      obtain ⟨-, answer⟩ | ⟨late, answer⟩ := waits.cases later
      · rw [answer] at isGranted
        cases isGranted
      · rw [answer] at isGranted ⊢
        cases isGranted
        exact .inr ⟨rfl, rfl, fun earlier member probe => (behind earlier member probe).trans late⟩

/-- A new probe keeps its distance to all earlier ones. -/
theorem Dated.apart (enabled : policy.enabled = true) (dated : Dated policy clock granted breaker)
    {use : BreakerUse} (later : clock ≤ use.instant) {grant : Grant}
    (isGranted : use.grant? policy breaker = some grant) :
    ∀ earlier ∈ granted, Grant.Apart policy earlier grant := by
  intro earlier member earlierProbe probe
  obtain regular | ⟨-, -, behind⟩ := dated.grant?_cases enabled later isGranted
  · rw [regular] at probe
    cases probe
  · exact behind earlier member earlierProbe

/-- **Every use keeps the invariant**, together with the admission that it gets. -/
theorem Dated.apply (enabled : policy.enabled = true) (dated : Dated policy clock granted breaker)
    (use : BreakerUse) (later : clock ≤ use.instant) :
    Dated policy use.instant (granted ++ (use.grant? policy breaker).toList)
      (use.apply policy breaker) := by
  have moved := dated.move later (dated.shaped.move_apply enabled use)
  cases isGranted : use.grant? policy breaker with
  | none => rwa [Option.toList_none, List.append_nil]
  | some grant =>
    obtain regular | ⟨now, probing, behind⟩ := dated.grant?_cases enabled later isGranted
    · refine moved.of_probes fun other member probe => ?_
      rcases List.mem_append.mp member with old | new
      · exact old
      · rw [List.mem_singleton.mp new, regular] at probe
        cases probe
    · rw [probing]
      refine .probing _ _ now.le fun other member probe => ?_
      rcases List.mem_append.mp member with old | new
      · exact (Nat.le_add_right _ _).trans (behind other old probe)
      · rw [List.mem_singleton.mp new]

/-! ## Runs -/

/-- **Every run keeps the invariant**, and its probes keep their distance to each other and to the
earlier ones. -/
theorem Dated.run (enabled : policy.enabled = true) {uses : List BreakerUse}
    (inOrder : BreakerUse.InOrder uses) (dated : Dated policy clock granted breaker)
    (apart : granted.Pairwise (Grant.Apart policy)) (behind : ∀ use ∈ uses, clock ≤ use.instant) :
    Dated policy (BreakerUse.clockBehind clock uses) (granted ++ breaker.grants policy uses)
        (breaker.run policy uses) ∧
      (granted ++ breaker.grants policy uses).Pairwise (Grant.Apart policy) := by
  induction uses generalizing clock granted breaker with
  | nil =>
    rw [grants, List.append_nil]
    exact ⟨dated, apart⟩
  | cons use rest ih =>
    obtain ⟨restBehind, restInOrder⟩ := List.pairwise_cons.mp inOrder
    have later : clock ≤ use.instant := behind use List.mem_cons_self
    have stillApart :
        (granted ++ (use.grant? policy breaker).toList).Pairwise (Grant.Apart policy) := by
      refine List.pairwise_append.mpr ⟨apart, ?_, fun earlier member grant new => ?_⟩
      · cases use.grant? policy breaker with
        | none => exact .nil
        | some grant => exact List.pairwise_singleton _ _
      · exact dated.apart enabled later (Option.mem_toList.mp new) earlier member
    rw [grants, ← List.append_assoc]
    exact ih restInOrder (dated.apply enabled use later) stillApart restBehind

/-- **What every run of a new breaker keeps.** -/
theorem dated_run_initial (enabled : policy.enabled = true) {uses : List BreakerUse}
    (inOrder : BreakerUse.InOrder uses) :
    Dated policy (BreakerUse.clockBehind 0 uses) (initial.grants policy uses)
        (initial.run policy uses) ∧
      (initial.grants policy uses).Pairwise (Grant.Apart policy) :=
  (dated_initial policy 0).run enabled inOrder .nil fun _ _ => Nat.zero_le _

/-- A tripped circuit admits nobody but a probe. -/
theorem Shaped.admission_of_acquire (enabled : policy.enabled = true) (shaped : breaker.Shaped)
    (tripped : breaker.state ≠ .closed) {admission : Admission}
    (admitted : (breaker.acquire policy now).1 = .ok admission) : admission = .probe := by
  cases shaped with
  | closed => exact absurd rfl tripped
  | opened failures deadline =>
    rw [acquire_openedUntil enabled] at admitted
    split at admitted
    · cases admitted
    · exact (Except.ok.inj admitted).symm
  | probing failures started =>
    rw [acquire_probingSince enabled] at admitted
    split at admitted
    · cases admitted
    · exact (Except.ok.inj admitted).symm

/-- Only the success of a probe closes a tripped circuit, and this is half open then. -/
theorem Shaped.closes (enabled : policy.enabled = true) (shaped : breaker.Shaped)
    (tripped : breaker.state ≠ .closed) {use : BreakerUse}
    (closes : (use.apply policy breaker).state = .closed) :
    breaker.state = .halfOpen ∧ ∃ now, use = .record now .probe false := by
  cases shaped with
  | closed => exact absurd rfl tripped
  | opened failures deadline =>
    cases use with
    | acquire now =>
      rw [BreakerUse.apply, acquire_openedUntil enabled] at closes
      split at closes <;> cases closes
    | record now admission failed =>
      rw [BreakerUse.apply, record_openedUntil enabled] at closes
      cases closes
  | probing failures started =>
    cases use with
    | acquire now =>
      rw [BreakerUse.apply, acquire_probingSince enabled] at closes
      split at closes <;> cases closes
    | record now admission failed =>
      cases admission with
      | regular =>
        rw [BreakerUse.apply, record_probingSince_regular enabled] at closes
        cases closes
      | probe =>
        rw [BreakerUse.apply, record_probingSince_probe enabled] at closes
        cases failed with
        | true => cases closes
        | false => exact ⟨rfl, now, rfl⟩

/-- **Probes keep their distance.** Let callers use a new breaker that is enabled, in any order and under
a clock that does not run backwards; any of them may never report. Then any two calls that are admitted
as probes are admitted at least one break apart. Behind every such run, a call that is admitted while
the circuit is open or half open is admitted as a probe, and the only use that closes the circuit is to
record the success of a probe while it is half open. -/
theorem grants_apart (enabled : policy.enabled = true) (uses : List BreakerUse)
    (inOrder : BreakerUse.InOrder uses) :
    (initial.grants policy uses).Pairwise (Grant.Apart policy) ∧
      ((initial.run policy uses).state ≠ .closed →
        (∀ now, ((initial.run policy uses).acquire policy now).1 ≠ .ok .regular) ∧
        ∀ use : BreakerUse, (use.apply policy (initial.run policy uses)).state = .closed →
          (initial.run policy uses).state = .halfOpen ∧ ∃ now, use = .record now .probe false) := by
  obtain ⟨dated, apart⟩ := dated_run_initial enabled inOrder
  refine ⟨apart, fun tripped => ⟨fun now admitted => ?_, fun use => ?_⟩⟩
  · cases dated.shaped.admission_of_acquire enabled tripped admitted
  · exact dated.shaped.closes enabled tripped

/-- With a threshold of one and a break of ten, a probe at ten does not report and is replaced at
twenty. The second one succeeds; the next failure, at twenty-two, opens the circuit anew, which admits
a probe at thirty-two. -/
theorem grants_apart_replaced_and_reopened :
    let policy : BreakerPolicy := ⟨true, 1, 10⟩
    let uses : List BreakerUse := [.acquire 0, .record 0 .regular true, .acquire 9, .acquire 10,
      .acquire 20, .record 21 .probe false, .acquire 22, .record 22 .regular true, .acquire 32]
    initial.grants policy uses = [⟨0, .regular⟩, ⟨10, .probe⟩, ⟨20, .probe⟩, ⟨22, .regular⟩,
        ⟨32, .probe⟩] ∧
      (initial.grants policy uses).Pairwise (Grant.Apart policy) ∧
      ((initial.run policy uses).acquire policy 40).1 ≠ .ok .regular := by
  intro policy uses
  have enabled : policy.enabled = true := rfl
  obtain ⟨apart, tripped⟩ := grants_apart enabled uses (by decide)
  exact ⟨rfl, apart, (tripped (by decide)).1 40⟩

end Breaker

end ODataClient

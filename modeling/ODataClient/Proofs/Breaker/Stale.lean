import ODataClient.Proofs.Breaker.Shared

/-! # Outcomes that come too late

A call that was admitted before the circuit last opened has no say in the open or half-open circuit,
with one exception: a stale *probe* that reports while another probe is under way is taken for it.

* **`report_stale_eq_iff`** — a stale outcome leaves a tripped circuit as it is, except that of a
  probe in a half-open circuit; such a probe has been replaced by one admitted at least one break
  later, and it closes or opens the circuit in its place.
* **`stale_outcomes_not_ignored`** — the exception happens: a late success closes the circuit while
  the probe of the current episode is still under way. -/

namespace ODataClient.SharedBreaker

/-- The breaker after a report is the breaker with the outcome recorded. -/
theorem breaker_report (policy : BreakerPolicy) (now : Instant) (pass : Pass) (failed : Bool)
    (shared : SharedBreaker) :
    (shared.report policy now pass failed).breaker =
      shared.breaker.record policy now pass.admission failed := rfl

/-- **Stale outcomes of a tripped circuit.** In every run, the report of a call that was admitted
before the circuit last opened leaves an open or half-open breaker exactly as it is, unless the call
was admitted as a probe and the circuit is half open. Then the probe under way was admitted at least
one break after the call, and the report is taken for that of the probe under way. -/
theorem report_stale_eq_iff {policy : BreakerPolicy} (enabled : policy.enabled = true)
    {events : List BreakerEvent} {shared : SharedBreaker}
    (played : initial.play? policy events = some shared) {pass : Pass}
    (pending : pass ∈ shared.pending) (stale : pass.IsStale shared)
    (tripped : shared.breaker.state ≠ .closed) (now : Instant) (failed : Bool) :
    ((shared.report policy now pass failed).breaker = shared.breaker ↔
        ¬ (pass.admission = .probe ∧ shared.breaker.state = .halfOpen)) ∧
      (pass.admission = .probe → shared.breaker.state = .halfOpen →
        (∃ started, shared.breaker.probeStarted = some started ∧
          pass.admittedAt + policy.breakDuration ≤ started) ∧
        (shared.report policy now pass failed).breaker.state =
          if failed then .opened else .closed) := by
  have sound := sound_of_play? enabled played
  rw [breaker_report]
  generalize breaker_eq : shared.breaker = breaker at tripped ⊢
  have shaped : breaker.Shaped := breaker_eq ▸ sound.shaped
  cases shaped with
  | closed failures => exact absurd rfl tripped
  | opened failures deadline =>
    -- An open circuit ignores every outcome.
    rw [Breaker.record_openedUntil enabled]
    simp
  | probing failures started =>
    cases admission : pass.admission with
    | regular =>
      rw [Breaker.record_probingSince_regular enabled]
      simp
    | probe =>
      have replaced : pass.admittedAt + policy.breakDuration ≤ started :=
        sound.stale_started started (by rw [breaker_eq]; rfl) pass pending stale
      rw [Breaker.record_probingSince_probe enabled]
      refine ⟨⟨fun same => ?_, fun none => absurd ⟨rfl, rfl⟩ none⟩,
        fun _ _ => ⟨⟨started, rfl, replaced⟩, ?_⟩⟩
      · -- The outcome of a probe leads out of the half-open state.
        have state := congrArg Breaker.state same
        cases failed <;> cases state
      · cases failed <;> rfl

/-- The events of a probe that reports too late, with a threshold of one failure and a break of one
nanosecond: the circuit opens; the first probe does not report and is replaced; the second one fails;
the third one is under way. -/
def lateProbeEvents : List BreakerEvent :=
  [⟨0, .acquire⟩, ⟨0, .report 0 true⟩, ⟨1, .acquire⟩, ⟨2, .acquire⟩, ⟨2, .report 2 true⟩,
    ⟨3, .acquire⟩]

/-- The run of a probe that reports too late, before it reports. -/
def lateProbe : SharedBreaker :=
  { breaker := .probingSince 1 3
    now := 3
    issued := 4
    pending := [⟨3, .probe, 3, 2⟩, ⟨1, .probe, 1, 1⟩]
    trips := 2 }

/-- The late probe was replaced two nanoseconds after it was admitted, and its success would close the
circuit. -/
theorem report_lateProbe :
    (∃ started, lateProbe.breaker.probeStarted = some started ∧ 1 + 1 ≤ started) ∧
      (lateProbe.report ⟨true, 1, 1⟩ 3 ⟨1, .probe, 1, 1⟩ false).breaker.state = .closed := by
  have played : initial.play? ⟨true, 1, 1⟩ lateProbeEvents = some lateProbe := rfl
  have pending : ⟨1, .probe, 1, 1⟩ ∈ lateProbe.pending := by decide
  have stale : Pass.IsStale ⟨1, .probe, 1, 1⟩ lateProbe := by
    unfold Pass.IsStale
    decide
  exact (report_stale_eq_iff rfl played pending stale (by decide) 3 false).2 rfl rfl

/-- **Not all stale outcomes are ignored.** The success of a probe that was replaced, reported after the
circuit has opened again, closes the half-open circuit. -/
theorem stale_outcomes_not_ignored :
    ¬ ∀ (policy : BreakerPolicy) (events : List BreakerEvent) (shared : SharedBreaker),
      policy.enabled = true → initial.play? policy events = some shared →
        ∀ pass ∈ shared.pending, pass.IsStale shared → shared.breaker.state ≠ .closed →
          ∀ now, shared.now ≤ now → ∀ failed,
            (shared.report policy now pass failed).breaker = shared.breaker := by
  intro ignored
  have same := ignored ⟨true, 1, 1⟩ lateProbeEvents lateProbe rfl rfl ⟨1, .probe, 1, 1⟩ (by decide)
    (by unfold Pass.IsStale; decide) (by decide) 3 (Nat.le_refl 3) false
  exact absurd same (by decide)

end ODataClient.SharedBreaker

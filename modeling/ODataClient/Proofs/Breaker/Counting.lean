import Mathlib.Data.List.DropRight
import ODataClient.Proofs.Breaker.Shape

/-! # What a breaker counts

The count of a closed circuit is the number of failures in a row, and the circuit opens exactly when
there are as many as the threshold asks for. This holds whatever callers do with the breaker: the
uses of a run come in any order, at any instants, and report any calls as often as they like. The end of
a break is assumed to be an instant that the clock can represent, as `Breaker.trip` says.

* **`BreakerUse`** — what a caller does with a breaker; `Breaker.run` is a run of uses.
* **`BreakerTurn`** — a use with the states of the circuit before and behind it; the turns of a run
  are its history.
* **`failuresInARow`**, **`closedPeriod`** — what a history says about the failures since the count
  was last cleared, and about the outcomes since the circuit last closed.
* **`Breaker.Counts`** — the invariant that ties a breaker to its history; `Counts.apply` is its step.
* **`Breaker.countingLaw_run`** — what the fields of a breaker are after any run, and which use of a
  closed circuit opens it. -/

namespace ODataClient

/-! ## Runs and their histories -/

/-- What a caller does with a breaker. -/
inductive BreakerUse
  /-- Ask for admission at an instant. -/
  | acquire (now : Instant)
  /-- Record at an instant whether a call failed that was admitted in some way. -/
  | record (now : Instant) (admission : Admission) (failed : Bool)
deriving DecidableEq, Repr

namespace BreakerUse

/-- The breaker after a use. -/
def apply (policy : BreakerPolicy) (breaker : Breaker) : BreakerUse → Breaker
  | acquire now => (breaker.acquire policy now).2
  | record now admission failed => breaker.record policy now admission failed

/-- Whether the call failed whose outcome is recorded, if one is recorded. -/
def failed? : BreakerUse → Option Bool
  | acquire _ => none
  | record _ _ failed => some failed

end BreakerUse

/-- A use of a breaker with the states of the circuit before and behind it. -/
structure BreakerTurn where
  /-- The use. -/
  use : BreakerUse
  /-- The state before. -/
  before : CircuitState
  /-- The state behind. -/
  after : CircuitState
deriving DecidableEq, Repr

namespace BreakerTurn

/-- Whether the circuit closes. -/
def closes (turn : BreakerTurn) : Bool := turn.before != .closed && turn.after == .closed

/-- Whether the failures in a row end: the circuit closes, or a success is recorded while it is
closed. -/
def clears (turn : BreakerTurn) : Bool :=
  turn.closes || (turn.before == .closed && turn.use.failed? == some false)

end BreakerTurn

/-- The number of failures recorded since the start, the last closing and the last success recorded
while closed, whichever was latest. -/
def failuresInARow (turns : List BreakerTurn) : Nat :=
  (turns.rtakeWhile fun turn => !turn.clears).countP fun turn => turn.use.failed? == some true

/-- The outcomes recorded since the start or the last closing: for each whether it is a failure. -/
def closedPeriod (turns : List BreakerTurn) : List Bool :=
  (turns.rtakeWhile fun turn => !turn.closes).filterMap fun turn => turn.use.failed?

namespace Breaker

/-- The breaker after some uses. -/
def run (policy : BreakerPolicy) (breaker : Breaker) (uses : List BreakerUse) : Breaker :=
  uses.foldl (BreakerUse.apply policy) breaker

/-- A use of a breaker as a turn. -/
def turn (policy : BreakerPolicy) (breaker : Breaker) (use : BreakerUse) : BreakerTurn :=
  ⟨use, breaker.state, (use.apply policy breaker).state⟩

/-- The turns of a run. -/
def turns (policy : BreakerPolicy) (breaker : Breaker) : List BreakerUse → List BreakerTurn
  | [] => []
  | use :: rest => breaker.turn policy use :: (use.apply policy breaker).turns policy rest

end Breaker

/-! ## One more turn -/

/-- The number of failures at the end of the closed period. -/
def failureStreak (turns : List BreakerTurn) : Nat := ((closedPeriod turns).rtakeWhile id).length

/-- Outcomes end with a number of failures if their last streak of failures is that long. -/
theorem replicate_true_suffix_iff {count : Nat} {flags : List Bool} :
    List.replicate count true <:+ flags ↔ count ≤ (flags.rtakeWhile id).length := by
  constructor
  · rintro ⟨earlier, rfl⟩
    have failures : ∀ flag ∈ List.replicate count true, id flag = true :=
      fun flag member => List.eq_of_mem_replicate member
    rw [List.rtakeWhile, List.length_reverse, List.reverse_append, List.reverse_replicate,
      List.takeWhile_append_of_pos failures, List.length_append, List.length_replicate]
    exact Nat.le_add_right _ _
  · intro long
    have streak : flags.rtakeWhile id = List.replicate (flags.rtakeWhile id).length true :=
      List.eq_replicate_iff.mpr ⟨rfl, fun flag member => List.mem_rtakeWhile_imp member⟩
    have part : List.replicate count true <:+ flags.rtakeWhile id := by
      rw [streak, ← Nat.sub_add_cancel long, List.replicate_add]
      exact List.suffix_append _ _
    exact part.trans (List.rtakeWhile_suffix _ _)

section OneMoreTurn

variable {turns : List BreakerTurn} {turn : BreakerTurn}

/-- A turn that ends the failures in a row leaves none. -/
theorem failuresInARow_of_clears (clears : turn.clears = true) :
    failuresInARow (turns ++ [turn]) = 0 := by
  rw [failuresInARow, List.rtakeWhile_concat_neg _ _ _ (by simp [clears])]
  rfl

/-- Any other turn adds the failure that it records. -/
theorem failuresInARow_of_not_clears (goesOn : turn.clears = false) :
    failuresInARow (turns ++ [turn]) =
      failuresInARow turns + if turn.use.failed? = some true then 1 else 0 := by
  rw [failuresInARow, List.rtakeWhile_concat_pos _ _ _ (by simp [goesOn]), List.countP_append,
    List.countP_singleton, failuresInARow]
  simp only [beq_iff_eq]

/-- A turn that closes the circuit begins a closed period without outcomes. -/
theorem closedPeriod_of_closes (closes : turn.closes = true) :
    closedPeriod (turns ++ [turn]) = [] := by
  rw [closedPeriod, List.rtakeWhile_concat_neg _ _ _ (by simp [closes])]
  rfl

/-- Any other turn adds the outcome that it records. -/
theorem closedPeriod_of_not_closes (goesOn : turn.closes = false) :
    closedPeriod (turns ++ [turn]) = closedPeriod turns ++ turn.use.failed?.toList := by
  rw [closedPeriod, List.rtakeWhile_concat_pos _ _ _ (by simp [goesOn]), List.filterMap_append,
    closedPeriod]
  cases failed : turn.use.failed? <;> simp [failed]

/-- A turn that records nothing leaves the streak as it is. -/
theorem failureStreak_of_silent (goesOn : turn.closes = false) (silent : turn.use.failed? = none) :
    failureStreak (turns ++ [turn]) = failureStreak turns := by
  rw [failureStreak, closedPeriod_of_not_closes goesOn, silent, Option.toList_none, List.append_nil,
    failureStreak]

/-- A success ends the streak. -/
theorem failureStreak_of_success (goesOn : turn.closes = false)
    (success : turn.use.failed? = some false) : failureStreak (turns ++ [turn]) = 0 := by
  rw [failureStreak, closedPeriod_of_not_closes goesOn, success, Option.toList_some,
    List.rtakeWhile_concat_neg _ _ _ (by decide), List.length_nil]

/-- A failure makes the streak longer. -/
theorem failureStreak_of_failure (goesOn : turn.closes = false)
    (failure : turn.use.failed? = some true) :
    failureStreak (turns ++ [turn]) = failureStreak turns + 1 := by
  rw [failureStreak, closedPeriod_of_not_closes goesOn, failure, Option.toList_some,
    List.rtakeWhile_concat_pos _ _ _ rfl, List.length_append, List.length_singleton, failureStreak]

end OneMoreTurn

/-! ## The invariant of all runs -/

namespace Breaker

variable {policy : BreakerPolicy} {turns : List BreakerTurn} {breaker : Breaker}

/-- How the count of a breaker fits its history. -/
inductive Counts (policy : BreakerPolicy) (turns : List BreakerTurn) : Breaker → Prop
  /-- A closed circuit counts the failures in a row, and they are too few to open it. -/
  | closed (failures : Nat) (below : failures < policy.threshold)
      (inARow : failuresInARow turns = failures) (streak : failureStreak turns = failures) :
      Counts policy turns (closedWith failures)
  /-- An open circuit keeps the count that opened it. -/
  | opened (failures : Nat) (deadline : Instant) (reached : policy.threshold ≤ failures) :
      Counts policy turns (openedUntil failures deadline)
  /-- So does a half-open one. -/
  | probing (failures : Nat) (started : Instant) (reached : policy.threshold ≤ failures) :
      Counts policy turns (probingSince failures started)

/-- A breaker that has closed again counts anew. -/
theorem Counts.of_closes (active : policy.IsActive) {turn : BreakerTurn}
    (closes : turn.closes = true) : Counts policy (turns ++ [turn]) (closedWith 0) := by
  have clears : turn.clears = true := by simp [BreakerTurn.clears, closes]
  refine .closed 0 active.positive (failuresInARow_of_clears clears) ?_
  rw [failureStreak, closedPeriod_of_closes closes]
  rfl

/-- The turn of a use, given the breaker that the use leaves. -/
theorem turn_eq (use : BreakerUse) {next : Breaker} (applied : use.apply policy breaker = next) :
    breaker.turn policy use = ⟨use, breaker.state, next.state⟩ := by
  rw [turn, applied]

/-- Every use of a closed circuit keeps the invariant. -/
theorem Counts.apply_closedWith (active : policy.IsActive) {failures : Nat}
    (below : failures < policy.threshold) (inARow : failuresInARow turns = failures)
    (streak : failureStreak turns = failures) (use : BreakerUse) :
    Counts policy (turns ++ [(closedWith failures).turn policy use])
      (use.apply policy (closedWith failures)) := by
  have enabled := active.enabled
  cases use with
  | acquire now =>
    have applied : (BreakerUse.acquire now).apply policy (closedWith failures) =
        closedWith failures := by
      rw [BreakerUse.apply, acquire_closedWith enabled]
    rw [turn_eq _ applied, applied]
    refine .closed failures below ?_ ((failureStreak_of_silent rfl rfl).trans streak)
    rw [failuresInARow_of_not_clears rfl, inARow]
    rfl
  | record now admission failed =>
    cases failed with
    | false =>
      have applied : (BreakerUse.record now admission false).apply policy (closedWith failures) =
          closedWith 0 := record_closedWith_succeeded enabled now admission failures
      rw [turn_eq _ applied, applied]
      exact .closed 0 active.positive (failuresInARow_of_clears rfl)
        (failureStreak_of_success rfl rfl)
    | true =>
      have applied := record_closedWith_below active below now admission
      by_cases reached : policy.threshold ≤ failures + 1
      · rw [if_pos reached] at applied
        rw [BreakerUse.apply, applied]
        exact .opened (failures + 1) _ reached
      · rw [if_neg reached] at applied
        have turn := turn_eq (.record now admission true) applied
        rw [turn, BreakerUse.apply, applied]
        refine .closed (failures + 1) (Nat.lt_of_not_le reached) ?_ ?_
        · rw [failuresInARow_of_not_clears rfl, inARow]
          rfl
        · rw [failureStreak_of_failure rfl rfl, streak]

/-- **Every use keeps the invariant.** -/
theorem Counts.apply (active : policy.IsActive) (counts : Counts policy turns breaker)
    (use : BreakerUse) :
    Counts policy (turns ++ [breaker.turn policy use]) (use.apply policy breaker) := by
  have enabled := active.enabled
  cases counts with
  | closed failures below inARow streak =>
    exact Counts.apply_closedWith active below inARow streak use
  | opened failures deadline reached =>
    cases use with
    | acquire now =>
      rw [BreakerUse.apply, acquire_openedUntil enabled]
      split
      · exact .opened failures deadline reached
      · exact .probing failures now reached
    | record now admission failed =>
      rw [BreakerUse.apply, record_openedUntil enabled]
      exact .opened failures deadline reached
  | probing failures started reached =>
    cases use with
    | acquire now =>
      rw [BreakerUse.apply, acquire_probingSince enabled]
      split
      · exact .probing failures started reached
      · exact .probing failures now reached
    | record now admission failed =>
      cases admission with
      | regular =>
        rw [BreakerUse.apply, record_probingSince_regular enabled]
        exact .probing failures started reached
      | probe =>
        have applied := record_probingSince_probe enabled now failed failures started
        rw [BreakerUse.apply, applied]
        cases failed with
        | true => exact .opened failures _ reached
        | false =>
          have turn := turn_eq (.record now .probe false) applied
          exact turn ▸ Counts.of_closes active rfl

/-- **Every run keeps the invariant.** -/
theorem Counts.run (active : policy.IsActive) (counts : Counts policy turns breaker)
    (uses : List BreakerUse) :
    Counts policy (turns ++ breaker.turns policy uses) (breaker.run policy uses) := by
  induction uses generalizing turns breaker with
  | nil => rwa [Breaker.turns, List.append_nil]
  | cons use rest ih =>
    have continued := ih (counts.apply active use)
    rw [List.append_assoc, List.singleton_append] at continued
    exact continued

/-- A new breaker has counted nothing, so its runs keep the invariant from the start. -/
theorem counts_run_initial (active : policy.IsActive) (uses : List BreakerUse) :
    Counts policy (initial.turns policy uses) (initial.run policy uses) := by
  have start : Counts policy [] initial := .closed 0 active.positive rfl rfl
  exact start.run active uses

/-! ## The counting law -/

/-- What the fields of a breaker are, given the history that led to it. -/
structure CountingLaw (policy : BreakerPolicy) (turns : List BreakerTurn) (breaker : Breaker) :
    Prop where
  /-- A closed circuit has neither a deadline nor a probe. It counts the failures in a row, and they
  are fewer than the threshold. -/
  closed : breaker.state = .closed →
    breaker.openUntil = none ∧ breaker.probeStarted = none ∧
      breaker.failures < policy.threshold ∧ breaker.failures = failuresInARow turns
  /-- An open circuit has a deadline and no probe, and a count of at least the threshold. -/
  opened : breaker.state = .opened →
    (∃ deadline, breaker.openUntil = some deadline) ∧ breaker.probeStarted = none ∧
      policy.threshold ≤ breaker.failures
  /-- A half-open circuit has a probe and no deadline, and a count of at least the threshold. -/
  halfOpen : breaker.state = .halfOpen →
    (∃ started, breaker.probeStarted = some started) ∧ breaker.openUntil = none ∧
      policy.threshold ≤ breaker.failures

/-- The invariant says what the fields are. -/
theorem Counts.countingLaw (counts : Counts policy turns breaker) :
    CountingLaw policy turns breaker := by
  cases counts with
  | closed failures below inARow =>
    exact ⟨fun _ => ⟨rfl, rfl, below, inARow.symm⟩, nofun, nofun⟩
  | opened failures deadline reached =>
    exact ⟨nofun, fun _ => ⟨⟨deadline, rfl⟩, rfl, reached⟩, nofun⟩
  | probing failures started reached =>
    exact ⟨nofun, nofun, fun _ => ⟨⟨started, rfl⟩, rfl, reached⟩⟩

/-- A use of a closed circuit closes nothing. -/
theorem closes_turn_closedWith (failures : Nat) (use : BreakerUse) :
    ((closedWith failures).turn policy use).closes = false := rfl

/-- A use opens a closed circuit if the outcomes of the closed period then end with as many failures
as the threshold asks for. -/
theorem Counts.opened_iff (active : policy.IsActive) (counts : Counts policy turns breaker)
    (closed : breaker.state = .closed) (use : BreakerUse) :
    (use.apply policy breaker).state = .opened ↔
      List.replicate policy.threshold true <:+
        closedPeriod (turns ++ [breaker.turn policy use]) := by
  have enabled := active.enabled
  have positive := active.positive
  cases counts with
  | opened | probing => cases closed
  | closed failures below _ streak =>
    have goesOn : ((closedWith failures).turn policy use).closes = false :=
      closes_turn_closedWith failures use
    rw [replicate_true_suffix_iff, ← failureStreak]
    cases use with
    | acquire now =>
      rw [failureStreak_of_silent goesOn rfl, streak, BreakerUse.apply, acquire_closedWith enabled]
      exact ⟨nofun, fun long => absurd below (Nat.not_lt.mpr long)⟩
    | record now admission failed =>
      cases failed with
      | false =>
        rw [failureStreak_of_success goesOn rfl, BreakerUse.apply,
          record_closedWith_succeeded enabled]
        exact ⟨nofun, fun long => by omega⟩
      | true =>
        rw [failureStreak_of_failure goesOn rfl, streak, BreakerUse.apply,
          record_closedWith_below active below]
        split
        · rename_i reached
          exact ⟨fun _ => reached, fun _ => rfl⟩
        · rename_i short
          exact ⟨nofun, fun long => absurd long short⟩

/-- Only a recorded failure opens a closed circuit. -/
theorem Counts.failed?_of_opened (active : policy.IsActive) (counts : Counts policy turns breaker)
    (closed : breaker.state = .closed) {use : BreakerUse}
    (opened : (use.apply policy breaker).state = .opened) : use.failed? = some true := by
  have enabled := active.enabled
  cases counts with
  | opened | probing => cases closed
  | closed failures =>
    cases use with
    | acquire now =>
      rw [BreakerUse.apply, acquire_closedWith enabled] at opened
      cases opened
    | record now admission failed =>
      cases failed with
      | true => rfl
      | false =>
        rw [BreakerUse.apply, record_closedWith_succeeded enabled] at opened
        cases opened

/-- **The counting law.** Whatever callers have done with a new breaker that is active, its fields are
those that its history asks for. A use of a closed circuit opens it if and only if the outcomes
recorded since the circuit last closed then end with as many failures as the threshold asks for, and
such a use records a failure. -/
theorem countingLaw_run (active : policy.IsActive) (uses : List BreakerUse) :
    CountingLaw policy (initial.turns policy uses) (initial.run policy uses) ∧
      ∀ use, (initial.run policy uses).state = .closed →
        ((use.apply policy (initial.run policy uses)).state = .opened ↔
          List.replicate policy.threshold true <:+
            closedPeriod (initial.turns policy uses ++ [(initial.run policy uses).turn policy use])) ∧
        ((use.apply policy (initial.run policy uses)).state = .opened → use.failed? = some true) := by
  have counts := counts_run_initial active uses
  exact ⟨counts.countingLaw, fun use closed =>
    ⟨counts.opened_iff active closed use, counts.failed?_of_opened active closed⟩⟩

/-- With a threshold of two, a failure before a success does not count: of three failures the third
one opens the circuit. -/
theorem countingLaw_run_success_between :
    let policy : BreakerPolicy := ⟨true, 2, 10⟩
    let uses : List BreakerUse := [.acquire 0, .record 1 .regular true, .record 2 .regular false,
      .record 3 .regular true]
    (initial.run policy uses).failures = failuresInARow (initial.turns policy uses) ∧
      ((BreakerUse.record 4 .regular true).apply policy (initial.run policy uses)).state = .opened := by
  intro policy uses
  have active : policy.IsActive := ⟨rfl, by decide, by decide⟩
  obtain ⟨law, opens⟩ := countingLaw_run active uses
  have closed : (initial.run policy uses).state = .closed := rfl
  obtain ⟨-, -, -, counted⟩ := law.closed closed
  exact ⟨counted, (opens (.record 4 .regular true) closed).1.mpr ⟨[true, false], rfl⟩⟩

end Breaker

end ODataClient

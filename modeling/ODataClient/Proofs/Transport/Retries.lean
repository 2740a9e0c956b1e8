import Mathlib.Order.Bounds.Basic
import ODataClient.Transport.Send

/-! # The retry loop

A call repeats its attempt until an outcome stands: because no retry is left, or because the outcome is
not one to try again. The outcomes of a request are a stream that does not know about retries, and the
loop cuts off the first of them that stands.

* **`Backend.outcomeBehind`** — the stream of outcomes of one request.
* **`RetryPolicy.Stands`** — the outcomes that end the loop; `Transport.attempts_of_stands` and
  `Transport.attempts_of_not_stands` are the two rounds of the loop.
* **`Transport.RetryLoop`** — the loop as it counts, with 32 bits; a count that is too large ends in
  nothing, and so does a number of an attempt that the log asks for (`AttemptNumbering`).
  `Transport.retryLoop_iff` says when the loop gets through.
* **`RetryPolicy.journal`** — attempts with the pauses of the retries between them.
* **`Transport.EndsBehind`** — which outcome a loop ends with, and what it does on the way;
  `Transport.exists_endsBehind` is the induction over the retries left, and
  `Transport.attempts_of_countable` the law of the whole loop. -/

namespace ODataClient

variable {σ : Type}

/-! ## Outcomes -/

/-- The outcome of an attempt behind a number of earlier attempts with the same request. -/
def Backend.outcomeBehind (backend : Backend σ) (request : Request) : Nat → σ → Outcome
  | 0, environment => (backend.answer request environment).result
  | earlier + 1, environment =>
    backend.outcomeBehind request earlier (backend.answer request environment).environment

namespace RetryPolicy

variable {policy : RetryPolicy} {retries : Nat} {outcome : Outcome}

/-- Whether an outcome ends the loop behind some retries. -/
def Stands (policy : RetryPolicy) (retries : Nat) (outcome : Outcome) : Prop :=
  policy.maxRetries ≤ retries ∨ policy.shouldRetry outcome = false

/-- An outcome that stands has no delay behind it. -/
theorem nextDelay_of_stands (stands : policy.Stands retries outcome) :
    policy.nextDelay retries outcome = none := by
  refine if_neg ?_
  rintro ⟨left, retried⟩
  rcases stands with spent | settled
  · exact absurd left (Nat.not_lt.mpr spent)
  · exact absurd retried (by rw [settled]; exact Bool.false_ne_true)

/-- Any other one has the delay of the next retry behind it. -/
theorem nextDelay_of_not_stands (retried : ¬ policy.Stands retries outcome) :
    policy.nextDelay retries outcome = some (policy.delay (retries + 1)) := by
  obtain ⟨left, again⟩ := not_or.mp retried
  exact if_pos ⟨Nat.lt_of_not_le left, Bool.eq_true_of_not_eq_false again⟩

/-- What a call does that makes some retries, given the number of the first one: its attempts, and
between two of them the pause of a retry. -/
def journal (policy : RetryPolicy) (request : Request) (first count : Nat) : List Event :=
  (List.range' first count).flatMap (fun retry => [.attempt request, .pause (policy.delay retry)]) ++
    [.attempt request]

/-- One more retry in front is an attempt and a pause. -/
theorem journal_succ (policy : RetryPolicy) (request : Request) (first count : Nat) :
    policy.journal request first (count + 1) =
      .attempt request :: .pause (policy.delay first) :: policy.journal request (first + 1) count := by
  rw [journal, List.range'_succ, List.flatMap_cons, List.append_assoc]
  rfl

/-- With a number of retries the request is sent once more than that. -/
theorem filterMap_request?_journal (policy : RetryPolicy) (request : Request) (first count : Nat) :
    (policy.journal request first count).filterMap Event.request? =
      List.replicate (count + 1) request := by
  induction count generalizing first with
  | zero => rfl
  | succ count ih =>
    have sent : Event.request? (.attempt request) = some request := rfl
    have silent : Event.request? (.pause (policy.delay first)) = none := rfl
    rw [journal_succ, List.filterMap_cons_some sent, List.filterMap_cons_none silent, ih,
      List.replicate_succ (n := count + 1)]

end RetryPolicy

/-! ## Rounds of the loop -/

namespace Transport

variable (transport : Transport σ) {request : Request} {retries left : Nat} {world : World σ}

/-- The outcomes behind an attempt and a pause are those of the stream from the next one on. -/
theorem outcomeBehind_pause (request : Request) (number : Nat) (delay : Duration)
    (world : World σ) :
    transport.backend.outcomeBehind request number
        ((transport.attempt request world).2.pause delay).environment =
      transport.backend.outcomeBehind request (number + 1) world.environment := by
  rw [Backend.outcomeBehind]
  rfl

/-- The last round: the outcome of the attempt stands. -/
theorem attempts_of_stands
    (stands : transport.retry.Stands retries (transport.attempt request world).1) :
    transport.attempts request retries left world = transport.attempt request world := by
  cases left with
  | zero => rfl
  | succ left =>
    simp only [attempts, RetryPolicy.nextDelay_of_stands stands]

/-- Any other round: a retry is counted, and its pause comes before the next attempt. -/
theorem attempts_of_not_stands
    (retried : ¬ transport.retry.Stands retries (transport.attempt request world).1) :
    transport.attempts request retries (left + 1) world =
      transport.attempts request (retries + 1) left
        ((transport.attempt request world).2.pause (transport.retry.delay (retries + 1))) := by
  simp only [attempts, RetryPolicy.nextDelay_of_not_stands retried]

/-- What a round does about the number of its attempt, one more than the retries before it. The number is
for the log alone. -/
inductive AttemptNumbering
  /-- The log does not ask for it. -/
  | skipped
  /-- It is a sum of 32 bits, and starts again at zero behind the largest one. -/
  | wrapping
  /-- It is a sum of 32 bits, and a round whose sum is too large does not begin. -/
  | checked
deriving DecidableEq, Repr

/-- Whether a round begins behind a number of retries. -/
def AttemptNumbering.Begins (numbering : AttemptNumbering) (retries : UInt32) : Prop :=
  numbering = .checked → retries.toNat + 1 < UInt32.size

/-- A loop that counts its retries with 32 bits, from the count before a round to the result. A round that
does not begin, or that has to count further than that, is not possible, so such a loop has no result. -/
inductive RetryLoop (transport : Transport σ) (numbering : AttemptNumbering) (request : Request) :
    UInt32 → World σ → Outcome × World σ → Prop
  /-- The outcome of the attempt stands. -/
  | ends (retries : UInt32) (world : World σ) (begins : numbering.Begins retries)
      (stands : transport.retry.Stands retries.toNat (transport.attempt request world).1) :
      RetryLoop transport numbering request retries world (transport.attempt request world)
  /-- A retry is counted, and its pause comes before the next round. -/
  | repeats (retries : UInt32) (world : World σ) (result : Outcome × World σ)
      (begins : numbering.Begins retries)
      (retried : ¬ transport.retry.Stands retries.toNat (transport.attempt request world).1)
      (fits : retries.toNat + 1 < UInt32.size)
      (rest : RetryLoop transport numbering request (retries + 1)
        ((transport.attempt request world).2.pause (transport.retry.delay (retries + 1).toNat))
        result) :
      RetryLoop transport numbering request retries world result

section RetryLoop

variable {transport} {numbering : AttemptNumbering} {count : UInt32} {result : Outcome × World σ}

/-- The last round of a loop that counts. -/
theorem retryLoop_of_stands
    (stands : transport.retry.Stands count.toNat (transport.attempt request world).1) :
    transport.RetryLoop numbering request count world result ↔
      numbering.Begins count ∧ result = transport.attempt request world := by
  constructor
  · rintro (⟨_, _, begins⟩ | ⟨_, _, _, _, retried⟩)
    · exact ⟨begins, rfl⟩
    · exact absurd stands retried
  · rintro ⟨begins, rfl⟩
    exact .ends count world begins stands

/-- Any other round of a loop that counts. -/
theorem retryLoop_of_not_stands
    (retried : ¬ transport.retry.Stands count.toNat (transport.attempt request world).1)
    (fits : count.toNat + 1 < UInt32.size) :
    transport.RetryLoop numbering request count world result ↔
      transport.RetryLoop numbering request (count + 1)
        ((transport.attempt request world).2.pause (transport.retry.delay (count + 1).toNat))
        result := by
  constructor
  · rintro (⟨_, _, _, stands⟩ | ⟨_, _, _, _, _, _, rest⟩)
    · exact absurd stands retried
    · exact rest
  · exact .repeats count world result (fun _ => fits) retried fits

end RetryLoop

/-! ## The whole loop -/

/-- How a loop ends that has made some retries: with the first outcome that stands, behind a number of
earlier ones. -/
structure EndsBehind (transport : Transport σ) (request : Request) (retries : Nat) (before : World σ)
    (result : Outcome × World σ) (earlier : Nat) : Prop where
  /-- No earlier outcome stands. -/
  first : IsLeast {number | transport.retry.Stands (retries + number)
    (transport.backend.outcomeBehind request number before.environment)} earlier
  /-- The outcome is the result. -/
  outcome : result.1 = transport.backend.outcomeBehind request earlier before.environment
  /-- Each outcome comes of an attempt, and between two attempts lies the pause of a retry. -/
  journal : result.2.journal = before.journal ++ transport.retry.journal request (retries + 1) earlier

/-- A loop ends behind no other attempt if the outcome of the first one stands. -/
theorem endsBehind_zero
    (stands : transport.retry.Stands retries (transport.attempt request world).1) :
    transport.EndsBehind request retries world (transport.attempt request world) 0 where
  first := ⟨stands, fun number _ => Nat.zero_le number⟩
  outcome := rfl
  journal := rfl

variable {transport} in
/-- A loop ends behind one more attempt if the outcome of that one does not stand. -/
theorem EndsBehind.succ {result : Outcome × World σ} {earlier : Nat}
    (retried : ¬ transport.retry.Stands retries (transport.attempt request world).1)
    (rest : transport.EndsBehind request (retries + 1)
      ((transport.attempt request world).2.pause (transport.retry.delay (retries + 1))) result
      earlier) :
    transport.EndsBehind request retries world result (earlier + 1) where
  first := by
    obtain ⟨stands, earliest⟩ := rest.first
    refine ⟨?_, fun number standing => ?_⟩
    · rwa [Set.mem_ofPred_eq, Nat.succ_add_eq_add_succ, outcomeBehind_pause] at stands
    · cases number with
      | zero => exact absurd standing retried
      | succ number =>
        -- What is behind the pause is the same stream, one outcome later.
        refine Nat.succ_le_succ (earliest ?_)
        rwa [Set.mem_ofPred_eq, Nat.succ_add_eq_add_succ, outcomeBehind_pause]
  outcome := by rw [rest.outcome, outcomeBehind_pause]
  journal := by
    rw [rest.journal, RetryPolicy.journal_succ]
    simp only [World.pause, attempt, World.receive, List.append_assoc, List.cons_append,
      List.nil_append]

/-- **Every loop ends with the first outcome that stands**, as long as the policy allows the retries
that are left. -/
theorem exists_endsBehind (request : Request)
    (budget : retries + left = transport.retry.maxRetries) (world : World σ) :
    ∃ earlier, transport.EndsBehind request retries world
      (transport.attempts request retries left world) earlier := by
  induction left generalizing retries world with
  | zero => exact ⟨0, transport.endsBehind_zero (.inl (Nat.le_of_eq budget.symm))⟩
  | succ left ih =>
    by_cases stands : transport.retry.Stands retries (transport.attempt request world).1
    · rw [transport.attempts_of_stands stands]
      exact ⟨0, transport.endsBehind_zero stands⟩
    · rw [transport.attempts_of_not_stands stands]
      have remaining : retries + 1 + left = transport.retry.maxRetries := by omega
      obtain ⟨earlier, rest⟩ := ih remaining
        ((transport.attempt request world).2.pause (transport.retry.delay (retries + 1)))
      exact ⟨earlier + 1, rest.succ stands⟩

/-- **The count never gets too large**: a loop that counts has the result of its attempts, and no other.
It gets through if the number of its last attempt, one more than all its retries, is not checked or
fits. -/
theorem retryLoop_iff (countable : transport.retry.maxRetries < UInt32.size) (request : Request)
    (count : UInt32) (budget : count.toNat + left = transport.retry.maxRetries) {earlier : Nat}
    (ends : transport.EndsBehind request count.toNat world
      (transport.attempts request count.toNat left world) earlier)
    {numbering : AttemptNumbering} {result : Outcome × World σ} :
    transport.RetryLoop numbering request count world result ↔
      result = transport.attempts request count.toNat left world ∧
        (numbering = .checked → count.toNat + earlier + 1 < UInt32.size) := by
  -- The number of the last attempt is that of the first one if the first outcome stands.
  induction left generalizing count world earlier with
  | zero =>
    have stands : transport.retry.Stands count.toNat (transport.attempt request world).1 :=
      .inl (Nat.le_of_eq budget.symm)
    obtain rfl : earlier = 0 := Nat.le_zero.mp (ends.first.2 stands)
    rw [retryLoop_of_stands stands, transport.attempts_of_stands stands]
    exact And.comm
  | succ left ih =>
    by_cases stands : transport.retry.Stands count.toNat (transport.attempt request world).1
    · obtain rfl : earlier = 0 := Nat.le_zero.mp (ends.first.2 stands)
      rw [retryLoop_of_stands stands, transport.attempts_of_stands stands]
      exact And.comm
    · have fits : count.toNat + 1 < UInt32.size := by omega
      have counted : (count + 1).toNat = count.toNat + 1 :=
        (UInt32.toNat_add count 1).trans (Nat.mod_eq_of_lt fits)
      have remaining : (count + 1).toNat + left = transport.retry.maxRetries := by omega
      obtain ⟨others, rest⟩ := transport.exists_endsBehind request remaining
        ((transport.attempt request world).2.pause (transport.retry.delay (count + 1).toNat))
      have further := ih (count + 1) remaining rest
      rw [counted] at rest further
      obtain rfl : earlier = others + 1 := ends.first.unique (rest.succ stands).first
      rw [retryLoop_of_not_stands stands fits, counted, further,
        transport.attempts_of_not_stands stands, Nat.add_right_comm count.toNat 1 others]
      rfl

/-- A loop sends its request at least once, and no other. -/
theorem EndsBehind.requests {transport : Transport σ} {result : Outcome × World σ} {earlier : Nat}
    (ends : transport.EndsBehind request retries world result earlier) :
    result.2.requests = world.requests ++ List.replicate (earlier + 1) request := by
  rw [World.requests, ends.journal, List.filterMap_append, RetryPolicy.filterMap_request?_journal]
  rfl

/-- **The retry loop.** A call makes attempts until the first outcome that is not one to try again, or
until no retry is left, whichever comes first. Each attempt is made with the request itself; between an
attempt and the next one lies one pause, for the delay of the retry, and there is none behind the last
attempt. The result is the outcome of the last attempt.

A loop that counts its retries with 32 bits has this result and no other, whatever the largest number of
retries is, so its count never gets too large. Only the number of the last attempt may: if the log asks
for it and the sum is checked, the loop gets through unless it has made `2 ^ 32 - 1` retries. -/
theorem attempts_of_countable (countable : transport.retry.maxRetries < UInt32.size)
    (request : Request) (world : World σ) :
    let result := transport.attempts request 0 transport.retry.maxRetries world
    let outcome (earlier : Nat) := transport.backend.outcomeBehind request earlier world.environment
    ∃ earlier ≤ transport.retry.maxRetries,
      IsLeast {number | transport.retry.maxRetries ≤ number ∨
        transport.retry.shouldRetry (outcome number) = false} earlier ∧
      result.1 = outcome earlier ∧
      result.2.requests = world.requests ++ List.replicate (earlier + 1) request ∧
      result.2.journal = world.journal ++
        (List.range' 1 earlier).flatMap
          (fun retry => [.attempt request, .pause (transport.retry.delay retry)]) ++
        [.attempt request] ∧
      ∀ numbering ended, transport.RetryLoop numbering request 0 world ended ↔
        ended = result ∧ (numbering = .checked → earlier ≠ UInt32.size - 1) := by
  intro result outcome
  have budget : 0 + transport.retry.maxRetries = transport.retry.maxRetries := Nat.zero_add _
  obtain ⟨earlier, ends⟩ := transport.exists_endsBehind request budget world
  have first : IsLeast {number | transport.retry.maxRetries ≤ number ∨
      transport.retry.shouldRetry (outcome number) = false} earlier := by
    simpa only [Nat.zero_add, RetryPolicy.Stands] using ends.first
  have few : earlier ≤ transport.retry.maxRetries := first.2 (.inl le_rfl)
  refine ⟨earlier, few, first, ends.outcome, ends.requests, ?_, fun numbering ended => ?_⟩
  · rw [ends.journal, RetryPolicy.journal, List.append_assoc]
  · have numbered : 0 + earlier + 1 < UInt32.size ↔ earlier ≠ UInt32.size - 1 := by omega
    have counts : transport.RetryLoop numbering request 0 world ended ↔ _ :=
      transport.retryLoop_iff countable request 0 budget ends
    exact counts.trans (and_congr_right fun _ => imp_congr_right fun _ => numbered)

/-- As many retries as 32 bits can count are allowed. An error of the service and a lost connection are
tried again, after two seconds and after four; the success of the third attempt stands. -/
theorem attempts_of_countable_two_retries :
    let request := Request.get "http://x/a"
    let transport : Transport (List Outcome) :=
      ⟨.scripted (.ok (.ofBody 200 "")), { RetryPolicy.standard with maxRetries := 4294967295 },
        .standard⟩
    let world : World (List Outcome) :=
      .initial [.ok (.ofBody 503 ""), .error (.connect "refused")]
    let result := transport.attempts request 0 transport.retry.maxRetries world
    transport.RetryLoop .checked request 0 world result ∧ result.1 = .ok (.ofBody 200 "") ∧
      result.2.journal = [.attempt request, .pause (Duration.ofSeconds 2), .attempt request,
        .pause (Duration.ofSeconds 4), .attempt request] := by
  intro request transport world result
  have countable : transport.retry.maxRetries < UInt32.size := by decide
  obtain ⟨earlier, -, -, outcome, requests, journal, counts⟩ :=
    transport.attempts_of_countable countable request world
  have thrice : result.2.requests.length = 3 := rfl
  obtain rfl : earlier = 2 := by
    rw [requests, List.length_append, List.length_replicate] at thrice
    exact Nat.succ.inj ((Nat.zero_add _).symm.trans thrice)
  have last : transport.backend.outcomeBehind request 2 world.environment =
      .ok (.ofBody 200 "") := rfl
  have first : transport.retry.delay 1 = Duration.ofSeconds 2 := by decide
  have second : transport.retry.delay 2 = Duration.ofSeconds 4 := by decide
  rw [← first, ← second]
  exact ⟨(counts _ _).mpr ⟨rfl, by decide⟩, outcome.trans last, journal⟩

end Transport

end ODataClient

import ODataClient.Proofs.Transport.Retries
import ODataClient.Transport.Schedule
import Mathlib.Data.List.MinMax

/-! # Calls under way

What the operations of a schedule do to the calls under way, each said once.

* **`mem_flights_keep`**, **`perm_flights_keep`** — a call put back stands in place of every call of its
  name, and the others stay.
* **`nextPause_eq_argmin`** — the pause that ends first is the first smallest one.
* **`Traffic.Advances`** — everything that a call can come to before time passes: it waits for an outcome,
  it pauses, or it ends and reports; `proceed` does one of the three (`advances_proceed`).
* **`Traffic.drive_invariant`** — what time keeps and every call that goes on, all time keeps. -/

namespace ODataClient

namespace Schedule

variable {σ : Type} {schedule : Schedule σ} {flight other : Flight} {id : String}

/-- The calls under way beside a call that is taken out. -/
theorem mem_flights_remove :
    other ∈ (schedule.remove id).flights ↔ other ∈ schedule.flights ∧ other.id ≠ id := by
  simp [remove]

/-- The calls under way beside a call that is put back. -/
theorem mem_flights_keep :
    other ∈ (schedule.keep flight).flights ↔
      other = flight ∨ other ∈ schedule.flights ∧ other.id ≠ flight.id := by
  unfold keep
  split
  · rename_i held
    obtain ⟨former, member, named⟩ := List.any_eq_true.mp held
    rw [List.mem_map]
    constructor
    · rintro ⟨before, member, rfl⟩
      split
      · exact .inl rfl
      · rename_i apart
        exact .inr ⟨member, by simpa using apart⟩
    · rintro (rfl | ⟨member, apart⟩)
      · exact ⟨former, member, if_pos named⟩
      · exact ⟨other, member, if_neg (by simpa using apart)⟩
  · rename_i absent
    have apart : ∀ other ∈ schedule.flights, other.id ≠ flight.id := by simpa using absent
    rw [List.mem_append, List.mem_singleton, or_comm]
    exact or_congr_right ⟨fun member => ⟨member, apart other member⟩, And.left⟩

section Keep

variable (schedule flight)

@[simp] theorem now_keep : (schedule.keep flight).now = schedule.now := by
  unfold keep
  split <;> rfl

@[simp] theorem breaker_keep : (schedule.keep flight).breaker = schedule.breaker := by
  unfold keep
  split <;> rfl

@[simp] theorem source_keep : (schedule.keep flight).source = schedule.source := by
  unfold keep
  split <;> rfl

@[simp] theorem begun_keep : (schedule.keep flight).begun = schedule.begun := by
  unfold keep
  split <;> rfl

@[simp] theorem ended_keep : (schedule.keep flight).ended = schedule.ended := by
  unfold keep
  split <;> rfl

end Keep

/-! ## Calls with different names -/

/-- A call among others with different names. -/
theorem exists_flights_beside (names : (schedule.flights.map (·.id)).Nodup)
    (member : flight ∈ schedule.flights) :
    ∃ front back, schedule.flights = front ++ flight :: back ∧
      ∀ other ∈ front ++ back, other.id ≠ flight.id := by
  obtain ⟨front, back, split⟩ := List.append_of_mem member
  refine ⟨front, back, split, fun other beside same => ?_⟩
  -- Having different names does not depend on the order, so the call can stand in front.
  have distinct : (flight :: (front ++ back)).Pairwise (·.id ≠ ·.id) :=
    List.perm_middle.pairwise_iff (fun apart => apart.symm)
      |>.mp (split ▸ List.pairwise_map.mp names)
  exact (List.pairwise_cons.mp distinct).1 other beside same.symm

/-- No call is taken out if none has the name. -/
theorem flights_remove_of_absent (absent : ∀ other ∈ schedule.flights, other.id ≠ id) :
    (schedule.remove id).flights = schedule.flights :=
  List.filter_eq_self.mpr fun other member => by simpa using absent other member

/-- The calls under way are one of them and the others. -/
theorem perm_flights_remove (names : (schedule.flights.map (·.id)).Nodup)
    (member : flight ∈ schedule.flights) :
    schedule.flights.Perm (flight :: (schedule.remove flight.id).flights) := by
  obtain ⟨front, back, split, apart⟩ := exists_flights_beside names member
  have others : (schedule.remove flight.id).flights = front ++ back := by
    have rest : (front ++ back).filter (·.id != flight.id) = front ++ back :=
      List.filter_eq_self.mpr fun other beside => by simpa using apart other beside
    simpa [remove, split] using rest
  rw [others, split]
  exact List.perm_middle

/-- A call that is put back stands beside the others, whatever it was before. -/
theorem perm_flights_keep (names : (schedule.flights.map (·.id)).Nodup) (flight : Flight) :
    (schedule.keep flight).flights.Perm (flight :: (schedule.remove flight.id).flights) := by
  unfold keep
  split
  · rename_i held
    obtain ⟨former, member, named⟩ := List.any_eq_true.mp held
    have named : former.id = flight.id := by simpa using named
    have others : (schedule.remove flight.id).flights.map
        (fun other => if other.id == flight.id then flight else other) =
          (schedule.remove flight.id).flights := by
      refine (List.map_congr_left fun other beside => ?_).trans (List.map_id _)
      exact if_neg (by simpa using (mem_flights_remove.mp beside).2)
    have placed := (perm_flights_remove names member).map
      fun other => if other.id == flight.id then flight else other
    rw [named, List.map_cons, others, if_pos (by simp [named])] at placed
    exact placed
  · rename_i absent
    have apart : ∀ other ∈ schedule.flights, other.id ≠ flight.id := by simpa using absent
    rw [flights_remove_of_absent apart]
    exact List.perm_append_singleton flight schedule.flights

/-! ## Pauses -/

/-- The pauses that have an end. -/
theorem mem_pauses {due : Instant} :
    (due, flight) ∈ schedule.pauses ↔ flight ∈ schedule.flights ∧ flight.phase = .paused due := by
  rw [pauses, List.mem_filterMap]
  constructor
  · rintro ⟨other, member, paused⟩
    split at paused
    · rename_i phase
      cases paused
      exact ⟨member, phase⟩
    · cases paused
  · rintro ⟨member, phase⟩
    exact ⟨flight, member, by rw [phase]⟩

/-- The pause that ends first is the first one with the smallest end. -/
theorem nextPause_eq_argmin (schedule : Schedule σ) :
    schedule.nextPause = schedule.pauses.argmin (·.1) := by
  unfold nextPause List.argmin
  congr 1
  funext best pause
  cases best <;> rfl

/-- A pause that ends first belongs to a call under way, and no other one ends earlier. -/
theorem of_nextPause_eq_some {due : Instant} (next : schedule.nextPause = some (due, flight)) :
    (flight ∈ schedule.flights ∧ flight.phase = .paused due) ∧
      ∀ other ∈ schedule.flights, ∀ later, other.phase = .paused later → due ≤ later := by
  rw [nextPause_eq_argmin] at next
  refine ⟨mem_pauses.mp (List.argmin_mem next), fun other member later paused => ?_⟩
  exact List.le_of_mem_argmin (mem_pauses.mpr ⟨member, paused⟩) next

/-- Without a pause that ends first every call waits for an outcome. -/
theorem phase_of_nextPause_eq_none (none : schedule.nextPause = none) :
    ∀ other ∈ schedule.flights, other.phase = .attempting := by
  rw [nextPause_eq_argmin, List.argmin_eq_none] at none
  intro other member
  cases phase : other.phase with
  | attempting => rfl
  | paused due => exact absurd (mem_pauses.mpr ⟨member, phase⟩) (by simp [none])

/-- The schedule after further attempts of a call. -/
def tried (schedule : Schedule σ) (source : σ) (id : String) (again : Nat) : Schedule σ :=
  { schedule with source, begun := schedule.begun ++ List.replicate again id }

/-- No further attempt. -/
theorem tried_zero (source : σ) : schedule.tried source id 0 = { schedule with source } := by
  simp [tried]

end Schedule

/-- Only a call with retries left is repeated. -/
theorem RetryPolicy.lt_of_nextDelay_eq_some {policy : RetryPolicy} {retries : Nat}
    {outcome : Outcome} {delay : Duration}
    (again : policy.nextDelay retries outcome = some delay) : retries < policy.maxRetries := by
  refine Nat.lt_of_not_le fun spent => ?_
  rw [nextDelay_of_stands (.inl spent)] at again
  cases again

namespace Traffic

variable {σ : Type} (traffic : Traffic σ)

/-- Whether a call can end with an outcome after a number of retries: its source gives it, and it is not
tried again. -/
def Final (id : String) (retries : Nat) (outcome : Outcome) : Prop :=
  (∃ earlier later, traffic.outcomes.take id earlier = some (outcome, later)) ∧
    traffic.retry.Stands retries outcome

/-- **Everything that a call can come to before time passes**, after some more attempts: no outcome is
there for the last one, or the call pauses before the next one, or it ends and reports. -/
inductive Advances (flight : Flight) (schedule : Schedule σ) : Schedule σ → Prop
  /-- The call waits for the outcome of an attempt. -/
  | awaits (source : σ) (again : Nat) (waits : traffic.outcomes.take flight.id source = none) :
      Advances flight schedule
        ((schedule.tried source flight.id again).keep
          { flight with retries := flight.retries + again, phase := .attempting })
  /-- The call pauses. -/
  | pauses (source : σ) (again : Nat) (due : Instant) (later : schedule.now < due)
      (more : flight.retries + again < traffic.retry.maxRetries) :
      Advances flight schedule
        ((schedule.tried source flight.id again).keep
          { flight with retries := flight.retries + again, phase := .paused due })
  /-- The call ends with an outcome that stands. -/
  | ends (source : σ) (again : Nat) (outcome : Outcome)
      (final : traffic.Final flight.id (flight.retries + again) outcome) :
      Advances flight schedule
        { (schedule.tried source flight.id again).finish flight.id outcome with
          breaker :=
            schedule.breaker.record traffic.breaker schedule.now flight.admission
              (isTransient outcome) }

variable {traffic} {flight : Flight} {schedule next : Schedule σ}

/-- An attempt in front of others. -/
theorem Advances.again {source : σ}
    (advances : traffic.Advances { flight with retries := flight.retries + 1 }
      (schedule.tried source flight.id 1) next) :
    traffic.Advances flight schedule next := by
  have tried (last : σ) (again : Nat) :
      (schedule.tried source flight.id 1).tried last flight.id again =
        schedule.tried last flight.id (1 + again) := by
    simp [Schedule.tried, List.replicate_add]
  cases advances with
  | awaits last again waits =>
    rw [tried, Nat.add_assoc]
    exact .awaits last (1 + again) waits
  | pauses last again due later more =>
    rw [tried, Nat.add_assoc]
    exact .pauses last (1 + again) due later (by simpa [Nat.add_assoc] using more)
  | ends last again outcome final =>
    rw [tried]
    exact .ends last (1 + again) outcome (by simpa [Nat.add_assoc] using final)

/-- **What an attempt comes to**, if all retries that a call has left are left. -/
theorem advances_proceed {left : Nat} (enough : traffic.retriesLeft flight ≤ left)
    (schedule : Schedule σ) :
    traffic.Advances flight schedule (traffic.proceed left flight schedule) := by
  fun_induction proceed traffic left flight schedule with
  | case1 left flight schedule waits =>
    have advances : traffic.Advances flight schedule _ := .awaits schedule.source 0 waits
    rwa [Schedule.tried_zero] at advances
  | case2 flight schedule outcome source taken unchanged delay left again due past ih =>
    refine .again (ih ?_)
    simp only [retriesLeft] at enough ⊢
    omega
  | case3 flight schedule outcome source taken unchanged delay left again due past =>
    have more := RetryPolicy.lt_of_nextDelay_eq_some again
    have advances : traffic.Advances flight schedule _ :=
      .pauses source 0 due (Nat.lt_of_not_le past) more
    rwa [Schedule.tried_zero] at advances
  | case4 left flight schedule outcome source taken unchanged finished stands =>
    have stops : traffic.retry.Stands flight.retries outcome := by
      -- An outcome that is tried again would have found one of the retries that are left.
      by_contra retried
      have again := RetryPolicy.nextDelay_of_not_stands retried
      have more := RetryPolicy.lt_of_nextDelay_eq_some again
      refine stands _ (left - 1) again ?_
      simp only [retriesLeft] at enough
      omega
    have advances : traffic.Advances flight schedule _ :=
      .ends source 0 outcome ⟨⟨schedule.source, source, taken⟩, stops⟩
    rwa [Schedule.tried_zero] at advances

/-- What the attempt after a pause comes to. -/
theorem advances_resume (flight : Flight) (schedule : Schedule σ) :
    traffic.Advances { flight with retries := flight.retries + 1, phase := .attempting }
      (schedule.begin flight.id) (traffic.resume flight schedule) :=
  advances_proceed (Nat.le_refl _) _

/-- **What a start comes to**: a rejection, or whatever the first attempt comes to. -/
theorem start_cases (traffic : Traffic σ) (id : String) (schedule : Schedule σ) :
    (∃ retryAfter breaker,
        schedule.breaker.acquire traffic.breaker schedule.now = (.error retryAfter, breaker) ∧
          traffic.start id schedule =
            { schedule with breaker }.finish id (.error (.circuitOpen retryAfter))) ∨
      ∃ admission breaker,
        schedule.breaker.acquire traffic.breaker schedule.now = (.ok admission, breaker) ∧
          traffic.Advances ⟨id, admission, 0, .attempting⟩ ({ schedule with breaker }.begin id)
            (traffic.start id schedule) := by
  unfold start
  split
  · rename_i retryAfter breaker answer
    exact .inl ⟨retryAfter, breaker, answer, rfl⟩
  · rename_i admission breaker answer
    exact .inr ⟨admission, breaker, answer, advances_proceed (Nat.sub_le _ _) _⟩

/-! ## Passing time -/

section Invariant

variable (Keeps : Schedule σ → Prop)
  (resume : ∀ {schedule : Schedule σ} {flight : Flight} {due : Instant}, Keeps schedule →
    flight ∈ schedule.flights → flight.phase = .paused due → Keeps (traffic.resume flight schedule))
include resume

/-- What every call keeps that goes on, waking calls keeps. -/
theorem wake_invariant (start : Keeps schedule) (fuel : Nat) : Keeps (traffic.wake fuel schedule) := by
  induction fuel generalizing schedule with
  | zero => exact start
  | succ fuel ih =>
    unfold wake
    split
    · rename_i due flight next
      split
      · obtain ⟨⟨member, paused⟩, -⟩ := Schedule.of_nextPause_eq_some next
        exact ih (resume start member paused)
      · exact start
    · exact start

variable (wait : ∀ {schedule : Schedule σ} (span : Duration), Keeps schedule →
    Keeps { schedule with now := schedule.now + span })
include wait

/-- What time keeps and every call that goes on, one stretch of time keeps. -/
theorem elapse_invariant (start : Keeps schedule) (span : Duration) :
    Keeps (traffic.elapse span schedule) :=
  wake_invariant Keeps resume (wait span start) _

/-- **What time keeps and every call that goes on, all time keeps.** -/
theorem drive_invariant (start : Keeps schedule) (continues : Schedule σ → Bool) (fuel : Nat) :
    Keeps (traffic.drive continues fuel schedule) := by
  induction fuel generalizing schedule with
  | zero => exact start
  | succ fuel ih =>
    unfold drive
    split
    · split
      · exact ih (elapse_invariant Keeps resume wait start _)
      · exact start
    · exact start

end Invariant

end Traffic

end ODataClient

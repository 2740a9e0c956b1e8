import Mathlib.Algebra.BigOperators.Group.List.Basic
import Mathlib.Algebra.Order.BigOperators.Group.List
import Mathlib.Algebra.Order.Group.Nat
import Mathlib.Data.Nat.Cast.Basic
import ODataClient.Proofs.Transport.Overlap

/-! # The end of overlapping calls

Time passes from pause to pause at most as often as calls have retries left. That suffices: after it no
call pauses beyond its time, and only calls are left that wait for an outcome nobody has.

* **`Schedule.Orderly`** — what holds of every schedule: calls have different names, a pausing call has a
  retry left, and a waiting one found no outcome (`orderly_performAll`).
* **`Traffic.openRetries`** — the retries that all calls have left; every call that goes on lowers it
  (`openRetries_resume_lt`).
* **`Traffic.due_of_elapse`**, **`Traffic.phase_of_finishAll`** — what is left after some time, and after all.
* **`Schedule.calls`** — the calls that ended or are under way; each is there once
  (`flights_finishAll`). -/

namespace ODataClient

variable {σ : Type}

/-- Whether a call under way waits for something: for an outcome that its source did not have, or for the
end of a pause before one of its retries. -/
def Traffic.Waits (traffic : Traffic σ) (flight : Flight) : Prop :=
  match flight.phase with
  | .attempting => ∃ source, traffic.outcomes.take flight.id source = none
  | .paused _ => flight.retries < traffic.retry.maxRetries

/-- Whether the calls under way have different names, and all wait for something. -/
structure Schedule.Orderly (traffic : Traffic σ) (schedule : Schedule σ) : Prop where
  /-- Different calls have different names. -/
  names : (schedule.flights.map (·.id)).Nodup
  /-- Every call waits. -/
  waits : ∀ flight ∈ schedule.flights, traffic.Waits flight

/-- Calls are in order whatever the time. -/
theorem Schedule.Orderly.wait {traffic : Traffic σ} {schedule : Schedule σ}
    (orderly : schedule.Orderly traffic) (span : Duration) :
    Schedule.Orderly traffic { schedule with now := schedule.now + span } :=
  ⟨orderly.names, orderly.waits⟩

/-- The other calls are in order without one. -/
theorem Schedule.Orderly.remove {traffic : Traffic σ} {schedule : Schedule σ}
    (orderly : schedule.Orderly traffic) (id : String) : (schedule.remove id).Orderly traffic where
  names := orderly.names.sublist (List.filter_sublist.map _)
  waits flight member := orderly.waits flight (mem_flights_remove.mp member).1

/-- No calls are in order. -/
theorem Schedule.Orderly.of_idle {traffic : Traffic σ} {schedule : Schedule σ}
    (idle : schedule.flights = []) : schedule.Orderly traffic := by
  constructor <;> simp [idle]

/-- The calls that ended or are under way. -/
def Schedule.calls (schedule : Schedule σ) : List String :=
  schedule.ended.map (·.1) ++ schedule.flights.map (·.id)

namespace Traffic

variable {traffic : Traffic σ} {flight : Flight} {schedule next : Schedule σ}

/-- The retries that the calls under way have left. -/
def openRetries (traffic : Traffic σ) (schedule : Schedule σ) : Nat :=
  (schedule.flights.map traffic.retriesLeft).sum

/-- Where a call comes to among the others: it stays under way with at least as many retries behind it, or
it has ended. -/
theorem Advances.flights (advances : traffic.Advances flight schedule next)
    (names : (schedule.flights.map (·.id)).Nodup) :
    (∃ later, traffic.Waits later ∧ later.id = flight.id ∧ flight.retries ≤ later.retries ∧
        next.ended = schedule.ended ∧
        next.flights.Perm (later :: (schedule.remove flight.id).flights)) ∨
      (∃ outcome, next.ended = schedule.ended ++ [(flight.id, outcome)] ∧
        next.flights = (schedule.remove flight.id).flights) := by
  have kept (source : σ) (again : Nat) (later : Flight) (same : later.id = flight.id) :
      ((schedule.tried source flight.id again).keep later).flights.Perm
        (later :: (schedule.remove flight.id).flights) := by
    have others : ((schedule.tried source flight.id again).flights.map (·.id)).Nodup := names
    exact same ▸ Schedule.perm_flights_keep others later
  cases advances with
  | awaits source again waits =>
    exact .inl ⟨{ flight with retries := flight.retries + again, phase := .attempting },
      ⟨source, waits⟩, rfl, Nat.le_add_right _ _, by simp [Schedule.tried], kept source again _ rfl⟩
  | pauses source again due later more =>
    exact .inl ⟨{ flight with retries := flight.retries + again, phase := .paused due },
      more, rfl, Nat.le_add_right _ _, by simp [Schedule.tried], kept source again _ rfl⟩
  | ends source again outcome final => exact .inr ⟨outcome, rfl, rfl⟩

namespace Advances

variable (advances : traffic.Advances flight schedule next)
include advances

/-- What a call comes to takes no time. -/
theorem now_eq : next.now = schedule.now := by
  cases advances with
  | awaits source again waits => exact Schedule.now_keep _ _
  | pauses source again due later more => exact Schedule.now_keep _ _
  | ends source again outcome final => rfl

/-- What a call comes to leaves calls in order. -/
theorem orderly (orderly : schedule.Orderly traffic) : next.Orderly traffic := by
  have others := orderly.remove flight.id
  obtain ⟨later, waits, same, -, -, flights⟩ | ⟨outcome, -, flights⟩ := advances.flights orderly.names
  · constructor
    · refine (flights.map (·.id)).nodup_iff.mpr (List.nodup_cons.mpr ⟨fun beside => ?_, others.names⟩)
      obtain ⟨other, member, id⟩ := List.mem_map.mp beside
      exact (Schedule.mem_flights_remove.mp member).2 (id.trans same)
    · intro other member
      rcases List.mem_cons.mp (flights.mem_iff.mp member) with rfl | beside
      · exact waits
      · exact others.waits other beside
  · exact ⟨flights ▸ others.names, flights ▸ others.waits⟩

/-- A call in hand has the largest number of retries left that is open behind it. -/
theorem openRetries_le (names : (schedule.flights.map (·.id)).Nodup) :
    traffic.openRetries next ≤
      traffic.retriesLeft flight + traffic.openRetries (schedule.remove flight.id) := by
  obtain ⟨later, -, -, behind, -, flights⟩ | ⟨outcome, -, flights⟩ := advances.flights names
  · have sum : traffic.openRetries next =
        traffic.retriesLeft later + traffic.openRetries (schedule.remove flight.id) :=
      (flights.map traffic.retriesLeft).sum_eq
    rw [sum]
    exact Nat.add_le_add_right (Nat.sub_le_sub_left behind _) _
  · unfold openRetries
    rw [flights]
    exact Nat.le_add_left _ _

/-- A call in hand is one of the calls behind it, and the others are those of before. -/
theorem calls (names : (schedule.flights.map (·.id)).Nodup) :
    next.calls.Perm (flight.id :: (schedule.remove flight.id).calls) := by
  obtain ⟨later, -, same, -, ended, flights⟩ | ⟨outcome, ended, flights⟩ := advances.flights names
  · have ids := flights.map (·.id)
    rw [List.map_cons, same] at ids
    unfold Schedule.calls
    rw [ended]
    exact (ids.append_left _).trans List.perm_middle
  · unfold Schedule.calls
    rw [ended, flights, List.map_append, List.append_assoc]
    exact List.perm_middle

end Advances

/-- The retries left of a call and of the others. -/
theorem openRetries_eq (names : (schedule.flights.map (·.id)).Nodup)
    (member : flight ∈ schedule.flights) :
    traffic.openRetries schedule =
      traffic.retriesLeft flight + traffic.openRetries (schedule.remove flight.id) :=
  ((Schedule.perm_flights_remove names member).map traffic.retriesLeft).sum_eq

/-- **A call that goes on uses up a retry.** -/
theorem openRetries_resume_lt (orderly : schedule.Orderly traffic)
    (member : flight ∈ schedule.flights) {due : Instant} (paused : flight.phase = .paused due) :
    traffic.openRetries (traffic.resume flight schedule) < traffic.openRetries schedule := by
  have more : flight.retries < traffic.retry.maxRetries := by
    have waits := orderly.waits flight member
    simpa [Waits, paused] using waits
  have advances : traffic.Advances _ _ (traffic.resume flight schedule) :=
    advances_resume flight schedule
  have bound := advances.openRetries_le orderly.names
  rw [openRetries_eq orderly.names member]
  refine Nat.lt_of_le_of_lt bound (Nat.add_lt_add_right ?_ _)
  simp only [retriesLeft]
  omega

/-! ## What is left after some time -/

/-- The number of times that calls may go on is large enough for all retries that are left. -/
theorem openRetries_le_resumptions (traffic : Traffic σ) (schedule : Schedule σ) :
    traffic.openRetries schedule ≤ traffic.resumptions schedule := by
  have bound := List.sum_le_card_nsmul (schedule.flights.map traffic.retriesLeft)
    traffic.retry.maxRetries fun left member => by
      obtain ⟨flight, -, rfl⟩ := List.mem_map.mp member
      exact Nat.sub_le _ _
  simpa [openRetries, resumptions] using bound

/-- A call goes on in an orderly way. -/
theorem orderly_resume (orderly : schedule.Orderly traffic) :
    (traffic.resume flight schedule).Orderly traffic :=
  (advances_resume flight schedule).orderly ⟨orderly.names, orderly.waits⟩

/-- **Once awake, no call pauses beyond the end of its pause.** -/
theorem due_of_wake {fuel : Nat} (orderly : schedule.Orderly traffic)
    (enough : traffic.openRetries schedule ≤ fuel) :
    ∀ flight ∈ (traffic.wake fuel schedule).flights, ∀ due, flight.phase = .paused due →
      schedule.now < due := by
  induction fuel generalizing schedule with
  | zero =>
    intro flight member due paused
    have less := openRetries_resume_lt orderly member paused
    exact absurd (Nat.lt_of_lt_of_le less enough) (Nat.not_lt_zero _)
  | succ fuel ih =>
    unfold wake
    split
    · rename_i due flight next
      obtain ⟨⟨member, paused⟩, first⟩ := Schedule.of_nextPause_eq_some next
      split
      · -- The call that goes on uses up one of the retries that the fuel covers.
        have less := openRetries_resume_lt orderly member paused
        have now : (traffic.resume flight schedule).now = schedule.now :=
          (advances_resume flight schedule).now_eq
        rw [← now]
        exact ih (orderly_resume orderly) (Nat.le_of_lt_succ (Nat.lt_of_lt_of_le less enough))
      · rename_i early
        intro other member later paused
        exact Nat.lt_of_lt_of_le (Nat.lt_of_not_le early) (first other member later paused)
    · rename_i none
      intro other member due paused
      rw [Schedule.phase_of_nextPause_eq_none none other member] at paused
      cases paused

/-- After some time no call pauses beyond the end of its pause. -/
theorem due_of_elapse (orderly : schedule.Orderly traffic) (span : Duration) :
    ∀ flight ∈ (traffic.elapse span schedule).flights, ∀ due, flight.phase = .paused due →
      schedule.now + span < due :=
  due_of_wake (orderly.wait span) (openRetries_le_resumptions _ _)

/-- Orderly calls with a bound on the retries left. -/
theorem bounded_wake (orderly : schedule.Orderly traffic) {bound : Nat}
    (bounded : traffic.openRetries schedule ≤ bound) (fuel : Nat) :
    (traffic.wake fuel schedule).Orderly traffic ∧
      traffic.openRetries (traffic.wake fuel schedule) ≤ bound := by
  refine wake_invariant (fun schedule => schedule.Orderly traffic ∧
    traffic.openRetries schedule ≤ bound) ?_ ⟨orderly, bounded⟩ fuel
  intro schedule flight due ⟨orderly, bounded⟩ member paused
  exact ⟨orderly_resume orderly,
    Nat.le_trans (Nat.le_of_lt (openRetries_resume_lt orderly member paused)) bounded⟩

/-- A call whose pause has ended goes on. -/
theorem openRetries_wake_lt (orderly : schedule.Orderly traffic) {due : Instant}
    (next : schedule.nextPause = some (due, flight)) (past : due ≤ schedule.now) {fuel : Nat}
    (fueled : fuel ≠ 0) :
    traffic.openRetries (traffic.wake fuel schedule) < traffic.openRetries schedule := by
  obtain ⟨rest, rfl⟩ := Nat.exists_eq_succ_of_ne_zero fueled
  obtain ⟨⟨member, paused⟩, -⟩ := Schedule.of_nextPause_eq_some next
  unfold wake
  simp only [next, if_pos past]
  have resumed : (traffic.resume flight schedule).Orderly traffic := orderly_resume orderly
  have rested := (bounded_wake resumed (Nat.le_refl _) rest).2
  exact Nat.lt_of_le_of_lt rested (openRetries_resume_lt orderly member paused)

/-- **Time until the end of a pause lets a call go on.** -/
theorem openRetries_elapse_lt (orderly : schedule.Orderly traffic) {due : Instant}
    (next : schedule.nextPause = some (due, flight)) {span : Duration}
    (long : due ≤ schedule.now + span) :
    traffic.openRetries (traffic.elapse span schedule) < traffic.openRetries schedule := by
  obtain ⟨⟨member, paused⟩, -⟩ := Schedule.of_nextPause_eq_some next
  have less := openRetries_resume_lt orderly member paused
  have enough := openRetries_le_resumptions traffic schedule
  have fueled : traffic.resumptions schedule ≠ 0 := by omega
  exact openRetries_wake_lt (orderly.wait span) next long fueled

/-- Some time leaves calls in order. -/
theorem orderly_elapse (orderly : schedule.Orderly traffic) (span : Duration) :
    (traffic.elapse span schedule).Orderly traffic :=
  elapse_invariant _ (fun orderly _ _ => orderly_resume orderly)
    (fun span orderly => orderly.wait span) orderly span

/-- Time from pause to pause leaves calls in order. -/
theorem orderly_drive (orderly : schedule.Orderly traffic) (continues : Schedule σ → Bool)
    (fuel : Nat) : (traffic.drive continues fuel schedule).Orderly traffic :=
  drive_invariant _ (fun orderly _ _ => orderly_resume orderly)
    (fun span orderly => orderly.wait span) orderly continues fuel

/-- **Time from pause to pause**, if it may pass as often as retries are left, ends when nothing is to be
waited for or all calls wait for an outcome. -/
theorem drive_settles (continues : Schedule σ → Bool) {fuel : Nat}
    (orderly : schedule.Orderly traffic) (enough : traffic.openRetries schedule ≤ fuel) :
    continues (traffic.drive continues fuel schedule) = false ∨
      (traffic.drive continues fuel schedule).nextPause = none := by
  induction fuel generalizing schedule with
  | zero =>
    -- A pause would need a retry, and none is left.
    refine .inr (Option.eq_none_iff_forall_ne_some.mpr fun pause next => ?_)
    obtain ⟨⟨member, paused⟩, -⟩ := Schedule.of_nextPause_eq_some next
    have less := openRetries_resume_lt orderly member paused
    exact Nat.not_lt_zero _ (Nat.lt_of_lt_of_le less enough)
  | succ fuel ih =>
    unfold drive
    split
    · split
      · rename_i due flight next
        have long : due ≤ schedule.now + (due - schedule.now) :=
          Nat.sub_le_iff_le_add'.mp (Nat.le_refl _)
        have less := openRetries_elapse_lt orderly next long
        exact ih (orderly_elapse orderly _) (Nat.le_of_lt_succ (Nat.lt_of_lt_of_le less enough))
      · rename_i none
        exact .inr none
    · rename_i past
      exact .inl (Bool.eq_false_iff.mpr past)

/-- **After all time only calls are left that wait for an outcome.** -/
theorem phase_of_finishAll (orderly : schedule.Orderly traffic) :
    ∀ flight ∈ (traffic.finishAll schedule).flights, flight.phase = .attempting := by
  have settled := drive_settles (fun schedule => !schedule.flights.isEmpty) orderly
    (openRetries_le_resumptions traffic schedule)
  rcases settled with past | none
  · have empty : (traffic.finishAll schedule).flights = [] := by
      simpa [finishAll] using past
    simp [empty]
  · exact Schedule.phase_of_nextPause_eq_none none

/-- A call that time was given to has ended, or all calls left wait for an outcome. -/
theorem phase_of_finishCall (orderly : schedule.Orderly traffic) (id : String) :
    (∀ flight ∈ (traffic.finishCall id schedule).flights, flight.id ≠ id) ∨
      ∀ flight ∈ (traffic.finishCall id schedule).flights, flight.phase = .attempting := by
  have settled := drive_settles (·.isUnderWay id) orderly
    (openRetries_le_resumptions traffic schedule)
  rcases settled with past | none
  · refine .inl fun flight member => ?_
    have absent : ∀ other ∈ (traffic.finishCall id schedule).flights, other.id ≠ id := by
      simpa [finishCall, Schedule.isUnderWay] using past
    exact absent flight member
  · exact .inr (Schedule.phase_of_nextPause_eq_none none)

/-! ## Every action -/

/-- A call that starts takes the place of any call of its name. -/
theorem orderly_start (orderly : schedule.Orderly traffic) (id : String) :
    (traffic.start id schedule).Orderly traffic := by
  rcases start_cases traffic id schedule with
    ⟨retryAfter, breaker, -, started⟩ | ⟨admission, breaker, -, advances⟩
  · have others := orderly.remove id
    exact started ▸ ⟨others.names, others.waits⟩
  · exact advances.orderly ⟨orderly.names, orderly.waits⟩

/-- A call that looks for its outcome leaves calls in order. -/
theorem orderly_poll (orderly : schedule.Orderly traffic) (id : String) :
    (traffic.poll id schedule).Orderly traffic := by
  unfold poll
  split
  · exact (advances_proceed (Nat.le_refl _) schedule).orderly orderly
  · exact orderly

/-- **Every action leaves calls in order.** -/
theorem orderly_perform (orderly : schedule.Orderly traffic) (action : CallAction σ) :
    (traffic.perform action schedule).Orderly traffic := by
  cases action with
  | start id => exact orderly_start orderly id
  | poll id => exact orderly_poll orderly id
  | abandon id => exact orderly.remove id
  | supply change => exact ⟨orderly.names, orderly.waits⟩
  | elapse span => exact orderly_elapse orderly span
  | finishCall id => exact orderly_drive orderly _ _
  | finishAll => exact orderly_drive orderly _ _

/-- Any actions leave calls in order. -/
theorem orderly_performAll (orderly : schedule.Orderly traffic) (actions : List (CallAction σ)) :
    (traffic.performAll actions schedule).Orderly traffic := by
  induction actions generalizing schedule with
  | nil => exact orderly
  | cons action rest ih => exact ih (orderly_perform orderly action)

/-! ## Every call that starts -/

/-- The calls that ended or are under way stay the same while calls go on. -/
theorem calls_resume (orderly : schedule.Orderly traffic) (member : flight ∈ schedule.flights) :
    (traffic.resume flight schedule).calls.Perm schedule.calls := by
  have resumed : (traffic.resume flight schedule).calls.Perm _ :=
    (advances_resume flight schedule).calls orderly.names
  have ids := (Schedule.perm_flights_remove orderly.names member).map (·.id)
  exact resumed.trans ((ids.append_left _).trans List.perm_middle).symm

/-- A call that starts under a new name is one more call. -/
theorem calls_start (orderly : schedule.Orderly traffic) {id : String}
    (fresh : ∀ flight ∈ schedule.flights, flight.id ≠ id) :
    (traffic.start id schedule).calls.Perm (id :: schedule.calls) := by
  have others : (schedule.remove id).calls = schedule.calls :=
    congrArg (fun flights => schedule.ended.map (·.1) ++ flights.map (·.id))
      (Schedule.flights_remove_of_absent fresh)
  rw [← others]
  rcases start_cases traffic id schedule with
    ⟨retryAfter, breaker, -, started⟩ | ⟨admission, breaker, -, advances⟩
  · rw [started, Schedule.calls, Schedule.finish, List.map_append, List.append_assoc]
    exact List.perm_middle
  · exact advances.calls orderly.names

/-- Calls that start under new names are as many more calls. -/
theorem calls_starts (orderly : schedule.Orderly traffic) {ids : List String} (distinct : ids.Nodup)
    (fresh : ∀ id ∈ ids, id ∉ schedule.calls) :
    (traffic.performAll (ids.map .start) schedule).calls.Perm (ids ++ schedule.calls) := by
  induction ids generalizing schedule with
  | nil => exact .refl _
  | cons id rest ih =>
    obtain ⟨new, distinct⟩ := List.nodup_cons.mp distinct
    have started : (traffic.start id schedule).calls.Perm (id :: schedule.calls) := by
      refine calls_start orderly fun flight member same => fresh id List.mem_cons_self ?_
      exact List.mem_append_right _ (List.mem_map.mpr ⟨flight, member, same⟩)
    -- The start adds no other name, so the names behind the first one are still new.
    have others : ∀ other ∈ rest, other ∉ (traffic.start id schedule).calls := by
      intro other member called
      rcases List.mem_cons.mp (started.mem_iff.mp called) with rfl | before
      · exact new member
      · exact fresh other (List.mem_cons_of_mem _ member) before
    have further := ih (orderly_start orderly id) distinct others
    exact further.trans ((started.append_left rest).trans List.perm_middle)

/-- **If every call gets an outcome whenever it asks, all calls end.** -/
theorem flights_finishAll (orderly : schedule.Orderly traffic)
    (answered : ∀ id ∈ schedule.calls, ∀ source, traffic.outcomes.take id source ≠ none) :
    (traffic.finishAll schedule).flights = [] ∧
      ((traffic.finishAll schedule).ended.map (·.1)).Perm schedule.calls := by
  have kept : (traffic.finishAll schedule).Orderly traffic ∧
      (traffic.finishAll schedule).calls.Perm schedule.calls := by
    refine drive_invariant (fun next => next.Orderly traffic ∧ next.calls.Perm schedule.calls)
      ?_ ?_ ⟨orderly, .refl _⟩ _ _
    · rintro next flight due ⟨orderly, calls⟩ member -
      exact ⟨orderly_resume orderly, (calls_resume orderly member).trans calls⟩
    · rintro next span ⟨orderly, calls⟩
      exact ⟨orderly.wait span, calls⟩
  obtain ⟨settled, calls⟩ := kept
  have empty : (traffic.finishAll schedule).flights = [] := by
    -- A call that is left waits for an outcome that its source does not have.
    refine List.eq_nil_iff_forall_not_mem.mpr fun flight member => ?_
    have waits := settled.waits flight member
    simp only [Waits, phase_of_finishAll orderly flight member] at waits
    obtain ⟨source, none⟩ := waits
    have called : flight.id ∈ (traffic.finishAll schedule).calls :=
      List.mem_append_right _ (List.mem_map_of_mem member)
    exact answered flight.id (calls.mem_iff.mp called) source none
  refine ⟨empty, ?_⟩
  simpa [Schedule.calls, empty] using calls

end Traffic

end ODataClient

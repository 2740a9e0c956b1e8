import ODataClient.Proofs.Breaker.Shared
import ODataClient.Proofs.Transport.Flights

/-! # Overlapping calls over one breaker

Calls that run beside each other are callers of one shared breaker: what is known of every run of a
`SharedBreaker` is known of every schedule.

* **`CallEvent`** — what a breaker is asked and told by calls with names; `CallEvent.nameless` forgets the
  names.
* **`Replay`** — a log of such events played on a shared breaker. A call is admitted or rejected as the
  breaker decides; an admitted call reports under its own number an outcome that stands.
* **`Schedule.Heard`** — a log stands behind a schedule: it leads to the breaker of the schedule, ends the
  calls that ended, and holds the admission of every call under way.
* **`Schedule.Heard.of_advances`** — what one call does keeps this; `Traffic.heard_performAll` carries it
  through any actions.
* **`Traffic.exists_play?_performAll`** — the run of the shared breaker behind a schedule. -/

namespace ODataClient

/-- What a breaker is asked or told by a call. -/
inductive CallEvent
  /-- A call asks for admission and gets it. -/
  | admitted (id : String) (now : Instant)
  /-- A call asks for admission and is told how long to wait. -/
  | rejected (id : String) (now : Instant) (retryAfter : Duration)
  /-- A call reports under the number of its admission. -/
  | reported (id : String) (now : Instant) (serial : Nat) (outcome : Outcome)

namespace CallEvent

/-- The event without names. -/
def nameless : CallEvent → BreakerEvent
  | admitted _ now => ⟨now, .acquire⟩
  | rejected _ now _ => ⟨now, .acquire⟩
  | reported _ now serial outcome => ⟨now, .report serial (isTransient outcome)⟩

/-- The call that asks for admission. -/
def started? : CallEvent → Option String
  | admitted id _ => some id
  | rejected id _ _ => some id
  | reported _ _ _ _ => none

/-- The call that gets admission. -/
def admitted? : CallEvent → Option String
  | admitted id _ => some id
  | rejected _ _ _ => none
  | reported _ _ _ _ => none

/-- The call that ends, with its outcome. -/
def ended? : CallEvent → Option (String × Outcome)
  | admitted _ _ => none
  | rejected id _ retryAfter => some (id, .error (.circuitOpen retryAfter))
  | reported id _ _ outcome => some (id, outcome)

end CallEvent

/-- Whether a number is the one of the latest call of a name, given the names of admitted calls. -/
def IsLatest (names : List String) (serial : Nat) (id : String) : Prop :=
  ∃ earlier later, names = earlier ++ id :: later ∧ earlier.length = serial ∧ id ∉ later

namespace IsLatest

variable {names : List String} {serial : Nat} {id other : String}

/-- The call admitted last. -/
theorem self (names : List String) (id : String) : IsLatest (names ++ [id]) names.length id :=
  ⟨names, [], rfl, rfl, List.not_mem_nil⟩

/-- A call of another name behind it. -/
theorem snoc (latest : IsLatest names serial id) (apart : id ≠ other) :
    IsLatest (names ++ [other]) serial id := by
  obtain ⟨earlier, later, rfl, length, fresh⟩ := latest
  exact ⟨earlier, later ++ [other], by simp, length, by simp [fresh, apart]⟩

/-- A number is the one of a single call. -/
theorem unique (latest : IsLatest names serial id) (same : IsLatest names serial other) :
    id = other := by
  obtain ⟨earlier, later, rfl, rfl, -⟩ := latest
  obtain ⟨front, back, split, length, -⟩ := same
  exact (List.cons.inj (List.append_inj split length.symm).2).1

end IsLatest

section Replay

variable {σ : Type} (traffic : Traffic σ)

/-- A log of calls played on a shared breaker. -/
inductive Replay (first : SharedBreaker) : List CallEvent → SharedBreaker → Prop
  /-- Nothing happened. -/
  | start : Replay first [] first
  /-- The breaker admits a call. -/
  | admitted {log : List CallEvent} {shared : SharedBreaker} (replay : Replay first log shared)
      (id : String) {now : Instant} (later : shared.now ≤ now) {admission : Admission}
      (granted : (shared.breaker.acquire traffic.breaker now).1 = .ok admission) :
      Replay first (log ++ [.admitted id now]) (shared.acquire traffic.breaker now)
  /-- The breaker rejects a call. -/
  | rejected {log : List CallEvent} {shared : SharedBreaker} (replay : Replay first log shared)
      (id : String) {now : Instant} (later : shared.now ≤ now) {retryAfter : Duration}
      (refused : (shared.breaker.acquire traffic.breaker now).1 = .error retryAfter) :
      Replay first (log ++ [.rejected id now retryAfter]) (shared.acquire traffic.breaker now)
  /-- A call ends and reports under its own number. -/
  | reported {log : List CallEvent} {shared : SharedBreaker} (replay : Replay first log shared)
      {id : String} {now : Instant} (later : shared.now ≤ now) {pass : Pass}
      (pending : pass ∈ shared.pending)
      (own : IsLatest (log.filterMap CallEvent.admitted?) pass.serial id) {retries : Nat}
      {outcome : Outcome} (final : traffic.Final id retries outcome) :
      Replay first (log ++ [.reported id now pass.serial outcome])
        (shared.report traffic.breaker now pass (isTransient outcome))

namespace Replay

variable {traffic} {first shared : SharedBreaker} {log : List CallEvent}
  (replay : Replay traffic first log shared)
include replay

/-- Calls behind a replay have different numbers. -/
theorem numbered (numbered : first.Numbered) : shared.Numbered := by
  induction replay with
  | start => exact numbered
  | admitted replay id later granted ih => exact ih.acquire _
  | rejected replay id later refused ih => exact ih.acquire _
  | reported replay later pending own final ih => exact ih.report _ _ _

/-- The numbers given out are those of the admitted calls. -/
theorem issued (fresh : first.issued = 0) :
    shared.issued = (log.filterMap CallEvent.admitted?).length := by
  induction replay with
  | start => exact fresh
  | admitted replay id later granted ih =>
    simp [SharedBreaker.acquire_of_ok granted, ih, CallEvent.admitted?]
  | rejected replay id later refused ih =>
    simp [SharedBreaker.acquire_of_error refused, SharedBreaker.settle, ih, List.filterMap_cons,
      CallEvent.admitted?]
  | reported replay later pending own final ih =>
    simp [SharedBreaker.report, SharedBreaker.settle, ih, List.filterMap_cons, CallEvent.admitted?]

/-- **A log without its names is a run of the shared breaker.** -/
theorem play?_eq (numbered : first.Numbered) :
    first.play? traffic.breaker (log.map CallEvent.nameless) = some shared := by
  have step {log : List CallEvent} {event : CallEvent} {before after : SharedBreaker}
      (played : first.play? traffic.breaker (log.map CallEvent.nameless) = some before)
      (stepped : before.step? traffic.breaker event.nameless = some after) :
      first.play? traffic.breaker ((log ++ [event]).map CallEvent.nameless) = some after := by
    rw [List.map_append, SharedBreaker.play?_append, played]
    simp [SharedBreaker.play?, stepped]
  induction replay with
  | start => rfl
  | admitted replay id later granted ih =>
    exact step ih (by simp [SharedBreaker.step?, CallEvent.nameless, Nat.not_lt.mpr later])
  | rejected replay id later refused ih =>
    exact step ih (by simp [SharedBreaker.step?, CallEvent.nameless, Nat.not_lt.mpr later])
  | reported replay later pending own final ih =>
    exact step ih ((replay.numbered numbered).step?_report later pending _)

end Replay

end Replay

/-- A breaker that calls begin to share. -/
def SharedBreaker.fresh (breaker : Breaker) (now : Instant) : SharedBreaker := ⟨breaker, now, 0, [], 0⟩

/-! ## The log behind a schedule -/

namespace Schedule

variable {σ : Type}

/-- A schedule with a call in hand, which stands in place of all calls of its name. -/
def holding (schedule : Schedule σ) (flight : Flight) : Schedule σ :=
  { schedule with flights := flight :: (schedule.remove flight.id).flights }

/-- A log leads from one schedule without calls under way to another schedule. -/
structure History (traffic : Traffic σ) (first : Schedule σ) (log : List CallEvent)
    (shared : SharedBreaker) (schedule : Schedule σ) : Prop where
  /-- The breaker plays the log. -/
  replay : Replay traffic (.fresh first.breaker first.now) log shared
  /-- The breaker of the schedule is the one behind the log. -/
  breaker_eq : shared.breaker = schedule.breaker
  /-- No event of the log is still to come. -/
  now_le : shared.now ≤ schedule.now
  /-- The calls that ended are those of the log. -/
  ended_eq : schedule.ended = first.ended ++ log.filterMap CallEvent.ended?
  /-- Every call under way is the latest of its name, and holds its admission. -/
  carried : ∀ flight ∈ schedule.flights, ∃ pass ∈ shared.pending, pass.admission = flight.admission ∧
    IsLatest (log.filterMap CallEvent.admitted?) pass.serial flight.id

/-- Some log in which some calls start leads from one schedule to another one. -/
def Heard (traffic : Traffic σ) (first : Schedule σ) (starts : List String)
    (schedule : Schedule σ) : Prop :=
  ∃ log shared, log.filterMap CallEvent.started? = starts ∧ History traffic first log shared schedule

namespace Heard

variable {traffic : Traffic σ} {first schedule next : Schedule σ} {starts : List String}

/-- Nothing was heard of a schedule without calls. -/
theorem start (idle : first.flights = []) : Heard traffic first [] first := by
  refine ⟨[], .fresh first.breaker first.now, rfl, .start, rfl, Nat.le_refl _, by simp, ?_⟩
  simp [idle]

/-- Time, attempts and outcomes are nothing that a breaker hears of, and so is a call that is given up. -/
theorem carry (heard : Heard traffic first starts schedule)
    (breaker : next.breaker = schedule.breaker) (later : schedule.now ≤ next.now)
    (ended : next.ended = schedule.ended)
    (carried : ∀ flight ∈ next.flights,
      ∃ former ∈ schedule.flights, former.id = flight.id ∧ former.admission = flight.admission) :
    Heard traffic first starts next := by
  obtain ⟨log, shared, started, history⟩ := heard
  refine ⟨log, shared, started, history.replay, history.breaker_eq.trans breaker.symm,
    Nat.le_trans history.now_le later, ended.trans history.ended_eq, fun flight member => ?_⟩
  obtain ⟨former, member, id, admission⟩ := carried flight member
  obtain ⟨pass, pending, admitted, latest⟩ := history.carried former member
  exact ⟨pass, pending, admitted.trans admission, id ▸ latest⟩

/-- A call under way is taken in hand. -/
theorem hold (heard : Heard traffic first starts schedule) {former flight : Flight}
    (member : former ∈ schedule.flights) (id : former.id = flight.id)
    (admission : former.admission = flight.admission) :
    Heard traffic first starts (schedule.holding flight) := by
  refine heard.carry rfl (Nat.le_refl _) rfl fun other held => ?_
  rcases List.mem_cons.mp held with rfl | beside
  · exact ⟨former, member, id, admission⟩
  · exact ⟨other, (mem_flights_remove.mp beside).1, rfl, rfl⟩

/-- A call in hand is put back among the others. -/
theorem keep {flight : Flight} (heard : Heard traffic first starts (schedule.holding flight))
    (source : σ) (again retries : Nat) (phase : Phase) :
    Heard traffic first starts
      ((schedule.tried source flight.id again).keep { flight with retries, phase }) := by
  refine heard.carry (by simp [tried, holding]) (by simp [tried, holding])
    (by simp [tried, holding]) fun other member => ?_
  rcases mem_flights_keep.mp member with rfl | ⟨beside, apart⟩
  · exact ⟨flight, List.mem_cons_self, rfl, rfl⟩
  · exact ⟨other, List.mem_cons_of_mem _ (mem_flights_remove.mpr ⟨beside, apart⟩), rfl, rfl⟩

/-- **What a call in hand comes to is told in the log.** -/
theorem of_advances {flight : Flight} (heard : Heard traffic first starts (schedule.holding flight))
    (advances : traffic.Advances flight schedule next) : Heard traffic first starts next := by
  cases advances with
  | awaits source again waits => exact heard.keep source again _ _
  | pauses source again due later more => exact heard.keep source again _ _
  | ends source again outcome final =>
    obtain ⟨log, shared, started, history⟩ := heard
    obtain ⟨pass, pending, admission, latest⟩ := history.carried flight List.mem_cons_self
    refine ⟨log ++ [.reported flight.id schedule.now pass.serial outcome], _, ?_,
      history.replay.reported history.now_le pending latest final, ?_, Nat.le_refl _, ?_, ?_⟩
    · simp [List.filterMap_cons, CallEvent.started?, started]
    · simp [SharedBreaker.report, admission, history.breaker_eq, holding]
    · have ended : schedule.ended = _ := history.ended_eq
      simp [finish, tried, ended, CallEvent.ended?]
    · intro other member
      obtain ⟨beside, apart⟩ := mem_flights_remove.mp member
      obtain ⟨former, held, admitted, named⟩ := history.carried other
        (List.mem_cons_of_mem _ (mem_flights_remove.mpr ⟨beside, apart⟩))
      -- A number belongs to one call, so the report takes the admission of no other one.
      have others : former ≠ pass := fun same => apart (named.unique (same ▸ latest))
      refine ⟨former, (List.mem_erase_of_ne others).mpr held, admitted, ?_⟩
      simpa [List.filterMap_cons, CallEvent.admitted?] using named

end Heard

end Schedule

/-! ## Actions -/

/-- What happens to calls that run beside each other. -/
inductive CallAction (σ : Type)
  /-- A call starts. -/
  | start (id : String)
  /-- A call that waits looks for its outcome. -/
  | poll (id : String)
  /-- A call is given up. -/
  | abandon (id : String)
  /-- The outcomes to come change. -/
  | supply (change : σ → σ)
  /-- Time passes. -/
  | elapse (span : Duration)
  /-- Time passes until a call has ended or nothing can go on. -/
  | finishCall (id : String)
  /-- Time passes until all calls have ended or nothing can go on. -/
  | finishAll

/-- The call that an action starts. -/
def CallAction.started? {σ : Type} : CallAction σ → Option String
  | start id => some id
  | poll _ | abandon _ | supply _ | elapse _ | finishCall _ | finishAll => none

namespace Traffic

variable {σ : Type}

/-- Do an action. -/
def perform (traffic : Traffic σ) : CallAction σ → Schedule σ → Schedule σ
  | .start id, schedule => traffic.start id schedule
  | .poll id, schedule => traffic.poll id schedule
  | .abandon id, schedule => schedule.remove id
  | .supply change, schedule => { schedule with source := change schedule.source }
  | .elapse span, schedule => traffic.elapse span schedule
  | .finishCall id, schedule => traffic.finishCall id schedule
  | .finishAll, schedule => traffic.finishAll schedule

/-- Do actions in order. -/
def performAll (traffic : Traffic σ) (actions : List (CallAction σ)) (schedule : Schedule σ) :
    Schedule σ :=
  actions.foldl (fun schedule action => traffic.perform action schedule) schedule

/-- One more action. -/
theorem performAll_concat (traffic : Traffic σ) (actions : List (CallAction σ))
    (action : CallAction σ) (schedule : Schedule σ) :
    traffic.performAll (actions ++ [action]) schedule =
      traffic.perform action (traffic.performAll actions schedule) :=
  List.foldl_concat _ _ _ _

open Schedule (Heard)

variable {traffic : Traffic σ} {first schedule : Schedule σ} {starts : List String}

/-- **A call that starts is heard of once**, be it admitted or rejected. -/
theorem heard_start (heard : Heard traffic first starts schedule) (id : String) :
    Heard traffic first (starts ++ [id]) (traffic.start id schedule) := by
  obtain ⟨log, shared, started, history⟩ := heard
  rcases start_cases traffic id schedule with
    ⟨retryAfter, breaker, answer, started_eq⟩ | ⟨admission, breaker, answer, advances⟩
  · rw [← history.breaker_eq] at answer
    rw [started_eq]
    have refused : (shared.breaker.acquire traffic.breaker schedule.now).1 = .error retryAfter := by
      rw [answer]
    refine ⟨_, _, ?_, history.replay.rejected id history.now_le refused, ?_, ?_, ?_, ?_⟩
    · simp [CallEvent.started?, started]
    · simp [answer, Schedule.finish, Schedule.remove]
    · simp [Schedule.finish, Schedule.remove]
    · simp [Schedule.finish, history.ended_eq, CallEvent.ended?]
    · intro other member
      obtain ⟨beside, apart⟩ := Schedule.mem_flights_remove.mp member
      obtain ⟨pass, pending, admitted, latest⟩ := history.carried other beside
      refine ⟨pass, ?_, admitted, by simpa [List.filterMap_cons, CallEvent.admitted?] using latest⟩
      rwa [SharedBreaker.acquire_of_error refused]
  · rw [← history.breaker_eq] at answer
    have granted : (shared.breaker.acquire traffic.breaker schedule.now).1 = .ok admission := by
      rw [answer]
    refine Heard.of_advances ?_ advances
    -- The log tells of the admission before the first attempt, which finds the call in hand.
    refine ⟨_, _, ?_, history.replay.admitted id history.now_le granted, ?_, ?_, ?_, ?_⟩
    · simp [CallEvent.started?, started]
    · simp [answer, Schedule.holding, Schedule.begin]
    · simp [Schedule.holding, Schedule.begin]
    · simp [Schedule.holding, Schedule.begin, history.ended_eq, List.filterMap_cons, CallEvent.ended?]
    · have names : (log ++ [CallEvent.admitted id schedule.now]).filterMap CallEvent.admitted? =
          log.filterMap CallEvent.admitted? ++ [id] := by
        simp [CallEvent.admitted?]
      rw [names, SharedBreaker.acquire_of_ok granted]
      intro other member
      rcases List.mem_cons.mp member with rfl | held
      · refine ⟨_, List.mem_cons_self, rfl, ?_⟩
        rw [history.replay.issued rfl]
        exact .self _ id
      · obtain ⟨beside, apart⟩ := Schedule.mem_flights_remove.mp held
        obtain ⟨pass, pending, admitted, latest⟩ := history.carried other beside
        exact ⟨pass, List.mem_cons_of_mem _ pending, admitted, latest.snoc apart⟩

/-- A call goes on after its pause. -/
theorem heard_resume (heard : Heard traffic first starts schedule) {flight : Flight}
    (member : flight ∈ schedule.flights) :
    Heard traffic first starts (traffic.resume flight schedule) := by
  have begun : Heard traffic first starts (schedule.begin flight.id) :=
    heard.carry rfl (Nat.le_refl _) rfl fun other beside => ⟨other, beside, rfl, rfl⟩
  refine Heard.of_advances ?_ (advances_resume flight schedule)
  exact begun.hold member rfl rfl

/-- A call looks for its outcome. -/
theorem heard_poll (heard : Heard traffic first starts schedule) (id : String) :
    Heard traffic first starts (traffic.poll id schedule) := by
  unfold poll
  split
  · rename_i flight found
    have member := List.mem_of_find?_eq_some found
    exact (heard.hold member rfl rfl).of_advances (advances_proceed (Nat.le_refl _) _)
  · exact heard

/-- Time passes. -/
theorem heard_wait (span : Duration) (heard : Heard traffic first starts schedule) :
    Heard traffic first starts { schedule with now := schedule.now + span } :=
  heard.carry rfl (Nat.le_add_right _ _) rfl fun other beside => ⟨other, beside, rfl, rfl⟩

/-- Time passes, and calls go on. -/
theorem heard_elapse (heard : Heard traffic first starts schedule) (span : Duration) :
    Heard traffic first starts (traffic.elapse span schedule) :=
  elapse_invariant _ (fun heard member _ => heard_resume heard member) heard_wait heard span

/-- Time passes from pause to pause. -/
theorem heard_drive (heard : Heard traffic first starts schedule) (continues : Schedule σ → Bool)
    (fuel : Nat) : Heard traffic first starts (traffic.drive continues fuel schedule) :=
  drive_invariant _ (fun heard member _ => heard_resume heard member) heard_wait heard continues fuel

/-- **Every action is heard of as it should**: a call that starts once, and nothing else. -/
theorem heard_perform (heard : Heard traffic first starts schedule) (action : CallAction σ) :
    Heard traffic first (starts ++ action.started?.toList) (traffic.perform action schedule) := by
  cases action with
  | start id => exact heard_start heard id
  | poll id => simpa [perform, CallAction.started?] using heard_poll heard id
  | abandon id =>
    have others : Heard traffic first starts (schedule.remove id) :=
      heard.carry rfl (Nat.le_refl _) rfl fun other member =>
        ⟨other, (Schedule.mem_flights_remove.mp member).1, rfl, rfl⟩
    simpa [perform, CallAction.started?] using others
  | supply change =>
    have supplied : Heard traffic first starts { schedule with source := change schedule.source } :=
      heard.carry rfl (Nat.le_refl _) rfl fun other member => ⟨other, member, rfl, rfl⟩
    simpa [perform, CallAction.started?] using supplied
  | elapse span => simpa [perform, CallAction.started?] using heard_elapse heard span
  | finishCall id => simpa [perform, CallAction.started?, finishCall] using heard_drive heard _ _
  | finishAll => simpa [perform, CallAction.started?, finishAll] using heard_drive heard _ _

/-- **Any actions are heard of.** -/
theorem heard_performAll (heard : Heard traffic first starts schedule)
    (actions : List (CallAction σ)) :
    Heard traffic first (starts ++ actions.filterMap CallAction.started?)
      (traffic.performAll actions schedule) := by
  induction actions generalizing schedule starts with
  | nil => simpa [performAll] using heard
  | cons action rest ih =>
    have further := ih (heard_perform heard action)
    cases started : action.started? <;> simpa [performAll, started, List.filterMap_cons] using further

/-- **Calls that run beside each other are callers of one shared breaker.** From a schedule without calls
under way, whatever happens, the breaker goes through a run of a shared breaker: every call that starts asks
for admission once, every admitted call that ends reports once, and no other event is in the run. -/
theorem exists_play?_performAll (traffic : Traffic σ) (idle : first.flights = [])
    (actions : List (CallAction σ)) :
    ∃ log shared, log.filterMap CallEvent.started? = actions.filterMap CallAction.started? ∧
      (SharedBreaker.fresh first.breaker first.now).play? traffic.breaker
        (log.map CallEvent.nameless) = some shared ∧
      Schedule.History traffic first log shared (traffic.performAll actions first) := by
  obtain ⟨log, shared, started, history⟩ := heard_performAll (.start idle) actions
  refine ⟨log, shared, by simpa using started, history.replay.play?_eq ?_, history⟩
  exact ⟨List.nodup_nil, by simp [SharedBreaker.fresh]⟩

/-- At every moment of calls that run beside each other their breaker is one of a sound shared breaker, which
holds the admission of every call under way. -/
theorem sound_performAll (enabled : traffic.breaker.enabled = true) (source : σ)
    (actions : List (CallAction σ)) :
    ∃ shared : SharedBreaker, shared.Sound traffic.breaker ∧
      shared.breaker = (traffic.performAll actions (.initial source)).breaker ∧
      ∀ flight ∈ (traffic.performAll actions (.initial source)).flights,
        ∃ pass ∈ shared.pending, pass.admission = flight.admission := by
  have idle : (Schedule.initial source).flights = [] := rfl
  obtain ⟨log, shared, -, played, history⟩ := traffic.exists_play?_performAll idle actions
  refine ⟨shared, SharedBreaker.sound_of_play? enabled played, history.breaker_eq, ?_⟩
  intro flight member
  obtain ⟨pass, pending, admission, -⟩ := history.carried flight member
  exact ⟨pass, pending, admission⟩

end Traffic

end ODataClient

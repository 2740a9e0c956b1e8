import ODataClient.Proofs.Transport.Flights
import ODataClient.Proofs.Transport.Sequential

/-! # A call with nobody beside it

Over a backend that replies at once, a call that has a schedule for itself does what the same call does
that is simply sent: the same attempts and pauses, the same outcome and the same report.

* **`Backend.Prompt`** — replies take no time.
* **`Schedule.EndsLike`** — a schedule after a call and the call as it is sent, side by side.
* **`Transport.endsLike_drive`** — the induction over the retries left: a pause that takes time is one jump
  of the schedule, and one that takes none is part of the attempt.
* **`Transport.finishCall_start_eq_send`** — the whole call. -/

namespace ODataClient

variable {σ : Type}

/-- Whether a backend replies at once. -/
def Backend.Prompt (backend : Backend σ) : Prop :=
  ∀ request environment, (backend.answer request environment).elapsed = 0

/-- A pause ends no earlier than it is due. -/
theorem le_wakeTime (due : Instant) : due ≤ wakeTime due := by
  have rounded (time step : Nat) (positive : 0 < step) :
      time ≤ (time + (step - 1)) / step * step := by
    have parts := Nat.div_add_mod (time + (step - 1)) step
    have rest := Nat.mod_lt (time + (step - 1)) positive
    rw [Nat.mul_comm] at parts
    omega
  exact rounded due Duration.perMillisecond (by decide)

namespace Schedule

/-- Whether no call is under way beside the one of a name. -/
def Alone (schedule : Schedule σ) (id : String) : Prop :=
  schedule.flights = [] ∨ ∃ former : Flight, former.id = id ∧ schedule.flights = [former]

/-- A call that is put back stays alone. -/
theorem Alone.flights_keep {schedule : Schedule σ} {flight : Flight}
    (alone : schedule.Alone flight.id) : (schedule.keep flight).flights = [flight] := by
  rcases alone with none | ⟨former, same, one⟩
  · simp [keep, none]
  · simp [keep, one, same]

/-- Nobody is left beside a call. -/
theorem Alone.flights_remove {schedule : Schedule σ} {id : String} (alone : schedule.Alone id) :
    (schedule.remove id).flights = [] := by
  rcases alone with none | ⟨former, same, one⟩
  · simp [remove, none]
  · simp [remove, one, same]

/-- A schedule in which a call of some name and request has ended, beside the same call as it is sent. -/
structure EndsLike (policy : BreakerPolicy) (flight : Flight) (request : Request)
    (schedule : Schedule σ) (before : World σ) (sent : Outcome × World σ)
    (finished : Schedule σ) : Prop where
  /-- Both end at the same time. -/
  now : finished.now = sent.2.now
  /-- The environment is the same. -/
  source : finished.source = sent.2.environment
  /-- The call has ended. -/
  flights : finished.flights = []
  /-- It has ended with the same outcome. -/
  ended : finished.ended = schedule.ended ++ [(flight.id, sent.1)]
  /-- It has reported it. -/
  breaker : finished.breaker = schedule.breaker.record policy sent.2.now flight.admission
    (isTransient sent.1)
  /-- It has made the same attempts, the first of which was begun before. -/
  attempts : ∃ again, finished.begun = schedule.begun ++ List.replicate again flight.id ∧
    sent.2.requests = before.requests ++ List.replicate (again + 1) request

/-- An attempt in front of a call. -/
theorem EndsLike.again {policy : BreakerPolicy} {flight next : Flight} {request : Request}
    {schedule middle finished : Schedule σ} {before between : World σ} {sent : Outcome × World σ}
    (ends : middle.EndsLike policy next request between sent finished) (id : next.id = flight.id)
    (admission : next.admission = flight.admission) (ended : middle.ended = schedule.ended)
    (breaker : middle.breaker = schedule.breaker)
    (begun : middle.begun = schedule.begun ++ [flight.id])
    (requests : between.requests = before.requests ++ [request]) :
    schedule.EndsLike policy flight request before sent finished where
  now := ends.now
  source := ends.source
  flights := ends.flights
  ended := by rw [ends.ended, ended, id]
  breaker := by rw [ends.breaker, breaker, admission]
  attempts := by
    obtain ⟨again, attempts, sends⟩ := ends.attempts
    refine ⟨again + 1, ?_, ?_⟩
    · rw [attempts, begun, id, List.append_assoc]
      rfl
    · rw [sends, requests, List.append_assoc]
      rfl

/-- Nobody pauses if nobody is under way. -/
theorem nextPause_of_idle {schedule : Schedule σ} (idle : schedule.flights = []) :
    schedule.nextPause = none := by
  simp [nextPause, pauses, idle]

/-- The only pause is the one that ends first. -/
theorem nextPause_of_paused {schedule : Schedule σ} {flight : Flight} {due : Instant}
    (one : schedule.flights = [flight]) (paused : flight.phase = .paused due) :
    schedule.nextPause = some (due, flight) := by
  simp [nextPause, pauses, one, paused]

end Schedule

namespace Traffic

variable {traffic : Traffic σ} {schedule next : Schedule σ} {flight : Flight}

/-- Without pauses time does not pass. -/
theorem drive_of_nextPause_eq_none (none : schedule.nextPause = none)
    (continues : Schedule σ → Bool) (fuel : Nat) :
    traffic.drive continues fuel schedule = schedule := by
  cases fuel with
  | zero => rfl
  | succ fuel => simp [drive, none]

/-- Before the end of a pause no call goes on. -/
theorem wake_of_early (early : ∀ due flight, schedule.nextPause = some (due, flight) → schedule.now < due)
    (fuel : Nat) : traffic.wake fuel schedule = schedule := by
  cases fuel with
  | zero => rfl
  | succ fuel =>
    unfold wake
    split
    · rename_i due flight next
      rw [if_neg (Nat.not_le.mpr (early due flight next))]
    · rfl

/-- What a call comes to that is alone: nobody is under way, or only the call, and no pause of it has
ended. -/
theorem Advances.of_alone (advances : traffic.Advances flight schedule next)
    (alone : schedule.Alone flight.id) :
    next.flights = [] ∨ ∃ later : Flight, later.id = flight.id ∧ next.flights = [later] ∧
      ∀ due, later.phase = .paused due → next.now < due := by
  have kept (source : σ) (again : Nat) (later : Flight) (same : later.id = flight.id)
      (early : ∀ due, later.phase = .paused due → schedule.now < due) :
      ∃ one : Flight, one.id = flight.id ∧
        ((schedule.tried source flight.id again).keep later).flights = [one] ∧
        ∀ due, one.phase = .paused due →
          ((schedule.tried source flight.id again).keep later).now < due :=
    ⟨later, same, Schedule.Alone.flights_keep (same ▸ alone), (Schedule.now_keep _ _).symm ▸ early⟩
  cases advances with
  | awaits source again waits =>
    refine .inr (kept source again _ rfl fun due paused => ?_)
    cases paused
  | pauses source again due later more =>
    refine .inr (kept source again _ rfl fun pauseEnd paused => ?_)
    cases paused
    exact later
  | ends source again outcome final => exact .inl alone.flights_remove

/-- What a call comes to that is alone is not changed before time passes. -/
theorem wake_of_advances (alone : schedule.Alone flight.id)
    (advances : traffic.Advances flight schedule next) (fuel : Nat) :
    traffic.wake fuel next = next := by
  refine wake_of_early (fun due pausing first => ?_) fuel
  obtain ⟨⟨member, paused⟩, -⟩ := Schedule.of_nextPause_eq_some first
  rcases advances.of_alone alone with none | ⟨later, -, one, early⟩
  · rw [none] at member
    cases member
  · rw [one, List.mem_singleton] at member
    exact early due (member ▸ paused)

/-- A call that starts with nobody beside it stays alone. -/
theorem alone_start (traffic : Traffic σ) (idle : schedule.flights = []) (id : String) :
    (traffic.start id schedule).Alone id := by
  rcases start_cases traffic id schedule with
    ⟨retryAfter, breaker, -, started⟩ | ⟨admission, breaker, -, advances⟩
  · rw [started]
    have nobody : ({ schedule with breaker } : Schedule σ).Alone id := .inl idle
    exact .inl nobody.flights_remove
  · rcases advances.of_alone (.inl idle) with none | ⟨later, same, one, -⟩
    · exact .inl none
    · exact .inr ⟨later, same, one⟩

/-- A call that is alone goes on at most as often as the policy allows. -/
theorem drive_resumptions {id : String} (alone : schedule.Alone id) (continues : Schedule σ → Bool) :
    traffic.drive continues (traffic.resumptions schedule) schedule =
      traffic.drive continues traffic.retry.maxRetries schedule := by
  rcases alone with none | ⟨former, -, one⟩
  · simp only [drive_of_nextPause_eq_none (Schedule.nextPause_of_idle none)]
  · simp [resumptions, one]

/-- A call that is alone goes on as soon as its pause has ended. -/
theorem elapse_of_paused {due : Instant} (one : schedule.flights = [flight])
    (paused : flight.phase = .paused due) (early : schedule.now < due)
    (more : flight.retries < traffic.retry.maxRetries) :
    traffic.elapse (due - schedule.now) schedule =
      traffic.resume flight { schedule with now := due } := by
  have due_eq : schedule.now + (due - schedule.now) = due :=
    Nat.add_sub_of_le (Nat.le_of_lt early)
  have fueled : traffic.resumptions { schedule with now := due } ≠ 0 := by
    simp [resumptions, one]
    omega
  obtain ⟨fuel, fuel_eq⟩ := Nat.exists_eq_succ_of_ne_zero fueled
  have next : ({ schedule with now := due } : Schedule σ).nextPause = some (due, flight) :=
    Schedule.nextPause_of_paused one paused
  have alone : Schedule.Alone (({ schedule with now := due } : Schedule σ).begin flight.id) flight.id :=
    .inr ⟨flight, rfl, one⟩
  unfold elapse
  simp only [due_eq, fuel_eq, wake, next, Nat.le_refl, if_true]
  refine wake_of_advances ?_ (advances_resume flight _) fuel
  exact alone

/-- Time passes until a call that is alone goes on. -/
theorem drive_of_paused {due : Instant} (one : schedule.flights = [flight])
    (paused : flight.phase = .paused due) (early : schedule.now < due)
    (more : flight.retries < traffic.retry.maxRetries) {continues : Schedule σ → Bool}
    (goes : continues schedule = true) (fuel : Nat) :
    traffic.drive continues (fuel + 1) schedule =
      traffic.drive continues fuel (traffic.resume flight { schedule with now := due }) := by
  rw [drive, if_pos goes]
  simp only [Schedule.nextPause_of_paused one paused]
  rw [elapse_of_paused one paused early more]

/-- A pause of a call that is alone is one jump to its next attempt. -/
theorem exists_drive_keep (alone : schedule.Alone flight.id) {due : Instant}
    (early : schedule.now < due) (more : flight.retries < traffic.retry.maxRetries)
    {continues : Schedule σ → Bool}
    (goes : ∀ schedule : Schedule σ, schedule.isUnderWay flight.id = true → continues schedule = true)
    (fuel : Nat) :
    ∃ later : Schedule σ, later.now = due ∧ later.source = schedule.source ∧
      later.ended = schedule.ended ∧ later.breaker = schedule.breaker ∧
      later.begun = schedule.begun ++ [flight.id] ∧ later.Alone flight.id ∧
      traffic.drive continues (fuel + 1) (schedule.keep { flight with phase := .paused due }) =
        traffic.drive continues fuel
          (traffic.proceed (traffic.retry.maxRetries - (flight.retries + 1))
            { flight with retries := flight.retries + 1, phase := .attempting } later) := by
  let pausing : Flight := { flight with phase := .paused due }
  have one : (schedule.keep pausing).flights = [pausing] := Schedule.Alone.flights_keep alone
  have under : (schedule.keep pausing).isUnderWay flight.id = true := by
    simp [Schedule.isUnderWay, one, pausing]
  have before : (schedule.keep pausing).now < due := (Schedule.now_keep _ _).symm ▸ early
  refine ⟨Schedule.begin { schedule.keep pausing with now := due } flight.id, rfl,
    Schedule.source_keep _ _, Schedule.ended_keep _ _, Schedule.breaker_keep _ _,
    congrArg (· ++ [flight.id]) (Schedule.begun_keep _ _), .inr ⟨pausing, rfl, one⟩, ?_⟩
  exact drive_of_paused one rfl before more (goes _ under) fuel

end Traffic

namespace Transport

variable (transport : Transport σ)

/-- The rules of calls that are made through a transport, given their requests. -/
def traffic (request? : String → Option Request) : Traffic σ :=
  ⟨.ofBackend transport.backend request?, transport.retry, transport.breaker⟩

variable {transport} {request? : String → Option Request} {request : Request} {flight : Flight}
  {schedule : Schedule σ} {world : World σ} {left : Nat}

/-- What a call takes from its source is the reply to its request. -/
theorem take_traffic (named : request? flight.id = some request)
    (environment : world.environment = schedule.source) :
    (transport.traffic request?).outcomes.take flight.id schedule.source =
      some ((transport.attempt request world).1, (transport.attempt request world).2.environment) := by
  simp [traffic, OutcomeSource.ofBackend, named, attempt, World.receive, environment]

/-- An attempt takes no time. -/
theorem now_attempt (prompt : transport.backend.Prompt) :
    (transport.attempt request world).2.now = world.now := by
  simp [attempt, World.receive, prompt request world.environment]

/-- An attempt whose outcome stands is the last one. -/
theorem endsLike_proceed_of_stands (prompt : transport.backend.Prompt)
    (named : request? flight.id = some request) (now : world.now = schedule.now)
    (environment : world.environment = schedule.source) (alone : schedule.Alone flight.id)
    (stands : transport.retry.Stands flight.retries (transport.attempt request world).1) :
    schedule.EndsLike transport.breaker flight request world
      (transport.attempts request flight.retries left world)
      ((transport.traffic request?).proceed left flight schedule) := by
  have stops : (transport.traffic request?).retry.nextDelay flight.retries
      (transport.attempt request world).1 = none :=
    RetryPolicy.nextDelay_of_stands stands
  rw [attempts_of_stands transport stands, Traffic.proceed, take_traffic named environment]
  simp only [stops]
  exact {
    now := (now.symm.trans (now_attempt prompt).symm)
    source := rfl
    flights := alone.flights_remove
    ended := rfl
    breaker := by rw [now_attempt prompt, now]; rfl
    attempts := ⟨0, by simp [Schedule.finish, Schedule.remove], by simp [attempt]⟩ }

/-- Behind the last attempt time does not pass. -/
theorem endsLike_drive_of_stands (prompt : transport.backend.Prompt)
    (named : request? flight.id = some request) (now : world.now = schedule.now)
    (environment : world.environment = schedule.source) (alone : schedule.Alone flight.id)
    (stands : transport.retry.Stands flight.retries (transport.attempt request world).1)
    (continues : Schedule σ → Bool) (fuel : Nat) :
    schedule.EndsLike transport.breaker flight request world
      (transport.attempts request flight.retries left world)
      ((transport.traffic request?).drive continues fuel
        ((transport.traffic request?).proceed left flight schedule)) := by
  have ends : schedule.EndsLike transport.breaker flight request world
      (transport.attempts request flight.retries left world) _ :=
    endsLike_proceed_of_stands prompt named now environment alone stands
  rwa [Traffic.drive_of_nextPause_eq_none (Schedule.nextPause_of_idle ends.flights)]

/-- **A call that is alone does what it does when it is sent.** -/
theorem endsLike_drive (prompt : transport.backend.Prompt)
    (named : request? flight.id = some request) (continues : Schedule σ → Bool)
    (goes : ∀ schedule : Schedule σ, schedule.isUnderWay flight.id = true → continues schedule = true)
    (now : world.now = schedule.now) (environment : world.environment = schedule.source)
    (alone : schedule.Alone flight.id) (spend : flight.retries + left = transport.retry.maxRetries)
    {fuel : Nat} (enough : left ≤ fuel) :
    schedule.EndsLike transport.breaker flight request world
      (transport.attempts request flight.retries left world)
      ((transport.traffic request?).drive continues fuel
        ((transport.traffic request?).proceed left flight schedule)) := by
  induction left generalizing flight schedule world fuel with
  | zero =>
    exact endsLike_drive_of_stands prompt named now environment alone
      (.inl (Nat.le_of_eq spend.symm)) continues fuel
  | succ left ih =>
    by_cases stands : transport.retry.Stands flight.retries (transport.attempt request world).1
    · exact endsLike_drive_of_stands prompt named now environment alone stands continues fuel
    · let delay := transport.retry.delay (flight.retries + 1)
      let due := wakeTime (schedule.now + delay)
      let between := (transport.attempt request world).2.pause delay
      have again : (transport.traffic request?).retry.nextDelay flight.retries
          (transport.attempt request world).1 = some delay :=
        RetryPolicy.nextDelay_of_not_stands stands
      have resumed : between.now = due := by
        simp [between, World.pause, now_attempt prompt, now, due]
      have sends : between.requests = world.requests ++ [request] := by
        simp [between, attempt]
      -- The next attempt, in whatever phase the call goes on.
      have further (phase : Phase) {middle : Schedule σ} {fuel : Nat} (now : between.now = middle.now)
          (environment : between.environment = middle.source) (alone : middle.Alone flight.id)
          (enough : left ≤ fuel) :
          middle.EndsLike transport.breaker { flight with retries := flight.retries + 1, phase }
            request between (transport.attempts request (flight.retries + 1) left between)
            ((transport.traffic request?).drive continues fuel
              ((transport.traffic request?).proceed left
                { flight with retries := flight.retries + 1, phase } middle)) := by
        refine ih ?_ ?_ now environment ?_ ?_ enough
        · exact named
        · exact goes
        · exact alone
        · exact (Nat.add_right_comm _ 1 left).trans spend
      rw [attempts_of_not_stands transport stands, Traffic.proceed, take_traffic named environment]
      simp only [again]
      split
      · -- The pause takes no time: the next attempt belongs to the same step.
        rename_i past
        have same : due = schedule.now :=
          Nat.le_antisymm past (Nat.le_trans (Nat.le_add_right _ _) (le_wakeTime _))
        let middle : Schedule σ :=
          { schedule with source := (transport.attempt request world).2.environment }
        have begun : between.now = (middle.begin flight.id).now := resumed.trans same
        have ends := further flight.phase begun rfl alone (Nat.le_of_succ_le enough)
        exact ends.again rfl rfl rfl rfl rfl sends
      · -- The pause takes time, and one jump of the clock leads to the next attempt.
        rename_i long
        let middle : Schedule σ :=
          { schedule with source := (transport.attempt request world).2.environment }
        have beside : middle.Alone flight.id := alone
        have more : flight.retries < (transport.traffic request?).retry.maxRetries :=
          RetryPolicy.lt_of_nextDelay_eq_some again
        have early : middle.now < due := Nat.lt_of_not_le long
        obtain ⟨rest, rfl⟩ :=
          Nat.exists_eq_succ_of_ne_zero (Nat.ne_of_gt (Nat.lt_of_lt_of_le (Nat.succ_pos left) enough))
        obtain ⟨later, now, source, ended, breaker, begun, nobody, passed⟩ :=
          Traffic.exists_drive_keep beside early more goes rest
        have spent : (transport.traffic request?).retry.maxRetries - (flight.retries + 1) = left := by
          simp only [Transport.traffic]
          omega
        rw [spent] at passed
        have ends := further .attempting (resumed.trans now.symm) source.symm nobody
          (Nat.le_of_succ_le_succ enough)
        exact (passed ▸ ends).again rfl rfl ended breaker begun sends

/-! ## The whole call -/

/-- A world and a schedule have the same time, environment and breaker. -/
structure Meets (world : World σ) (schedule : Schedule σ) : Prop where
  /-- The time is the same. -/
  now : world.now = schedule.now
  /-- The environment is the same. -/
  environment : world.environment = schedule.source
  /-- The breaker is the same. -/
  breaker : world.breaker = schedule.breaker

/-- The schedule in which a call was sent with nobody beside it. -/
def afterSend (id : String) (schedule : Schedule σ) (before : World σ) (sent : Outcome × World σ) :
    Schedule σ where
  now := sent.2.now
  breaker := sent.2.breaker
  source := sent.2.environment
  flights := []
  begun := schedule.begun ++ List.replicate (sent.2.requests.length - before.requests.length) id
  ended := schedule.ended ++ [(id, sent.1)]

/-- A schedule in which a call has ended that began there is the one behind the call as it is sent. -/
theorem eq_afterSend {passed : Outcome × World σ} {finished : Schedule σ}
    (ends : (schedule.begin flight.id).EndsLike transport.breaker flight request world passed finished) :
    finished = afterSend flight.id schedule world
      (passed.1, passed.2.withBreaker
        (schedule.breaker.record transport.breaker passed.2.now flight.admission
          (isTransient passed.1))) := by
  obtain ⟨again, attempts, sends⟩ := ends.attempts
  have number : passed.2.requests.length - world.requests.length = again + 1 := by simp [sends]
  have begun : finished.begun = schedule.begun ++
      List.replicate (passed.2.requests.length - world.requests.length) flight.id := by
    rw [attempts, number, Schedule.begin, List.append_assoc]
    rfl
  obtain ⟨now, breaker, source, flights, attempted, ended⟩ := finished
  simp only [afterSend, Schedule.mk.injEq]
  exact ⟨ends.now, ends.breaker, ends.source, ends.flights, begun, ends.ended⟩

/-- **A call that starts with nobody beside it leaves what it leaves when it is sent.** -/
theorem drive_start_eq_send (prompt : transport.backend.Prompt) {id : String}
    (named : request? id = some request) (idle : schedule.flights = []) (meets : Meets world schedule)
    {continues : Schedule σ → Bool}
    (goes : ∀ schedule : Schedule σ, schedule.isUnderWay id = true → continues schedule = true) :
    (transport.traffic request?).drive continues transport.retry.maxRetries
        ((transport.traffic request?).start id schedule) =
      afterSend id schedule world (transport.send request world) := by
  cases acquired : world.breaker.acquire transport.breaker world.now with
  | mk decision breaker =>
    have answer : schedule.breaker.acquire transport.breaker schedule.now = (decision, breaker) := by
      rw [← meets.breaker, ← meets.now, acquired]
    cases decision with
    | error retryAfter =>
      have finished : (transport.traffic request?).start id schedule =
          afterSend id schedule world (transport.send request world) := by
        simp only [Traffic.start, traffic, answer, send, acquired]
        simp [afterSend, Schedule.finish, Schedule.remove, idle, World.requests, meets.now,
          meets.environment]
      rw [finished]
      exact Traffic.drive_of_nextPause_eq_none (Schedule.nextPause_of_idle rfl) _ _
    | ok admission =>
      let flight : Flight := ⟨id, admission, 0, .attempting⟩
      let middle : Schedule σ := { schedule with breaker }
      have alone : (middle.begin flight.id).Alone flight.id := .inl idle
      have now : world.now = (middle.begin flight.id).now := meets.now
      have ends : (middle.begin flight.id).EndsLike transport.breaker flight request world _ _ :=
        endsLike_drive prompt named continues goes now meets.environment alone (Nat.zero_add _)
          (Nat.le_refl _)
      have started : (transport.traffic request?).start id schedule =
          (transport.traffic request?).proceed transport.retry.maxRetries flight
            (middle.begin flight.id) := by
        simp only [Traffic.start, traffic, answer]
        rfl
      rw [started]
      exact (eq_afterSend ends).trans
        (congrArg (afterSend id schedule world) (transport.send_of_acquire_ok acquired).symm)

/-- The call that is waited for, with nobody beside it. -/
theorem finishCall_start_eq_send (prompt : transport.backend.Prompt) {id : String}
    (named : request? id = some request) (idle : schedule.flights = []) (meets : Meets world schedule) :
    (transport.traffic request?).finishCall id ((transport.traffic request?).start id schedule) =
      afterSend id schedule world (transport.send request world) := by
  rw [Traffic.finishCall, Traffic.drive_resumptions (Traffic.alone_start _ idle id)]
  exact drive_start_eq_send prompt named idle meets fun _ under => under

/-- The only call, when all calls are waited for. -/
theorem finishAll_start_eq_send (prompt : transport.backend.Prompt) {id : String}
    (named : request? id = some request) (idle : schedule.flights = []) (meets : Meets world schedule) :
    (transport.traffic request?).finishAll ((transport.traffic request?).start id schedule) =
      afterSend id schedule world (transport.send request world) := by
  rw [Traffic.finishAll, Traffic.drive_resumptions (Traffic.alone_start _ idle id)]
  refine drive_start_eq_send prompt named idle meets fun schedule under => ?_
  obtain ⟨flight, member, -⟩ := List.any_eq_true.mp under
  simp [List.ne_nil_of_mem member]

end Transport

end ODataClient

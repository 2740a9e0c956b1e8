import ODataClient.Client.Concurrent
import ODataClient.Proofs.Client.Calls
import ODataClient.Proofs.Transport.Alone
import ODataClient.Proofs.Transport.Settling

/-! # Requests made side by side

Requests that are made side by side get one result each, in their order, and their calls share the breaker
like any other callers.

* **`Client.names_decorateAll`** — requests are named by their positions, so no two calls have one name.
* **`Client.scheduleOf_eq_performAll`** — the calls of a client start one after the other, and then all time
  passes.
* **`Client.ended_scheduleOf`** — every call ends, once.
* **`Client.results_executeAll`** — one result for each request, read off the outcome of its call.
* **`Client.breaker_executeAll`** — the run of the shared breaker behind the requests.
* **`Client.executeAll_singleton`** — one request by itself is an ordinary request. -/

namespace ODataClient.Client

variable {σ α : Type} (client : Client σ)

/-! ## Names -/

/-- Requests are named by their positions. -/
theorem names_decorateAll (position : Nat) (requests : List Request) (world : World σ) :
    (client.decorateAll position requests world).1.map (·.1) =
      (List.range' position requests.length).map naturalText := by
  induction requests generalizing position world with
  | nil => rfl
  | cons request rest ih => simp [decorateAll, ih, List.range'_succ]

/-- No two requests have one name. -/
theorem nodup_names_decorateAll (position : Nat) (requests : List Request) (world : World σ) :
    ((client.decorateAll position requests world).1.map (·.1)).Nodup := by
  rw [names_decorateAll]
  exact List.Nodup.map (fun _ _ => naturalText_inj) List.nodup_range'

/-- The requests that are sent keep their names and their order. -/
theorem names_readyRequests_sublist (decorated : List (String × Except AuthError Request)) :
    ((readyRequests decorated).map (·.1)).Sublist (decorated.map (·.1)) := by
  induction decorated with
  | nil => exact .slnil
  | cons first rest ih =>
    obtain ⟨name, error | request⟩ := first
    · exact ih.cons name
    · exact ih.cons_cons name

/-- A request that was decorated is sent. -/
theorem mem_readyRequests {decorated : List (String × Except AuthError Request)} {name : String}
    {request : Request} (member : (name, .ok request) ∈ decorated) :
    (name, request) ∈ readyRequests decorated :=
  List.mem_filterMap.mpr ⟨_, member, rfl⟩

/-! ## Calls -/

/-- The state in which no call of a client has started. -/
def idle (world : World σ) : Schedule σ :=
  { Schedule.initial world.environment with now := world.now, breaker := world.breaker }

/-- The calls of a client start one after the other, and then all time passes. -/
theorem scheduleOf_eq_performAll (ready : List (String × Request)) (world : World σ) :
    client.scheduleOf ready world =
      (client.traffic ready).performAll ((ready.map (·.1)).map .start ++ [.finishAll])
        (idle world) := by
  simp [scheduleOf, Traffic.performAll, Traffic.perform, List.foldl_map, idle]

/-- **Every call of a client ends, once.** -/
theorem ended_scheduleOf {ready : List (String × Request)} (distinct : (ready.map (·.1)).Nodup)
    (world : World σ) :
    (client.scheduleOf ready world).flights = [] ∧
      ((client.scheduleOf ready world).ended.map (·.1)).Perm (ready.map (·.1)) := by
  have orderly : ((client.traffic ready).performAll ((ready.map (·.1)).map .start)
      (idle world)).Orderly (client.traffic ready) :=
    Traffic.orderly_performAll (.of_idle rfl) _
  have calls : ((client.traffic ready).performAll ((ready.map (·.1)).map .start)
      (idle world)).calls.Perm (ready.map (·.1)) := by
    have nobody : (idle world).Orderly (client.traffic ready) := .of_idle rfl
    have fresh : ∀ id ∈ ready.map (·.1), id ∉ (idle world).calls := fun _ _ => List.not_mem_nil
    have started := Traffic.calls_starts nobody distinct fresh
    exact started.trans (.of_eq (List.append_nil _))
  have answered (id : String) (called : id ∈ ready.map (·.1)) (environment : σ) :
      (client.traffic ready).outcomes.take id environment ≠ none := by
    obtain ⟨call, member, rfl⟩ := List.mem_map.mp called
    have found : (ready.lookup call.1).isSome :=
      List.lookup_isSome_iff.mpr ⟨call, member, beq_self_eq_true call.1⟩
    obtain ⟨request, found⟩ := Option.isSome_iff_exists.mp found
    simp [traffic, OutcomeSource.ofBackend, found]
  have finished := Traffic.flights_finishAll orderly fun id called =>
    answered id (calls.mem_iff.mp called)
  rw [scheduleOf_eq_performAll, Traffic.performAll_concat]
  exact ⟨finished.1, finished.2.trans calls⟩

/-! ## Results -/

section Results

variable (requests : List Request) (world : World σ)

/-- **Every request gets its own result**, in the order of the requests: the error of its decoration, or the
outcome of its call. -/
theorem results_executeAll :
    let decorated := (client.decorateAll 1 requests world).1
    let between := (client.decorateAll 1 requests world).2
    (client.executeAll requests world).1.map some =
      decorated.map (client.resultOf (client.scheduleOf (readyRequests decorated) between)) := by
  intro decorated between
  have ended := (client.ended_scheduleOf
    ((client.nodup_names_decorateAll 1 requests world).sublist
      (names_readyRequests_sublist decorated)) between).2
  have result : ∀ item ∈ decorated,
      (client.resultOf (client.scheduleOf (readyRequests decorated) between) item).isSome := by
    rintro ⟨name, error | request⟩ member
    · rfl
    · have called : name ∈ (readyRequests decorated).map (·.1) :=
        List.mem_map_of_mem (mem_readyRequests member)
      obtain ⟨call, held, rfl⟩ := List.mem_map.mp (ended.mem_iff.mpr called)
      have found := List.lookup_isSome_iff.mpr ⟨call, held, beq_self_eq_true call.1⟩
      simpa [resultOf] using found
  have yielded : (client.executeAll requests world).1 = decorated.filterMap
      (client.resultOf (client.scheduleOf (readyRequests decorated) between)) := rfl
  rw [yielded, List.map_filterMap_some_eq_filter_map_isSome, List.filter_eq_self]
  intro yield member
  obtain ⟨item, held, rfl⟩ := List.mem_map.mp member
  exact result item held

/-- There are as many results as requests. -/
theorem length_executeAll :
    (client.executeAll requests world).1.length = requests.length := by
  have results := congrArg List.length (client.results_executeAll requests world)
  have names := congrArg List.length (client.names_decorateAll 1 requests world)
  simpa using results.trans (by simpa using names)

/-- There are as many pages as queries that are read side by side. -/
theorem length_getTogether (type : RecordType α) (queries : List Query) (world : World σ) :
    (client.getTogether type queries world).1.length = queries.length := by
  simp [getTogether, length_executeAll]

/-- **The calls of requests share the breaker**: each request that is sent asks for admission once, in the
order of the requests, each admitted call reports once, and nothing else touches the breaker. -/
theorem breaker_executeAll :
    let ready := readyRequests (client.decorateAll 1 requests world).1
    let between := (client.decorateAll 1 requests world).2
    ∃ (log : List CallEvent) (shared : SharedBreaker),
      log.filterMap CallEvent.started? = ready.map (·.1) ∧
      ((log.filterMap CallEvent.ended?).map (·.1)).Perm (ready.map (·.1)) ∧
      (SharedBreaker.fresh between.breaker between.now).play? client.transport.breaker
        (log.map CallEvent.nameless) = some shared ∧
      shared.breaker = (client.executeAll requests world).2.breaker := by
  intro ready between
  have ended := (client.ended_scheduleOf
    ((client.nodup_names_decorateAll 1 requests world).sublist
      (names_readyRequests_sublist _)) between).2
  have nobody : (idle between).flights = [] := rfl
  obtain ⟨log, shared, started, played, history⟩ :=
    (client.traffic ready).exists_play?_performAll nobody
      ((ready.map (·.1)).map .start ++ [.finishAll])
  rw [← scheduleOf_eq_performAll] at history
  refine ⟨log, shared, ?_, ?_, played, history.breaker_eq⟩
  · rw [started, List.filterMap_append, List.filterMap_map]
    simp [CallAction.started?, Function.comp_def]
  · rw [history.ended_eq] at ended
    exact ended

end Results

/-! ## One request -/

/-- Two worlds that agree in all but what their journals note beside the requests. -/
structure SameWorld (first second : World σ) : Prop where
  /-- The time is the same. -/
  now : first.now = second.now
  /-- The environment is the same. -/
  environment : first.environment = second.environment
  /-- The breaker is the same. -/
  breaker : first.breaker = second.breaker
  /-- The same requests were sent. -/
  requests : first.requests = second.requests

/-- A call adds its request to the requests, as often as their number grows. -/
theorem requests_send (request : Request) (world : World σ) :
    (client.transport.send request world).2.requests = world.requests ++
      List.replicate ((client.transport.send request world).2.requests.length -
        world.requests.length) request := by
  cases answer : (world.breaker.acquire client.transport.breaker world.now).1 with
  | error retryAfter =>
    rw [client.transport.send_of_rejected answer]
    simp [World.requests]
  | ok admission =>
    obtain ⟨earlier, -, sends⟩ := client.transport.send_of_admitted request answer
    simp [sends]

/-- Attempts of one request are as many requests. -/
theorem requests_attempts (journal : List Event) (request : Request) (number : Nat) :
    (journal ++ List.replicate number (Event.attempt request)).filterMap Event.request? =
      journal.filterMap Event.request? ++ List.replicate number request := by
  simp [List.filterMap_replicate, Event.request?]

/-- **A request with nobody beside it** is made like any single request, over a backend that replies at
once. -/
theorem executeAll_singleton (prompt : client.transport.backend.Prompt) (request : Request)
    (world : World σ) :
    (client.executeAll [request] world).1 = [(client.execute request world).1] ∧
      SameWorld (client.executeAll [request] world).2 (client.execute request world).2 := by
  cases decorated : client.decoration.decorate request world with
  | mk result between =>
    cases result with
    | error error =>
      -- No call starts, so there is nothing for time to change.
      have silent : client.execute request world = (.error (.auth error), between) := by
        simp [execute, decorated]
      have nobody : client.scheduleOf [] between = idle between := by
        rw [scheduleOf_eq_performAll]
        exact Traffic.drive_of_nextPause_eq_none (Schedule.nextPause_of_idle rfl) _ _
      have together : client.executeAll [request] world =
          ([.error (.auth error)], { between with journal := between.journal ++ [] }) := by
        simp [executeAll, decorateAll, decorated, readyRequests, resultOf, nobody, idle,
          Schedule.initial, Except.toOption]
      rw [together, silent]
      exact ⟨rfl, rfl, rfl, rfl, by simp⟩
    | ok ready =>
      let sent := client.transport.send ready between
      let times := sent.2.requests.length - between.requests.length
      have alone : client.scheduleOf [(naturalText 1, ready)] between =
          Transport.afterSend (naturalText 1) (idle between) between sent :=
        Transport.finishAll_start_eq_send prompt (by simp) rfl ⟨rfl, rfl, rfl⟩
      have attempts : (Transport.afterSend (naturalText 1) (idle between) between sent).begun.filterMap
          (fun name => ([(naturalText 1, ready)].lookup name).map Event.attempt) =
            List.replicate times (.attempt ready) := by
        simp [Transport.afterSend, idle, Schedule.initial, times]
      have result : client.resultOf (Transport.afterSend (naturalText 1) (idle between) between sent)
          (naturalText 1, .ok ready) = some (client.decoded sent.1) := by
        cases outcome : sent.1 <;>
          simp [resultOf, Transport.afterSend, idle, Schedule.initial, decoded, outcome]
      have together : client.executeAll [request] world =
          ([client.decoded sent.1],
            { sent.2 with journal := between.journal ++ List.replicate times (.attempt ready) }) := by
        have named : readyRequests [(naturalText 1, (.ok ready : Except AuthError Request))] =
            [(naturalText 1, ready)] := rfl
        simp only [executeAll, decorateAll, decorated, named, alone, attempts, result,
          List.filterMap_cons, List.filterMap_nil]
        rfl
      rw [together, execute_of_decorated decorated]
      refine ⟨rfl, rfl, rfl, rfl, ?_⟩
      exact (requests_attempts between.journal ready times).trans (client.requests_send ready between).symm

end ODataClient.Client

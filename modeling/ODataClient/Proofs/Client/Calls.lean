import ODataClient.Client.Basic
import ODataClient.Proofs.Transport.Retries

/-! # One call of a client

A call decorates its request once, and the decorated request is all that it sends, as often as it makes
attempts. What the caller gets is what the decoder makes of the response.

* **`Transport.send_of_admitted`** — what an admitted call sends, and which of the outcomes of its request
  stands; `Transport.send_of_rejected` is the other case.
* **`Client.Sends`** — what a call sends, with the reason if it is nothing; `Client.sends_execute` says
  that it holds of every call.
* **`Client.decoded`** — what a call gives for an outcome; `Client.execute_of_decorated` says that the
  outcome is that of the transport.
* **`Client.Responds`** — the case that there is a response; `Client.execute_of_responds` gives the
  result.
-/

namespace ODataClient

variable {σ α : Type}

/-! ## Admitted and rejected calls -/

namespace Transport

variable (transport : Transport σ)

/-- A call that the breaker rejects has the time to wait in its error, and only asks the breaker. -/
theorem send_of_rejected {request : Request} {world : World σ} {retryAfter : Duration}
    (rejected : (world.breaker.acquire transport.breaker world.now).1 = .error retryAfter) :
    transport.send request world =
      (.error (.circuitOpen retryAfter),
        { world with breaker := (world.breaker.acquire transport.breaker world.now).2 }) := by
  rw [send]
  cases acquired : world.breaker.acquire transport.breaker world.now with
  | mk answer breaker =>
    rw [acquired] at rejected
    subst rejected
    rfl

/-- **An admitted call ends with the outcome of its last attempt**, and sends its request once for each
attempt. -/
theorem send_of_admitted (request : Request) {world : World σ} {admission : Admission}
    (admitted : (world.breaker.acquire transport.breaker world.now).1 = .ok admission) :
    ∃ earlier,
      (transport.send request world).1 =
        transport.backend.outcomeBehind request earlier world.environment ∧
      (transport.send request world).2.requests =
        world.requests ++ List.replicate (earlier + 1) request := by
  rw [send]
  cases acquired : world.breaker.acquire transport.breaker world.now with
  | mk answer breaker =>
    rw [acquired] at admitted
    subst admitted
    obtain ⟨earlier, ends⟩ :=
      transport.exists_endsBehind request (Nat.zero_add _) { world with breaker }
    exact ⟨earlier, ends.outcome, ends.requests⟩

end Transport

/-- A decoration sends nothing. -/
theorem Decoration.requests_decorate (decoration : Decoration σ) (request : Request)
    (world : World σ) : (decoration.decorate request world).2.requests = world.requests := by
  cases decoration with
  | none => rfl
  | bearer provider => simp [decorate, World.requests, World.receive, Event.request?]
  | custom change => rfl

/-! ## Calls -/

namespace Client

variable {client : Client σ}

/-- What a call sends that is made for a request. -/
inductive Sends (client : Client σ) (request : Request) (before after : World σ) : Prop
  /-- Nothing, since the request is not decorated. -/
  | undecorated (error : AuthError)
      (refused : (client.decoration.decorate request before).1 = .error error)
      (silent : after.requests = before.requests)
  /-- Nothing, since the breaker rejects the call. -/
  | rejected (decorated : Request) (between : World σ) (retryAfter : Duration)
      (isDecorated : client.decoration.decorate request before = (.ok decorated, between))
      (rejects :
        (between.breaker.acquire client.transport.breaker between.now).1 = .error retryAfter)
      (silent : after.requests = before.requests)
  /-- The decorated request, once for each attempt. -/
  | sent (decorated : Request) (between : World σ) (times : Nat)
      (isDecorated : client.decoration.decorate request before = (.ok decorated, between))
      (requests : after.requests = before.requests ++ List.replicate (times + 1) decorated)

/-- What a call gives for an outcome. -/
def decoded (client : Client σ) : Outcome → Except Error (Envelope JsonValue)
  | .error error => .error (.transport error)
  | .ok response => client.decoder response

/-- A call with a decorated request gives what the decoder makes of the outcome, and leaves the world
behind the transport. -/
theorem execute_of_decorated {request decorated : Request} {before between : World σ}
    (isDecorated : client.decoration.decorate request before = (.ok decorated, between)) :
    client.execute request before =
      (client.decoded (client.transport.send decorated between).1,
        (client.transport.send decorated between).2) := by
  simp only [execute, isDecorated]
  cases client.transport.send decorated between with
  | mk outcome after => cases outcome <;> rfl

/-- **A call sends nothing but its request**, as it is decorated. -/
theorem sends_execute (client : Client σ) (request : Request) (world : World σ) :
    client.Sends request world (client.execute request world).2 := by
  have undisturbed := client.decoration.requests_decorate request world
  cases isDecorated : client.decoration.decorate request world with
  | mk answer between =>
    rw [isDecorated] at undisturbed
    cases answer with
    | error error =>
      have silent : (client.execute request world).2 = between := by
        simp only [execute, isDecorated]
      exact .undecorated error (congrArg Prod.fst isDecorated) (silent ▸ undisturbed)
    | ok decorated =>
      rw [execute_of_decorated isDecorated]
      cases admitted : (between.breaker.acquire client.transport.breaker between.now).1 with
      | error retryAfter =>
        have silent : (client.transport.send decorated between).2.requests = between.requests := by
          rw [client.transport.send_of_rejected admitted]
          rfl
        exact .rejected decorated between retryAfter isDecorated admitted (silent.trans undisturbed)
      | ok admission =>
        obtain ⟨earlier, -, requests⟩ := client.transport.send_of_admitted _ admitted
        exact .sent decorated between earlier isDecorated (undisturbed ▸ requests)

/-- A response comes back to a request. -/
def Responds (client : Client σ) (request : Request) (before : World σ) (response : Response)
    (after : World σ) : Prop :=
  ∃ decorated between, client.decoration.decorate request before = (.ok decorated, between) ∧
    client.transport.send decorated between = (.ok response, after)

/-- What comes of a call is what the decoder makes of the response. -/
theorem execute_of_responds {request : Request} {before after : World σ} {response : Response}
    (responds : client.Responds request before response after) :
    client.execute request before = (client.decoder response, after) := by
  obtain ⟨decorated, between, isDecorated, sent⟩ := responds
  rw [execute_of_decorated isDecorated, sent]
  rfl

end Client

end ODataClient

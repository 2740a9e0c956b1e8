import ODataClient.Proofs.Client.Calls

/-! # Calls with a token

A call with a token provider asks for a token before anything else. Without a token that can be sent the
call ends there: it sends nothing, and the breaker does not know of it. Else one request presents the
token, and the loop behind it sends this request and no other, without asking again.

* **`AccessToken.refusal?`**, **`Presents`** — why an answer of the provider is of no use, and what a
  request is that presents a token; `Decoration.bind_present_of_refused` and
  `Decoration.exists_bind_present` are the two cases.
* **`Transport.Tries`** — what a call does behind its decoration; `Transport.exists_tries_send` says that
  it holds of every call.
* **`Client.execute_of_refused`** — the call that ends before it begins.
* **`Client.execute_asks_once`** — both cases of a call. -/

namespace ODataClient

variable {σ : Type}

/-! ## Presented tokens -/

/-- Why the answer of a provider is of no use, if it is not. -/
def AccessToken.refusal? : Except AuthError AccessToken → Option AuthError
  | .error error => some error
  | .ok token =>
    if Headers.isValue token.bearerText then none
    else some (.invalidToken "failed to parse header value")

/-- The name of the header that presents a token. -/
def authorizationName : String := "authorization"

/-- A request is another one that presents a token: one header does so, in place of any earlier one, and
everything else is as it was. -/
structure Presents (request : Request) (token : AccessToken) (decorated : Request) : Prop where
  /-- The method stays. -/
  method_eq : decorated.method = request.method
  /-- The address stays. -/
  url_eq : decorated.url = request.url
  /-- The body stays. -/
  body_eq : decorated.body = request.body
  /-- There is one header with the token. -/
  single : decorated.headers.entries.filter (·.1 == authorizationName) =
    [(authorizationName, "Bearer " ++ token.token)]
  /-- The other headers stay. -/
  others : decorated.headers.entries.filter (·.1 != authorizationName) =
    request.headers.entries.filter (·.1 != authorizationName)

/-- A request with the header of a token presents it. -/
theorem presents_withHeader (request : Request) (token : AccessToken) :
    Presents request token (request.withHeader "authorization" token.bearerText) := by
  have lower : Text.asciiLower "authorization" = authorizationName :=
    String.toList_inj.mp (by rw [Text.toList_asciiLower]; rfl)
  refine ⟨rfl, rfl, rfl, ?_, ?_⟩
  · rw [Request.withHeader, Headers.set, lower]
    simp [List.filter_append, List.filter_filter, AccessToken.bearerText]
  · rw [Request.withHeader, Headers.set, lower]
    simp [List.filter_append, List.filter_filter]

namespace Decoration

variable {answer : Except AuthError AccessToken} (request : Request)

/-- A refused answer gives the reason. -/
theorem bind_present_of_refused {error : AuthError}
    (refused : AccessToken.refusal? answer = some error) :
    answer.bind (present request) = .error error := by
  cases answer with
  | error reason =>
    obtain rfl := Option.some.inj refused
    rfl
  | ok token =>
    rw [AccessToken.refusal?] at refused
    split at refused
    · cases refused
    · rename_i invalid
      obtain rfl := Option.some.inj refused
      exact if_neg invalid

/-- Any other answer is a token that the decorated request presents. -/
theorem exists_bind_present (usable : AccessToken.refusal? answer = Option.none) :
    ∃ token decorated, answer = .ok token ∧ Presents request token decorated ∧
      answer.bind (present request) = .ok decorated := by
  cases answer with
  | error reason => cases usable
  | ok token =>
    rw [AccessToken.refusal?] at usable
    split at usable
    · rename_i valid
      exact ⟨token, _, rfl, presents_withHeader request token, if_pos valid⟩
    · cases usable

end Decoration

/-! ## Behind the decoration -/

namespace Transport

/-- What a call does behind its decoration, given the breaker and the time at which it asks for
admission. -/
inductive Tries (transport : Transport σ) (request : Request) (breaker : Breaker) (now : Instant) :
    List Event → Prop
  /-- Nothing, since the breaker rejects the call. -/
  | rejected {retryAfter : Duration}
      (rejects : (breaker.acquire transport.breaker now).1 = .error retryAfter) :
      Tries transport request breaker now []
  /-- Attempts with the one request, and pauses between them. -/
  | admitted {admission : Admission} {retries : Nat}
      (admits : (breaker.acquire transport.breaker now).1 = .ok admission)
      (bounded : retries ≤ transport.retry.maxRetries) :
      Tries transport request breaker now (transport.retry.journal request 1 retries)

/-- Every call tries its request and does nothing else. -/
theorem exists_tries_send (transport : Transport σ) (request : Request) (world : World σ) :
    ∃ events, transport.Tries request world.breaker world.now events ∧
      (transport.send request world).2.journal = world.journal ++ events := by
  rw [send]
  cases acquired : world.breaker.acquire transport.breaker world.now with
  | mk answer breaker =>
    cases answer with
    | error retryAfter =>
      exact ⟨[], .rejected (congrArg Prod.fst acquired), (List.append_nil _).symm⟩
    | ok admission =>
      obtain ⟨retries, ends⟩ :=
        transport.exists_endsBehind request (Nat.zero_add _) { world with breaker }
      have bounded : retries ≤ transport.retry.maxRetries :=
        ends.first.2 (.inl (Nat.le_of_eq (Nat.zero_add _).symm))
      exact ⟨_, .admitted (congrArg Prod.fst acquired) bounded, ends.journal⟩

/-- What is done behind the decoration is an attempt with the request or a pause. -/
theorem Tries.eq_or_eq {transport : Transport σ} {request : Request} {breaker : Breaker}
    {now : Instant} {events : List Event} (tries : transport.Tries request breaker now events)
    {event : Event} (done : event ∈ events) :
    event = .attempt request ∨ ∃ delay, event = .pause delay := by
  cases tries with
  | rejected rejects => cases done
  | admitted admits bounded =>
    simp only [RetryPolicy.journal, List.mem_append, List.mem_flatMap, List.mem_cons,
      List.not_mem_nil, or_false] at done
    grind

end Transport

/-! ## The whole call -/

namespace Client

/-- A call whose token is refused ends with the reason, and leaves the world behind the provider. -/
theorem execute_of_refused (client : Client σ) {provider : TokenProvider σ}
    (bearer : client.decoration = .bearer provider) (request : Request) {before : World σ}
    {error : AuthError}
    (refused : AccessToken.refusal? (provider.token before.environment).result = some error) :
    client.execute request before =
      (.error (.auth error),
        before.receive .tokenRequest (provider.token before.environment)) := by
  simp only [execute, bearer, Decoration.decorate,
    Decoration.bind_present_of_refused request refused]

/-- **A call asks for one token.** If there is none, or it cannot be sent, the caller gets the reason, and
the call has sent nothing and left the breaker as it was. Else one request presents the token in a single
header and is as it was beside. If the breaker admits the call then, every attempt is made with that
request, and no other token is asked for. -/
theorem execute_asks_once (client : Client σ) {provider : TokenProvider σ}
    (bearer : client.decoration = .bearer provider) (request : Request) (before : World σ) :
    let reply := provider.token before.environment
    let result := (client.execute request before).1
    let after := (client.execute request before).2
    (∀ error, AccessToken.refusal? reply.result = some error →
      result = .error (.auth error) ∧ after.breaker = before.breaker ∧
        after.requests = before.requests ∧ after.journal = before.journal ++ [.tokenRequest]) ∧
    (AccessToken.refusal? reply.result = none →
      ∃ token decorated events, reply.result = .ok token ∧ Presents request token decorated ∧
        after.journal = before.journal ++ .tokenRequest :: events ∧
        client.transport.Tries decorated before.breaker (before.now + reply.elapsed) events ∧
        ∀ event ∈ events, event = .attempt decorated ∨ ∃ delay, event = .pause delay) := by
  intro reply result after
  refine ⟨fun error refused => ?_, fun usable => ?_⟩
  · have ends : client.execute request before = (_, before.receive .tokenRequest reply) :=
      client.execute_of_refused bearer request refused
    have silent : after.requests = before.requests := by
      simp only [after, ends, World.requests, World.receive, List.filterMap_append]
      exact List.append_nil _
    exact ⟨congrArg Prod.fst ends, by simp only [after, ends, World.receive], silent,
      by simp only [after, ends, World.receive]⟩
  · obtain ⟨token, decorated, isToken, presents, presented⟩ :=
      Decoration.exists_bind_present request usable
    have isDecorated : client.decoration.decorate request before =
        (.ok decorated, before.receive .tokenRequest reply) := by
      rw [bearer, ← presented]
      rfl
    -- The breaker is asked behind the provider, so at the time of the provider's answer.
    obtain ⟨events, tries, journal⟩ :=
      client.transport.exists_tries_send decorated (before.receive .tokenRequest reply)
    have behind : after.journal = before.journal ++ .tokenRequest :: events := by
      calc after.journal
          = (client.transport.send decorated (before.receive .tokenRequest reply)).2.journal := by
            simp only [after, execute_of_decorated isDecorated]
        _ = before.journal ++ [.tokenRequest] ++ events := journal
        _ = before.journal ++ .tokenRequest :: events := List.append_assoc _ _ _
    exact ⟨token, decorated, events, isToken, presents, behind, tries, fun event => tries.eq_or_eq⟩

/-- A token in place of a password, behind an error of the service that is tried again; and the same token
when it has expired, while the circuit waits for a probe. -/
theorem execute_asks_once_valid_and_expired :
    let client (token : AccessToken) : Client (List Outcome) :=
      ⟨⟨"http://x", "c", "v2.0", .standard⟩, .bearer (.fixed (fun _ => 0) token),
        ⟨.scripted (.ok (.ofBody 200 "")), .standard, .standard⟩, .standard⟩
    let request := (Request.get "http://x/a").withHeader "Authorization" "Basic eDp5"
    let world : World (List Outcome) := .initial [.ok (.ofBody 503 "")]
    let waiting : World (List Outcome) := { world with breaker := ⟨.halfOpen, 5, none, none⟩ }
    (∃ decorated, Presents request ⟨"abc", none⟩ decorated ∧
      ((client ⟨"abc", none⟩).execute request world).2.journal =
        [.tokenRequest, .attempt decorated, .pause (Duration.ofSeconds 2), .attempt decorated]) ∧
    ((client ⟨"abc", some 0⟩).execute request waiting).1 =
      .error (.auth (.tokenUnavailable "static token has expired")) ∧
    ((client ⟨"abc", some 0⟩).execute request waiting).2.breaker = ⟨.halfOpen, 5, none, none⟩ := by
  intro client request world waiting
  refine ⟨?_, ?_⟩
  · obtain ⟨-, usable⟩ := (client ⟨"abc", none⟩).execute_asks_once rfl request world
    obtain ⟨token, decorated, events, isToken, presents, journal, tries, -⟩ := usable rfl
    obtain rfl := Except.ok.inj isToken
    refine ⟨decorated, presents, journal.trans ?_⟩
    have twice : ((client ⟨"abc", none⟩).execute request world).2.requests.length = 2 := rfl
    cases tries with
    | rejected rejects => cases rejects
    | @admitted admission retries admits bounded =>
      have sent : ((client ⟨"abc", none⟩).execute request world).2.requests =
          List.replicate (retries + 1) decorated := by
        rw [World.requests, journal]
        exact RetryPolicy.filterMap_request?_journal _ decorated 1 retries
      obtain rfl : retries = 1 := by
        rw [sent, List.length_replicate] at twice
        exact Nat.succ.inj twice
      have first : RetryPolicy.standard.delay 1 = Duration.ofSeconds 2 := by decide
      rw [← first]
      rfl
  · obtain ⟨refused, -⟩ := (client ⟨"abc", some 0⟩).execute_asks_once rfl request waiting
    obtain ⟨ends, breaker, -⟩ := refused _ rfl
    exact ⟨ends, breaker⟩

end Client

end ODataClient

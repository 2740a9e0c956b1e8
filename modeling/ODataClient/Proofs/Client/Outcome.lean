import ODataClient.Proofs.Client.Calls
import ODataClient.Proofs.Json.Values
import ODataClient.Proofs.Response.Bodies

/-! # What comes of a call

A call that is decorated and admitted makes some attempts, and what its caller gets depends on the
outcome of the last one alone: earlier outcomes, the breaker and the time do not show.

* **`Client.conclusion`** — what a caller gets for an outcome; `Client.fetch_of_admitted` says that the
  outcome is that of the last attempt.
* **`Client.Yields`** — what an outcome yields with the standard decoder, case by case;
  `Client.yields_iff` says that this is what the caller gets.
* **`Client.Yields.statusCode?_eq_some_iff`**, **`Client.Yields.isRetryable_iff`** — what an error tells
  about the outcome.
* **`Client.get_of_admitted`** — what comes of reading a page. -/

namespace ODataClient

namespace Client

variable {σ α : Type} {client : Client σ}

/-! ## The last attempt -/

/-- What a caller gets when a call ends with an outcome. -/
def conclusion (client : Client σ) (type : RecordType α) (outcome : Outcome) :
    Except Error (Envelope α) :=
  (client.decoded outcome).bind (Envelope.typed type)

/-- A decorated call ends with the outcome of its retry loop. -/
theorem fetch_of_decorated (type : RecordType α) {url : String} {decorated : Request}
    {before between : World σ}
    (isDecorated : client.decoration.decorate (.get url) before = (.ok decorated, between)) :
    client.fetch type url before =
      (client.conclusion type (client.transport.send decorated between).1,
        (client.transport.send decorated between).2) := by
  rw [fetch, execute_of_decorated isDecorated]
  rfl

/-- **An admitted call depends on its last attempt alone.** -/
theorem fetch_of_admitted (type : RecordType α) {url : String} {decorated : Request}
    {before between : World σ} {admission : Admission}
    (isDecorated : client.decoration.decorate (.get url) before = (.ok decorated, between))
    (admitted :
      (between.breaker.acquire client.transport.breaker between.now).1 = .ok admission) :
    ∃ earlier,
      (client.fetch type url before).1 = client.conclusion type
        (client.transport.backend.outcomeBehind decorated earlier between.environment) ∧
      (client.fetch type url before).2.requests =
        before.requests ++ List.replicate (earlier + 1) decorated := by
  obtain ⟨earlier, stands, requests⟩ := client.transport.send_of_admitted _ admitted
  have undisturbed := client.decoration.requests_decorate (.get url) before
  rw [isDecorated] at undisturbed
  rw [fetch_of_decorated type isDecorated, stands, requests, undisturbed]
  exact ⟨earlier, rfl, rfl⟩

/-! ## Outcomes and results -/

variable {type : RecordType α}

/-- What an outcome yields: the cause why there is no response, an error with the status and the body
of a response that reports no success, or else what comes of the body. -/
inductive Yields (type : RecordType α) : Outcome → Except Error (Envelope α) → Prop
  /-- There is no response. -/
  | unanswered (error : TransportError) : Yields type (.error error) (.error (.transport error))
  /-- The response reports no success. -/
  | failed {response : Response} (failed : ¬ (200 ≤ response.status ∧ response.status < 300)) :
      Yields type (.ok response)
        (.error (.api ⟨response.status, ErrorDetail.ofText? response.body, response.body⟩))
  /-- The response reports success. -/
  | succeeded {response : Response} {result : Except Error (Envelope α)}
      (succeeded : 200 ≤ response.status ∧ response.status < 300)
      (yields : Envelope.Yields type response.status response.body result) :
      Yields type (.ok response) result

/-- A status reports success if it is in the range for it. -/
theorem isSuccessStatus_iff {status : Nat} :
    isSuccessStatus status = true ↔ 200 ≤ status ∧ status < 300 := by
  simp [isSuccessStatus]

/-- **With the standard decoder, a caller gets what the outcome yields**, and nothing else. -/
theorem yields_iff (standard : client.decoder = .standard) {outcome : Outcome}
    {result : Except Error (Envelope α)} :
    Yields type outcome result ↔ result = client.conclusion type outcome := by
  cases outcome with
  | error error =>
    constructor
    · rintro ⟨⟩
      rfl
    · rintro rfl
      exact .unanswered error
  | ok response =>
    rw [conclusion, decoded, standard, ResponseDecoder.standard, Envelope.ofResponse,
      Response.isSuccess]
    by_cases success : 200 ≤ response.status ∧ response.status < 300
    · rw [if_pos (isSuccessStatus_iff.mpr success), ← Envelope.yields_iff]
      constructor
      · intro yields
        cases yields with
        | failed failed => exact absurd success failed
        | succeeded _ yields => exact yields
      · exact .succeeded success
    · rw [if_neg (fun reports => success (isSuccessStatus_iff.mp reports))]
      constructor
      · intro yields
        cases yields with
        | failed _ => rfl
        | succeeded succeeded => exact absurd succeeded success
      · rintro rfl
        exact .failed success

/-! ## Errors -/

/-- An error that comes of a body is one of reading it. -/
theorem exists_decode_of_yields {status : Nat} {body : String} {error : Error}
    (yields : Envelope.Yields type status body (.error error)) :
    ∃ fault text, error = .decode fault text := by
  cases yields with
  | unparsable | malformed | badRecord => exact ⟨_, _, rfl⟩

/-- **An error has the status of a response** if this reports no success, and none otherwise. -/
theorem Yields.statusCode?_eq_some_iff {outcome : Outcome} {error : Error} {status : Nat}
    (yields : Yields type outcome (.error error)) :
    error.statusCode? = some status ↔
      ∃ response, outcome = .ok response ∧ ¬ (200 ≤ response.status ∧ response.status < 300) ∧
        response.status = status := by
  cases yields with
  | unanswered => simp [Error.statusCode?]
  | failed failed =>
    constructor
    · intro same
      exact ⟨_, rfl, failed, Option.some.inj same⟩
    · rintro ⟨_, ⟨⟩, -, rfl⟩
      rfl
  | succeeded succeeded yields =>
    obtain ⟨fault, text, rfl⟩ := exists_decode_of_yields yields
    constructor
    · nofun
    · rintro ⟨_, ⟨⟩, failed, -⟩
      exact absurd succeeded failed

/-- **An error is worth another call** if there was no response for a cause that may pass by itself. -/
theorem Yields.isRetryable_iff {outcome : Outcome} {error : Error}
    (yields : Yields type outcome (.error error)) :
    error.isRetryable = true ↔
      ∃ detail, outcome = .error (.connect detail) ∨ outcome = .error (.timeout detail) ∨
        outcome = .error (.network detail) := by
  cases yields with
  | unanswered cause => cases cause <;> simp [Error.isRetryable, TransportError.isTransient]
  | failed => simp [Error.isRetryable]
  | succeeded succeeded yields =>
    obtain ⟨fault, text, rfl⟩ := exists_decode_of_yields yields
    simp [Error.isRetryable]

/-! ## Pages -/

/-- **What comes of reading a page.** Let the request for the page be decorated, and the call be
admitted in whatever state the breaker is. Then the decorated request is sent at least once, and no
other. What the caller gets depends on the outcome of the last attempt alone, and with the standard
decoder it is what this outcome yields: an error of the transport if there is no response, an error
with the status and the body of a response that reports no success, and otherwise what comes of the
body. An error then has a status if there is a response that reports no success, and it is worth
another call if there is no response for a cause that may pass by itself. -/
theorem get_of_admitted (client : Client σ) (type : RecordType α) (query : Query)
    {decorated : Request} {before between : World σ} {admission : Admission}
    (isDecorated : client.decoration.decorate
      (.get (client.root.queryUrl type.entitySet query)) before = (.ok decorated, between))
    (admitted :
      (between.breaker.acquire client.transport.breaker between.now).1 = .ok admission) :
    let result := (client.get type query before).1
    ∃ earlier,
      (client.get type query before).2.requests =
        before.requests ++ List.replicate (earlier + 1) decorated ∧
      let last := client.transport.backend.outcomeBehind decorated earlier between.environment
      result = client.conclusion type last ∧
      (client.decoder = .standard →
        Yields type last result ∧
        ∀ error, result = .error error →
          (∀ status, error.statusCode? = some status ↔
            ∃ response, last = .ok response ∧
              ¬ (200 ≤ response.status ∧ response.status < 300) ∧ response.status = status) ∧
          (error.isRetryable = true ↔
            ∃ detail, last = .error (.connect detail) ∨ last = .error (.timeout detail) ∨
              last = .error (.network detail))) := by
  obtain ⟨earlier, depends, requests⟩ := fetch_of_admitted type isDecorated admitted
  refine ⟨earlier, requests, depends, ?_⟩
  intro standard
  have yields := (yields_iff standard).mpr depends
  refine ⟨yields, ?_⟩
  intro error failed
  have yields : Yields type _ (.error error) := failed ▸ yields
  exact ⟨fun status => yields.statusCode?_eq_some_iff, yields.isRetryable_iff⟩

/-- A list of values makes up an envelope of them. -/
theorem isMadeOf_list (status : Nat) (values : List JsonValue) :
    (⟨status, values, none, none, []⟩ : Envelope JsonValue).IsMadeOf status
      [("value", .array values)] where
  status := rfl
  records := ⟨some values, .present nofun rfl, rfl⟩
  nextLink := .leftOut
  count := .leftOut
  answers := ⟨none, .leftOut, rfl⟩

/-- Three pages behind an error of the service that is repeated: one that is not there, one of two items,
and one whose second value is no item. -/
theorem get_of_admitted_second_attempt :
    let client : Client (List Outcome) :=
      ⟨⟨"http://x", "c", "v2.0", .standard⟩, .none,
        ⟨.scripted (.ok (.ofBody 500 "")), .standard, .standard⟩, .standard⟩
    let call (second : Response) := client.get .item .empty (.initial [.ok (.ofBody 503 ""), .ok second])
    let item (id : Int) : JsonValue := .object [("id", .number (.integer id))]
    let page (values : List JsonValue) : Response :=
      .ofBody 200 (JsonValue.object [("value", .array values)]).text
    (call (.ofBody 404 "gone")).1 = .error (.api ⟨404, none, "gone"⟩) ∧
      (call (.ofBody 404 "gone")).2.requests.length = 2 ∧
      (call (page [item 1, item 2])).1 = .ok ⟨200, [⟨1⟩, ⟨2⟩], none, none, []⟩ ∧
      (call (page [item 1, .bool true, item 2])).1 = .error (.decode (.badRecord 1) none) := by
  intro client call item page
  -- What the second response yields is what the caller gets, if there is no third attempt.
  have given (second : Response) (twice : (call second).2.requests.length = 2) {result}
      (yields : Yields .item (.ok second) result) : (call second).1 = result := by
    have isDecorated : client.decoration.decorate
        (.get (client.root.queryUrl RecordType.item.entitySet .empty))
        (.initial [.ok (.ofBody 503 ""), .ok second]) = (.ok _, .initial _) := rfl
    obtain ⟨earlier, requests, -, last⟩ := client.get_of_admitted .item .empty isDecorated rfl
    obtain rfl : earlier = 1 := by
      rw [requests, List.length_append, List.length_replicate] at twice
      exact Nat.succ.inj ((Nat.zero_add _).symm.trans twice)
    have standard : client.decoder = .standard := rfl
    exact ((yields_iff standard).mp (last rfl).1).trans ((yields_iff standard).mp yields).symm
  have parsed (values : List JsonValue)
      (fit : ∀ value ∈ values, value.fits (JsonSyntax.maxDepth - 2) = true)
      (sorted : values.map JsonValue.sorted = values) :
      JsonValue.parse? (page values).body = some (.object [("value", .array values)]) :=
    (JsonValue.parse?_text_singleton fit).trans (by rw [sorted])
  have sortedItem (id : Int) : (item id).sorted = item id := by
    rw [JsonValue.sorted_object_singleton, JsonValue.sorted]
  have sortedBool : (JsonValue.bool true).sorted = .bool true := by rw [JsonValue.sorted]
  refine ⟨given _ rfl (.failed (by decide)), rfl, given _ rfl (.succeeded (by decide) ?_),
    given _ rfl (.succeeded (by decide) ?_)⟩
  · have sorted : [item 1, item 2].map JsonValue.sorted = [item 1, item 2] := by
      simp only [List.map_cons, List.map_nil, sortedItem]
    exact .envelope (parsed _ (by decide) sorted) (isMadeOf_list 200 _) (.cons rfl (.cons rfl .nil))
  · have sorted : [item 1, .bool true, item 2].map JsonValue.sorted = [item 1, .bool true, item 2] := by
      simp only [List.map_cons, List.map_nil, sortedItem, sortedBool]
    have split : [item 1, .bool true, item 2] = [item 1] ++ .bool true :: [item 2] := rfl
    have good : ∀ other ∈ [item 1], (RecordType.item.read other).isSome := by
      simp only [List.forall_mem_singleton]
      rfl
    exact .badRecord (parsed _ (by decide) sorted) (isMadeOf_list 200 _) split ⟨good, rfl⟩

end Client

end ODataClient

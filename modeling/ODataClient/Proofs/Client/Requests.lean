import Mathlib.Data.List.DropRight
import ODataClient.Client.Batch
import ODataClient.Proofs.Client.Authorization
import ODataClient.Proofs.Query.QueryString

/-! # What reaches the backend

A call is made for a request, and what reaches the backend is that request as the decoration leaves it,
field by field, as often as the call makes attempts.

* **`Request.Reads`**, **`Request.Submits`** — the two kinds of requests, told by their fields.
* **`ServiceRoot.Addresses`** — the text of the address of an entity set, with some entries for its query
  string; `ServiceRoot.addresses_queryUrl` says so of the address of a query.
* **`Decoration.Leaves`** — what a decoration leaves of a request: all of it, all but one header, or what
  it changes the request to.
* **`Client.Issues`** — what a call adds to the requests; `Client.issues_execute` says that it holds of
  every call, and `Client.issues_fetch` and `Client.issues_sendBatch` say so of the calls made of it.
* **`Client.ReadsInOrder`** — what calls for some addresses add, one after another. -/

namespace ODataClient

variable {σ α β : Type}

/-! ## Requests by their fields -/

namespace Request

/-- A request reads an address: it asks for JSON and submits nothing. -/
structure Reads (request : Request) (url : String) : Prop where
  /-- The method reads. -/
  method_eq : request.method.name = "GET"
  /-- The address is that one. -/
  url_eq : request.url = url
  /-- One header asks for JSON. -/
  entries_eq : request.headers.entries = [("accept", "application/json")]
  /-- There is no body. -/
  body_eq : request.body = none

/-- A request submits a text to an address: it is JSON, and JSON is asked for. -/
structure Submits (request : Request) (url text : String) : Prop where
  /-- The method submits. -/
  method_eq : request.method.name = "POST"
  /-- The address is that one. -/
  url_eq : request.url = url
  /-- One header asks for JSON, and one says that the body is JSON. -/
  entries_eq : request.headers.entries =
    [("accept", "application/json"), ("content-type", "application/json")]
  /-- The body is the text. -/
  body_eq : request.body = some text

/-- The header of a request that asks for JSON. -/
theorem entries_get (url : String) :
    (get url).headers.entries = [("accept", "application/json")] := by
  have lower : Text.asciiLower "accept" = "accept" :=
    String.toList_inj.mp (by rw [Text.toList_asciiLower]; rfl)
  rw [get, Headers.set, lower]
  rfl

/-- The request for an address reads it. -/
theorem reads_get (url : String) : (get url).Reads url :=
  ⟨rfl, rfl, entries_get url, rfl⟩

/-- The request with a text for its body submits it. -/
theorem submits_postJson (url text : String) : (postJson url text).Submits url text := by
  have lower : Text.asciiLower "content-type" = "content-type" :=
    String.toList_inj.mp (by rw [Text.toList_asciiLower]; rfl)
  refine ⟨rfl, rfl, ?_, rfl⟩
  rw [postJson, Headers.set, entries_get, lower]
  rfl

end Request

/-! ## Addresses -/

namespace ServiceRoot

variable (root : ServiceRoot)

/-- The root address without the slashes at its end. -/
structure IsBase (base : String) : Prop where
  /-- Slashes make it the root address. -/
  slashes : ∃ count, root.baseUrl = base ++ String.ofList (List.replicate count '/')
  /-- It does not end in one. -/
  bare : base.toList.getLast? ≠ some '/'

/-- A text is the address of an entity set with some entries for its query string, below the root and as
its layout has it. In the standard layout they stand behind the set and a question mark, which is missing
if there are none. -/
def Addresses (entitySet : String) (entries : List (String × String)) (url : String) : Prop :=
  ∃ base text, root.IsBase base ∧ readQueryString? text = some entries ∧
    url = base ++ "/" ++
      root.layout.entitySetPath ⟨root.apiVersion, root.company, entitySet, text⟩ ∧
    (root.layout = .standard →
      url = base ++ "/" ++ root.apiVersion ++ "/companies(" ++ root.company ++ ")/" ++ entitySet ++
        (if entries = [] then "" else "?" ++ text))

/-- A text is the address that batches are sent to, below the root and as its layout has it. -/
def TakesBatches (url : String) : Prop :=
  ∃ base, root.IsBase base ∧ url = base ++ "/" ++ root.layout.batchPath root.apiVersion ∧
    (root.layout = .standard → url = base ++ "/" ++ root.apiVersion ++ "/$batch")

/-- The trimmed root address has no slash at its end. -/
theorem isBase_trimSlashes : root.IsBase (trimSlashes root.baseUrl) := by
  let chars := root.baseUrl.toList
  have trimmed : trimSlashes root.baseUrl = String.ofList (chars.rdropWhile (· == '/')) := rfl
  have slashes : chars.rtakeWhile (· == '/') =
      List.replicate (chars.rtakeWhile (· == '/')).length '/' := by
    refine List.eq_replicate_of_mem fun char taken => ?_
    have isSlash : (char == '/') = true := List.mem_rtakeWhile_imp (p := (· == '/')) taken
    exact beq_iff_eq.mp isSlash
  refine ⟨⟨(chars.rtakeWhile (· == '/')).length, ?_⟩, fun last => ?_⟩
  · rw [trimmed, ← slashes, ← String.ofList_append, List.rdropWhile_append_rtakeWhile,
      String.ofList_toList]
  · rw [trimmed, String.toList_ofList] at last
    obtain ⟨front, ends⟩ := List.getLast?_eq_some_iff.mp last
    have filled : chars.rdropWhile (· == '/') ≠ [] := by simp [ends]
    refine List.rdropWhile_last_not (· == '/') chars filled ?_
    simp [ends]

variable {root}

/-- There is no other base than the trimmed root address. -/
theorem IsBase.eq_trimSlashes {base : String} (isBase : root.IsBase base) :
    base = trimSlashes root.baseUrl := by
  obtain ⟨⟨count, slashes⟩, bare⟩ := isBase
  have dropped : (List.replicate count '/').dropWhile (· == '/') = [] :=
    List.dropWhile_eq_nil_iff.mpr fun char member => beq_iff_eq.mpr (List.eq_of_mem_replicate member)
  have kept : base.toList.reverse.dropWhile (· == '/') = base.toList.reverse := by
    cases chars : base.toList.reverse with
    | nil => rfl
    | cons last rest =>
      have other : last ≠ '/' := by
        rintro rfl
        rw [← List.head?_reverse, chars] at bare
        exact bare rfl
      exact List.dropWhile_cons_of_neg (by simpa using other)
  rw [trimSlashes, slashes, String.toList_append, String.toList_ofList, List.reverse_append,
    List.reverse_replicate, List.dropWhile_append, dropped]
  simp [kept]

/-- **The address of a query** shows its entries. -/
theorem addresses_queryUrl {query : Query} (named : ∀ entry ∈ query.entries, IsEntryName entry.1)
    (entitySet : String) :
    root.Addresses (query.entitySet.getD entitySet) query.entries
      (root.queryUrl entitySet query) := by
  refine ⟨_, query.queryString, root.isBase_trimSlashes, readQueryString?_intercalate named, rfl,
    fun standard => ?_⟩
  have empty : query.queryString = "" ↔ query.entries = [] :=
    intercalate_encodedEntry_eq_empty named
  rw [queryUrl, url, queryPath, standard]
  simp only [PathLayout.standard, PathLayout.withQuery, String.isEmpty_iff, empty]
  split <;> simp only [String.append_assoc, String.append_empty]

variable (root) in
/-- Batches are sent to their address. -/
theorem takesBatches_batchUrl : root.TakesBatches root.batchUrl := by
  refine ⟨_, root.isBase_trimSlashes, rfl, fun standard => ?_⟩
  rw [batchUrl, url, standard]
  simp only [PathLayout.standard, String.append_assoc]

end ServiceRoot

/-! ## Decorated requests -/

namespace Decoration

variable {decoration : Decoration σ}

/-- What a decoration leaves of a request. -/
def Leaves (decoration : Decoration σ) (request decorated : Request) : Prop :=
  match decoration with
  | none => decorated = request
  | bearer _ => ∃ token, Presents request token decorated
  | custom change => change request = .ok decorated

/-- A decorated request is what the decoration leaves. -/
theorem leaves_of_decorate {request decorated : Request} {before between : World σ}
    (isDecorated : decoration.decorate request before = (.ok decorated, between)) :
    decoration.Leaves request decorated := by
  cases decoration with
  | none =>
    cases isDecorated
    rfl
  | bearer provider =>
    have presented := congrArg Prod.fst isDecorated
    obtain ⟨token, -, isPresented⟩ := bind_eq_ok.mp presented
    rw [present] at isPresented
    split at isPresented
    · cases isPresented
      exact ⟨token, presents_withHeader request token⟩
    · cases isPresented
  | custom change => exact congrArg Prod.fst isDecorated

end Decoration

/-! ## Calls -/

namespace Client

variable {client : Client σ}

/-- What a call adds to the requests, given the request that it is made for. -/
structure Issues (client : Client σ) (request : Request) (before : World σ) (result : Except Error β)
    (after : World σ) (shown : List Request) : Prop where
  /-- It sends the decorated request, once for each attempt, or there is a reason to send nothing. -/
  sends : client.Sends request before after
  /-- These requests are added. -/
  requests_eq : after.requests = before.requests ++ shown
  /-- Each is what the decoration leaves. -/
  leaves : ∀ sent ∈ shown, client.decoration.Leaves request sent
  /-- There is one if the call gives something. -/
  answered : result.isOk = true → shown ≠ []

/-- **Every call adds its request to the requests**, as its decoration leaves it. -/
theorem issues_execute (client : Client σ) (request : Request) (world : World σ) :
    ∃ shown, client.Issues request world (client.execute request world).1
      (client.execute request world).2 shown := by
  have sends := client.sends_execute request world
  cases client.sends_execute request world with
  | undecorated error refused silent =>
    -- Without a decorated request nothing is sent, and the call gives the error of the decoration.
    refine ⟨[], sends, by rw [silent, List.append_nil], by simp, fun given => ?_⟩
    rw [execute] at given
    split at given
    · cases given
    · rename_i decorated
      rw [decorated] at refused
      cases refused
  | rejected decorated between retryAfter isDecorated rejects silent =>
    -- Nor without admission, and then it gives the error of the breaker.
    refine ⟨[], sends, by rw [silent, List.append_nil], by simp, fun given => ?_⟩
    rw [execute_of_decorated isDecorated, client.transport.send_of_rejected rejects] at given
    cases given
  | sent decorated between times isDecorated requests =>
    refine ⟨List.replicate (times + 1) decorated, sends, requests, fun request shown => ?_, by simp⟩
    rw [List.eq_of_mem_replicate shown]
    exact Decoration.leaves_of_decorate isDecorated

/-- What is made of the result of a call adds nothing to the requests. -/
theorem Issues.bind {request : Request} {before after : World σ} {result : Except Error β}
    {shown : List Request} (issues : client.Issues request before result after shown)
    (next : β → Except Error α) : client.Issues request before (result.bind next) after shown := by
  refine ⟨issues.sends, issues.requests_eq, issues.leaves, fun given => issues.answered ?_⟩
  cases result with
  | error error => cases given
  | ok value => rfl

/-- Reading records adds the request for their address. -/
theorem issues_fetch (client : Client σ) (type : RecordType α) (url : String) (world : World σ) :
    ∃ shown, client.Issues (Request.get url) world (client.fetch type url world).1
      (client.fetch type url world).2 shown := by
  obtain ⟨shown, issues⟩ := client.issues_execute (Request.get url) world
  exact ⟨shown, issues.bind (Envelope.typed type)⟩

/-- Sending a batch adds the request that submits its text. -/
theorem issues_sendBatch (client : Client σ) (batch : Batch) (world : World σ) :
    ∃ shown, client.Issues (Request.postJson client.root.batchUrl batch.text) world
      (client.sendBatch batch world).1 (client.sendBatch batch world).2 shown := by
  let request := Request.postJson client.root.batchUrl batch.text
  obtain ⟨shown, issues⟩ := client.issues_execute request world
  have answers : (client.sendBatch batch world).1 =
      (client.execute request world).1.bind fun envelope => .ok ⟨envelope.status, envelope.answers⟩ :=
    (bind_pure_comp _ (client.execute request world).1).symm
  rw [answers]
  exact ⟨shown, issues.bind _⟩

/-- Calls for some addresses, one after another: what they give, the world after them, and what they add
to the requests. Each call is made for a request that reads its address. -/
inductive ReadsInOrder (client : Client σ) :
    List String → World σ → List (Except Error (Envelope α)) → World σ → List Request → Prop
  /-- No call changes anything. -/
  | done (world : World σ) : ReadsInOrder client [] world [] world []
  /-- A call comes in front of others. -/
  | read {url : String} {urls : List String} {request : Request} {before between after : World σ}
      {outcome : Except Error (Envelope α)} {outcomes : List (Except Error (Envelope α))}
      {shown others : List Request} (reads : request.Reads url)
      (issues : client.Issues request before outcome between shown)
      (rest : ReadsInOrder client urls between outcomes after others) :
      ReadsInOrder client (url :: urls) before (outcome :: outcomes) after (shown ++ others)

/-- What the calls add is behind the requests before. -/
theorem ReadsInOrder.requests_eq {urls : List String} {before after : World σ}
    {outcomes : List (Except Error (Envelope α))} {shown : List Request}
    (reads : client.ReadsInOrder urls before outcomes after shown) :
    after.requests = before.requests ++ shown := by
  induction reads with
  | done world => rw [List.append_nil]
  | read _ issues _ ih => rw [ih, issues.requests_eq, List.append_assoc]

end Client

end ODataClient

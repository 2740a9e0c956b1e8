import ODataClient.Proofs.Client.Pages

/-! # Cancelled readings

Reading all pages may be cancelled, which is looked at between pages and never during a request. A
cancelled reading is the front of the one that is not cancelled: it has the same pages in the same
order up to the one whose request was under way, all their records, and no other request.

* **`GoesOnBehind`** — how the whole of a reading continues its front.
* **`collect_goesOnBehind`** — any reading continues what it has, a page at a time.
* **`collect_goesOnBehind_of_followsLinks`** — the run lemma: it continues its first requests.
* **`getAllUnless_of_followsLinks`** — what a cancelled reading gives and sends. -/

namespace ODataClient.Client

variable {σ α : Type} {client : Client σ} {type : RecordType α} {isCancelled : World σ → Bool}

/-- A whole reading continues a front of it, which gave something and ended in the world `between`.
Nothing follows an error. Behind records come other requests, and then more records or an error. -/
def GoesOnBehind (client : Client σ) (type : RecordType α) (front : Except Error (List α))
    (between : World σ) (whole : Except Error (List α)) (after : World σ) : Prop :=
  match front with
  | .error error => whole = .error error ∧ after = between
  | .ok records =>
    (∃ urls, after = (client.fetchAll type urls between).2) ∧
      ∀ all, whole = .ok all → records <+: all

/-- A reading that ends at once continues itself. -/
theorem GoesOnBehind.refl (result : Except Error (List α)) (world : World σ) :
    client.GoesOnBehind type result world result world := by
  cases result with
  | error error => exact ⟨rfl, rfl⟩
  | ok records =>
    refine ⟨⟨[], rfl⟩, ?_⟩
    rintro _ ⟨⟩
    exact List.prefix_rfl

/-- What continues the records of one more page continues those before it. -/
theorem GoesOnBehind.of_append {records more : List α} {url : String} {between : World σ}
    {whole : Except Error (List α)} {after : World σ}
    (goesOn : client.GoesOnBehind type (.ok (records ++ more))
      (client.fetch type url between).2 whole after) :
    client.GoesOnBehind type (.ok records) between whole after := by
  obtain ⟨⟨urls, sent⟩, added⟩ := goesOn
  exact ⟨⟨url :: urls, sent⟩, fun all same => (List.prefix_append _ _).trans (added all same)⟩

/-- **A reading continues the records that it has**, cancelled or not. -/
theorem collect_goesOnBehind {fuel : Nat} {records : List α} {position : Pages}
    {world after : World σ} {whole : Except Error (List α)}
    (collected :
      client.collect type isCancelled fuel records position world = some (whole, after)) :
    client.GoesOnBehind type (.ok records) world whole after := by
  induction fuel generalizing records position world with
  | zero => cases collected
  | succ fuel ih =>
    by_cases stops : isCancelled world = true ∨ position.nextUrl = none
    · rw [collect_stops stops] at collected
      cases collected
      exact .refl _ _
    · obtain ⟨nextUrl, fetched⟩ := position
      rw [not_or, Bool.not_eq_true] at stops
      obtain ⟨url, rfl⟩ := Option.ne_none_iff_exists'.mp stops.2
      rw [collect_succ stops.1 rfl] at collected
      split at collected
      · cases collected
        exact ⟨⟨[url], rfl⟩, nofun⟩
      · exact (ih collected).of_append

/-- **A reading continues its first requests** if it is not cancelled before one of them. -/
theorem collect_goesOnBehind_of_followsLinks {first : String} {world between : World σ}
    {urls : List String} {pages : List (Envelope α)} {outcome : Except Error (Envelope α)}
    (follows : client.FollowsLinks type first world urls pages outcome between)
    (goesOn : ∀ start ∈ client.startsOf type (first :: urls) world, isCancelled start = false)
    {fuel fetched : Nat} {records : List α} {whole : Except Error (List α)} {after : World σ}
    (collected : client.collect type isCancelled fuel records ⟨some first, fetched⟩ world =
      some (whole, after)) :
    client.GoesOnBehind type
      ((client.pageResult outcome).map fun page =>
        records ++ (pages ++ [page]).flatMap Envelope.records) between whole after := by
  induction urls generalizing first world pages fuel records fetched with
  | nil =>
    have start : isCancelled world = false := goesOn world List.mem_cons_self
    obtain ⟨rfl, requested⟩ := follows.single
    cases fuel with
    | zero => cases collected
    | succ fuel =>
      rw [collect_succ start requested] at collected
      cases given : client.pageResult outcome with
      | error error =>
        rw [given] at collected
        cases collected
        exact .refl _ _
      | ok page =>
        rw [given] at collected
        simpa [Except.map] using collect_goesOnBehind collected
  | cons next urls ih =>
    obtain ⟨page, rest, later, rfl, requested, linked, others⟩ := follows.several
    rw [startsOf, List.forall_mem_cons, requested] at goesOn
    cases fuel with
    | zero => cases collected
    | succ fuel =>
      rw [collect_succ goesOn.1 requested, pageResult_of_linked linked,
        positionBehind_of_linked linked] at collected
      simpa using ih others goesOn.2 collected

/-- **A cancelled reading is the front of the whole one.** If it is cancelled at first, nothing is
read and nothing is sent. If it is cancelled while the last of some requests is under way, this
request is made as ever, with all its attempts. An error of its page is the error of the reading;
otherwise the reading gives the records of all pages up to this one. It sends these requests and no
other, and the reading that is not cancelled continues it. -/
theorem getAllUnless_of_followsLinks (client : Client σ) (type : RecordType α) (query : Query)
    (isCancelled : World σ → Bool) (world : World σ) :
    let first := client.root.queryUrl type.entitySet query.withoutPaging
    (isCancelled world = true → ∀ fuel > 0,
      client.getAllUnless type isCancelled fuel query world = some (.ok [], world)) ∧
    ∀ urls pages outcome after,
      client.FollowsLinks type first world urls pages outcome after →
      (∀ start ∈ client.startsOf type (first :: urls) world, isCancelled start = false) →
      isCancelled after = true →
      let result := (client.pageResult outcome).map fun page =>
        (pages ++ [page]).flatMap Envelope.records
      (∀ fuel > urls.length + 1,
        client.getAllUnless type isCancelled fuel query world = some (result, after)) ∧
      ∀ fuel whole last, client.getAll type fuel query world = some (whole, last) →
        client.GoesOnBehind type result after whole last := by
  intro first
  constructor
  · intro cancelled fuel positive
    obtain ⟨fuel, rfl⟩ : ∃ less, fuel = less + 1 := Nat.exists_eq_add_of_le' positive
    exact collect_stops (.inl cancelled) fuel []
  · intro urls pages outcome after follows goesOn cancelled result
    refine ⟨fun fuel enough => ?_, fun fuel whole last read => ?_⟩
    · exact collect_of_followsLinks follows goesOn (fun _ _ => .inr cancelled) enough [] 0
    · exact collect_goesOnBehind_of_followsLinks follows (fun _ _ => rfl) read

/-- Three pages, and a token that is triggered by the first attempt at the second page, which is
made again after a pause. -/
theorem getAllUnless_of_followsLinks_second_page :
    let link := "http://[::1]/2"
    let page (text : String) (nextLink : Option String) : Envelope JsonValue :=
      ⟨200, [.string text], nextLink, none, []⟩
    let decoder : ResponseDecoder := fun response =>
      if response.isSuccess then
        .ok (page response.body (if response.body = "third" then none else some link))
      else .error (.api (.ofResponse response.status response.body))
    let client : Client (List Outcome) :=
      ⟨⟨"http://[::1]", "c", "v2.0", .standard⟩, .none,
        ⟨.scripted (.ok (.ofBody 200 "third")), .standard, .standard⟩, decoder⟩
    let world : World (List Outcome) :=
      .initial [.ok (.ofBody 200 "first"), .ok (.ofBody 503 ""), .ok (.ofBody 200 "second")]
    let isCancelled : World (List Outcome) → Bool := fun world => 2 ≤ world.requests.length
    ∃ after last, client.getAllUnless (.untyped "Item") isCancelled 3 .empty world =
        some (.ok [.string "first", .string "second"], after) ∧
      client.getAll (.untyped "Item") 4 .empty world =
        some (.ok [.string "first", .string "second", .string "third"], last) ∧
      after.requests.length = 3 ∧ last.requests.length = 4 ∧
      client.GoesOnBehind (.untyped "Item") (.ok [.string "first", .string "second"]) after
        (.ok [.string "first", .string "second", .string "third"]) last := by
  intro link page decoder client world isCancelled
  obtain ⟨url, parsed⟩ := parse_localLink
  have resolved : client.resolveLink link = .ok link := resolveLink_of_parse parsed
  have given :
      client.pageResult (.ok (page "second" (some link))) = .ok (page "second" (some link)) :=
    pageResult_of_linked (congrArg some resolved)
  have follows : client.FollowsLinks (.untyped "Item")
      (client.root.queryUrl (RecordType.untyped "Item").entitySet Query.empty.withoutPaging) world
      [link] [page "first" (some link)] (.ok (page "second" (some link))) _ :=
    ⟨rfl, by simp [page, resolved]⟩
  have whole : client.FollowsLinks (.untyped "Item")
      (client.root.queryUrl (RecordType.untyped "Item").entitySet Query.empty.withoutPaging) world
      [link, link] [page "first" (some link), page "second" (some link)]
      (.ok (page "third" none)) _ :=
    ⟨rfl, by simp [page, resolved]⟩
  have read : client.getAll (.untyped "Item") 4 .empty world = some (_, _) :=
    collect_of_followsLinks whole (fun _ _ => rfl) (by rintro _ ⟨⟩; exact .inl rfl) (by decide) [] 0
  obtain ⟨cut, behind⟩ := (client.getAllUnless_of_followsLinks (.untyped "Item") .empty
    isCancelled world).2 _ _ _ _ follows (by decide) (by decide)
  rw [given] at cut behind
  exact ⟨_, _, cut 3 (by decide), read, rfl, rfl, behind 4 _ _ read⟩

end ODataClient.Client

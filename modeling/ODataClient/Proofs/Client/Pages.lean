import ODataClient.Client.Pages
import ODataClient.Proofs.Client.Links
import ODataClient.Proofs.Client.Requests

/-! # Pages follow their links

Reading all pages of a query sends one request for each page, and each request behind the first goes
where the link of the page before it leads to. No page is lost, read twice or read out of order, and
nothing is sent behind an error. A request is a logical one: its attempts and pauses are part of it.

* **`fetchAll`** — requests for given addresses, one after another.
* **`FollowsLinks`** — such requests, if each behind the first goes where the page before it leads.
* **`nextPage_some`**, **`collect_succ`** — the step lemmas: one request, and what is made of its
  outcome.
* **`collect_of_followsLinks`** — the run lemma, for readings that may be cancelled between pages.
* **`nextPages`** — any number of calls for the next page; `nextPages_eq_fetchAll` counts the pages.
* **`getAll_of_followsLinks`** — what reading all pages gives and sends. -/

namespace ODataClient

/-- Without paging, a query keeps all options but the two limits. -/
theorem Query.options_withoutPaging (query : Query) :
    query.withoutPaging.options.entries =
      query.options.entries.filter fun entry => entry.1 != "$skip" && entry.1 != "$top" :=
  List.filter_filter

/-- Without paging, a query keeps all entries but the two limits. -/
theorem Query.entries_withoutPaging (query : Query) :
    query.withoutPaging.entries =
      query.entries.filter fun entry => entry.1 != "$skip" && entry.1 != "$top" := by
  have other :
      (QueryOptions.expandName != "$skip" && QueryOptions.expandName != "$top") = true := by decide
  have expands : query.withoutPaging.expands = query.expands := rfl
  rw [entries, entries, List.filter_append, query.options_withoutPaging, expands]
  by_cases none : query.expands = []
  · simp [none]
  · simp [none, other]

/-- **The address of the pages of a query** shows all that steps set, but the two limits. -/
theorem ServiceRoot.addresses_withoutPaging (root : ServiceRoot) (entitySet : String)
    (steps : List QueryStep) :
    let query := Query.buildSkipping steps
    root.Addresses (query.entitySet.getD entitySet)
      (query.options.entries.filter (fun entry => entry.1 != "$skip" && entry.1 != "$top") ++
        if query.expands = [] then [] else [("$expand", ",".intercalate query.expands)])
      (root.queryUrl entitySet query.withoutPaging) := by
  intro query
  have named : ∀ entry ∈ query.withoutPaging.entries, IsEntryName entry.1 := by
    rw [query.entries_withoutPaging]
    exact fun entry member =>
      (Query.holds_buildSkipping steps).isEntryName entry (List.mem_of_mem_filter member)
  have shown : root.Addresses _ _ _ := addresses_queryUrl named entitySet
  rwa [Query.entries, query.options_withoutPaging] at shown

namespace Client

variable {σ α : Type} {client : Client σ} {type : RecordType α}

/-! ## Requests -/

/-- The outcomes of requests for some addresses, one after another, and the world after them. -/
def fetchAll (client : Client σ) (type : RecordType α) :
    List String → World σ → List (Except Error (Envelope α)) × World σ
  | [], world => ([], world)
  | url :: rest, world =>
    let (outcome, between) := client.fetch type url world
    let (outcomes, after) := fetchAll client type rest between
    (outcome :: outcomes, after)

/-- The requests for some addresses are sent in order, and no other. -/
theorem readsInOrder_fetchAll (client : Client σ) (type : RecordType α) (urls : List String)
    (world : World σ) :
    ∃ shown, client.ReadsInOrder urls world (client.fetchAll type urls world).1
      (client.fetchAll type urls world).2 shown := by
  induction urls generalizing world with
  | nil => exact ⟨[], .done world⟩
  | cons url rest ih =>
    obtain ⟨shown, issues⟩ := client.issues_fetch type url world
    obtain ⟨others, behind⟩ := ih (client.fetch type url world).2
    exact ⟨shown ++ others, .read (Request.reads_get url) issues behind⟩

/-- The worlds in which the requests are sent. -/
def startsOf (client : Client σ) (type : RecordType α) : List String → World σ → List (World σ)
  | [], _ => []
  | url :: rest, world => world :: startsOf client type rest (client.fetch type url world).2

/-- Requests that follow links: one for the address `first`, and then one for each of `urls`, which
are where the links of `pages` lead to. These pages are what all requests but the last one gave. -/
structure FollowsLinks (client : Client σ) (type : RecordType α) (first : String)
    (world : World σ) (urls : List String) (pages : List (Envelope α))
    (outcome : Except Error (Envelope α)) (after : World σ) : Prop where
  /-- The requests have these outcomes. -/
  requested :
    client.fetchAll type (first :: urls) world = (pages.map .ok ++ [outcome], after)
  /-- The link of each page leads to the address behind it. -/
  linked :
    pages.map (fun page => page.nextLink.map client.resolveLink) =
      urls.map fun url => some (.ok url)

namespace FollowsLinks

variable {first : String} {world after : World σ} {urls : List String} {pages : List (Envelope α)}
  {outcome : Except Error (Envelope α)}

/-- A single request has the outcome. -/
theorem single (follows : client.FollowsLinks type first world [] pages outcome after) :
    pages = [] ∧ client.fetch type first world = (outcome, after) := by
  obtain rfl : pages = [] := List.map_eq_nil_iff.mp follows.linked
  refine ⟨rfl, ?_⟩
  have requested := follows.requested
  simp only [fetchAll, List.map_nil, List.nil_append, Prod.mk.injEq, List.cons.injEq, and_true]
    at requested
  exact Prod.ext requested.1 requested.2

/-- The first of several requests gives a page, and the others follow its link. -/
theorem several {next : String}
    (follows : client.FollowsLinks type first world (next :: urls) pages outcome after) :
    ∃ page rest between, pages = page :: rest ∧
      client.fetch type first world = (.ok page, between) ∧
      page.nextLink.map client.resolveLink = some (.ok next) ∧
      client.FollowsLinks type next between urls rest outcome after := by
  obtain ⟨requested, linked⟩ := follows
  cases pages with
  | nil => cases linked
  | cons page rest =>
    rw [List.map_cons, List.map_cons, List.cons.injEq] at linked
    rw [fetchAll, List.map_cons, List.cons_append, Prod.mk.injEq, List.cons.injEq] at requested
    obtain ⟨⟨gave, others⟩, ended⟩ := requested
    exact ⟨page, rest, _, rfl, Prod.ext gave rfl, linked.1, Prod.ext others ended, linked.2⟩

end FollowsLinks

/-! ## One page -/

/-- What a call for a page gives when its request has an outcome: the page, the error of the request
or the error of the link. -/
def pageResult (client : Client σ) : Except Error (Envelope α) → Except Error (Envelope α)
  | .error error => .error error
  | .ok page =>
    match page.nextLink.map client.resolveLink with
    | some (.error error) => .error error
    | some (.ok _) | none => .ok page

/-- The position behind a request: nothing follows an error or a page without a link, and a page
counts if it was decoded. -/
def positionBehind (client : Client σ) (fetched : Nat) : Except Error (Envelope α) → Pages
  | .error _ => ⟨none, fetched⟩
  | .ok page => ⟨page.nextLink.bind fun link => (client.resolveLink link).toOption, fetched + 1⟩

/-- **A call for the next page sends one request** for the address of the page. -/
theorem nextPage_some {url : String} {fetched : Nat} {world after : World σ}
    {outcome : Except Error (Envelope α)}
    (requested : client.fetch type url world = (outcome, after)) :
    client.nextPage type ⟨some url, fetched⟩ world =
      (some (client.pageResult outcome), client.positionBehind fetched outcome, after) := by
  simp only [nextPage, requested]
  cases outcome with
  | error error => rfl
  | ok page =>
    simp only [follow, pageResult, positionBehind]
    cases page.nextLink with
    | none => rfl
    | some link =>
      simp only [Option.map_some, Option.bind_some]
      cases client.resolveLink link <;> rfl

/-- The position behind a page is where its link leads to. -/
theorem positionBehind_of_linked {page : Envelope α} {next : String}
    (linked : page.nextLink.map client.resolveLink = some (.ok next)) (fetched : Nat) :
    client.positionBehind fetched (.ok page) = ⟨some next, fetched + 1⟩ := by
  obtain ⟨link, isLink, resolved⟩ := Option.map_eq_some_iff.mp linked
  rw [positionBehind, isLink, Option.bind_some, resolved]
  rfl

/-- A page whose link leads somewhere is given. -/
theorem pageResult_of_linked {page : Envelope α} {next : String}
    (linked : page.nextLink.map client.resolveLink = some (.ok next)) :
    client.pageResult (.ok page) = .ok page := by
  rw [pageResult, linked]

/-- Nothing follows an error or a page without a link. -/
theorem nextUrl_positionBehind {outcome : Except Error (Envelope α)}
    (ends : ∀ page, client.pageResult outcome = .ok page → page.nextLink = none) (fetched : Nat) :
    (client.positionBehind fetched outcome).nextUrl = none := by
  cases outcome with
  | error error => rfl
  | ok page =>
    rw [positionBehind]
    rw [pageResult] at ends
    cases isLink : page.nextLink with
    | none => rfl
    | some link =>
      rw [isLink, Option.map_some] at ends
      cases resolved : client.resolveLink link with
      | error error => simp [resolved, Except.toOption]
      | ok url =>
        rw [resolved] at ends
        have noLink := ends page rfl
        rw [isLink] at noLink
        cases noLink

/-- Behind a call that gave an error or a page without link there is no next page. -/
theorem nextUrl_of_nextPage {position next : Pages} {before after : World σ}
    {result : Except Error (Envelope α)}
    (called : client.nextPage type position before = (some result, next, after))
    (ends : ∀ page, result = .ok page → page.nextLink = none) : next.nextUrl = none := by
  obtain ⟨nextUrl, fetched⟩ := position
  cases nextUrl with
  | none => cases called
  | some url =>
    cases requested : client.fetch type url before with
    | mk outcome between =>
      rw [nextPage_some requested] at called
      cases called
      exact nextUrl_positionBehind ends fetched

/-! ## All pages -/

section Collect

variable {isCancelled : World σ → Bool}

/-- Reading ends when it is cancelled and when there is no next page. -/
theorem collect_stops {position : Pages} {world : World σ}
    (stops : isCancelled world = true ∨ position.nextUrl = none) (fuel : Nat) (records : List α) :
    client.collect type isCancelled (fuel + 1) records position world =
      some (.ok records, world) := by
  obtain ⟨nextUrl, fetched⟩ := position
  rw [collect]
  split
  · rfl
  · rename_i goesOn
    obtain rfl := stops.resolve_left goesOn
    rfl

/-- **One page of a reading**: a request, and the reading ends if it gives an error. -/
theorem collect_succ {world after : World σ} (goesOn : isCancelled world = false) {url : String}
    {outcome : Except Error (Envelope α)}
    (requested : client.fetch type url world = (outcome, after)) (fuel fetched : Nat)
    (records : List α) :
    client.collect type isCancelled (fuel + 1) records ⟨some url, fetched⟩ world =
      match client.pageResult outcome with
      | .error error => some (.error error, after)
      | .ok page =>
        client.collect type isCancelled fuel (records ++ page.records)
          (client.positionBehind fetched outcome) after := by
  rw [collect, goesOn, nextPage_some requested]
  cases client.pageResult outcome <;> rfl

/-- **A reading gives the pages in the order of their links.** It may be cancelled behind the last
request, but not before. -/
theorem collect_of_followsLinks {first : String} {world after : World σ} {urls : List String}
    {pages : List (Envelope α)} {outcome : Except Error (Envelope α)}
    (follows : client.FollowsLinks type first world urls pages outcome after)
    (goesOn : ∀ start ∈ client.startsOf type (first :: urls) world, isCancelled start = false)
    (stops : ∀ page, client.pageResult outcome = .ok page →
      page.nextLink = none ∨ isCancelled after = true)
    {fuel : Nat} (enough : urls.length + 1 < fuel) (records : List α) (fetched : Nat) :
    client.collect type isCancelled fuel records ⟨some first, fetched⟩ world =
      some ((client.pageResult outcome).map fun page =>
        records ++ (pages ++ [page]).flatMap Envelope.records, after) := by
  induction urls generalizing first world pages fuel records fetched with
  | nil =>
    have start : isCancelled world = false := goesOn world List.mem_cons_self
    obtain ⟨rfl, requested⟩ := follows.single
    obtain ⟨fuel, rfl⟩ : ∃ less, fuel = less + 2 := Nat.exists_eq_add_of_le' enough
    rw [collect_succ start requested]
    cases given : client.pageResult outcome with
    | error error => rfl
    | ok page =>
      -- Behind the last page the reading is cancelled, or it stands nowhere.
      have ends : isCancelled after = true ∨
          (client.positionBehind fetched outcome).nextUrl = none := by
        refine (stops page given).symm.imp_right fun noLink => nextUrl_positionBehind ?_ fetched
        rw [given]
        rintro _ ⟨⟩
        exact noLink
      simp only [collect_stops ends]
      simp [Except.map]
  | cons next urls ih =>
    -- The page has a link that leads on, so the reading goes on behind it with its records.
    obtain ⟨page, rest, between, rfl, requested, linked, others⟩ := follows.several
    obtain ⟨fuel, rfl⟩ : ∃ less, fuel = less + 1 := Nat.exists_eq_add_of_le' (by omega)
    rw [startsOf, List.forall_mem_cons, requested] at goesOn
    have more : urls.length + 1 < fuel := Nat.lt_of_succ_lt_succ enough
    rw [collect_succ goesOn.1 requested, pageResult_of_linked linked,
      positionBehind_of_linked linked]
    simp only [ih others goesOn.2 more]
    simp

end Collect

/-! ## Calls for the next page -/

/-- Calls for the next page, one after another: where each of them stands and what it gives, and the
position and the world after all. -/
def nextPages (client : Client σ) (type : RecordType α) :
    Nat → Pages → World σ →
      List (Pages × Option (Except Error (Envelope α))) × Pages × World σ
  | 0, position, world => ([], position, world)
  | times + 1, position, world =>
    let (result, next, between) := client.nextPage type position world
    let (calls, last, after) := nextPages client type times next between
    ((position, result) :: calls, last, after)

/-- Calls that stand nowhere give nothing and change nothing. -/
theorem nextPages_exhausted (times fetched : Nat) (world : World σ) :
    client.nextPages type times ⟨none, fetched⟩ world =
      (List.replicate times (⟨none, fetched⟩, none), ⟨none, fetched⟩, world) := by
  induction times with
  | zero => rfl
  | succ times ih => simp only [nextPages, nextPage_exhausted, ih, List.replicate_succ]

/-- **Calls for the next page send one request each**, unless they stand nowhere, and count the
pages that were decoded. -/
theorem nextPages_eq_fetchAll {times : Nat} {position last : Pages} {world after : World σ}
    {calls : List (Pages × Option (Except Error (Envelope α)))}
    (called : client.nextPages type times position world = (calls, last, after)) :
    let requested := client.fetchAll type (calls.filterMap (·.1.nextUrl)) world
    after = requested.2 ∧ last.fetched = position.fetched + requested.1.countP Except.isOk := by
  induction times generalizing position world calls with
  | zero =>
    cases called
    exact ⟨rfl, rfl⟩
  | succ times ih =>
    obtain ⟨nextUrl, fetched⟩ := position
    cases nextUrl with
    | none =>
      rw [nextPages_exhausted] at called
      cases called
      simp [fetchAll]
    | some url =>
      cases requested : client.fetch type url world with
      | mk outcome between =>
        simp only [nextPages, nextPage_some requested, Prod.mk.injEq] at called
        obtain ⟨rfl, rfl, rfl⟩ := called
        obtain ⟨sent, counted⟩ := ih rfl
        -- A page counts once it is decoded, even if its link leads nowhere.
        have stepped : (client.positionBehind fetched outcome).fetched =
            fetched + if outcome.isOk then 1 else 0 := by
          cases outcome <;> rfl
        simp only [List.filterMap_cons, fetchAll, requested, List.countP_cons]
        exact ⟨sent, by omega⟩

/-! ## Reading all pages of a query -/

/-- A link on the same machine is absolute. -/
theorem parse_localLink : ∃ url, Url.parse "http://[::1]/2" = .ok url := by
  have lower : Text.asciiLower "http" = "http" :=
    String.toList_inj.mp (by rw [Text.toList_asciiLower]; rfl)
  have split : Url.splitScheme? (Url.trim "http://[::1]/2") =
      some (Text.asciiLower "http", "//[::1]/2".toList) := by rfl
  rw [Url.parse, split, lower]
  exact ⟨_, rfl⟩

/-- The root of a service on a host is written as it is kept. -/
theorem isPlain_hostRoot {root : ServiceRoot} (base : root.baseUrl = "https://host/api/") :
    root.IsPlain := by
  rw [ServiceRoot.IsPlain, base]
  refine ⟨{
    scheme := "https"
    isWeb := rfl
    domain := ⟨["host"], by decide, by decide, by decide, by decide, by decide⟩
    port := none
    portFits := by simp
    path := ⟨["api", ""], none, by decide, by decide, by simp⟩
    pathFree := by decide
    queryFree := by simp }, ["api"], rfl, rfl, by decide⟩

/-- A link into a company leads down from a root. -/
theorem exists_descent_companyLink : ∃ descent : Url.Descent,
    descent.text = "companies(c)/items?$skiptoken=2" ∧
      descent.encodedText = "companies(c)/items?$skiptoken=2" :=
  ⟨{
    parts := ["companies(c)", "items"]
    query := some "$skiptoken=2"
    filled := by decide
    ordinary := by decide
    queried := by decide
    begins := ⟨_, _, rfl, by decide, by decide⟩ }, by decide, by decide⟩

end Client

end ODataClient

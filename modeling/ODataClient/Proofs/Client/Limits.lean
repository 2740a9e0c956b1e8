import ODataClient.Proofs.Client.Pages
import ODataClient.Proofs.Query.QueryString

/-! # Limits do not reach the pages

The service decides on the size of pages, so a limit on the number of records, or on where they begin,
has no effect on reading all pages of a query. It does not matter where such limits are set, how often,
or whether they are cleared again: the pages start at the same address, which shows nothing of them.

* **`QueryOptions.remove_assign_self`**, **`QueryOptions.remove_assign_of_ne`** — a removal undoes what
  is assigned to its own name, and keeps what is assigned to another one in its place.
* **`QueryStep.map_withoutPaging_run`** — a step on a query with limits and on one without.
* **`Query.map_withoutPaging_build`**, **`Query.withoutPaging_buildSkipping`** — the runs: without
  limits, a query is what the other steps build.
* **`Client.PagesAlike`** — queries whose pages are the same; `Client.pagesAlike_of_limits`. -/

namespace ODataClient

/-! ## Removing an option -/

namespace QueryOptions

/-- Removing a name takes away what was set under it. -/
theorem filter_setEntry_self (name value : String) (entries : List (String × String)) :
    (setEntry name value entries).filter (·.1 != name) = entries.filter (·.1 != name) := by
  induction entries with
  | nil => simp [setEntry]
  | cons entry rest ih =>
    rw [setEntry]
    by_cases same : entry.1 = name
    · simp [same]
    · rw [if_neg same, List.filter_cons, List.filter_cons, ih]

/-- Removing a name leaves what was set under another one in its place. -/
theorem filter_setEntry_of_ne {name other : String} (differ : name ≠ other) (value : String)
    (entries : List (String × String)) :
    (setEntry name value entries).filter (·.1 != other) =
      setEntry name value (entries.filter (·.1 != other)) := by
  induction entries with
  | nil => simp [setEntry, differ]
  | cons entry rest ih =>
    rw [setEntry]
    by_cases same : entry.1 = name
    · simp [setEntry, same, differ]
    · rw [if_neg same, List.filter_cons, List.filter_cons, ih]
      by_cases removed : entry.1 = other
      · simp [removed]
      · simp [removed, setEntry, same]

/-- A removal undoes what was assigned to its own name. -/
theorem remove_assign_self (options : QueryOptions) (name : String) (value : Option String) :
    (options.assign name value).remove name = options.remove name := by
  cases value with
  | none => simp [assign, remove]
  | some text => exact congrArg mk (filter_setEntry_self name text options.entries)

/-- A removal and an assignment to another name can change places. -/
theorem remove_assign_of_ne (options : QueryOptions) {name other : String} (differ : name ≠ other)
    (value : Option String) :
    (options.assign name value).remove other = (options.remove other).assign name value := by
  cases value with
  | none => simp [assign, remove, Bool.and_comm]
  | some text => exact congrArg mk (filter_setEntry_of_ne differ text options.entries)

/-- Two removals can change places. -/
theorem remove_comm (options : QueryOptions) (first second : String) :
    (options.remove first).remove second = (options.remove second).remove first := by
  simp [remove, Bool.and_comm]

end QueryOptions

/-! ## Limits -/

/-- Whether a step sets or clears one of the two limits of a query. -/
def QueryStep.isLimit : QueryStep → Bool
  | top _ | skip _ => true
  | _ => false

/-- Whether an effect sets or clears one of the two limits of a query. -/
def QueryEffect.isLimit : QueryEffect → Bool
  | assign name _ => name == QueryOptions.topName || name == QueryOptions.skipName
  | address _ | addClause _ => false

namespace QueryEffect

/-- An effect on a limit is lost without the limits. -/
theorem withoutPaging_apply_of_isLimit {effect : QueryEffect} (limits : effect.isLimit = true)
    (query : Query) : (effect.apply query).withoutPaging = query.withoutPaging := by
  cases effect with
  | address | addClause => cases limits
  | assign name value =>
    rw [isLimit, Bool.or_eq_true, beq_iff_eq, beq_iff_eq] at limits
    simp only [apply, Query.withoutPaging]
    rcases limits with rfl | rfl
    · rw [QueryOptions.remove_assign_self]
    · -- The other limit is removed first, so the removals have to change places.
      rw [QueryOptions.remove_comm, QueryOptions.remove_assign_self, QueryOptions.remove_comm]

/-- Any other effect is the same with the limits and without them. -/
theorem withoutPaging_apply_of_not_isLimit {effect : QueryEffect}
    (other : effect.isLimit = false) (query : Query) :
    (effect.apply query).withoutPaging = effect.apply query.withoutPaging := by
  cases effect with
  | address | addClause => rfl
  | assign name value =>
    rw [isLimit, Bool.or_eq_false_iff, beq_eq_false_iff_ne, beq_eq_false_iff_ne] at other
    simp only [apply, Query.withoutPaging]
    rw [QueryOptions.remove_assign_of_ne _ other.1, QueryOptions.remove_assign_of_ne _ other.2]

end QueryEffect

namespace QueryStep

/-- A step has the same effect with the limits and without them, since it sees orderings only. -/
theorem effect_withoutPaging (step : QueryStep) (query : Query) :
    step.effect query.withoutPaging = step.effect query := by
  cases step with
  | thenBy field direction =>
    have noSkip : QueryOptions.orderName ≠ QueryOptions.skipName := by decide
    have noTop : QueryOptions.orderName ≠ QueryOptions.topName := by decide
    simp only [effect, Query.withoutPaging, QueryOptions.get?_remove_of_ne _ noSkip,
      QueryOptions.get?_remove_of_ne _ noTop]
  | entitySet | select | filter | expand | expandWith | orderBy | top | skip | count | apply => rfl

/-- The effect of a step is on a limit if the step is. -/
theorem isLimit_of_effect {step : QueryStep} {query : Query} {effect : QueryEffect}
    (effective : step.effect query = .ok effect) : effect.isLimit = step.isLimit := by
  cases step with
  | entitySet | expand | orderBy | top | skip | count =>
    cases effective
    rfl
  | select | filter | expandWith | apply =>
    obtain ⟨_, -, written⟩ := bind_eq_ok.mp effective
    cases written
    rfl
  | thenBy field direction =>
    simp only [QueryStep.effect] at effective
    split at effective
    · cases effective
    · cases effective
      rfl

/-- A step on a limit never fails. -/
theorem exists_effect_of_isLimit {step : QueryStep} (limits : step.isLimit = true) (query : Query) :
    ∃ effect, step.effect query = .ok effect := by
  cases step with
  | top number => exact ⟨_, rfl⟩
  | skip number => exact ⟨_, rfl⟩
  | entitySet | select | filter | expand | expandWith | orderBy | thenBy | count | apply =>
    cases limits

/-- **What a step does without the limits**: nothing if it is on a limit, and else what it does with
them. -/
theorem map_withoutPaging_run (step : QueryStep) (query : Query) :
    (step.run query).map Query.withoutPaging =
      if step.isLimit then .ok query.withoutPaging else step.run query.withoutPaging := by
  rw [run_eq_map_effect, run_eq_map_effect, effect_withoutPaging]
  cases effective : step.effect query with
  | error error =>
    cases limits : step.isLimit with
    | true =>
      obtain ⟨effect, same⟩ := exists_effect_of_isLimit limits query
      cases effective.symm.trans same
    | false => rfl
  | ok effect =>
    -- The effect is on a limit as the step is, so both sides make the same choice.
    have same := isLimit_of_effect effective
    cases limits : step.isLimit with
    | true => exact congrArg _ (QueryEffect.withoutPaging_apply_of_isLimit (same.trans limits) query)
    | false =>
      exact congrArg _ (QueryEffect.withoutPaging_apply_of_not_isLimit (same.trans limits) query)

/-- **What a sequence of steps does without the limits** is what its other steps do. -/
theorem map_withoutPaging_runAll (steps : List QueryStep) (query : Query) :
    (runAll steps query).map Query.withoutPaging =
      runAll (steps.filter (!·.isLimit)) query.withoutPaging := by
  induction steps generalizing query with
  | nil => rfl
  | cons step rest ih =>
    have stepped := step.map_withoutPaging_run query
    cases limits : step.isLimit with
    | true =>
      -- The step is left out of the other run, and its query is the same without the limits.
      rw [limits, if_pos rfl] at stepped
      rw [List.filter_cons_of_neg (by simp [limits]), runAll]
      cases ran : step.run query with
      | error error =>
        rw [ran] at stepped
        cases stepped
      | ok next =>
        rw [ran] at stepped
        have same : next.withoutPaging = query.withoutPaging := Except.ok.inj stepped
        rw [← same]
        exact ih next
    | false =>
      rw [limits, if_neg Bool.false_ne_true] at stepped
      rw [List.filter_cons_of_pos (by simp [limits]), runAll, runAll, ← stepped]
      cases step.run query with
      | error error => rfl
      | ok next => exact ih next

/-- A step that is left out if it fails, without the limits. -/
theorem withoutPaging_runOrKeep (step : QueryStep) (query : Query) :
    (runOrKeep query step).withoutPaging =
      if step.isLimit then query.withoutPaging else runOrKeep query.withoutPaging step := by
  have stepped := step.map_withoutPaging_run query
  rw [runOrKeep, runOrKeep]
  cases limits : step.isLimit with
  | true =>
    rw [limits, if_pos rfl] at stepped
    cases ran : step.run query with
    | error error => rfl
    | ok next =>
      rw [ran] at stepped
      exact Except.ok.inj stepped
  | false =>
    rw [limits, if_neg Bool.false_ne_true] at stepped
    rw [← stepped]
    cases step.run query <;> rfl

end QueryStep

/-- A result is mapped to an error if it is this error. -/
theorem map_eq_error_iff {ε α β : Type} {change : α → β} {result : Except ε α} {error : ε} :
    result.map change = .error error ↔ result = .error error := by
  cases result <;> simp [Except.map]

namespace Query

/-- **Without the limits, a query is what the other steps build**, and it fails with their error. -/
theorem map_withoutPaging_build (steps : List QueryStep) :
    (build steps).map withoutPaging = build (steps.filter (!·.isLimit)) :=
  QueryStep.map_withoutPaging_runAll steps .empty

/-- The same holds if steps that fail are left out. -/
theorem withoutPaging_buildSkipping (steps : List QueryStep) :
    (buildSkipping steps).withoutPaging = buildSkipping (steps.filter (!·.isLimit)) := by
  have run (before : Query) : (steps.foldl QueryStep.runOrKeep before).withoutPaging =
      (steps.filter (!·.isLimit)).foldl QueryStep.runOrKeep before.withoutPaging := by
    induction steps generalizing before with
    | nil => rfl
    | cons step rest ih =>
      have stepped := step.withoutPaging_runOrKeep before
      rw [List.foldl_cons, ih, stepped]
      cases limits : step.isLimit with
      | true => rw [List.filter_cons_of_neg (by simp [limits])]; rfl
      | false => rw [List.filter_cons_of_pos (by simp [limits])]; rfl
  exact run .empty

/-- A query of which another one keeps everything but the limits, as its query string shows. -/
structure KeepsAllButLimits (query plain : Query) : Prop where
  /-- The other options keep their values and their order. -/
  options : plain.options.entries =
    query.options.entries.filter fun entry => entry.1 != "$skip" && entry.1 != "$top"
  /-- The expand clauses are the same, with the limits of nested queries in them. -/
  clauses : plain.expands = query.expands
  /-- The entity set is the same. -/
  entitySet : plain.entitySet = query.entitySet
  /-- This is what is read from the query string. -/
  shown : readQueryString? plain.queryString =
    some (query.options.entries.filter (fun entry => entry.1 != "$skip" && entry.1 != "$top") ++
      if query.expands = [] then [] else [("$expand", ",".intercalate query.expands)])

/-- Without the limits, a query that steps build keeps everything else. -/
theorem keepsAllButLimits_withoutPaging (steps : List QueryStep) :
    (buildSkipping steps).KeepsAllButLimits (buildSkipping steps).withoutPaging := by
  have options := (buildSkipping steps).options_withoutPaging
  have read : readQueryString? (buildSkipping steps).withoutPaging.queryString =
      some (buildSkipping steps).withoutPaging.entries := by
    -- Reading back rests on what steps write, and without the limits the query is built by steps too.
    rw [withoutPaging_buildSkipping]
    exact readQueryString?_intercalate (holds_buildSkipping _).isEntryName
  rw [entries, options] at read
  exact ⟨options, rfl, rfl, read⟩

end Query

/-! ## Pages -/

namespace Client

variable {σ α : Type}

/-- Two queries whose pages nothing can tell apart. -/
structure PagesAlike (client : Client σ) (type : RecordType α) (query other : Query) : Prop where
  /-- Their pages start at the same address. -/
  starts : client.pages type query = client.pages type other
  /-- Calls for the next page give and do the same. -/
  calls : ∀ times world,
    client.nextPages type times (client.pages type query) world =
      client.nextPages type times (client.pages type other) world
  /-- Reading all pages gives and does the same, cancelled or not. -/
  readings : ∀ isCancelled fuel world,
    client.getAllUnless type isCancelled fuel query world =
      client.getAllUnless type isCancelled fuel other world

/-- Queries that are the same without their limits have the same pages. -/
theorem pagesAlike_of_withoutPaging (client : Client σ) (type : RecordType α) {query other : Query}
    (same : query.withoutPaging = other.withoutPaging) : client.PagesAlike type query other := by
  have starts : client.pages type query = client.pages type other := by
    rw [pages, pages, same]
  refine ⟨starts, fun times world => ?_, fun isCancelled fuel world => ?_⟩
  · rw [starts]
  · rw [getAllUnless, getAllUnless, starts]

/-- The first call for a page of a query reads the address of the query without its limits, and sends
nothing else. -/
theorem readsInOrder_nextPage_pages (client : Client σ) (type : RecordType α) (query : Query)
    (world : World σ) :
    let next := client.nextPage type (client.pages type query) world
    ∃ outcome shown, next.1 = some (client.pageResult outcome) ∧
      client.ReadsInOrder [client.root.queryUrl type.entitySet query.withoutPaging] world [outcome]
        next.2.2 shown := by
  let url := client.root.queryUrl type.entitySet query.withoutPaging
  have called : client.nextPage type ⟨some url, 0⟩ world = _ := nextPage_some rfl
  obtain ⟨shown, reads⟩ := client.readsInOrder_fetchAll type [url] world
  rw [pages, called]
  exact ⟨(client.fetch type url world).1, shown, rfl, reads⟩

/-- **Limits do not reach the pages.** Of two sequences of steps that differ in nothing but limits,
where they are set or cleared, how often and to which numbers, one fails if the other one does, with the
same error, and the queries that they build have the same pages, with failing steps left out or without
any. The first request goes to the address of the query without its limits, which keeps everything
else: the address shows the other options in their order, and the expand clauses behind them. -/
theorem pagesAlike_of_limits (client : Client σ) (type : RecordType α)
    {first second : List QueryStep}
    (same : first.filter (!·.isLimit) = second.filter (!·.isLimit)) :
    (∀ error, Query.build first = .error error ↔ Query.build second = .error error) ∧
      (∀ query other, Query.build first = .ok query → Query.build second = .ok other →
        client.PagesAlike type query other) ∧
      client.PagesAlike type (Query.buildSkipping first) (Query.buildSkipping second) ∧
      let query := Query.buildSkipping first
      let plain := query.withoutPaging
      let url := client.root.queryUrl type.entitySet plain
      query.KeepsAllButLimits plain ∧ client.pages type query = ⟨some url, 0⟩ ∧
        client.root.Addresses (query.entitySet.getD type.entitySet)
          (query.options.entries.filter (fun entry => entry.1 != "$skip" && entry.1 != "$top") ++
            if query.expands = [] then [] else [("$expand", ",".intercalate query.expands)]) url ∧
        ∀ world,
          let next := client.nextPage type (client.pages type query) world
          ∃ outcome shown, next.1 = some (client.pageResult outcome) ∧
            client.ReadsInOrder [url] world [outcome] next.2.2 shown := by
  have builds : (Query.build first).map Query.withoutPaging =
      (Query.build second).map Query.withoutPaging := by
    rw [Query.map_withoutPaging_build, Query.map_withoutPaging_build, same]
  have skipping : (Query.buildSkipping first).withoutPaging =
      (Query.buildSkipping second).withoutPaging := by
    rw [Query.withoutPaging_buildSkipping, Query.withoutPaging_buildSkipping, same]
  refine ⟨fun error => ?_, fun query other builtFirst builtSecond => ?_,
    client.pagesAlike_of_withoutPaging type skipping,
    Query.keepsAllButLimits_withoutPaging first, rfl,
    client.root.addresses_withoutPaging type.entitySet first,
    client.readsInOrder_nextPage_pages type _⟩
  · rw [← map_eq_error_iff, builds, map_eq_error_iff]
  · rw [builtFirst, builtSecond] at builds
    exact client.pagesAlike_of_withoutPaging type (Except.ok.inj builds)

/-- Limits that are set, cleared and set again around a nested query with a limit of its own, beside the
same steps without limits. -/
theorem pagesAlike_of_limits_nested :
    let others : List QueryStep :=
      [.entitySet "items", .expandWith (.plain "customer") [.top 2], .count true]
    let first : List QueryStep :=
      [.top 5, .entitySet "items", .expandWith (.plain "customer") [.top 2], .skip 1, .top 0,
        .count true, .top 7]
    let client : Client (List Outcome) :=
      ⟨⟨"https://host/api", "c", "v2.0", .standard⟩, .none,
        ⟨.scripted (.ok (.ofBody 200 "{}")), .standard, .standard⟩, .standard⟩
    let query := Query.buildSkipping first
    first.filter (!·.isLimit) = others ∧
      query.options.entries = [("$skip", "1"), ("$count", "true"), ("$top", "7")] ∧
      client.PagesAlike (.untyped "Item") query (Query.buildSkipping others) ∧
      readQueryString? query.withoutPaging.queryString =
        some [("$count", "true"), ("$expand", "customer($top=2)")] ∧
      client.pages (.untyped "Item") query =
        ⟨some ("https://host/api/v2.0/companies(c)/items" ++
          "?$count=true&$expand=customer%28%24top%3D2%29"), 0⟩ := by
  intro others first client query
  have same : first.filter (!·.isLimit) = others.filter (!·.isLimit) := rfl
  obtain ⟨-, -, alike, keeps, starts, -⟩ := client.pagesAlike_of_limits (.untyped "Item") same
  exact ⟨rfl, rfl, alike, keeps.shown, starts.trans (by decide)⟩

end Client

end ODataClient

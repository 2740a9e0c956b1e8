import ODataClient.Proofs.Filter.Rendered
import ODataClient.Query.Step

/-! # Runs of query steps

A step that succeeds addresses an entity set, assigns one option, or adds one expand clause. What
holds of a query after any steps is derived from these three effects and not from the steps.

* **`QueryEffect`** — what a step does to a query; `QueryStep.effect` is the effect of each step,
  and `QueryStep.run_eq_ok` says that a run of a step is its effect.
* **`Query.buildSkipping_invariant`** — what every step keeps, every run keeps;
  `Query.buildSkipping_of_build` covers the runs without an error.
* **`Query.Holds`** — the invariant of all runs, given what the values and the clauses are like: the
  options have different names, all from a fixed list. `Query.Holds.apply` is its step. -/

namespace ODataClient

/-! ## Effects -/

/-- What a step does to a query. -/
inductive QueryEffect
  /-- Address another entity set. -/
  | address (name : String)
  /-- Set an option to a value, or remove it when there is none. -/
  | assign (name : String) (value : Option String)
  /-- Add an expand clause. -/
  | addClause (clause : String)
deriving DecidableEq, Repr

/-- The query after an effect. -/
def QueryEffect.apply (query : Query) : QueryEffect → Query
  | address name => query.withEntitySet name
  | assign name value => { query with options := query.options.assign name value }
  | addClause clause => { query with expands := query.expands ++ [clause] }

namespace QueryStep

/-- The effect of a step on a query, or the error of the step. -/
def effect (query : Query) : QueryStep → Except QueryError QueryEffect
  | entitySet name => .ok (.address name)
  | select projection => do
    let names ← projection.fieldNames
    return .assign QueryOptions.selectName (some (",".intercalate names))
  | filter condition => do
    let text ← condition.render
    return .assign QueryOptions.filterName (some text)
  | expand field => .ok (.addClause field.wireName)
  | expandWith field steps => do
    let nested ← runAll steps .empty
    return .addClause (Query.expandClause field nested)
  | orderBy field direction =>
    .ok (.assign QueryOptions.orderName (some (direction.term field.wireName)))
  | thenBy field direction =>
    match query.options.get? QueryOptions.orderName with
    | none => .error (.missingPrimaryOrder field.wireName)
    | some orders =>
      .ok (.assign QueryOptions.orderName (some (orders ++ "," ++ direction.term field.wireName)))
  | top number => .ok (.assign QueryOptions.topName (Query.positiveText number))
  | skip number => .ok (.assign QueryOptions.skipName (Query.positiveText number))
  | count enabled =>
    .ok (.assign QueryOptions.countName (if enabled then some "true" else none))
  | apply steps => do
    let aggregation ← Aggregation.run steps .empty
    return .assign QueryOptions.applyName aggregation.render?

/-- A run of a step is its effect. -/
theorem run_eq_map_effect (step : QueryStep) (query : Query) :
    step.run query = (step.effect query).map (·.apply query) := by
  cases step with
  | entitySet | expand | orderBy | top | skip | count => rfl
  | select projection =>
    simp only [run, effect, Query.select]
    cases projection.fieldNames <;> rfl
  | filter condition =>
    simp only [run, effect, Query.filter, Query.withFilter]
    cases condition.render <;> rfl
  | expandWith field steps =>
    simp only [run, effect]
    cases runAll steps .empty <;> rfl
  | thenBy field direction =>
    simp only [run, effect, Query.thenBy]
    cases query.options.get? QueryOptions.orderName <;> rfl
  | apply steps =>
    simp only [run, effect]
    cases Aggregation.run steps .empty <;> rfl

/-- **Everything that a step can do.** -/
theorem run_eq_ok {step : QueryStep} {query next : Query} :
    step.run query = .ok next ↔
      ∃ effect, step.effect query = .ok effect ∧ effect.apply query = next := by
  rw [run_eq_map_effect]
  cases step.effect query <;> simp [Except.map]

end QueryStep

/-! ## Runs -/

namespace Query

/-- **What every step keeps, every run keeps.** -/
theorem buildSkipping_invariant (Keeps : Query → Prop) {steps : List QueryStep}
    (step : ∀ step ∈ steps, ∀ before effect, Keeps before → step.effect before = .ok effect →
      Keeps (effect.apply before))
    (start : Keeps .empty) : Keeps (buildSkipping steps) := by
  refine List.foldlRecOn steps QueryStep.runOrKeep start fun before keeps next member => ?_
  unfold QueryStep.runOrKeep
  split
  · rename_i after ran
    obtain ⟨effect, effective, rfl⟩ := QueryStep.run_eq_ok.mp ran
    exact step next member before effect keeps effective
  · exact keeps

/-- Steps that all succeed have the same run when errors are skipped. -/
theorem foldl_runOrKeep_of_runAll {steps : List QueryStep} {before after : Query}
    (ran : QueryStep.runAll steps before = .ok after) :
    steps.foldl QueryStep.runOrKeep before = after := by
  induction steps generalizing before with
  | nil => exact Except.ok.inj ran
  | cons step rest ih =>
    rw [QueryStep.runAll] at ran
    split at ran
    · rename_i next stepped
      have kept : QueryStep.runOrKeep before step = next := by rw [QueryStep.runOrKeep, stepped]
      rw [List.foldl_cons, kept]
      exact ih ran
    · cases ran

/-- A query that is built without an error is built when errors are skipped. -/
theorem buildSkipping_of_build {steps : List QueryStep} {query : Query}
    (built : build steps = .ok query) : buildSkipping steps = query :=
  foldl_runOrKeep_of_runAll built

end Query

/-! ## Names of options -/

namespace QueryOptions

/-- The names of the options that steps assign. -/
def stepNames : List String :=
  [filterName, selectName, orderName, topName, skipName, countName, applyName]

/-- Setting an option keeps its name in its place, or adds it at the end. -/
theorem map_fst_setEntry (name value : String) (entries : List (String × String)) :
    (setEntry name value entries).map Prod.fst =
      if name ∈ entries.map Prod.fst then entries.map Prod.fst
      else entries.map Prod.fst ++ [name] := by
  induction entries with
  | nil => rfl
  | cons entry rest ih =>
    rw [setEntry]
    by_cases same : entry.1 = name
    · simp [same]
    · have other : name ≠ entry.1 := Ne.symm same
      rw [if_neg same, List.map_cons, ih]
      by_cases known : name ∈ rest.map Prod.fst
      · rw [if_pos known, if_pos (by simp [known]), List.map_cons]
      · rw [if_neg known, if_neg (by simpa [other] using known), List.map_cons, List.cons_append]

/-- The entries after setting an option are the new one and some of the old ones. -/
theorem eq_or_mem_of_mem_setEntry {name value : String} {entries : List (String × String)}
    {entry : String × String} (member : entry ∈ setEntry name value entries) :
    entry = (name, value) ∨ entry ∈ entries := by
  induction entries with
  | nil => exact .inl (List.mem_singleton.mp member)
  | cons first rest ih =>
    rw [setEntry] at member
    split at member
    · exact (List.mem_cons.mp member).imp_right (List.mem_cons_of_mem _)
    · rcases List.mem_cons.mp member with rfl | later
      · exact .inr List.mem_cons_self
      · exact (ih later).imp_right (List.mem_cons_of_mem _)

/-- The entries after an assignment are the new one, if there is one, and some of the old ones. -/
theorem eq_or_mem_of_mem_assign {options : QueryOptions} {name : String} {value : Option String}
    {entry : String × String} (member : entry ∈ (options.assign name value).entries) :
    (∃ text ∈ value, entry = (name, text)) ∨ entry ∈ options.entries := by
  cases value with
  | none => exact .inr (List.mem_filter.mp member).1
  | some text =>
    exact (eq_or_mem_of_mem_setEntry member).imp_left fun new => ⟨text, rfl, new⟩

/-- An assignment keeps the names different. -/
theorem nodup_names_assign {options : QueryOptions} (name : String) (value : Option String)
    (distinct : (options.entries.map Prod.fst).Nodup) :
    ((options.assign name value).entries.map Prod.fst).Nodup := by
  cases value with
  | none => exact distinct.sublist (List.filter_sublist.map Prod.fst)
  | some text =>
    simp only [assign, set, map_fst_setEntry]
    split
    · exact distinct
    · rename_i new
      refine List.nodup_append.mpr ⟨distinct, by simp, fun known member other same => ?_⟩
      rw [List.mem_singleton.mp same]
      rintro rfl
      exact new member

end QueryOptions

/-! ## The invariant of all runs -/

/-- What holds of a query after any steps, given what values and clauses are like. -/
structure Query.Holds (IsValue IsClause : String → Prop) (query : Query) : Prop where
  /-- Steps assign no other options. -/
  known : ∀ entry ∈ query.options.entries, entry.1 ∈ QueryOptions.stepNames
  /-- No option is there twice. -/
  distinct : (query.options.entries.map Prod.fst).Nodup
  /-- The values are as they should be. -/
  values : ∀ entry ∈ query.options.entries, IsValue entry.2
  /-- The clauses are as they should be. -/
  clauses : ∀ clause ∈ query.expands, IsClause clause

/-- Whether an effect assigns an option of the fixed list and writes what values and clauses should
be like. -/
def QueryEffect.Writes (IsValue IsClause : String → Prop) : QueryEffect → Prop
  | address _ => True
  | assign name value => name ∈ QueryOptions.stepNames ∧ ∀ text ∈ value, IsValue text
  | addClause clause => IsClause clause

/-- Setting a listed option writes its value. -/
theorem QueryEffect.Writes.assign {IsValue IsClause : String → Prop} {name text : String}
    (listed : name ∈ QueryOptions.stepNames) (isValue : IsValue text) :
    (QueryEffect.assign name (some text)).Writes IsValue IsClause := by
  refine ⟨listed, ?_⟩
  rintro _ ⟨⟩
  exact isValue

namespace Query.Holds

variable {IsValue IsClause : String → Prop}

/-- The empty query has no option and no clause. -/
theorem empty : Query.empty.Holds IsValue IsClause :=
  ⟨nofun, .nil, nofun, nofun⟩

/-- **Every effect keeps the invariant.** -/
theorem apply {query : Query} (holds : query.Holds IsValue IsClause) {effect : QueryEffect}
    (writes : effect.Writes IsValue IsClause) : (effect.apply query).Holds IsValue IsClause := by
  cases effect with
  | address name => exact ⟨holds.known, holds.distinct, holds.values, holds.clauses⟩
  | assign name value =>
    obtain ⟨listed, isValue⟩ := writes
    refine ⟨?_, QueryOptions.nodup_names_assign name value holds.distinct, ?_, holds.clauses⟩
    · intro entry member
      rcases QueryOptions.eq_or_mem_of_mem_assign member with ⟨text, -, rfl⟩ | before
      · exact listed
      · exact holds.known entry before
    · intro entry member
      rcases QueryOptions.eq_or_mem_of_mem_assign member with ⟨text, assigned, rfl⟩ | before
      · exact isValue text assigned
      · exact holds.values entry before
  | addClause clause =>
    refine ⟨holds.known, holds.distinct, holds.values, fun other member => ?_⟩
    rcases List.mem_append.mp member with before | added
    · exact holds.clauses other before
    · rw [List.mem_singleton.mp added]
      exact writes

end Query.Holds

end ODataClient

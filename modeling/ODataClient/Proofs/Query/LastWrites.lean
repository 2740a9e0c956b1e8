import Mathlib.Data.List.Induction
import ODataClient.Proofs.Query.Runs

/-! # Last writes

What a query holds after any steps can be read off the list of steps, without running it: of the steps
on an option the last one counts, and of the orderings the last primary one with all secondary ones
behind it. Steps that fail leave no trace.

* **`QueryStep.written?`**, **`QueryStep.primaryTerm?`**, **`QueryStep.secondaryTerm?`**,
  **`QueryStep.clause?`** — what each step gives, whatever came before it.
* **`QueryStep.runOrKeep_changes`** — what one step changes, in these terms.
* **`Query.LastSetsAt`** — the step at which an option last went from unset to set.
* **`Query.LastWrites`** — the options, their order, and the clauses that a list of steps asks for;
  `Query.lastWrites_buildSkipping` says that the steps build them. -/

namespace ODataClient

/-! ## What a step gives -/

namespace QueryStep

/-- The option that a step writes on its own, with the value that it sets, or none if it removes the
option. A step that fails writes nothing. -/
def write? : QueryStep → Option (String × Option String)
  | select projection =>
    projection.fieldNames.toOption.map fun names =>
      (QueryOptions.selectName, some (",".intercalate names))
  | filter condition =>
    condition.render.toOption.map fun text => (QueryOptions.filterName, some text)
  | top number =>
    some (QueryOptions.topName, if 0 < number then some (integerText number) else none)
  | skip number =>
    some (QueryOptions.skipName, if 0 < number then some (integerText number) else none)
  | count enabled => some (QueryOptions.countName, if enabled then some "true" else none)
  | apply steps =>
    (Aggregation.run steps .empty).toOption.map fun aggregation =>
      (QueryOptions.applyName, aggregation.render?)
  | entitySet _ | expand _ | expandWith _ _ | orderBy _ _ | thenBy _ _ => none

/-- What a step writes to one option. -/
def written? (name : String) (step : QueryStep) : Option (Option String) :=
  step.write?.bind fun write => if write.1 = name then some write.2 else none

/-- The term of a primary ordering. -/
def primaryTerm? : QueryStep → Option String
  | orderBy field direction => some (direction.term field.wireName)
  | _ => none

/-- The term of a secondary ordering. -/
def secondaryTerm? : QueryStep → Option String
  | thenBy field direction => some (direction.term field.wireName)
  | _ => none

/-- The clause of an expansion. A nested query that fails gives none. -/
def clause? : QueryStep → Option String
  | expand field => some field.wireName
  | expandWith field steps => (runAll steps .empty).toOption.map (Query.expandClause field)
  | _ => none

end QueryStep

/-! ## One step -/

namespace QueryOptions

/-- The value of an option after an assignment. -/
theorem get?_assign (options : QueryOptions) (name : String) (value : Option String)
    (other : String) :
    (options.assign name value).get? other = if other = name then value else options.get? other := by
  cases value with
  | none => exact lookup_filter_bne options.entries name other
  | some text => exact lookup_setEntry name text other options.entries

/-- The options after an assignment, if there is one. -/
def write (options : QueryOptions) : Option (String × Option String) → QueryOptions
  | none => options
  | some (name, value) => options.assign name value

end QueryOptions

namespace QueryStep

/-- What a step writes to the ordering: a primary one takes the place of all orderings, a secondary
one stands behind them. -/
def order? (orders : Option String) (step : QueryStep) : Option String :=
  step.primaryTerm?.or
    (step.secondaryTerm?.bind fun term => orders.map fun orders => orders ++ "," ++ term)

/-- What a step writes, given the orderings before it. -/
def assignment? (orders : Option String) (step : QueryStep) : Option (String × Option String) :=
  step.write?.or ((step.order? orders).map fun value => (QueryOptions.orderName, some value))

/-- **What a step changes**: it writes what it gives, and adds its clause. -/
theorem runOrKeep_changes (query : Query) (step : QueryStep) :
    (runOrKeep query step).options =
        query.options.write (step.assignment? (query.options.get? QueryOptions.orderName)) ∧
      (runOrKeep query step).expands = query.expands ++ step.clause?.toList := by
  have unchanged : query.expands = query.expands ++ [] := (List.append_nil _).symm
  cases step with
  | entitySet | orderBy | top | skip | count => exact ⟨rfl, unchanged⟩
  | expand field => exact ⟨rfl, rfl⟩
  | select projection =>
    simp only [runOrKeep, run, Query.select, assignment?, write?, clause?]
    cases projection.fieldNames <;> exact ⟨rfl, unchanged⟩
  | filter condition =>
    simp only [runOrKeep, run, Query.filter, Query.withFilter, assignment?, write?, clause?]
    cases condition.render <;> exact ⟨rfl, unchanged⟩
  | expandWith field steps =>
    simp only [runOrKeep, run, assignment?, write?, clause?]
    cases runAll steps .empty with
    | error error => exact ⟨rfl, unchanged⟩
    | ok nested => exact ⟨rfl, rfl⟩
  | thenBy field direction =>
    simp only [runOrKeep, run, Query.thenBy, assignment?, order?, write?, clause?]
    cases query.options.get? QueryOptions.orderName <;> exact ⟨rfl, unchanged⟩
  | apply steps =>
    simp only [runOrKeep, run, assignment?, write?, clause?]
    cases Aggregation.run steps .empty <;> exact ⟨rfl, unchanged⟩

/-- A step that writes an option on its own writes another one than the ordering, and no ordering. -/
theorem of_write? {step : QueryStep} {name : String} {value : Option String}
    (writes : step.write? = some (name, value)) :
    name ≠ QueryOptions.orderName ∧ ∀ orders, step.order? orders = none := by
  cases step with
  | entitySet | expand | expandWith | orderBy | thenBy => cases writes
  | top number =>
    cases writes
    exact ⟨by decide, fun _ => rfl⟩
  | skip number =>
    cases writes
    exact ⟨by decide, fun _ => rfl⟩
  | count enabled =>
    cases writes
    exact ⟨by decide, fun _ => rfl⟩
  | select projection =>
    obtain ⟨names, -, same⟩ := Option.map_eq_some_iff.mp writes
    cases same
    exact ⟨by decide, fun _ => rfl⟩
  | filter condition =>
    obtain ⟨text, -, same⟩ := Option.map_eq_some_iff.mp writes
    cases same
    exact ⟨by decide, fun _ => rfl⟩
  | apply steps =>
    obtain ⟨aggregation, -, same⟩ := Option.map_eq_some_iff.mp writes
    cases same
    exact ⟨by decide, fun _ => rfl⟩

/-- An option other than the ordering is what the step writes to it, or else what it was. -/
theorem get?_runOrKeep {name : String} (other : name ≠ QueryOptions.orderName) (query : Query)
    (step : QueryStep) :
    (runOrKeep query step).options.get? name =
      (step.written? name).getD (query.options.get? name) := by
  rw [(runOrKeep_changes query step).1, assignment?, written?]
  cases step.write? with
  | some written =>
    rw [Option.some_or, QueryOptions.write, QueryOptions.get?_assign, Option.bind_some]
    by_cases same : name = written.1
    · rw [if_pos same, if_pos same.symm, Option.getD_some]
    · rw [if_neg same, if_neg (Ne.symm same), Option.getD_none]
  | none =>
    rw [Option.none_or, Option.bind_none, Option.getD_none]
    cases step.order? (query.options.get? QueryOptions.orderName) with
    | none => rfl
    | some orders =>
      rw [Option.map_some, QueryOptions.write, QueryOptions.get?_assign, if_neg other]

/-- The ordering is what the step writes to it, or else what it was. -/
theorem get?_orderName_runOrKeep (query : Query) (step : QueryStep) :
    (runOrKeep query step).options.get? QueryOptions.orderName =
      (step.order? (query.options.get? QueryOptions.orderName)).or
        (query.options.get? QueryOptions.orderName) := by
  rw [(runOrKeep_changes query step).1, assignment?]
  cases writes : step.write? with
  | some written =>
    obtain ⟨other, silent⟩ := of_write? writes
    rw [Option.some_or, QueryOptions.write, QueryOptions.get?_assign, if_neg other.symm, silent,
      Option.none_or]
  | none =>
    rw [Option.none_or]
    cases step.order? (query.options.get? QueryOptions.orderName) with
    | none => rfl
    | some orders =>
      rw [Option.map_some, QueryOptions.write, QueryOptions.get?_assign, if_pos rfl, Option.some_or]

end QueryStep

/-! ## The order of options -/

namespace QueryOptions

/-- The names of the options that are set, in order. -/
def names (options : QueryOptions) : List String := options.entries.map Prod.fst

/-- The names are those of the options that are set. -/
theorem contains_iff {options : QueryOptions} {name : String} :
    options.contains name = true ↔ name ∈ options.names := by
  rw [contains, get?, List.lookup_isSome_iff, names, List.mem_map]
  refine exists_congr fun entry => and_congr_right fun _ => ?_
  rw [beq_iff_eq, eq_comm]

/-- A write leaves names out, or adds a new one behind all others. -/
theorem names_write (options : QueryOptions) (write : Option (String × Option String)) :
    (options.write write).names.Sublist options.names ∨
      ∃ name, name ∉ options.names ∧ (options.write write).names = options.names ++ [name] := by
  match write with
  | none => exact .inl (List.Sublist.refl _)
  | some (name, none) => exact .inl (List.filter_sublist.map Prod.fst)
  | some (name, some text) =>
    have named : (options.write (some (name, some text))).names =
        if name ∈ options.names then options.names else options.names ++ [name] :=
      map_fst_setEntry name text options.entries
    rw [named]
    by_cases known : name ∈ options.names
    · rw [if_pos known]
      exact .inl (List.Sublist.refl _)
    · rw [if_neg known]
      exact .inr ⟨name, known, rfl⟩

/-- **Names stay in order**: a write keeps an order of the names if it keeps the order of those that stay,
and a new name comes behind all others. -/
theorem pairwise_names_write {Before Behind : String → String → Prop} {options : QueryOptions}
    {write : Option (String × Option String)} (ordered : options.names.Pairwise Before)
    (kept : ∀ first ∈ options.names, ∀ second ∈ options.names,
      first ∈ (options.write write).names → second ∈ (options.write write).names →
      Before first second → Behind first second)
    (added : ∀ first ∈ options.names, ∀ name ∉ options.names,
      first ∈ (options.write write).names → name ∈ (options.write write).names → Behind first name) :
    (options.write write).names.Pairwise Behind := by
  rcases options.names_write write with fewer | ⟨name, unset, more⟩
  · refine (ordered.sublist fewer).imp_of_mem fun {first second} isFirst isSecond before => ?_
    exact kept first (fewer.mem isFirst) second (fewer.mem isSecond) isFirst isSecond before
  · have stays {other : String} (member : other ∈ options.names) :
        other ∈ (options.write write).names := more ▸ List.mem_append_left _ member
    have isNew : name ∈ (options.write write).names := more ▸ List.mem_concat_self
    rw [more]
    refine List.pairwise_append.mpr ⟨?_, List.pairwise_singleton _ _, ?_⟩
    · refine ordered.imp_of_mem fun {first second} isFirst isSecond before => ?_
      exact kept first isFirst second isSecond (stays isFirst) (stays isSecond) before
    · intro first known last isLast
      rw [List.mem_singleton.mp isLast]
      exact added first known name unset (stays known) isNew

end QueryOptions

namespace Query

/-- One more step is run behind all others. -/
theorem buildSkipping_concat (steps : List QueryStep) (step : QueryStep) :
    buildSkipping (steps ++ [step]) = QueryStep.runOrKeep (buildSkipping steps) step := by
  rw [buildSkipping, List.foldl_append]
  rfl

/-- Whether an option is set behind the first of some steps. -/
def IsSetBehind (steps : List QueryStep) (count : Nat) (name : String) : Prop :=
  name ∈ (buildSkipping (steps.take count)).options.names

/-- Whether an option goes from unset to set at the step of an index. -/
def SetsAt (steps : List QueryStep) (index : Nat) (name : String) : Prop :=
  index < steps.length ∧ ¬ IsSetBehind steps index name ∧ IsSetBehind steps (index + 1) name

/-- Whether an option last went from unset to set at the step of an index. -/
def LastSetsAt (steps : List QueryStep) (index : Nat) (name : String) : Prop :=
  SetsAt steps index name ∧ ∀ other, SetsAt steps other name → other ≤ index

/-- Whether one option last went from unset to set before another one did. -/
def SetsEarlier (steps : List QueryStep) (first second : String) : Prop :=
  ∃ index later, LastSetsAt steps index first ∧ LastSetsAt steps later second ∧ index < later

section OneMoreStep

variable {steps : List QueryStep} {step : QueryStep} {name : String} {index : Nat}

/-- With one more step, an option goes from unset to set where it did before, or at this step. -/
theorem setsAt_concat :
    SetsAt (steps ++ [step]) index name ↔
      SetsAt steps index name ∨
        index = steps.length ∧ name ∉ (buildSkipping steps).options.names ∧
          name ∈ (buildSkipping (steps ++ [step])).options.names := by
  have inside {count : Nat} (small : count ≤ steps.length) :
      (steps ++ [step]).take count = steps.take count := List.take_append_of_le_length small
  have all : (steps ++ [step]).take (steps.length + 1) = steps ++ [step] :=
    List.take_of_length_le (by simp)
  simp only [SetsAt, IsSetBehind, List.length_append, List.length_singleton]
  rcases Nat.lt_trichotomy index steps.length with before | last | behind
  · rw [inside (Nat.le_of_lt before), inside before]
    simp [before, Nat.lt_succ_of_lt before, Nat.ne_of_lt before]
  · subst last
    rw [inside (Nat.le_refl _), List.take_length, all]
    simp
  · simp [Nat.not_lt.mpr (Nat.le_of_lt behind), Nat.not_lt.mpr (Nat.succ_le_of_lt behind),
      Nat.ne_of_gt behind]

/-- An option that is set before one more step was last set where it was. -/
theorem LastSetsAt.concat (last : LastSetsAt steps index name)
    (isSet : name ∈ (buildSkipping steps).options.names) :
    LastSetsAt (steps ++ [step]) index name := by
  refine ⟨setsAt_concat.mpr (.inl last.1), fun other sets => ?_⟩
  rcases setsAt_concat.mp sets with before | ⟨-, unset, -⟩
  · exact last.2 other before
  · exact absurd isSet unset

/-- An option that one more step sets anew was last set at this step. -/
theorem lastSetsAt_length (unset : name ∉ (buildSkipping steps).options.names)
    (isSet : name ∈ (buildSkipping (steps ++ [step])).options.names) :
    LastSetsAt (steps ++ [step]) steps.length name := by
  refine ⟨setsAt_concat.mpr (.inr ⟨rfl, unset, isSet⟩), fun other sets => ?_⟩
  have inside := sets.1
  rw [List.length_append, List.length_singleton] at inside
  exact Nat.le_of_lt_succ inside

end OneMoreStep

/-- **Options are in the order in which they were last set.** -/
theorem names_buildSkipping (steps : List QueryStep) :
    (∀ name ∈ (buildSkipping steps).options.names, ∃ index, LastSetsAt steps index name) ∧
      (buildSkipping steps).options.names.Pairwise (SetsEarlier steps) := by
  induction steps using List.reverseRecOn with
  | nil => exact ⟨nofun, .nil⟩
  | append_singleton steps step ih =>
    obtain ⟨since, inOrder⟩ := ih
    have old {name : String} (member : name ∈ (buildSkipping steps).options.names) :
        ∃ index < steps.length, LastSetsAt (steps ++ [step]) index name := by
      obtain ⟨index, last⟩ := since name member
      exact ⟨index, last.1.1, last.concat member⟩
    constructor
    · intro name isSet
      by_cases known : name ∈ (buildSkipping steps).options.names
      · obtain ⟨index, -, last⟩ := old known
        exact ⟨index, last⟩
      · exact ⟨steps.length, lastSetsAt_length known isSet⟩
    · have written : (buildSkipping (steps ++ [step])).options =
          (buildSkipping steps).options.write
            (step.assignment? ((buildSkipping steps).options.get? QueryOptions.orderName)) := by
        rw [buildSkipping_concat]
        exact (QueryStep.runOrKeep_changes (buildSkipping steps) step).1
      rw [written]
      refine QueryOptions.pairwise_names_write inOrder ?_ ?_
      · rintro first isFirst second isSecond - - ⟨index, later, firstLast, secondLast, before⟩
        exact ⟨index, later, firstLast.concat isFirst, secondLast.concat isSecond, before⟩
      · intro first known name unset _ isSet
        rw [← written] at isSet
        obtain ⟨index, before, last⟩ := old known
        exact ⟨index, steps.length, last, lastSetsAt_length unset isSet, before⟩

/-! ## Values and clauses -/

/-- What the last of the steps that write an option leaves in it. -/
def lastWrite (steps : List QueryStep) (name : String) : Option String :=
  (steps.filterMap (QueryStep.written? name)).getLast?.join

/-- One more step writes the option last, or leaves it as it is. -/
theorem lastWrite_concat (steps : List QueryStep) (step : QueryStep) (name : String) :
    lastWrite (steps ++ [step]) name = (step.written? name).getD (lastWrite steps name) := by
  rw [lastWrite, List.filterMap_append, List.getLast?_append]
  cases written : step.written? name with
  | none => simp [written, lastWrite]
  | some value => simp [written]

/-- An option other than the ordering holds what was last written to it. -/
theorem get?_buildSkipping (steps : List QueryStep) {name : String}
    (other : name ≠ QueryOptions.orderName) :
    (buildSkipping steps).options.get? name = lastWrite steps name := by
  induction steps using List.reverseRecOn with
  | nil => rfl
  | append_singleton steps step ih =>
    rw [buildSkipping_concat, QueryStep.get?_runOrKeep other, ih, lastWrite_concat]

/-- There is an ordering if there was a primary one. -/
theorem isSome_orders_iff (steps : List QueryStep) :
    ((buildSkipping steps).options.get? QueryOptions.orderName).isSome ↔
      ∃ step ∈ steps, step.primaryTerm?.isSome := by
  induction steps using List.reverseRecOn with
  | nil => simp [buildSkipping, Query.empty]
  | append_singleton steps step ih =>
    have either (orders : Option String) : ((step.order? orders).or orders).isSome ↔
        step.primaryTerm?.isSome ∨ orders.isSome := by
      rw [QueryStep.order?]
      cases step.primaryTerm? <;> cases step.secondaryTerm? <;> cases orders <;> simp
    rw [buildSkipping_concat, QueryStep.get?_orderName_runOrKeep, either, ih, or_comm]
    simp only [List.mem_append, List.mem_singleton, or_and_right, exists_or, exists_eq_left]

/-- The ordering is made of the last primary term and all secondary ones behind it. -/
theorem get?_orderName_of_last {before after : List QueryStep} {primary : QueryStep} {term : String}
    (isPrimary : primary.primaryTerm? = some term)
    (secondary : ∀ step ∈ after, step.primaryTerm? = none) :
    (buildSkipping (before ++ primary :: after)).options.get? QueryOptions.orderName =
      some (",".intercalate (term :: after.filterMap QueryStep.secondaryTerm?)) := by
  induction after using List.reverseRecOn with
  | nil =>
    rw [buildSkipping_concat, QueryStep.get?_orderName_runOrKeep, QueryStep.order?, isPrimary]
    simp
  | append_singleton after step ih =>
    have last := secondary step List.mem_concat_self
    have others := ih fun step member => secondary step (List.mem_append_left _ member)
    rw [← List.cons_append, ← List.append_assoc, buildSkipping_concat,
      QueryStep.get?_orderName_runOrKeep, others, QueryStep.order?, last, Option.none_or,
      List.filterMap_append]
    cases added : step.secondaryTerm? with
    | none => simp [added]
    | some next =>
      have joined := String.intercalate_append_of_ne_nil (s := ",")
        (List.cons_ne_nil term (after.filterMap QueryStep.secondaryTerm?))
        (List.cons_ne_nil next [])
      rw [String.intercalate_singleton] at joined
      simp [added, ← joined]

/-- Clauses are added in the order of the steps. -/
theorem expands_buildSkipping (steps : List QueryStep) :
    (buildSkipping steps).expands = steps.filterMap QueryStep.clause? := by
  induction steps using List.reverseRecOn with
  | nil => rfl
  | append_singleton steps step ih =>
    rw [buildSkipping_concat, (QueryStep.runOrKeep_changes _ step).2, ih, List.filterMap_append]
    cases clause : step.clause? <;> simp [clause]

/-! ## The law of runs -/

/-- What a list of steps asks of a query. -/
structure LastWrites (steps : List QueryStep) (query : Query) : Prop where
  /-- Without a primary ordering the records are not ordered. -/
  unordered : (∀ step ∈ steps, step.primaryTerm? = none) →
    query.options.get? QueryOptions.orderName = none
  /-- The last primary ordering comes first, and all secondary ones behind it follow in order. -/
  ordered : ∀ before primary term after, steps = before ++ primary :: after →
    primary.primaryTerm? = some term → (∀ step ∈ after, step.primaryTerm? = none) →
    query.options.get? QueryOptions.orderName =
      some (",".intercalate (term :: after.filterMap QueryStep.secondaryTerm?))
  /-- A secondary ordering may come next if there has been a primary one. -/
  thenBy : ∀ field direction,
    (∃ next, (QueryStep.thenBy field direction).run query = .ok next) ↔
      ∃ step ∈ steps, step.primaryTerm?.isSome
  /-- Any other option holds what the last step that writes it leaves in it. -/
  values : ∀ name, name ≠ QueryOptions.orderName →
    query.options.get? name = lastWrite steps name
  /-- The clauses are those of the steps in order. -/
  clauses : query.expands = steps.filterMap QueryStep.clause?
  /-- Each option has gone from unset to set at some step. -/
  since : ∀ name ∈ query.options.names, ∃ index, LastSetsAt steps index name
  /-- The options are in the order in which they last did. -/
  inOrder : query.options.names.Pairwise (SetsEarlier steps)

/-- A secondary ordering can be added to a query that has an ordering. -/
theorem run_thenBy_iff (query : Query) (field : FieldName) (direction : Direction) :
    (∃ next, (QueryStep.thenBy field direction).run query = .ok next) ↔
      (query.options.get? QueryOptions.orderName).isSome := by
  simp only [QueryStep.run, Query.thenBy]
  cases query.options.get? QueryOptions.orderName <;> simp

/-- **Last writes count.** After any steps, the ones that fail left out, a query holds what the list of
steps asks for. -/
theorem lastWrites_buildSkipping (steps : List QueryStep) : LastWrites steps (buildSkipping steps) where
  unordered := by
    intro none
    rw [← Option.not_isSome_iff_eq_none, isSome_orders_iff]
    rintro ⟨step, member, primary⟩
    rw [none step member] at primary
    cases primary
  ordered := by
    rintro before primary term after rfl isPrimary secondary
    exact get?_orderName_of_last isPrimary secondary
  thenBy := fun field direction =>
    (run_thenBy_iff _ field direction).trans (isSome_orders_iff steps)
  values := fun _ other => get?_buildSkipping steps other
  clauses := expands_buildSkipping steps
  since := (names_buildSkipping steps).1
  inOrder := (names_buildSkipping steps).2

/-- Clearing a limit and setting it again moves it behind the count; the failed step is left out. -/
example :
    (buildSkipping [.thenBy (.plain "no") .ascending, .top 5, .count true, .top 0, .top 3]).options =
      ⟨[("$count", "true"), ("$top", "3")]⟩ := by decide

end Query

end ODataClient

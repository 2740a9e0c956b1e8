import ODataClient.Client.Address
import ODataClient.Query.Step

/-! # Only wire names show

A field reaches what a query shows in many places: the paths of conditions, the receivers of calls,
projections, orderings, expand clauses, groupings, aggregate terms and the descriptions inside of
errors. In each of them it is its wire name that is written, so steps that differ in local names only
cannot be told apart.

* **`QueryStep.mapFields`** — a step with every field replaced, down to the leaves of its trees and
  through nested steps; `FieldName.onWire` forgets of a field all but its wire name.
* **`Expr.render_mapFields`**, **`Projection.fieldNames_mapFields`**, **`Aggregation.run_mapFields`** —
  replacing fields by others of the same wire names changes no text and no error.
* **`QueryStep.run_mapFields`** — nor does it change what a step makes of a query; the induction is on
  the depth of the nesting.
* **`Query.ShowAlike`** — two sequences of steps that nothing shown can tell apart. -/

namespace ODataClient

/-! ## Replacing fields -/

namespace FieldName

/-- The field known by its wire name only. -/
def onWire (field : FieldName) : FieldName := .plain field.wireName

@[simp] theorem wireName_onWire (field : FieldName) : field.onWire.wireName = field.wireName := rfl

end FieldName

/-- The path with every field replaced. -/
def MemberPath.mapFields (change : FieldName → FieldName) (path : MemberPath) : MemberPath :=
  ⟨path.segments.map change⟩

/-- The tree with every field replaced. -/
def Expr.mapFields (change : FieldName → FieldName) : Expr → Expr
  | comparison op left right => comparison op (left.mapFields change) (right.mapFields change)
  | logical op left right => logical op (left.mapFields change) (right.mapFields change)
  | negation inner => negation (inner.mapFields change)
  | member path => member (path.mapFields change)
  | literal value => literal value
  | call method receiver argument =>
    call method (receiver.mapFields change) (argument.mapFields change)
  | membership item set => membership (item.mapFields change) (set.mapFields change)
  | collection values => collection values
  | convert inner => convert (inner.mapFields change)

/-- The projection with every field replaced. -/
def Projection.mapFields (change : FieldName → FieldName) : Projection → Projection
  | pick items => pick (items.map (Expr.mapFields change))
  | single expr => single (expr.mapFields change)

/-- The step of an aggregation with every field replaced. -/
def AggregationStep.mapFields (change : FieldName → FieldName) : AggregationStep → AggregationStep
  | groupBy fields => groupBy (fields.map (Expr.mapFields change))
  | aggregate field op name => aggregate (change field) op name
  | count name => count name

namespace QueryStep

mutual

/-- The step with every field replaced. -/
def mapFields (change : FieldName → FieldName) : QueryStep → QueryStep
  | entitySet name => entitySet name
  | select projection => select (projection.mapFields change)
  | filter condition => filter (condition.mapFields change)
  | expand field => expand (change field)
  | expandWith field steps => expandWith (change field) (mapAllFields change steps)
  | orderBy field direction => orderBy (change field) direction
  | thenBy field direction => thenBy (change field) direction
  | top number => top number
  | skip number => skip number
  | count enabled => count enabled
  | apply steps => apply (steps.map (AggregationStep.mapFields change))

/-- The steps with every field replaced. -/
def mapAllFields (change : FieldName → FieldName) : List QueryStep → List QueryStep
  | [] => []
  | step :: rest => mapFields change step :: mapAllFields change rest

end

theorem mapAllFields_eq_map (change : FieldName → FieldName) (steps : List QueryStep) :
    mapAllFields change steps = steps.map (mapFields change) := by
  induction steps with
  | nil => rfl
  | cons step rest ih => rw [mapAllFields, ih, List.map_cons]

end QueryStep

/-! ## What is written

`change` replaces fields by others of the same wire names. -/

section

variable {change : FieldName → FieldName} (keeps : ∀ field, (change field).wireName = field.wireName)
include keeps

theorem MemberPath.wirePath_mapFields (path : MemberPath) :
    (path.mapFields change).wirePath = path.wirePath := by
  simp [wirePath, mapFields, keeps, Function.comp_def]

namespace Expr

/-- A node is described alike. -/
theorem describe_mapFields (expr : Expr) : (expr.mapFields change).describe = expr.describe := by
  induction expr with
  | member path => simp only [mapFields, describe, path.wirePath_mapFields keeps]
  | convert inner ih => exact ih
  | comparison | logical | negation | literal | call | membership | collection => rfl

/-- An operand has the same text or the same error. -/
theorem renderOperand_mapFields (expr : Expr) :
    (expr.mapFields change).renderOperand = expr.renderOperand := by
  induction expr with
  | member path => simp only [mapFields, renderOperand, path.wirePath_mapFields keeps]
  | call method receiver argument ihReceiver ihArgument =>
    simp only [mapFields, renderOperand, ihReceiver, ihArgument]
  | convert inner ih => exact ih
  | comparison | logical | negation | literal | membership | collection => rfl

/-- The left side of a comparison has the same text or the same error. -/
theorem renderSubject_mapFields (expr : Expr) :
    (expr.mapFields change).renderSubject = expr.renderSubject := by
  induction expr with
  | member path => simp only [mapFields, renderSubject, path.wirePath_mapFields keeps]
  | call method receiver argument =>
    exact renderOperand_mapFields keeps (call method receiver argument)
  | convert inner ih => exact ih
  | comparison | logical | negation | literal | membership | collection => rfl

/-- The set of a membership test has the same texts or the same error. -/
theorem renderSet_mapFields (expr : Expr) : (expr.mapFields change).renderSet = expr.renderSet := by
  induction expr with
  | member path =>
    simp only [mapFields, renderSet, describe, path.wirePath_mapFields keeps]
  | convert inner ih => exact ih
  | comparison | logical | negation | literal | call | membership | collection => rfl

/-- **A condition has the same text or the same error.** -/
theorem render_mapFields (expr : Expr) : (expr.mapFields change).render = expr.render := by
  induction expr with
  | comparison op left right =>
    simp only [mapFields, render, renderSubject_mapFields keeps left,
      renderOperand_mapFields keeps right]
  | logical op left right ihLeft ihRight => simp only [mapFields, render, ihLeft, ihRight]
  | negation inner ih => simp only [mapFields, render, ih]
  | member path => simp only [mapFields, render, path.wirePath_mapFields keeps]
  | call method receiver argument =>
    exact renderOperand_mapFields keeps (call method receiver argument)
  | membership item set =>
    simp only [mapFields, render, renderSet_mapFields keeps set, renderOperand_mapFields keeps item]
  | convert inner ih => exact ih
  | literal | collection => rfl

end Expr

namespace Projection

/-- An item has the same name or the same error: it stays a path of as many segments. -/
theorem itemName_mapFields (expr : Expr) : itemName (expr.mapFields change) = itemName expr := by
  cases expr with
  | member path =>
    -- Whether a path is a plain field depends on the number of its segments, which no replacement
    -- changes; any other path is described in the error.
    have described := (Expr.member path).describe_mapFields keeps
    obtain ⟨segments⟩ := path
    cases segments with
    | nil => rfl
    | cons field rest =>
      cases rest with
      | nil => simp [Expr.mapFields, MemberPath.mapFields, itemName, keeps field]
      | cons => simpa [Expr.mapFields, MemberPath.mapFields, itemName] using described
  | convert inner =>
    simp only [Expr.mapFields, itemName, Expr.describe, inner.describe_mapFields keeps]
  | comparison | logical | negation | literal | call | membership | collection => rfl

theorem itemNames_mapFields (items : List Expr) :
    itemNames (items.map (Expr.mapFields change)) = itemNames items := by
  induction items with
  | nil => rfl
  | cons item rest ih => simp only [List.map_cons, itemNames, itemName_mapFields keeps item, ih]

/-- **A projection has the same names or the same error.** -/
theorem fieldNames_mapFields (projection : Projection) :
    (projection.mapFields change).fieldNames = projection.fieldNames := by
  cases projection with
  | pick items =>
    cases items with
    | nil => rfl
    | cons item rest => exact itemNames_mapFields keeps (item :: rest)
  | single expr => simp only [mapFields, fieldNames, expr.describe_mapFields keeps]

end Projection

namespace Aggregation

/-- A grouping has the same path or the same error. -/
theorem groupPath_mapFields (expr : Expr) : groupPath (expr.mapFields change) = groupPath expr := by
  induction expr with
  | member path => simp only [Expr.mapFields, groupPath, path.wirePath_mapFields keeps]
  | convert inner ih => exact ih
  | comparison | logical | negation | literal | call | membership | collection => rfl

/-- The same groupings are repetitions, and the same ones are added. -/
theorem addGroups_mapFields (fields : List Expr) (groups : List String) :
    addGroups (fields.map (Expr.mapFields change)) groups = addGroups fields groups := by
  induction fields generalizing groups with
  | nil => rfl
  | cons field rest ih => simp only [List.map_cons, addGroups, groupPath_mapFields keeps field, ih]

theorem step_mapFields (aggregation : Aggregation) (step : AggregationStep) :
    aggregation.step (step.mapFields change) = aggregation.step step := by
  cases step with
  | groupBy fields =>
    simp only [AggregationStep.mapFields, Aggregation.step, addGroups_mapFields keeps fields]
  | aggregate field op name => simp only [AggregationStep.mapFields, Aggregation.step, keeps field]
  | count name => rfl

/-- **The calls on an aggregation have the same result or the same error.** -/
theorem run_mapFields (steps : List AggregationStep) (aggregation : Aggregation) :
    run (steps.map (AggregationStep.mapFields change)) aggregation = run steps aggregation := by
  induction steps generalizing aggregation with
  | nil => rfl
  | cons step rest ih => simp only [List.map_cons, run, step_mapFields keeps aggregation step, ih]

end Aggregation

end

namespace QueryStep

variable {change : FieldName → FieldName}

mutual

/-- **A step makes the same of a query, or fails with the same error.** -/
theorem run_mapFields (keeps : ∀ field, (change field).wireName = field.wireName)
    (step : QueryStep) (query : Query) : (step.mapFields change).run query = step.run query := by
  cases step with
  | select projection =>
    simp only [mapFields, run, Query.select, projection.fieldNames_mapFields keeps]
  | filter condition => simp only [mapFields, run, Query.filter, condition.render_mapFields keeps]
  | expand field => simp only [mapFields, run, Query.expand, keeps field]
  | expandWith field steps =>
    -- The nested steps build the same query, and around it the clause is the same.
    have clause (nested : Query) :
        query.expandWith (change field) nested = query.expandWith field nested := by
      simp only [Query.expandWith, Query.expandClause, keeps field]
    simp only [mapFields, run, runAll_mapFields keeps steps, funext clause]
  | orderBy field direction => simp only [mapFields, run, Query.orderBy, keeps field]
  | thenBy field direction => simp only [mapFields, run, Query.thenBy, keeps field]
  | apply steps => simp only [mapFields, run, Aggregation.run_mapFields keeps steps]
  | entitySet | top | skip | count => rfl

/-- A sequence of steps makes the same of a query, or fails with the same error. -/
theorem runAll_mapFields (keeps : ∀ field, (change field).wireName = field.wireName)
    (steps : List QueryStep) (query : Query) :
    runAll (mapAllFields change steps) query = runAll steps query := by
  cases steps with
  | nil => rfl
  | cons step rest =>
    simp only [mapAllFields, runAll, run_mapFields keeps step, runAll_mapFields keeps rest]

end

end QueryStep

/-! ## What two sequences of steps show -/

namespace Query

/-- The outcomes of steps, each on the query that the steps before it left: a step that fails leaves
the query as it was. -/
def outcomes (query : Query) : List QueryStep → List (Except QueryError Query)
  | [] => []
  | step :: rest => step.run query :: outcomes (QueryStep.runOrKeep query step) rest

/-- The messages of the steps that fail. -/
def errorMessages (steps : List QueryStep) : List String :=
  (empty.outcomes steps).filterMap fun
    | .ok _ => none
    | .error error => some error.message

/-- Two sequences of steps that nothing shown can tell apart. -/
structure ShowAlike (first second : List QueryStep) : Prop where
  /-- Every step leaves the same query or fails with the same error. -/
  outcomes : empty.outcomes first = empty.outcomes second
  /-- The errors have the same messages. -/
  messages : errorMessages first = errorMessages second
  /-- A run that stops at the first error ends alike. -/
  builds : build first = build second
  /-- The same options are set in the same order, each to the same value. -/
  options : (buildSkipping first).options = (buildSkipping second).options
  /-- The expand clauses are the same. -/
  clauses : (buildSkipping first).expands = (buildSkipping second).expands
  /-- The query string is the same. -/
  queryString : (buildSkipping first).queryString = (buildSkipping second).queryString
  /-- The path of the request is the same below every root. -/
  path : ∀ (root : ServiceRoot) (entitySet : String),
    root.queryPath entitySet (buildSkipping first) = root.queryPath entitySet (buildSkipping second)

section

variable {change : FieldName → FieldName} (keeps : ∀ field, (change field).wireName = field.wireName)
include keeps

theorem runOrKeep_mapFields (query : Query) (step : QueryStep) :
    QueryStep.runOrKeep query (step.mapFields change) = QueryStep.runOrKeep query step := by
  simp only [QueryStep.runOrKeep, step.run_mapFields keeps]

/-- The steps have the same outcomes, each on the same query left by the steps before it. -/
theorem outcomes_map_mapFields (steps : List QueryStep) (query : Query) :
    query.outcomes (steps.map (QueryStep.mapFields change)) = query.outcomes steps := by
  induction steps generalizing query with
  | nil => rfl
  | cons step rest ih =>
    simp only [List.map_cons, outcomes, step.run_mapFields keeps, runOrKeep_mapFields keeps, ih]

theorem build_map_mapFields (steps : List QueryStep) :
    build (steps.map (QueryStep.mapFields change)) = build steps := by
  rw [build, build, ← QueryStep.mapAllFields_eq_map, QueryStep.runAll_mapFields keeps]

theorem buildSkipping_map_mapFields (steps : List QueryStep) :
    buildSkipping (steps.map (QueryStep.mapFields change)) = buildSkipping steps := by
  simp only [buildSkipping, List.foldl_map, runOrKeep_mapFields keeps]

end

/-- **Rendering depends on wire names only.** Two sequences of steps that are the same once every
field is known by its wire name show the same in every respect, in particular if they differ in the
local names of fields with a declared wire name and nowhere else. The local names may differ from
place to place: no single replacement of fields need lead from one sequence to the other. -/
theorem showAlike_of_onWire {first second : List QueryStep}
    (same : first.map (QueryStep.mapFields .onWire) = second.map (QueryStep.mapFields .onWire)) :
    ShowAlike first second := by
  have outcomes : empty.outcomes first = empty.outcomes second := by
    rw [← outcomes_map_mapFields FieldName.wireName_onWire first, same,
      outcomes_map_mapFields FieldName.wireName_onWire second]
  have builds : build first = build second := by
    rw [← build_map_mapFields FieldName.wireName_onWire first, same,
      build_map_mapFields FieldName.wireName_onWire second]
  have left : buildSkipping first = buildSkipping second := by
    rw [← buildSkipping_map_mapFields FieldName.wireName_onWire first, same,
      buildSkipping_map_mapFields FieldName.wireName_onWire second]
  exact {
    outcomes
    messages := by rw [errorMessages, errorMessages, outcomes]
    builds
    options := by rw [left]
    clauses := by rw [left]
    queryString := by rw [left]
    path := fun root entitySet => by rw [left] }

/-- Two local names for each of two wire names: an ordering that fails, a nested filter by a string
function, and a grouping. -/
theorem showAlike_of_onWire_two_local_names :
    let steps (number payer : String) : List QueryStep :=
      [.thenBy (.renamed number "No") .ascending,
        .expandWith (.renamed payer "billTo")
          [.filter ((FieldName.renamed number "No").stringTest .contains "7")],
        .apply [.groupBy [(FieldName.renamed payer "billTo").expr.convert, .member ⟨[]⟩]]]
    (steps "number" "payer").map (QueryStep.mapFields .onWire) =
        (steps "code" "customer").map (QueryStep.mapFields .onWire) ∧
      errorMessages (steps "code" "customer") =
        ["Cannot add secondary ordering on 'No' without a prior order_by"] ∧
      ShowAlike (steps "number" "payer") (steps "code" "customer") :=
  ⟨rfl, by decide +kernel, showAlike_of_onWire rfl⟩

end Query

end ODataClient

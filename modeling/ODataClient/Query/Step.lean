import ODataClient.Query.Basic

/-! # Building queries
The steps that build a query, and their runs. A run stops at the first step that fails; a nested
query or an aggregation fails its step with the first error of its own steps. -/

namespace ODataClient

/-- One step in building a query. -/
inductive QueryStep
  /-- Address another entity set. -/
  | entitySet (name : String)
  /-- Select the fields of a projection. -/
  | select (projection : Projection)
  /-- Filter by a condition. -/
  | filter (condition : Expr)
  /-- Expand a field. -/
  | expand (field : FieldName)
  /-- Expand a field by a nested query. -/
  | expandWith (field : FieldName) (steps : List QueryStep)
  /-- Order by a field first. -/
  | orderBy (field : FieldName) (direction : Direction)
  /-- Order by a field next. -/
  | thenBy (field : FieldName) (direction : Direction)
  /-- Limit the number of records. -/
  | top (number : Int)
  /-- Pass over some records. -/
  | skip (number : Int)
  /-- Count all records, or not. -/
  | count (enabled : Bool)
  /-- Aggregate the records. -/
  | apply (steps : List AggregationStep)
deriving Repr

namespace QueryStep

mutual

/-- The query after one step. -/
def run : QueryStep → Query → Except QueryError Query
  | entitySet name, query => .ok (query.withEntitySet name)
  | select projection, query => query.select projection
  | filter condition, query => query.filter condition
  | expand field, query => .ok (query.expand field)
  | expandWith field steps, query => (runAll steps .empty).map (query.expandWith field)
  | orderBy field direction, query => .ok (query.orderBy field direction)
  | thenBy field direction, query => query.thenBy field direction
  | top number, query => .ok (query.top number)
  | skip number, query => .ok (query.skip number)
  | count enabled, query => .ok (query.count enabled)
  | apply steps, query => (Aggregation.run steps .empty).map query.aggregate

/-- The query after a sequence of steps, or the error of the first that fails. -/
def runAll : List QueryStep → Query → Except QueryError Query
  | [], query => .ok query
  | step :: rest, query =>
    match run step query with
    | .ok next => runAll rest next
    | .error error => .error error

end

/-- The query after a step; unchanged if the step fails. -/
def runOrKeep (query : Query) (step : QueryStep) : Query :=
  match step.run query with
  | .ok next => next
  | .error _ => query

end QueryStep

/-- The query that a sequence of steps builds, or the error of the first that fails. -/
def Query.build (steps : List QueryStep) : Except QueryError Query := QueryStep.runAll steps .empty

/-- The query that the steps without an error build. -/
def Query.buildSkipping (steps : List QueryStep) : Query := steps.foldl QueryStep.runOrKeep .empty

end ODataClient

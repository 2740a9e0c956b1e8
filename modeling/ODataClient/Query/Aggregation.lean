import ODataClient.Filter.Expr
import ODataClient.Query.Error
import ODataClient.Text.Identifier

/-! # Aggregation
Grouping and aggregate terms, and the option value that joins them. A grouping repeated later is
ignored; the terms keep the order of their calls. -/

namespace ODataClient

/-- How the values of a group are combined. -/
inductive AggregateOp
  /-- The sum of the values. -/
  | sum
  /-- The mean of the values. -/
  | average
  /-- The smallest value. -/
  | min
  /-- The largest value. -/
  | max
  /-- The number of different values. -/
  | countDistinct
deriving DecidableEq, Repr

/-- The keyword of an aggregate. -/
def AggregateOp.keyword : AggregateOp → String
  | sum => "sum"
  | average => "average"
  | min => "min"
  | max => "max"
  | countDistinct => "countdistinct"

/-- The groupings and aggregate terms gathered so far. -/
structure Aggregation where
  /-- The wire paths grouped by, without repetition. -/
  groups : List String
  /-- The aggregate terms. -/
  terms : List String
deriving DecidableEq, Repr

/-- One call on an aggregation. -/
inductive AggregationStep
  /-- Group by fields, given as expressions. -/
  | groupBy (fields : List Expr)
  /-- Aggregate a field under an alias. -/
  | aggregate (field : FieldName) (op : AggregateOp) (name : String)
  /-- Count the records of a group under an alias. -/
  | count (name : String)
deriving DecidableEq, Repr

namespace Aggregation

/-- No grouping and no term. -/
def empty : Aggregation := ⟨[], []⟩

/-- The wire path of a grouping: a member under any number of coercions. -/
def groupPath : Expr → Except QueryError String
  | .member path => .ok path.wirePath
  | .convert inner => groupPath inner
  | expr => .error (.invalidAggregationField expr.describe)

/-- An alias, if it is an identifier. -/
def checkAlias (name : String) : Except QueryError String :=
  if Text.isIdentifier name then .ok name
  else .error (.invalidAggregationField ("alias '" ++ name ++ "' is not an identifier"))

/-- Add a grouping unless it is there. -/
def addGroup (groups : List String) (path : String) : List String :=
  if path ∈ groups then groups else groups ++ [path]

/-- Add groupings in order, up to the first that is no member. -/
def addGroups : List Expr → List String → Except QueryError (List String)
  | [], groups => .ok groups
  | field :: rest, groups => do
    let path ← groupPath field
    addGroups rest (addGroup groups path)

/-- The aggregation after one call. -/
def step (aggregation : Aggregation) : AggregationStep → Except QueryError Aggregation
  | .groupBy fields => do
    let groups ← addGroups fields aggregation.groups
    return { aggregation with groups }
  | .aggregate field op name => do
    let name ← checkAlias name
    let term := field.wireName ++ " with " ++ op.keyword ++ " as " ++ name
    return { aggregation with terms := aggregation.terms ++ [term] }
  | .count name => do
    let name ← checkAlias name
    return { aggregation with terms := aggregation.terms ++ ["$count as " ++ name] }

/-- The aggregation after a sequence of calls, or the error of the first that fails. -/
def run : List AggregationStep → Aggregation → Except QueryError Aggregation
  | [], aggregation => .ok aggregation
  | step :: rest, aggregation => do
    let next ← aggregation.step step
    run rest next

/-- The text of the groupings. -/
def groupsText (aggregation : Aggregation) : String :=
  "(" ++ ",".intercalate aggregation.groups ++ ")"

/-- The text of the aggregate terms. -/
def termsText (aggregation : Aggregation) : String :=
  "aggregate(" ++ ",".intercalate aggregation.terms ++ ")"

/-- The option value of an aggregation, if it has any part. -/
def render? (aggregation : Aggregation) : Option String :=
  match aggregation.groups, aggregation.terms with
  | [], [] => none
  | [], _ :: _ => some aggregation.termsText
  | _ :: _, [] => some ("groupby(" ++ aggregation.groupsText ++ ")")
  | _ :: _, _ :: _ => some ("groupby(" ++ aggregation.groupsText ++ "," ++ aggregation.termsText ++ ")")

end Aggregation

end ODataClient

import ODataClient.Filter.Cache
import ODataClient.Query.Aggregation
import ODataClient.Query.Options
import ODataClient.Query.Projection
import ODataClient.Text.Percent

/-! # Queries
A query is a set of options beside a list of expand clauses. Its query string percent-encodes each
value once; a query nested in an expand clause is written raw, its entries joined by semicolons, since
the clause is encoded as a whole. -/

namespace ODataClient

/-- The direction of an ordering. -/
inductive Direction
  /-- Smallest first. -/
  | ascending
  /-- Largest first. -/
  | descending
deriving DecidableEq, Repr

/-- The term of an ordering by a field; ascending is understood. -/
def Direction.term (direction : Direction) (field : String) : String :=
  match direction with
  | ascending => field
  | descending => field ++ " desc"

/-- A query of an entity set. -/
structure Query where
  /-- The options that are set. -/
  options : QueryOptions
  /-- The expand clauses in order. -/
  expands : List String
  /-- The entity set, if it is not the one of the record type. -/
  entitySet : Option String
deriving DecidableEq, Repr

namespace Query

/-- The query of everything. -/
def empty : Query := ⟨.empty, [], none⟩

/-- Address another entity set. -/
def withEntitySet (query : Query) (name : String) : Query := { query with entitySet := some name }

/-- Return the fields of a projection only. -/
def select (query : Query) (projection : Projection) : Except QueryError Query := do
  let names ← projection.fieldNames
  return { query with options := query.options.set QueryOptions.selectName (",".intercalate names) }

/-- Take a rendered condition as the filter, or its error. -/
def withFilter (query : Query) (rendered : Except QueryError String) : Except QueryError Query := do
  let text ← rendered
  return { query with options := query.options.set QueryOptions.filterName text }

/-- Return the records that meet a condition only. -/
def filter (query : Query) (condition : Expr) : Except QueryError Query :=
  query.withFilter condition.render

/-- Return the records that meet a shared condition only, its text taken from a cache. -/
def filterShared (query : Query) (alive : Nat → Bool) (cache : FilterCache)
    (condition : SharedExpr) : Except QueryError Query × FilterCache :=
  let (rendered, cache) := cache.render alive condition
  (query.withFilter rendered, cache)

/-- Return the records that a field refers to as well. -/
def expand (query : Query) (field : FieldName) : Query :=
  { query with expands := query.expands ++ [field.wireName] }

/-- Order by a field. -/
def orderBy (query : Query) (field : FieldName) (direction : Direction) : Query :=
  { query with
    options := query.options.set QueryOptions.orderName (direction.term field.wireName) }

/-- Order by a field where all earlier orderings leave a tie. -/
def thenBy (query : Query) (field : FieldName) (direction : Direction) : Except QueryError Query :=
  match query.options.get? QueryOptions.orderName with
  | none => .error (.missingPrimaryOrder field.wireName)
  | some orders =>
    .ok { query with
      options := query.options.set QueryOptions.orderName
        (orders ++ "," ++ direction.term field.wireName) }

/-- The value of a number option; none unless it is positive. -/
def positiveText (number : Int) : Option String :=
  if 0 < number then some (integerText number) else none

/-- Return a number of records only; all of them unless it is positive. -/
def top (query : Query) (number : Int) : Query :=
  { query with options := query.options.assign QueryOptions.topName (positiveText number) }

/-- Pass over a number of records; none of them unless it is positive. -/
def skip (query : Query) (number : Int) : Query :=
  { query with options := query.options.assign QueryOptions.skipName (positiveText number) }

/-- Return the total number of records as well, or not. -/
def count (query : Query) (enabled : Bool) : Query :=
  { query with
    options := query.options.assign QueryOptions.countName (if enabled then some "true" else none) }

/-- Aggregate the records, or stop doing so if the aggregation is empty. -/
def aggregate (query : Query) (aggregation : Aggregation) : Query :=
  { query with options := query.options.assign QueryOptions.applyName aggregation.render? }

/-- The query without a limit on its records. -/
def withoutPaging (query : Query) : Query :=
  { query with
    options := (query.options.remove QueryOptions.topName).remove QueryOptions.skipName }

/-- The options and then the expand clauses joined into one. -/
def entries (query : Query) : List (String × String) :=
  query.options.entries ++
    (if query.expands = [] then [] else [(QueryOptions.expandName, ",".intercalate query.expands)])

/-- An entry with its value percent-encoded. -/
def encodedEntry (entry : String × String) : String :=
  entry.1 ++ "=" ++ Text.percentEncode entry.2

/-- An entry with its value as it is. -/
def rawEntry (entry : String × String) : String := entry.1 ++ "=" ++ entry.2

/-- The query string. -/
def queryString (query : Query) : String := "&".intercalate (query.entries.map encodedEntry)

/-- The text of the query inside an expand clause. -/
def nestedText (query : Query) : String := ";".intercalate (query.entries.map rawEntry)

/-- The clause that expands a field by a nested query. -/
def expandClause (field : FieldName) (nested : Query) : String :=
  if nested.entries = [] then field.wireName else field.wireName ++ "(" ++ nested.nestedText ++ ")"

/-- Return the records that a field refers to, as a nested query gives them. -/
def expandWith (query : Query) (field : FieldName) (nested : Query) : Query :=
  { query with expands := query.expands ++ [expandClause field nested] }

end Query

end ODataClient

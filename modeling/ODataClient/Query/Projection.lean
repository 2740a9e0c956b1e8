import ODataClient.Filter.Expr
import ODataClient.Query.Error

/-! # Projections
What a query selects. Only a list of plain fields has a written form. -/

namespace ODataClient

/-- The shape of a selection. -/
inductive Projection
  /-- A list of expressions, meant to be fields. -/
  | pick (items : List Expr)
  /-- A single expression. -/
  | single (expr : Expr)
deriving DecidableEq, Repr

namespace Projection

/-- The selection of some fields. -/
def ofFields (fields : List FieldName) : Projection := .pick (fields.map FieldName.expr)

/-- The wire name of a selected item: a member path of one segment, without coercions. -/
def itemName : Expr → Except QueryError String
  | .member ⟨[field]⟩ => .ok field.wireName
  | expr =>
    .error (.invalidProjection ("pick members must be plain fields, found " ++ expr.describe))

/-- The wire names of selected items, or the error of the first that is no plain field. -/
def itemNames : List Expr → Except QueryError (List String)
  | [] => .ok []
  | item :: rest => do
    let name ← itemName item
    let names ← itemNames rest
    return name :: names

/-- The wire names of the selected fields. -/
def fieldNames : Projection → Except QueryError (List String)
  | pick [] => .error (.invalidProjection "pick contains no fields")
  | pick (item :: rest) => itemNames (item :: rest)
  | single expr =>
    .error (.invalidProjection ("expected a pick of named fields, found " ++ expr.describe))

end Projection

end ODataClient

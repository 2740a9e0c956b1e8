/-! # Errors of query construction
The ways in which a query cannot be expressed, and the message of each. -/

namespace ODataClient

/-- The cause why a query cannot be expressed. -/
inductive QueryError
  /-- The selection is not a list of plain fields. -/
  | invalidProjection (reason : String)
  /-- A secondary ordering came before any primary one. -/
  | missingPrimaryOrder (field : String)
  /-- The operand of a comparison, a call or a membership test is no operand. -/
  | unsupportedOperand (reason : String)
  /-- The method of a call is no string function. -/
  | unsupportedMethod (method : String)
  /-- A literal has no written form. -/
  | unsupportedLiteral (reason : String)
  /-- The set of a membership test is not a filled collection. -/
  | invalidMembershipSet (reason : String)
  /-- The node is no condition. -/
  | unsupportedExpression (found : String)
  /-- A grouping is no field, or an alias is no identifier. -/
  | invalidAggregationField (reason : String)
deriving DecidableEq, Repr

namespace QueryError

/-- The message of an error. -/
def message : QueryError → String
  | invalidProjection reason => "Invalid projection: " ++ reason
  | missingPrimaryOrder field =>
    "Cannot add secondary ordering on '" ++ field ++ "' without a prior order_by"
  | unsupportedOperand reason => "Unsupported comparison operand: " ++ reason
  | unsupportedMethod method => "Unsupported method: " ++ method
  | unsupportedLiteral reason => "Unsupported literal value: " ++ reason
  | invalidMembershipSet reason => "Invalid membership set: " ++ reason
  | unsupportedExpression found => "Unsupported expression: " ++ found
  | invalidAggregationField reason => "Invalid aggregation field: " ++ reason

end QueryError

end ODataClient

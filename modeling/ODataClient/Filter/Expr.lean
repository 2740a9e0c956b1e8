import ODataClient.Model.Field
import ODataClient.Model.Literal
import ODataClient.Text.Lowercase

/-! # Condition trees
The syntax trees of filter conditions. A tree may hold shapes that the filter grammar cannot express;
rendering tells them apart. -/

namespace ODataClient

/-- The comparisons of the filter grammar. -/
inductive ComparisonOp
  /-- Equal. -/
  | eq
  /-- Not equal. -/
  | ne
  /-- Less than. -/
  | lt
  /-- Less than or equal. -/
  | le
  /-- Greater than. -/
  | gt
  /-- Greater than or equal. -/
  | ge
deriving DecidableEq, Repr

/-- The keyword of a comparison. -/
def ComparisonOp.keyword : ComparisonOp → String
  | eq => "eq"
  | ne => "ne"
  | lt => "lt"
  | le => "le"
  | gt => "gt"
  | ge => "ge"

/-- The connectives of the filter grammar. -/
inductive LogicalOp
  /-- Both conditions hold. -/
  | and
  /-- At least one condition holds. -/
  | or
deriving DecidableEq, Repr

/-- The keyword of a connective. -/
def LogicalOp.keyword : LogicalOp → String
  | and => "and"
  | or => "or"

/-- The string functions of the filter grammar. -/
inductive StringFunction
  /-- The argument occurs in the receiver. -/
  | contains
  /-- The receiver begins with the argument. -/
  | startsWith
  /-- The receiver ends with the argument. -/
  | endsWith
deriving DecidableEq, Repr

namespace StringFunction

/-- The keyword of a string function. -/
def keyword : StringFunction → String
  | contains => "contains"
  | startsWith => "startswith"
  | endsWith => "endswith"

/-- The method name that a call node carries for a string function. -/
def methodName : StringFunction → String
  | contains => "Contains"
  | startsWith => "StartsWith"
  | endsWith => "EndsWith"

/-- The string function of a method name, up to the case of ASCII letters. -/
def ofMethod? (method : String) : Option StringFunction :=
  [contains, startsWith, endsWith].find? fun function =>
    Text.asciiLower method == function.keyword

end StringFunction

/-- A node of a condition tree. -/
inductive Expr
  /-- A comparison of two operands. -/
  | comparison (op : ComparisonOp) (left right : Expr)
  /-- Two conditions joined by a connective. -/
  | logical (op : LogicalOp) (left right : Expr)
  /-- The negation of a condition. -/
  | negation (inner : Expr)
  /-- A field of the queried record, or of a record it refers to. -/
  | member (path : MemberPath)
  /-- A constant. -/
  | literal (value : Literal)
  /-- A method called on a receiver with one argument. -/
  | call (method : String) (receiver argument : Expr)
  /-- The test whether an item is among a set. -/
  | membership (item set : Expr)
  /-- A collection of constants. -/
  | collection (values : List Literal)
  /-- A type coercion, of which rendering shows nothing. -/
  | convert (inner : Expr)
deriving DecidableEq, Repr

namespace Expr

/-- The node under any number of coercions. -/
def stripConvert : Expr → Expr
  | convert inner => inner.stripConvert
  | expr => expr

/-- A short description of a node for error messages; a coercion is described by what it wraps. -/
def describe : Expr → String
  | comparison op _ _ => "comparison '" ++ op.keyword ++ "'"
  | logical op _ _ => "logical '" ++ op.keyword ++ "'"
  | negation _ => "negation"
  | member path => "member '" ++ path.wirePath ++ "'"
  | literal value => value.typeName ++ " literal"
  | call method _ _ => "call to '" ++ method ++ "'"
  | membership _ _ => "membership test"
  | collection _ => "collection"
  | convert inner => inner.describe

@[simp] theorem stripConvert_convert (inner : Expr) :
    (convert inner).stripConvert = inner.stripConvert := rfl

@[simp] theorem describe_stripConvert (expr : Expr) : expr.stripConvert.describe = expr.describe := by
  induction expr with
  | convert inner ih => exact ih
  | _ => rfl

end Expr

namespace FieldName

/-- The node that reads a field. -/
def expr (field : FieldName) : Expr := .member (.ofField field)

/-- The comparison of a field with a constant. -/
def compare (field : FieldName) (op : ComparisonOp) (value : Literal) : Expr :=
  .comparison op field.expr (.literal value)

/-- The test that a field is absent. -/
def isNull (field : FieldName) : Expr := field.compare .eq .null

/-- The test that a field is present. -/
def isNotNull (field : FieldName) : Expr := field.compare .ne .null

/-- The test that a field has one of some values. -/
def isIn (field : FieldName) (values : List Literal) : Expr :=
  .membership field.expr (.collection values)

/-- A string function of a field and a text. -/
def stringTest (field : FieldName) (function : StringFunction) (text : String) : Expr :=
  .call function.methodName field.expr (.literal (.string text))

end FieldName

end ODataClient

import ODataClient.Filter.Expr
import ODataClient.Query.Error
import ODataClient.Text.Quoted

/-! # Filter text
The rendering of condition trees in the filter grammar. Comparisons and connectives always carry
parentheses, so the text never rests on precedence. Rendering fails at the first node that has no
written form: left before right; for a call the method, then receiver and argument; for a membership
test the set, then the item. -/

namespace ODataClient

/-- The written form of a number. -/
def Number.render (number : Number) : Except QueryError String :=
  if number.isFinite then .ok number.text
  else .error (.unsupportedLiteral ("non-finite number " ++ number.text))

/-- The written form of a literal. -/
def Literal.render : Literal → Except QueryError String
  | null => .ok "null"
  | string text => .ok (Text.quoted text)
  | bool value => .ok (if value then "true" else "false")
  | datetime value => .ok value.text
  | guid value => .ok value.text
  | enumeration name => .ok (Text.quoted name)
  | number value => value.render
  | binary _ => .error (.unsupportedLiteral "binary values have no filter representation")

/-- The written forms of literals in order, or the error of the first that has none. -/
def Literal.renderAll : List Literal → Except QueryError (List String)
  | [] => .ok []
  | value :: rest => do
    let text ← value.render
    let texts ← renderAll rest
    return text :: texts

namespace Expr

/-- The written form of a call, given those of its operands. -/
def callText (function : StringFunction) (receiver argument : String) : String :=
  function.keyword ++ "(" ++ receiver ++ "," ++ argument ++ ")"

/-- The written form of a comparison or connective, given those of its sides. -/
def infixText (left keyword right : String) : String :=
  "(" ++ left ++ " " ++ keyword ++ " " ++ right ++ ")"

/-- The written form of a negation, given that of the condition. -/
def negationText (inner : String) : String := "not (" ++ inner ++ ")"

/-- The written form of a membership test, given those of the item and the values. -/
def membershipText (item : String) (values : List String) : String :=
  item ++ " in (" ++ ",".intercalate values ++ ")"

/-- The string function of a method, or the error that it is none. -/
def resolveMethod (method : String) : Except QueryError StringFunction :=
  match StringFunction.ofMethod? method with
  | some function => .ok function
  | none => .error (.unsupportedMethod method)

/-- The written form of an operand: a member, a literal or a call, under any number of coercions. -/
def renderOperand : Expr → Except QueryError String
  | member path => .ok path.wirePath
  | literal value => value.render
  | call method receiver argument => do
    let function ← resolveMethod method
    let receiverText ← receiver.renderOperand
    let argumentText ← argument.renderOperand
    return callText function receiverText argumentText
  | convert inner => inner.renderOperand
  | expr => .error (.unsupportedOperand expr.describe)

/-- The written form of the left side of a comparison: an operand that is no literal. -/
def renderSubject : Expr → Except QueryError String
  | member path => .ok path.wirePath
  | call method receiver argument => renderOperand (call method receiver argument)
  | convert inner => inner.renderSubject
  | expr =>
    .error (.unsupportedOperand
      ("left side of a comparison must be a field or function call, found " ++ expr.describe))

/-- The written forms of the values of a set: a filled collection, under any number of coercions. -/
def renderSet : Expr → Except QueryError (List String)
  | collection [] => .error (.invalidMembershipSet "collection is empty")
  | collection (value :: rest) => Literal.renderAll (value :: rest)
  | convert inner => inner.renderSet
  | expr =>
    .error (.invalidMembershipSet ("expected a literal collection, found " ++ expr.describe))

/-- The text of a condition in the filter grammar. -/
def render : Expr → Except QueryError String
  | comparison op left right => do
    let leftText ← left.renderSubject
    let rightText ← right.renderOperand
    return infixText leftText op.keyword rightText
  | logical op left right => do
    let leftText ← left.render
    let rightText ← right.render
    return infixText leftText op.keyword rightText
  | negation inner => do
    let innerText ← inner.render
    return negationText innerText
  | member path => .ok path.wirePath
  | literal value => value.render
  | call method receiver argument => renderOperand (call method receiver argument)
  | membership item set => do
    let values ← set.renderSet
    let itemText ← item.renderOperand
    return membershipText itemText values
  | collection _ => .error (.unsupportedExpression "collection")
  | convert inner => inner.render

end Expr

end ODataClient

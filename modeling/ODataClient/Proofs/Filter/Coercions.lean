import Mathlib.Data.List.Forall2
import ODataClient.Filter.Render
import ODataClient.Query.Aggregation

/-! # Coercions cannot be seen

A tree may be coerced at any node, any number of times, and show nothing of it: neither its text nor the
error that it has instead. The functions that render the parts of a tree pass over coercions each in its
own way, and errors describe the node under them.

* **`Expr.CoercedAlike`** — two trees that differ in coercions only, wherever these are.
* **`CoercedAlike.renderOperand_eq`**, …, **`CoercedAlike.render_eq`** — one induction over the relation
  for each function that renders a tree.
* **`CoercedAlike.groupPath_eq`**, **`Aggregation.addGroups_eq_of_coercedAlike`** — groupings.
* **`Expr.coercions_invisible`** — conditions and groupings in one. -/

namespace ODataClient

namespace Expr

/-- Two trees that differ in coercions only. -/
inductive CoercedAlike : Expr → Expr → Prop
  /-- The second tree has one more coercion here. -/
  | insert {first second : Expr} (alike : CoercedAlike first second) :
      CoercedAlike first (.convert second)
  /-- The second tree has one coercion less here. -/
  | remove {first second : Expr} (alike : CoercedAlike first second) :
      CoercedAlike (.convert first) second
  /-- Both are comparisons of such trees. -/
  | comparison (op : ComparisonOp) {left right otherLeft otherRight : Expr}
      (alikeLeft : CoercedAlike left otherLeft) (alikeRight : CoercedAlike right otherRight) :
      CoercedAlike (.comparison op left right) (.comparison op otherLeft otherRight)
  /-- Both are connectives of such trees. -/
  | logical (op : LogicalOp) {left right otherLeft otherRight : Expr}
      (alikeLeft : CoercedAlike left otherLeft) (alikeRight : CoercedAlike right otherRight) :
      CoercedAlike (.logical op left right) (.logical op otherLeft otherRight)
  /-- Both are negations of such trees. -/
  | negation {inner otherInner : Expr} (alike : CoercedAlike inner otherInner) :
      CoercedAlike (.negation inner) (.negation otherInner)
  /-- Both are the same member. -/
  | member (path : MemberPath) : CoercedAlike (.member path) (.member path)
  /-- Both are the same literal. -/
  | literal (value : Literal) : CoercedAlike (.literal value) (.literal value)
  /-- Both are calls of one method with such trees. -/
  | call (method : String) {receiver argument otherReceiver otherArgument : Expr}
      (alikeReceiver : CoercedAlike receiver otherReceiver)
      (alikeArgument : CoercedAlike argument otherArgument) :
      CoercedAlike (.call method receiver argument) (.call method otherReceiver otherArgument)
  /-- Both are membership tests of such trees. -/
  | membership {item set otherItem otherSet : Expr} (alikeItem : CoercedAlike item otherItem)
      (alikeSet : CoercedAlike set otherSet) :
      CoercedAlike (.membership item set) (.membership otherItem otherSet)
  /-- Both are the same collection. -/
  | collection (values : List Literal) : CoercedAlike (.collection values) (.collection values)

namespace CoercedAlike

variable {first second : Expr}

/-- An operand has the same text or the same error. -/
theorem renderOperand_eq (alike : first.CoercedAlike second) :
    first.renderOperand = second.renderOperand := by
  induction alike with
  | insert _ ih => exact ih
  | remove _ ih => exact ih
  | call method _ _ ihReceiver ihArgument =>
    rw [renderOperand, renderOperand, ihReceiver, ihArgument]
  | comparison | logical | negation | member | literal | membership | collection => rfl

/-- The left side of a comparison has the same text or the same error. -/
theorem renderSubject_eq (alike : first.CoercedAlike second) :
    first.renderSubject = second.renderSubject := by
  induction alike with
  | insert _ ih => exact ih
  | remove _ ih => exact ih
  | call method alikeReceiver alikeArgument =>
    exact renderOperand_eq (.call method alikeReceiver alikeArgument)
  | comparison | logical | negation | member | literal | membership | collection => rfl

/-- The set of a membership test has the same texts or the same error. -/
theorem renderSet_eq (alike : first.CoercedAlike second) : first.renderSet = second.renderSet := by
  induction alike with
  | insert _ ih => exact ih
  | remove _ ih => exact ih
  | comparison | logical | negation | member | literal | call | membership | collection => rfl

/-- **A condition has the same text or the same error.** -/
theorem render_eq (alike : first.CoercedAlike second) : first.render = second.render := by
  induction alike with
  | insert _ ih => exact ih
  | remove _ ih => exact ih
  | comparison op alikeLeft alikeRight =>
    rw [render, render, alikeLeft.renderSubject_eq, alikeRight.renderOperand_eq]
  | logical op _ _ ihLeft ihRight => rw [render, render, ihLeft, ihRight]
  | negation _ ih => rw [render, render, ih]
  | call method alikeReceiver alikeArgument =>
    exact renderOperand_eq (.call method alikeReceiver alikeArgument)
  | membership alikeItem alikeSet =>
    rw [render, render, alikeSet.renderSet_eq, alikeItem.renderOperand_eq]
  | member | literal | collection => rfl

/-- A grouping has the same path or the same error. -/
theorem groupPath_eq (alike : first.CoercedAlike second) :
    Aggregation.groupPath first = Aggregation.groupPath second := by
  induction alike with
  | insert _ ih => exact ih
  | remove _ ih => exact ih
  | comparison | logical | negation | member | literal | call | membership | collection => rfl

end CoercedAlike

end Expr

/-- The same groupings are added in the same order, up to the same one that is no member. -/
theorem Aggregation.addGroups_eq_of_coercedAlike {fields others : List Expr}
    (alike : List.Forall₂ Expr.CoercedAlike fields others) (groups : List String) :
    addGroups fields groups = addGroups others groups := by
  induction alike generalizing groups with
  | nil => rfl
  | cons field _ ih =>
    rw [addGroups, addGroups, field.groupPath_eq]
    -- The groupings so far depend on the path, and the induction holds for any of them.
    exact congrArg _ (funext fun path => ih (addGroup groups path))

/-- **Coercions cannot be seen.** Two trees that differ in coercions only, at conditions, sides of
comparisons, operands of calls, items or sets, have the same text, or the same error in the same words.
Groupings that differ in coercions only are recorded alike, or fail with the same error, whatever was
grouped by before. -/
theorem Expr.coercions_invisible :
    (∀ first second : Expr, first.CoercedAlike second → first.render = second.render) ∧
      ∀ fields others : List Expr, List.Forall₂ CoercedAlike fields others →
        ∀ aggregation : Aggregation,
          aggregation.step (.groupBy fields) = aggregation.step (.groupBy others) := by
  refine ⟨fun first second => CoercedAlike.render_eq, fun fields others alike aggregation => ?_⟩
  rw [Aggregation.step, Aggregation.step, Aggregation.addGroups_eq_of_coercedAlike alike]

/-- Coercions on both sides of two trees: at the whole, an item, a set and a literal on the left side of
a comparison, which is no offence for being coerced but for being a literal; and at groupings of which
the last is no member. -/
theorem Expr.coercions_invisible_everywhere :
    let name := (FieldName.plain "name").expr
    let test (item set side : Expr) : Expr :=
      .logical .and (.membership item set) (.comparison .eq side name)
    let first := test name.convert (.collection [.null]) (Expr.literal .null).convert.convert
    let second := (test name (.convert (.collection [.null])) (.literal .null)).convert
    let fields := [name.convert.convert, name, .negation name]
    let others := [name, name.convert, (Expr.negation name.convert).convert]
    first.CoercedAlike second ∧ first.render = second.render ∧
      second.render = .error (.unsupportedOperand
        "left side of a comparison must be a field or function call, found null literal") ∧
      List.Forall₂ CoercedAlike fields others ∧
      Aggregation.empty.step (.groupBy fields) = Aggregation.empty.step (.groupBy others) := by
  intro name test first second fields others
  have named : name.CoercedAlike name := .member _
  have alike : first.CoercedAlike second :=
    .insert (.logical .and (.membership named.remove (.insert (.collection _)))
      (.comparison .eq (.remove (.remove (.literal _))) named))
  have grouped : List.Forall₂ CoercedAlike fields others :=
    .cons named.remove.remove (.cons named.insert (.cons (.insert (.negation named.insert)) .nil))
  obtain ⟨conditions, groupings⟩ := coercions_invisible
  exact ⟨alike, conditions first second alike, rfl, grouped, groupings fields others grouped .empty⟩

end ODataClient

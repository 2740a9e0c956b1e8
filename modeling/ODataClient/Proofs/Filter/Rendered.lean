import ODataClient.Filter.Render
import ODataClient.Proofs.Filter.LiteralText

/-! # What a rendered text is made of

Each kind of node that was rendered has parts that were rendered, and its text is theirs put together.
Proofs about rendered trees cite these lemmas and do not open the rendering.

* **`IsLiteralText`** — what the text of a literal looks like; `Literal.isLiteralText_of_render`.
* **`renderOperand_call_eq_ok`**, **`render_comparison_eq_ok`**, … — one lemma for each kind of node.
* **`renderOperand_of_renderSubject`** — the left side of a comparison is an operand like any other.
* **`renderSet_eq_ok`** — a rendered set is a filled collection under some coercions. -/

namespace ODataClient

/-- A sequence of two steps has a result if the first step has one and the second step goes on from
it. -/
theorem bind_eq_ok {ε α β : Type} {first : Except ε α} {next : α → Except ε β} {result : β} :
    first >>= next = .ok result ↔ ∃ value, first = .ok value ∧ next value = .ok result := by
  cases first with
  | error error =>
    constructor
    · intro bound
      cases bound
    · rintro ⟨value, failed, -⟩
      cases failed
  | ok value =>
    constructor
    · intro bound
      exact ⟨value, rfl, bound⟩
    · rintro ⟨_, ⟨⟩, bound⟩
      exact bound

/-- What the texts of literals look like. -/
inductive IsLiteralText : String → Prop
  /-- One of three words. -/
  | word {text : String} (listed : text ∈ ["null", "true", "false"]) : IsLiteralText text
  /-- A string or the name of an enumeration's member, between quotes. -/
  | quoted (content : String) : IsLiteralText (Text.quoted content)
  /-- A time. -/
  | time (value : Timestamp) : IsLiteralText value.text
  /-- A globally unique identifier. -/
  | guid (value : Guid) : IsLiteralText value.text
  /-- A finite number. -/
  | numeral {text : String} (numeral : IsNumeral text) : IsLiteralText text

/-- A literal that was rendered has the text of a literal. -/
theorem Literal.isLiteralText_of_render {value : Literal} {text : String}
    (rendered : value.render = .ok text) : IsLiteralText text := by
  cases value with
  | null =>
    obtain rfl := Except.ok.inj rendered
    exact .word (by decide)
  | string content =>
    obtain rfl := Except.ok.inj rendered
    exact .quoted content
  | bool value =>
    obtain rfl := Except.ok.inj rendered
    cases value <;> exact .word (by decide)
  | datetime value =>
    obtain rfl := Except.ok.inj rendered
    exact .time value
  | guid value =>
    obtain rfl := Except.ok.inj rendered
    exact .guid value
  | enumeration name =>
    obtain rfl := Except.ok.inj rendered
    exact .quoted name
  | number value =>
    simp only [render, Number.render] at rendered
    split at rendered
    · rename_i finite
      cases rendered
      exact .numeral (Number.isNumeral_text finite)
    · cases rendered
  | binary bytes => cases rendered

/-- The literals of a list were rendered if each of them was. -/
theorem Literal.renderAll_eq_ok {values : List Literal} {texts : List String} :
    Literal.renderAll values = .ok texts ↔ values.map Literal.render = texts.map .ok := by
  induction values generalizing texts with
  | nil => cases texts <;> simp [renderAll]
  | cons value rest ih =>
    simp only [renderAll, bind_eq_ok, pure, Except.pure, Except.ok.injEq, ih]
    constructor
    · rintro ⟨text, rendered, others, renderedOthers, rfl⟩
      simp [rendered, renderedOthers]
    · intro rendered
      cases texts with
      | nil => simp at rendered
      | cons text others =>
        simp only [List.map_cons, List.cons.injEq] at rendered
        exact ⟨text, rendered.1, others, rendered.2, rfl⟩

/-- A method whose name is a keyword but for the case of its letters is that string function. -/
theorem StringFunction.ofMethod?_of_asciiLower {method : String} {function : StringFunction}
    (lower : Text.asciiLower method = function.keyword) : ofMethod? method = some function := by
  rw [ofMethod?, lower]
  cases function <;> rfl

namespace Expr

/-- A rendered call has a method that is a string function, and rendered operands. -/
theorem renderOperand_call_eq_ok {method : String} {receiver argument : Expr} {text : String} :
    (call method receiver argument).renderOperand = .ok text ↔
      ∃ function receiverText argumentText,
        StringFunction.ofMethod? method = some function ∧ receiver.renderOperand = .ok receiverText ∧
          argument.renderOperand = .ok argumentText ∧
            callText function receiverText argumentText = text := by
  simp only [renderOperand, resolveMethod, bind_eq_ok, pure, Except.pure, Except.ok.injEq]
  cases StringFunction.ofMethod? method <;> simp

/-- The left side of a comparison is an operand, with the same text. -/
theorem renderOperand_of_renderSubject {expr : Expr} {text : String}
    (rendered : expr.renderSubject = .ok text) : expr.renderOperand = .ok text := by
  induction expr with
  | member path => exact rendered
  | call method receiver argument => exact rendered
  | convert inner ih => exact ih rendered
  | comparison | logical | negation | literal | membership | collection => cases rendered

/-- A rendered set is a filled collection of rendered literals under some coercions. -/
theorem renderSet_eq_ok {set : Expr} {texts : List String} (rendered : set.renderSet = .ok texts) :
    ∃ values, set.stripConvert = collection values ∧ texts ≠ [] ∧
      values.map Literal.render = texts.map .ok := by
  induction set with
  | collection values =>
    cases values with
    | nil => cases rendered
    | cons value rest =>
      have rendered := Literal.renderAll_eq_ok.mp rendered
      refine ⟨value :: rest, rfl, ?_, rendered⟩
      rintro rfl
      simp at rendered
  | convert inner ih => exact ih rendered
  | comparison | logical | negation | member | literal | call | membership => cases rendered

/-- A rendered comparison has two operands. -/
theorem render_comparison_eq_ok {op : ComparisonOp} {left right : Expr} {text : String} :
    (comparison op left right).render = .ok text ↔
      ∃ leftText rightText, left.renderSubject = .ok leftText ∧
        right.renderOperand = .ok rightText ∧ infixText leftText op.keyword rightText = text := by
  simp only [render, bind_eq_ok, pure, Except.pure, Except.ok.injEq, exists_and_left]

/-- A rendered connective has two conditions. -/
theorem render_logical_eq_ok {op : LogicalOp} {left right : Expr} {text : String} :
    (logical op left right).render = .ok text ↔
      ∃ leftText rightText, left.render = .ok leftText ∧ right.render = .ok rightText ∧
        infixText leftText op.keyword rightText = text := by
  simp only [render, bind_eq_ok, pure, Except.pure, Except.ok.injEq, exists_and_left]

/-- A rendered negation has a condition. -/
theorem render_negation_eq_ok {inner : Expr} {text : String} :
    (negation inner).render = .ok text ↔
      ∃ innerText, inner.render = .ok innerText ∧ negationText innerText = text := by
  simp only [render, bind_eq_ok, pure, Except.pure, Except.ok.injEq]

/-- A rendered membership test has a set and an operand. -/
theorem render_membership_eq_ok {item set : Expr} {text : String} :
    (membership item set).render = .ok text ↔
      ∃ texts itemText, set.renderSet = .ok texts ∧ item.renderOperand = .ok itemText ∧
        membershipText itemText texts = text := by
  simp only [render, bind_eq_ok, pure, Except.pure, Except.ok.injEq, exists_and_left]

end Expr

end ODataClient

import ODataClient.Proofs.Filter.Rendered

/-! # The filter grammar, and the first offence against it

Which trees have a written form is told by a grammar, and why another tree has none by a walk. The walk
goes over the whole tree and notes everything that rendering looks at, in order; it does not stop at an
offence and knows no text. Rendering stops at the first offence of the walk.

* **`Expr.IsOperand`**, **`Expr.IsCondition`** — the grammar. `Expr.exists_renderOperand_iff`,
  `Expr.exists_renderSubject_iff` and `Expr.exists_renderSet_iff` are the functions that render parts,
  `Expr.exists_render_iff` is the whole.
* **`Place`**, **`Visit`**, **`Expr.visits`** — where a node may stand, what is looked at, and the walk.
  `Visit.offence?` is what is wrong with one thing that is looked at.
* **`exists_bind_eq_ok_iff`**, **`QueryError.of?_bind`** — two steps have a result if both have one, and
  their error is that of the first, or else of the second.
* **`Expr.of?_renderOperand`**, …, **`Expr.of?_render`** — each function stops at the first offence.
* **`Expr.render_iff_grammar`** — both sides in one. -/

namespace ODataClient

/-! ## The grammar -/

/-- The literals that a filter can express: neither raw bytes nor numbers that are not finite. -/
def Literal.IsWritable : Literal → Prop
  | number value => value.isFinite = true
  | binary _ => False
  | null | string _ | bool _ | datetime _ | guid _ | enumeration _ => True

/-- The methods that are string functions, whatever the case of their ASCII letters. -/
def StringFunction.IsMethod (method : String) : Prop :=
  Text.asciiLower method ∈ ["contains", "startswith", "endswith"]

instance (method : String) : Decidable (StringFunction.IsMethod method) :=
  inferInstanceAs (Decidable (Text.asciiLower method ∈ _))

namespace Expr

/-- The operands of a filter. -/
inductive IsOperand : Expr → Prop
  /-- A member. -/
  | member (path : MemberPath) : IsOperand (.member path)
  /-- A literal that a filter can express. -/
  | literal {value : Literal} (writable : value.IsWritable) : IsOperand (.literal value)
  /-- A string function of two operands. -/
  | call {method : String} {receiver argument : Expr} (isMethod : StringFunction.IsMethod method)
      (isReceiver : IsOperand receiver) (isArgument : IsOperand argument) :
      IsOperand (.call method receiver argument)
  /-- A coerced operand. -/
  | convert {inner : Expr} (isInner : IsOperand inner) : IsOperand (.convert inner)

/-- The conditions of a filter. -/
inductive IsCondition : Expr → Prop
  /-- An operand that stands alone. -/
  | operand {expr : Expr} (isOperand : IsOperand expr) : IsCondition expr
  /-- A comparison of two operands, of which the left one is no literal under its coercions. -/
  | comparison {op : ComparisonOp} {left right : Expr} (isLeft : IsOperand left)
      (noLiteral : ∀ value, left.stripConvert ≠ .literal value) (isRight : IsOperand right) :
      IsCondition (.comparison op left right)
  /-- Two conditions that are joined. -/
  | logical {op : LogicalOp} {left right : Expr} (isLeft : IsCondition left)
      (isRight : IsCondition right) : IsCondition (.logical op left right)
  /-- A negated condition. -/
  | negation {inner : Expr} (isInner : IsCondition inner) : IsCondition (.negation inner)
  /-- A membership test of an operand and a filled collection, under its coercions, of literals that a
  filter can express. -/
  | membership {item set : Expr} {values : List Literal}
      (collects : set.stripConvert = .collection values) (filled : values ≠ [])
      (writable : ∀ value ∈ values, value.IsWritable) (isItem : IsOperand item) :
      IsCondition (.membership item set)
  /-- A coerced condition. -/
  | convert {inner : Expr} (isInner : IsCondition inner) : IsCondition (.convert inner)

end Expr

/-! ## Inversion

What the parts of a node are if it is an operand or a condition, one lemma for each kind of node. -/

namespace Expr

theorem isOperand_convert_iff {inner : Expr} : (convert inner).IsOperand ↔ inner.IsOperand := by
  constructor
  · rintro ⟨⟩
    assumption
  · exact .convert

theorem isOperand_literal_iff {value : Literal} : (literal value).IsOperand ↔ value.IsWritable := by
  constructor
  · rintro ⟨⟩
    assumption
  · exact .literal

theorem isOperand_call_iff {method : String} {receiver argument : Expr} :
    (call method receiver argument).IsOperand ↔
      StringFunction.IsMethod method ∧ receiver.IsOperand ∧ argument.IsOperand := by
  constructor
  · intro isOperand
    cases isOperand with
    | call isMethod isReceiver isArgument => exact ⟨isMethod, isReceiver, isArgument⟩
  · rintro ⟨isMethod, isReceiver, isArgument⟩
    exact .call isMethod isReceiver isArgument

theorem isCondition_convert_iff {inner : Expr} :
    (convert inner).IsCondition ↔ inner.IsCondition := by
  constructor
  · intro isCondition
    cases isCondition with
    | operand isOperand => exact .operand (isOperand_convert_iff.mp isOperand)
    | convert isInner => exact isInner
  · exact .convert

theorem isCondition_literal_iff {value : Literal} :
    (literal value).IsCondition ↔ (literal value).IsOperand := by
  constructor
  · rintro ⟨⟩
    assumption
  · exact .operand

theorem isCondition_call_iff {method : String} {receiver argument : Expr} :
    (call method receiver argument).IsCondition ↔ (call method receiver argument).IsOperand := by
  constructor
  · rintro ⟨⟩
    assumption
  · exact .operand

/-! The other conditions are no operands, so only their parts can make them conditions. -/

theorem isCondition_comparison_iff {op : ComparisonOp} {left right : Expr} :
    (comparison op left right).IsCondition ↔
      (left.IsOperand ∧ ∀ value, left.stripConvert ≠ literal value) ∧ right.IsOperand := by
  constructor
  · intro isCondition
    cases isCondition with
    | operand isOperand => cases isOperand
    | comparison isLeft noLiteral isRight => exact ⟨⟨isLeft, noLiteral⟩, isRight⟩
  · rintro ⟨⟨isLeft, noLiteral⟩, isRight⟩
    exact .comparison isLeft noLiteral isRight

theorem isCondition_logical_iff {op : LogicalOp} {left right : Expr} :
    (logical op left right).IsCondition ↔ left.IsCondition ∧ right.IsCondition := by
  constructor
  · intro isCondition
    cases isCondition with
    | operand isOperand => cases isOperand
    | logical isLeft isRight => exact ⟨isLeft, isRight⟩
  · rintro ⟨isLeft, isRight⟩
    exact .logical isLeft isRight

theorem isCondition_negation_iff {inner : Expr} :
    (negation inner).IsCondition ↔ inner.IsCondition := by
  constructor
  · intro isCondition
    cases isCondition with
    | operand isOperand => cases isOperand
    | negation isInner => exact isInner
  · exact .negation

theorem isCondition_membership_iff {item set : Expr} :
    (membership item set).IsCondition ↔
      (∃ values, set.stripConvert = collection values ∧ values ≠ [] ∧
        ∀ value ∈ values, value.IsWritable) ∧ item.IsOperand := by
  constructor
  · intro isCondition
    cases isCondition with
    | operand isOperand => cases isOperand
    | membership collects filled writable isItem => exact ⟨⟨_, collects, filled, writable⟩, isItem⟩
  · rintro ⟨⟨values, collects, filled, writable⟩, isItem⟩
    exact .membership collects filled writable isItem

end Expr

/-! ## The trees that have a written form -/

/-- Two steps have a result if both have one. -/
theorem exists_bind_eq_ok_iff {ε α β : Type} {first : Except ε α} {next : α → Except ε β}
    {later : Prop} (same : ∀ value, (∃ result, next value = .ok result) ↔ later) :
    (∃ result, (first >>= next) = .ok result) ↔ (∃ value, first = .ok value) ∧ later := by
  cases first with
  | error error =>
    constructor
    · rintro ⟨result, ⟨⟩⟩
    · rintro ⟨⟨value, ⟨⟩⟩, -⟩
  | ok value => exact (same value).trans ⟨fun holds => ⟨⟨value, rfl⟩, holds⟩, And.right⟩

/-- If the last step cannot fail, there is a result if the step before it has one. -/
theorem exists_bind_pure_eq_ok_iff {ε α β : Type} {first : Except ε α} {next : α → β} :
    (∃ result, (first >>= fun value => pure (next value)) = .ok result) ↔
      ∃ value, first = .ok value :=
  (exists_bind_eq_ok_iff fun _ => iff_true_intro ⟨_, rfl⟩).trans (and_iff_left trivial)

/-- A literal has a written form if a filter can express it. -/
theorem Literal.exists_render_iff (value : Literal) :
    (∃ text, value.render = .ok text) ↔ value.IsWritable := by
  cases value with
  | number value =>
    rw [render, Number.render, IsWritable]
    by_cases finite : value.isFinite = true
    · simp [finite]
    · simp [finite]
  | binary bytes => simp [render, IsWritable]
  | null | string | bool | datetime | guid | enumeration => simp [render, IsWritable]

/-- The literals of a list have written forms if a filter can express each of them. -/
theorem Literal.exists_renderAll_iff (values : List Literal) :
    (∃ texts, Literal.renderAll values = .ok texts) ↔ ∀ value ∈ values, value.IsWritable := by
  induction values with
  | nil => simp [renderAll]
  | cons value rest ih =>
    rw [renderAll, exists_bind_eq_ok_iff fun _ => exists_bind_pure_eq_ok_iff, exists_render_iff, ih,
      List.forall_mem_cons]

/-- A method is resolved if it is a string function. -/
theorem StringFunction.exists_ofMethod?_iff (method : String) :
    (∃ function, ofMethod? method = some function) ↔ IsMethod method := by
  rw [← Option.isSome_iff_exists, ofMethod?, List.find?_isSome, IsMethod]
  simp [keyword]

namespace Expr

/-- A method that is no string function is an error. -/
theorem exists_resolveMethod_iff (method : String) :
    (∃ function, resolveMethod method = .ok function) ↔ StringFunction.IsMethod method := by
  rw [← StringFunction.exists_ofMethod?_iff, resolveMethod]
  cases StringFunction.ofMethod? method <;> simp

/-- **Operands have a written form**, and no other tree has one in the place of an operand. -/
theorem exists_renderOperand_iff (expr : Expr) :
    (∃ text, expr.renderOperand = .ok text) ↔ expr.IsOperand := by
  induction expr with
  | member path => exact ⟨fun _ => .member path, fun _ => ⟨_, rfl⟩⟩
  | literal value => exact value.exists_render_iff.trans isOperand_literal_iff.symm
  | call method receiver argument ihReceiver ihArgument =>
    rw [renderOperand, exists_bind_eq_ok_iff fun _ => exists_bind_eq_ok_iff fun _ =>
      exists_bind_pure_eq_ok_iff, exists_resolveMethod_iff, ihReceiver, ihArgument,
      isOperand_call_iff]
  | convert inner ih => exact ih.trans isOperand_convert_iff.symm
  | comparison | logical | negation | membership | collection =>
    constructor
    · rintro ⟨text, ⟨⟩⟩
    · rintro ⟨⟩

/-- On the left side of a comparison, operands that are no literals have a written form. -/
theorem exists_renderSubject_iff (expr : Expr) :
    (∃ text, expr.renderSubject = .ok text) ↔
      expr.IsOperand ∧ ∀ value, expr.stripConvert ≠ literal value := by
  induction expr with
  | member path => exact ⟨fun _ => ⟨.member path, nofun⟩, fun _ => ⟨_, rfl⟩⟩
  | literal value =>
    constructor
    · rintro ⟨text, ⟨⟩⟩
    · rintro ⟨-, noLiteral⟩
      exact absurd rfl (noLiteral value)
  | call method receiver argument =>
    refine (exists_renderOperand_iff (call method receiver argument)).trans ?_
    exact ⟨fun isOperand => ⟨isOperand, nofun⟩, And.left⟩
  | convert inner ih => exact ih.trans (and_congr_left fun _ => isOperand_convert_iff.symm)
  | comparison | logical | negation | membership | collection =>
    constructor
    · rintro ⟨text, ⟨⟩⟩
    · rintro ⟨⟨⟩, -⟩

/-- In the place of a set, filled collections of literals that a filter can express have written
forms. -/
theorem exists_renderSet_iff (set : Expr) :
    (∃ texts, set.renderSet = .ok texts) ↔
      ∃ values, set.stripConvert = collection values ∧ values ≠ [] ∧
        ∀ value ∈ values, value.IsWritable := by
  induction set with
  | collection values =>
    cases values with
    | nil =>
      constructor
      · rintro ⟨texts, ⟨⟩⟩
      · rintro ⟨values, same, filled, -⟩
        obtain rfl := collection.inj same
        exact absurd rfl filled
    | cons value rest =>
      refine (Literal.exists_renderAll_iff (value :: rest)).trans ⟨fun writable => ?_, ?_⟩
      · exact ⟨_, rfl, List.cons_ne_nil value rest, writable⟩
      · rintro ⟨values, same, -, writable⟩
        obtain rfl := collection.inj same
        exact writable
  | convert inner ih => exact ih
  | comparison | logical | negation | member | literal | call | membership =>
    constructor
    · rintro ⟨texts, ⟨⟩⟩
    · rintro ⟨values, ⟨⟩, -⟩

/-- **The trees of the grammar have a written form**, and no others. -/
theorem exists_render_iff (expr : Expr) : (∃ text, expr.render = .ok text) ↔ expr.IsCondition := by
  induction expr with
  | comparison op left right =>
    rw [render, exists_bind_eq_ok_iff fun _ => exists_bind_pure_eq_ok_iff, exists_renderSubject_iff,
      exists_renderOperand_iff, isCondition_comparison_iff]
  | logical op left right ihLeft ihRight =>
    rw [render, exists_bind_eq_ok_iff fun _ => exists_bind_pure_eq_ok_iff, ihLeft, ihRight,
      isCondition_logical_iff]
  | negation inner ih => rw [render, exists_bind_pure_eq_ok_iff, ih, isCondition_negation_iff]
  | membership item set =>
    rw [render, exists_bind_eq_ok_iff fun _ => exists_bind_pure_eq_ok_iff, exists_renderSet_iff,
      exists_renderOperand_iff, isCondition_membership_iff]
  | member path => exact ⟨fun _ => .operand (.member path), fun _ => ⟨_, rfl⟩⟩
  | literal value =>
    exact (exists_renderOperand_iff (literal value)).trans isCondition_literal_iff.symm
  | call method receiver argument =>
    exact (exists_renderOperand_iff (call method receiver argument)).trans
      isCondition_call_iff.symm
  | collection values =>
    constructor
    · rintro ⟨text, ⟨⟩⟩
    · rintro ⟨⟨⟩⟩
  | convert inner ih => exact ih.trans isCondition_convert_iff.symm

end Expr

/-! ## The walk over a tree -/

/-- The places in which a node may stand. -/
inductive Place
  /-- The place of a condition. -/
  | condition
  /-- The left side of a comparison. -/
  | subject
  /-- The place of any other operand. -/
  | operand
  /-- The place of the set in a membership test. -/
  | set
deriving DecidableEq, Repr

/-- Whether a node, which is no coercion, may stand in a place. -/
def Place.admits : Place → Expr → Bool
  | condition, .collection _ => false
  | condition, _ => true
  | subject, .member _ | subject, .call _ _ _ => true
  | subject, _ => false
  | operand, .member _ | operand, .literal _ | operand, .call _ _ _ => true
  | operand, _ => false
  | set, .collection _ => true
  | set, _ => false

/-- The error of a place where a node may not stand. -/
def Place.error (place : Place) (node : Expr) : QueryError :=
  match place with
  | condition => .unsupportedExpression node.describe
  | subject =>
    .unsupportedOperand
      ("left side of a comparison must be a field or function call, found " ++ node.describe)
  | operand => .unsupportedOperand node.describe
  | set => .invalidMembershipSet ("expected a literal collection, found " ++ node.describe)

/-- What is looked at in a tree. -/
inductive Visit
  /-- Whether a node may stand in a place. -/
  | node (place : Place) (node : Expr)
  /-- Whether a method is a string function. -/
  | method (name : String)
  /-- Whether a collection is filled. -/
  | filled (values : List Literal)
  /-- Whether a filter can express a literal. -/
  | literal (value : Literal)
deriving DecidableEq, Repr

/-- Why a filter cannot express a literal. -/
def Literal.offence? : Literal → Option QueryError
  | number value =>
    if value.isFinite then none
    else some (.unsupportedLiteral ("non-finite number " ++ value.text))
  | binary _ => some (.unsupportedLiteral "binary values have no filter representation")
  | null | string _ | bool _ | datetime _ | guid _ | enumeration _ => none

/-- What is wrong with something that is looked at. -/
def Visit.offence? : Visit → Option QueryError
  | node place expr => if place.admits expr then none else some (place.error expr)
  | method name =>
    if StringFunction.IsMethod name then none else some (.unsupportedMethod name)
  | filled values =>
    if values = [] then some (.invalidMembershipSet "collection is empty") else none
  | literal value => value.offence?

/-- All that is looked at in a tree which stands in a place, in order. A node comes before its parts,
the left part before the right one, the method of a call before its operands, and the set of a
membership test before its item. Coercions are passed over. -/
def Expr.visits : Expr → Place → List Visit
  | comparison op left right, place =>
    .node place (comparison op left right) :: (left.visits .subject ++ right.visits .operand)
  | logical op left right, place =>
    .node place (logical op left right) :: (left.visits .condition ++ right.visits .condition)
  | negation inner, place => .node place (negation inner) :: inner.visits .condition
  | member path, place => [.node place (member path)]
  | literal value, place => [.node place (literal value), .literal value]
  | call method receiver argument, place =>
    .node place (call method receiver argument) :: .method method ::
      (receiver.visits .operand ++ argument.visits .operand)
  | membership item set, place =>
    .node place (membership item set) :: (set.visits .set ++ item.visits .operand)
  | collection values, place =>
    .node place (collection values) :: .filled values :: values.map .literal
  | convert inner, place => inner.visits place

/-- An error is that of the first offence among some visits. -/
def IsFirstOffence (visits : List Visit) (error : QueryError) : Prop :=
  ∃ before visit after, visits = before ++ visit :: after ∧
    visit.offence? = some error ∧ ∀ earlier ∈ before, earlier.offence? = none

/-- The error of the first offence is found by looking at one visit after another. -/
theorem findSome?_offence?_eq_some_iff {visits : List Visit} {error : QueryError} :
    visits.findSome? Visit.offence? = some error ↔ IsFirstOffence visits error :=
  List.findSome?_eq_some_iff

/-! ## Where rendering stops -/

/-- The error of a result that is one. -/
def QueryError.of? {α : Type} : Except QueryError α → Option QueryError
  | .ok _ => none
  | .error error => some error

theorem QueryError.of?_eq_some_iff {α : Type} {result : Except QueryError α} {error : QueryError} :
    of? result = some error ↔ result = .error error := by
  cases result <;> simp [of?]

/-- The error of two steps is that of the first, or else of the second. -/
theorem QueryError.of?_bind {α β : Type} {first : Except QueryError α}
    {next : α → Except QueryError β} {later : Option QueryError}
    (same : ∀ value, of? (next value) = later) :
    of? (first >>= next) = (of? first).or later := by
  cases first with
  | error error => rfl
  | ok value => exact same value

/-- A last step without an error leaves the error of the one before it. -/
theorem QueryError.of?_bind_pure {α β : Type} {first : Except QueryError α} {next : α → β} :
    of? (first >>= fun value => pure (next value)) = of? first := by
  cases first <;> rfl

open QueryError

/-- Rendering a literal stops if a filter cannot express it. -/
theorem Literal.of?_render (value : Literal) : of? value.render = value.offence? := by
  cases value with
  | number value =>
    rw [render, Number.render, offence?]
    split <;> rfl
  | null | string | bool | datetime | guid | enumeration | binary => rfl

/-- Rendering literals stops at the first that a filter cannot express. -/
theorem Literal.of?_renderAll (values : List Literal) :
    of? (Literal.renderAll values) = (values.map Visit.literal).findSome? Visit.offence? := by
  induction values with
  | nil => rfl
  | cons value rest ih =>
    have others (text : String) :
        of? (Literal.renderAll rest >>= fun texts => pure (text :: texts)) = _ :=
      of?_bind_pure.trans ih
    rw [renderAll, of?_bind others, of?_render, List.map_cons, List.findSome?_cons]
    cases offends : value.offence? <;> simp [Visit.offence?, offends]

/-- A method is resolved unless it is an offence. -/
theorem Expr.of?_resolveMethod (method : String) :
    of? (resolveMethod method) = (Visit.method method).offence? := by
  have resolves := StringFunction.exists_ofMethod?_iff method
  rw [Visit.offence?, resolveMethod]
  cases resolved : StringFunction.ofMethod? method with
  | none =>
    have noMethod : ¬ StringFunction.IsMethod method := by
      rw [← resolves, resolved]
      rintro ⟨function, ⟨⟩⟩
    rw [if_neg noMethod]
    rfl
  | some function =>
    rw [if_pos (resolves.mp ⟨function, resolved⟩)]
    rfl

/-! Where the node itself may stand, rendering stops in its parts; where it may not, rendering stops
at once. -/

namespace Expr

/-- **Rendering an operand stops at the first offence.** -/
theorem of?_renderOperand (expr : Expr) :
    of? expr.renderOperand = (expr.visits .operand).findSome? Visit.offence? := by
  induction expr with
  | member path => rfl
  | literal value =>
    rw [renderOperand, Literal.of?_render]
    cases offends : value.offence? <;> simp [visits, Visit.offence?, Place.admits, offends]
  | call method receiver argument ihReceiver ihArgument =>
    -- Whatever the method is resolved to, the operands stop the call in the same way.
    have both (function : StringFunction) :
        of? (do
          let receiverText ← receiver.renderOperand
          let argumentText ← argument.renderOperand
          pure (callText function receiverText argumentText)) =
        (of? receiver.renderOperand).or (of? argument.renderOperand) :=
      of?_bind fun _ => of?_bind_pure
    rw [renderOperand, of?_bind both, of?_resolveMethod, ihReceiver, ihArgument,
      ← List.findSome?_append, visits, List.findSome?_cons, List.findSome?_cons]
    cases offends : (Visit.method method).offence? <;> simp [Visit.offence?, Place.admits]
  | convert inner ih => exact ih
  | comparison | logical | negation | membership | collection => rfl

/-- Rendering the left side of a comparison stops at the first offence. -/
theorem of?_renderSubject (expr : Expr) :
    of? expr.renderSubject = (expr.visits .subject).findSome? Visit.offence? := by
  induction expr with
  | call method receiver argument => exact of?_renderOperand (call method receiver argument)
  | convert inner ih => exact ih
  | comparison | logical | negation | member | literal | membership | collection => rfl

/-- Rendering the values of a set stops at the first offence. -/
theorem of?_renderSet (set : Expr) :
    of? set.renderSet = (set.visits .set).findSome? Visit.offence? := by
  induction set with
  | collection values =>
    cases values with
    | nil => rfl
    | cons value rest => exact Literal.of?_renderAll (value :: rest)
  | convert inner ih => exact ih
  | comparison | logical | negation | member | literal | call | membership => rfl

/-- **Rendering a condition stops at the first offence.** -/
theorem of?_render (expr : Expr) :
    of? expr.render = (expr.visits .condition).findSome? Visit.offence? := by
  induction expr with
  | comparison op left right =>
    rw [render, of?_bind fun _ => of?_bind_pure, of?_renderSubject, of?_renderOperand,
      ← List.findSome?_append]
    rfl
  | logical op left right ihLeft ihRight =>
    rw [render, of?_bind fun _ => of?_bind_pure, ihLeft, ihRight, ← List.findSome?_append]
    rfl
  | negation inner ih =>
    rw [render, of?_bind_pure, ih]
    rfl
  | membership item set =>
    rw [render, of?_bind fun _ => of?_bind_pure, of?_renderSet, of?_renderOperand,
      ← List.findSome?_append]
    rfl
  | literal value => exact of?_renderOperand (literal value)
  | call method receiver argument => exact of?_renderOperand (call method receiver argument)
  | convert inner ih => exact ih
  | member | collection => rfl

/-- **Rendering accepts the grammar, and stops at the first offence against it.** A tree has a written
form exactly if it is a condition of the grammar. Any error is that of the first offence in the order
of the walk, and the first offence is the error. -/
theorem render_iff_grammar (expr : Expr) :
    ((∃ text, expr.render = .ok text) ↔ expr.IsCondition) ∧
      ∀ error, expr.render = .error error ↔ IsFirstOffence (expr.visits .condition) error := by
  refine ⟨expr.exists_render_iff, fun error => ?_⟩
  rw [← of?_eq_some_iff, of?_render, findSome?_offence?_eq_some_iff]

/-- A membership test with an offence in its item and one in its set, which is looked at first. -/
example :
    (membership (call "Trim" (literal .null) (literal .null))
      (collection [.null, .binary []]).convert).render =
        .error (.unsupportedLiteral "binary values have no filter representation") := rfl

end Expr

end ODataClient

import ODataClient.Proofs.Filter.Atoms

/-! # Filter texts are uniquely readable

The reader gets back from every rendered text what the text shows of its tree, so no two trees that
show something different share a text.

* **`Expr.IsReadable`** — the trees whose members filters can tell from literals.
* **`ReadsOperand`, `ReadsCondition`** — being read back in front of whatever may stand behind, with one
  lemma for each form of an operand and of a condition.
* **`readsOperand_of_renderOperand`, `readsCondition_of_render`** — the inductions over the tree, one
  form for each kind of node.
* **`readFilter?_render`**, **`reading_eq_of_render_eq`** — whole texts, and unique readability. -/

namespace ODataClient

open Text

/-! ## Operands -/

/-- The paths of the members in a tree. -/
def Expr.paths : Expr → List MemberPath
  | comparison _ left right => left.paths ++ right.paths
  | logical _ left right => left.paths ++ right.paths
  | negation inner => inner.paths
  | member path => [path]
  | literal _ => []
  | call _ receiver argument => receiver.paths ++ argument.paths
  | membership item set => item.paths ++ set.paths
  | collection _ => []
  | convert inner => inner.paths

/-- The trees whose members filters can tell from literals. -/
def Expr.IsReadable (expr : Expr) : Prop := ∀ path ∈ expr.paths, path.IsReadable

/-- A text that is read as an operand in front of whatever may stand behind it, if the bound on the
nesting is above its length. -/
def ReadsOperand (text : String) (reading : FilterReading) : Prop :=
  ∀ rest, EndsOperand rest → ∀ depth, text.length < depth →
    readOperand? depth (text.toList ++ rest) = some (reading, rest)

/-- An atom is read as an operand. -/
theorem ReadsOperand.atom {text : String} (isAtom : IsAtom text.toList) :
    ReadsOperand text (atomReading text.toList) := by
  intro rest ends depth deep
  obtain ⟨depth, rfl⟩ := Nat.exists_eq_succ_of_ne_zero (Nat.ne_zero_of_lt deep)
  simp [readOperand?, readAtom?_append isAtom ends.endsAtom, ends.no_call]

/-- The keyword of a string function is an atom. -/
theorem StringFunction.isAtom_keyword (function : StringFunction) :
    IsAtom function.keyword.toList := by
  cases function <;> exact .of_word (by decide) rfl

@[simp] theorem functionOf?_keyword (function : StringFunction) :
    functionOf? function.keyword.toList = some function := by
  cases function <;> rfl

/-- A call is longer than its operands together. -/
theorem Expr.length_callText (function : StringFunction) (receiver argument : String) :
    (callText function receiver argument).length =
      function.keyword.length + receiver.length + argument.length + 3 := by
  have marks : "(".length = 1 ∧ ",".length = 1 ∧ ")".length = 1 := ⟨rfl, rfl, rfl⟩
  simp only [callText, String.length_append, marks]
  omega

/-- A call of two operands is read as an operand. -/
theorem ReadsOperand.call (function : StringFunction) {receiver argument : String}
    {receiverReading argumentReading : FilterReading}
    (readsReceiver : ReadsOperand receiver receiverReading)
    (readsArgument : ReadsOperand argument argumentReading) :
    ReadsOperand (Expr.callText function receiver argument)
      (.call (some function) receiverReading argumentReading) := by
  intro rest _ depth deep
  rw [Expr.length_callText] at deep
  obtain ⟨depth, rfl⟩ := Nat.exists_eq_succ_of_ne_zero (Nat.ne_zero_of_lt deep)
  -- The keyword ends at the parenthesis, the receiver at the comma, the argument at the parenthesis.
  have text : (Expr.callText function receiver argument).toList ++ rest =
      function.keyword.toList ++
        '(' :: (receiver.toList ++ ',' :: (argument.toList ++ ')' :: rest)) := by
    simp [Expr.callText]
  have ends : EndsAtom ('(' :: (receiver.toList ++ ',' :: (argument.toList ++ ')' :: rest))) := by
    simp [EndsAtom]
  have keyword := readAtom?_append function.isAtom_keyword ends
  have first := readsReceiver _ (.comma (argument.toList ++ ')' :: rest)) depth (by omega)
  have second := readsArgument _ (.close rest) depth (by omega)
  rw [text]
  simp [readOperand?, keyword, first, second]

/-- **Operands are read back.** -/
theorem readsOperand_of_renderOperand {expr : Expr} (readable : expr.IsReadable) {text : String}
    (rendered : expr.renderOperand = .ok text) : ReadsOperand text expr.reading := by
  induction expr generalizing text with
  | member path =>
    obtain rfl := Except.ok.inj rendered
    have readable := readable path (List.mem_singleton_self path)
    rw [Expr.reading, ← readable.atomReading_wirePath]
    exact .atom readable.isAtom_wirePath
  | literal value =>
    rw [Expr.reading, ← Literal.atomReading_of_render rendered]
    exact .atom (Literal.isAtom_of_render rendered).1
  | call method receiver argument ihReceiver ihArgument =>
    obtain ⟨function, receiverText, argumentText, resolved, renderedReceiver, renderedArgument, rfl⟩ :=
      Expr.renderOperand_call_eq_ok.mp rendered
    have readable := List.forall_mem_append.mp readable
    rw [Expr.reading, resolved]
    exact .call function (ihReceiver readable.1 renderedReceiver)
      (ihArgument readable.2 renderedArgument)
  | convert inner ih => exact ih readable rendered
  | comparison | logical | negation | membership | collection => cases rendered

/-! ## Sets -/

/-- The texts of rendered literals are atoms. -/
theorem Literal.isAtom_of_map_render {values : List Literal} {texts : List String}
    (rendered : values.map Literal.render = texts.map .ok) :
    ∀ atom ∈ texts.map String.toList, IsAtom atom := by
  simp only [List.forall_mem_map]
  intro text member
  have written : .ok text ∈ values.map Literal.render := by
    rw [rendered]
    exact List.mem_map_of_mem member
  obtain ⟨value, -, rendered⟩ := List.mem_map.mp written
  exact (Literal.isAtom_of_render rendered).1

/-- **The values of a set are read back** up to the parenthesis that closes it. -/
theorem readValues?_intercalate {atoms : List (List Char)} (filled : atoms ≠ [])
    (isAtom : ∀ atom ∈ atoms, IsAtom atom) (rest : List Char) {depth : Nat}
    (deep : ([','].intercalate atoms).length < depth) :
    readValues? depth ([','].intercalate atoms ++ ')' :: rest) = some (atoms, rest) := by
  induction atoms generalizing depth with
  | nil => exact absurd rfl filled
  | cons atom others ih =>
    rw [List.forall_mem_cons] at isAtom
    obtain ⟨depth, rfl⟩ := Nat.exists_eq_succ_of_ne_zero (Nat.ne_zero_of_lt deep)
    cases others with
    | nil =>
      have first := readAtom?_append isAtom.1 (EndsOperand.close rest).endsAtom
      simp [readValues?, first]
    | cons next others =>
      rw [List.intercalate_cons_cons] at deep ⊢
      -- A value and its comma are taken off, so a smaller bound is enough for the others.
      have deeper : ([','].intercalate (next :: others)).length < depth := by
        simp only [List.length_append, List.length_cons, List.length_nil] at deep
        omega
      have more := ih (List.cons_ne_nil _ _) isAtom.2 deeper
      have first := readAtom?_append isAtom.1
        (EndsOperand.comma ([','].intercalate (next :: others) ++ ')' :: rest)).endsAtom
      simp [readValues?, first, more]

/-! ## Conditions -/

/-- What may stand behind a condition: what may stand behind an operand, but for the beginning of a
set. -/
structure EndsCondition (rest : List Char) : Prop where
  /-- An operand may end here. -/
  ends : EndsOperand rest
  /-- No membership test begins here. -/
  alone : skip? membershipMark rest = none

/-- A condition may be all of a text. -/
theorem EndsCondition.done : EndsCondition [] := ⟨.done, rfl⟩

/-- A condition may be the end of a group. -/
theorem EndsCondition.close (rest : List Char) : EndsCondition (')' :: rest) :=
  ⟨.close rest, by simp [membershipMark]⟩

/-- Where an atom begins there is no parenthesis. -/
theorem skip?_of_readAtom? {chars : List Char} {result : List Char × List Char}
    (read : readAtom? chars = some result) : skip? ['('] chars = none := by
  cases chars with
  | nil => rfl
  | cons first rest =>
    rw [skip?_cons_cons, if_neg]
    rintro rfl
    cases read

/-- An operand begins with an atom; unless it is a call, it is that atom. -/
theorem readAtom?_of_readOperand? {depth : Nat} {chars rest : List Char} {reading : FilterReading}
    (read : readOperand? depth chars = some (reading, rest)) :
    ∃ atom behind, readAtom? chars = some (atom, behind) ∧
      (skip? ['('] behind = none → behind = rest) := by
  cases depth with
  | zero => cases read
  | succ depth =>
    cases first : readAtom? chars with
    | none => simp [readOperand?, first] at read
    | some result =>
      obtain ⟨atom, behind⟩ := result
      refine ⟨atom, behind, rfl, fun noCall => ?_⟩
      simp only [readOperand?, first, noCall, Option.bind_eq_bind, Option.bind_some,
        Option.some.injEq, Prod.mk.injEq] at read
      exact read.2

/-- A condition that begins with an operand is a membership test or that operand. -/
theorem readCondition?_of_readOperand? {depth : Nat} {chars rest : List Char}
    {reading : FilterReading} (read : readOperand? depth chars = some (reading, rest))
    (ends : EndsOperand rest) : readCondition? depth chars = readMembership? depth reading rest := by
  obtain ⟨atom, behind, first, stands⟩ := readAtom?_of_readOperand? read
  -- Behind the first atom stands the parenthesis of a call, or else what ends the operand; neither is
  -- the blank and parenthesis of a negation.
  have noNegation : skip? [' ', '('] behind = none := by
    cases behind with
    | nil => rfl
    | cons mark behind =>
      by_cases call : mark = '('
      · simp [call]
      · rw [stands (by simp [Ne.symm call])]
        exact ends.no_negation
  cases depth with
  | zero => cases read
  | succ depth =>
    simp [readCondition?, skip?_of_readAtom? first, first, noNegation, read]

/-- What a keyword between two sides is read as. -/
structure IsInfix (keyword : String) (node : FilterReading → FilterReading → FilterReading) :
    Prop where
  /-- The keyword is listed. -/
  known : infixes.lookup keyword = some node
  /-- It is an atom. -/
  isAtom : IsAtom keyword.toList
  /-- The side before it ends where it begins. -/
  ends : ∀ rest, EndsCondition (' ' :: (keyword.toList ++ rest))

/-- A comparison is listed under its keyword. -/
theorem ComparisonOp.isInfix (op : ComparisonOp) : IsInfix op.keyword (.comparison op) where
  known := by cases op <;> rfl
  isAtom := by cases op <;> exact .of_word (by decide) rfl
  ends rest := by
    cases op <;> exact ⟨.keyword _ _ (by decide), by simp [membershipMark, keyword]⟩

/-- A connective is listed under its keyword. -/
theorem LogicalOp.isInfix (op : LogicalOp) : IsInfix op.keyword (.logical op) where
  known := by cases op <;> rfl
  isAtom := by cases op <;> exact .of_word (by decide) rfl
  ends rest := by
    cases op <;> exact ⟨.keyword _ _ (by decide), by simp [membershipMark, keyword]⟩

/-- A text that is read as a condition in front of whatever may stand behind it, if the bound on the
nesting is above its length. -/
def ReadsCondition (text : String) (reading : FilterReading) : Prop :=
  ∀ rest, EndsCondition rest → ∀ depth, text.length < depth →
    readCondition? depth (text.toList ++ rest) = some (reading, rest)

/-- An operand is read as a condition. -/
theorem ReadsOperand.condition {text : String} {reading : FilterReading}
    (reads : ReadsOperand text reading) : ReadsCondition text reading := by
  intro rest ends depth deep
  rw [readCondition?_of_readOperand? (reads rest ends.ends depth deep) ends.ends, readMembership?,
    ends.alone]

/-- A text in parentheses with a keyword is longer than its sides together. -/
theorem Expr.length_infixText (left keyword right : String) :
    (infixText left keyword right).length = left.length + keyword.length + right.length + 4 := by
  have marks : "(".length = 1 ∧ " ".length = 1 ∧ ")".length = 1 := ⟨rfl, rfl, rfl⟩
  simp only [infixText, String.length_append, marks]
  omega

/-- Two conditions with a keyword between them, in parentheses, are read as its node. -/
theorem ReadsCondition.parenthesized {keyword : String}
    {node : FilterReading → FilterReading → FilterReading} (isInfix : IsInfix keyword node)
    {left right : String} {leftReading rightReading : FilterReading}
    (readsLeft : ReadsCondition left leftReading)
    (readsRight : ReadsCondition right rightReading) :
    ReadsCondition (Expr.infixText left keyword right) (node leftReading rightReading) := by
  intro rest _ depth deep
  rw [Expr.length_infixText] at deep
  obtain ⟨depth, rfl⟩ := Nat.exists_eq_succ_of_ne_zero (Nat.ne_zero_of_lt deep)
  have text : (Expr.infixText left keyword right).toList ++ rest =
      '(' :: (left.toList ++
        ' ' :: (keyword.toList ++ ' ' :: (right.toList ++ ')' :: rest))) := by
    simp [Expr.infixText]
  have ends : EndsAtom (' ' :: (right.toList ++ ')' :: rest)) := by simp [EndsAtom]
  have middle : readInfix? (' ' :: (keyword.toList ++ ' ' :: (right.toList ++ ')' :: rest))) =
      some (node, right.toList ++ ')' :: rest) := by
    simp [readInfix?, readAtom?_append isInfix.isAtom ends, isInfix.known]
  -- Each side is read on its own: the left one stops at the keyword, the right one at the parenthesis.
  have first := readsLeft _ (isInfix.ends (' ' :: (right.toList ++ ')' :: rest))) depth (by omega)
  have second := readsRight _ (.close rest) depth (by omega)
  rw [text]
  simp [readCondition?, first, middle, second]

/-- The text of a negation is longer than that of the condition. -/
theorem Expr.length_negationText (inner : String) :
    (negationText inner).length = inner.length + 6 := by
  have marks : "not (".length = 5 ∧ ")".length = 1 := ⟨rfl, rfl⟩
  simp only [negationText, String.length_append, marks]
  omega

/-- The word of a negation with a condition in parentheses is read as the negation. -/
theorem ReadsCondition.negation {inner : String} {reading : FilterReading}
    (reads : ReadsCondition inner reading) :
    ReadsCondition (Expr.negationText inner) (.negation reading) := by
  intro rest _ depth deep
  rw [Expr.length_negationText] at deep
  obtain ⟨depth, rfl⟩ := Nat.exists_eq_succ_of_ne_zero (Nat.ne_zero_of_lt deep)
  have text : (Expr.negationText inner).toList ++ rest =
      "not".toList ++ ' ' :: '(' :: (inner.toList ++ ')' :: rest) := by
    simp [Expr.negationText]
  -- The word ends at the blank; the parenthesis behind the blank tells it from a member of that name.
  have isAtom : IsAtom "not".toList := .of_word (by decide) rfl
  have ends : EndsAtom (' ' :: '(' :: (inner.toList ++ ')' :: rest)) := by simp [EndsAtom]
  have word := readAtom?_append isAtom ends
  have condition := reads _ (.close rest) depth (by omega)
  rw [text, readCondition?, skip?_of_readAtom? word, word]
  simp [condition]

/-- The text of a membership test is longer than those of the item and of the values together. -/
theorem Expr.length_membershipText (item : String) (values : List String) :
    (membershipText item values).length =
      item.length + ([','].intercalate (values.map String.toList)).length + 6 := by
  have joined : (",".intercalate values).length =
      ([','].intercalate (values.map String.toList)).length := by
    rw [← String.length_toList, String.toList_intercalate]
    rfl
  have marks : " in (".length = 5 ∧ ")".length = 1 := ⟨rfl, rfl⟩
  simp only [membershipText, String.length_append, marks, joined]
  omega

/-- An operand with a set behind it is read as a membership test. -/
theorem ReadsOperand.membership {item : String} {reading : FilterReading}
    (reads : ReadsOperand item reading) {values : List String} (filled : values ≠ [])
    (isAtom : ∀ atom ∈ values.map String.toList, IsAtom atom) :
    ReadsCondition (Expr.membershipText item values)
      (.membership reading (.collection (values.map .ok))) := by
  intro rest _ depth deep
  rw [Expr.length_membershipText] at deep
  let inner := [','].intercalate (values.map String.toList) ++ ')' :: rest
  have text : (Expr.membershipText item values).toList ++ rest =
      item.toList ++ (membershipMark ++ inner) := by
    simp [Expr.membershipText, membershipMark, inner]
  have ends : EndsOperand (membershipMark ++ inner) := .keyword 'i' _ (by decide)
  have operand := reads _ ends depth (by omega)
  have set := readValues?_intercalate (by simpa using filled) isAtom rest
    (show ([','].intercalate (values.map String.toList)).length < depth by omega)
  rw [text, readCondition?_of_readOperand? operand ends]
  simp [readMembership?, membershipMark, inner, set, Function.comp_def]

/-! ## Whole trees -/

/-- The reading of a node under coercions is that of the node. -/
@[simp] theorem Expr.reading_stripConvert (expr : Expr) :
    expr.stripConvert.reading = expr.reading := by
  induction expr with
  | convert inner ih => exact ih
  | _ => rfl

/-- **Conditions are read back.** -/
theorem readsCondition_of_render {expr : Expr} (readable : expr.IsReadable) {text : String}
    (rendered : expr.render = .ok text) : ReadsCondition text expr.reading := by
  induction expr generalizing text with
  | comparison op left right =>
    obtain ⟨leftText, rightText, renderedLeft, renderedRight, rfl⟩ :=
      Expr.render_comparison_eq_ok.mp rendered
    have renderedLeft := Expr.renderOperand_of_renderSubject renderedLeft
    have readable := List.forall_mem_append.mp readable
    exact .parenthesized op.isInfix (readsOperand_of_renderOperand readable.1 renderedLeft).condition
      (readsOperand_of_renderOperand readable.2 renderedRight).condition
  | logical op left right ihLeft ihRight =>
    obtain ⟨leftText, rightText, renderedLeft, renderedRight, rfl⟩ :=
      Expr.render_logical_eq_ok.mp rendered
    have readable := List.forall_mem_append.mp readable
    exact .parenthesized op.isInfix (ihLeft readable.1 renderedLeft) (ihRight readable.2 renderedRight)
  | negation inner ih =>
    obtain ⟨innerText, renderedInner, rfl⟩ := Expr.render_negation_eq_ok.mp rendered
    exact .negation (ih readable renderedInner)
  | membership item set =>
    obtain ⟨texts, itemText, renderedSet, renderedItem, rfl⟩ :=
      Expr.render_membership_eq_ok.mp rendered
    obtain ⟨values, stripped, filled, renderedValues⟩ := Expr.renderSet_eq_ok renderedSet
    have readable := List.forall_mem_append.mp readable
    -- The set is a collection under coercions, of which its reading shows nothing.
    have setReading : set.reading = .collection (texts.map .ok) := by
      rw [← Expr.reading_stripConvert, stripped, Expr.reading, renderedValues]
    rw [Expr.reading, setReading]
    exact (readsOperand_of_renderOperand readable.1 renderedItem).membership filled
      (Literal.isAtom_of_map_render renderedValues)
  | convert inner ih => exact ih readable rendered
  | member | literal | call => exact (readsOperand_of_renderOperand readable rendered).condition
  | collection => cases rendered

/-- **Rendered filters are read back.** -/
theorem readFilter?_render {expr : Expr} (readable : expr.IsReadable) {text : String}
    (rendered : expr.render = .ok text) : readFilter? text = some expr.reading := by
  have read := readsCondition_of_render readable rendered [] .done _ (Nat.lt_succ_self _)
  rw [List.append_nil] at read
  rw [readFilter?, read]

/-- **Unique readability.** Two condition trees with the same filter text show the same: they are
equal up to coercions, the spelling of method names, and literals that are written alike. -/
theorem reading_eq_of_render_eq {left right : Expr} (leftReadable : left.IsReadable)
    (rightReadable : right.IsReadable) {text : String} (leftRendered : left.render = .ok text)
    (rightRendered : right.render = .ok text) : left.reading = right.reading := by
  have read := readFilter?_render leftReadable leftRendered
  rw [readFilter?_render rightReadable rightRendered] at read
  exact (Option.some.inj read).symm

/-- Two trees of one text that differ in a coercion, in the case of a method name and in the kind of a
constant that holds a quote, a comma and a parenthesis. -/
theorem reading_eq_of_render_eq_contains :
    let name := Expr.member (.ofField (.plain "name"))
    let left := Expr.call "Contains" name (.literal (.string "it's, (not)"))
    let right := Expr.convert (.call "contains" (.convert name) (.literal (.enumeration "it's, (not)")))
    left.render = .ok "contains(name,'it''s, (not)')" ∧ left ≠ right ∧ left.reading = right.reading := by
  intro name left right
  have isReadable : (MemberPath.ofField (.plain "name")).IsReadable := by
    refine ⟨by simp [MemberPath.ofField], ?_, ?_⟩
    · simp only [MemberPath.ofField, List.forall_mem_singleton]
      decide
    · intro field single
      obtain rfl := List.singleton_inj.mp single
      decide
  have upper : Text.asciiLower "Contains" = "contains" :=
    String.toList_inj.mp (by rw [toList_asciiLower]; rfl)
  have lower : Text.asciiLower "contains" = "contains" :=
    String.toList_inj.mp (by rw [toList_asciiLower]; rfl)
  have leftRendered : left.render = .ok "contains(name,'it''s, (not)')" :=
    Expr.renderOperand_call_eq_ok.mpr ⟨.contains, "name", "'it''s, (not)'",
      StringFunction.ofMethod?_of_asciiLower upper, by rfl, by rfl, by rfl⟩
  have rightRendered : right.render = .ok "contains(name,'it''s, (not)')" :=
    Expr.renderOperand_call_eq_ok.mpr ⟨.contains, "name", "'it''s, (not)'",
      StringFunction.ofMethod?_of_asciiLower lower, by rfl, by rfl, by rfl⟩
  have leftReadable : left.IsReadable := by
    simpa [Expr.IsReadable, Expr.paths, left, name] using isReadable
  have rightReadable : right.IsReadable := by
    simpa [Expr.IsReadable, Expr.paths, right, name] using isReadable
  refine ⟨leftRendered, by decide, ?_⟩
  exact reading_eq_of_render_eq leftReadable rightReadable leftRendered rightRendered

end ODataClient

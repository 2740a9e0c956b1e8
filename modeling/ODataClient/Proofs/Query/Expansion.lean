import ODataClient.Proofs.Filter.Readability
import ODataClient.Proofs.Query.Nesting
import ODataClient.Proofs.Query.QueryString

/-! # Expand clauses come apart

The values of a nested query stand in the clause as they are, and yet the clause can be taken apart:
as long as names are identifiers, every value closes its quotes and parentheses, and keeps inside of
them the commas and semicolons that would separate it. Literals of filters may hold any text.

* **`QueryStep.wireNames`** — the names that steps write, those of filters, groupings and nested
  steps among them.
* **`Expr.nested_of_render`, `Aggregation.nested_render?`** — filters and aggregations shield both
  separators.
* **`Query.HasNestedTexts`** — what the values and clauses of a query are like;
  `Query.hasNestedTexts_buildSkipping` is the induction over the depth of the nesting.
* **`Query.splitOutside_expands`** — lists of clauses and bodies of clauses are read back. -/

namespace ODataClient

open Text

/-- The separators of expand clauses: between clauses, and between the entries of a body. -/
def clauseSeparators : List Char := [',', ';']

/-! ## Names -/

/-- An identifier holds no separator. -/
theorem nested_of_isIdentifier {name : String} (identifier : isIdentifier name = true) :
    Nested clauseSeparators name :=
  .of_consists rfl (isIdentifierPart_of_mem identifier)

/-- The wire names in a condition tree. -/
def Expr.wireNames (expr : Expr) : List String :=
  expr.paths.flatMap fun path => path.segments.map FieldName.wireName

/-- The wire names in a projection. -/
def Projection.wireNames : Projection → List String
  | pick items => items.flatMap Expr.wireNames
  | single expr => expr.wireNames

/-- The wire names in a step of an aggregation. -/
def AggregationStep.wireNames : AggregationStep → List String
  | groupBy fields => fields.flatMap Expr.wireNames
  | aggregate field _ _ => [field.wireName]
  | count _ => []

namespace QueryStep

mutual

/-- The wire names in a step. -/
def wireNames : QueryStep → List String
  | entitySet _ => []
  | select projection => projection.wireNames
  | filter condition => condition.wireNames
  | expand field => [field.wireName]
  | expandWith field steps => field.wireName :: allWireNames steps
  | orderBy field _ => [field.wireName]
  | thenBy field _ => [field.wireName]
  | top _ => []
  | skip _ => []
  | count _ => []
  | apply steps => steps.flatMap AggregationStep.wireNames

/-- The wire names in some steps. -/
def allWireNames : List QueryStep → List String
  | [] => []
  | step :: rest => wireNames step ++ allWireNames rest

end

/-- The names in a step are among those in all steps. -/
theorem wireNames_subset_allWireNames {step : QueryStep} {steps : List QueryStep}
    (member : step ∈ steps) : step.wireNames ⊆ allWireNames steps := by
  induction steps with
  | nil => cases member
  | cons first rest ih =>
    rw [allWireNames]
    rcases List.mem_cons.mp member with rfl | later
    · exact List.subset_append_left _ _
    · exact List.Subset.trans (ih later) (List.subset_append_right _ _)

end QueryStep

/-! ## Filters -/

/-- A path of identifiers holds no separator. -/
theorem MemberPath.nested_wirePath {path : MemberPath}
    (identifiers : ∀ field ∈ path.segments, isIdentifier field.wireName = true) :
    Nested clauseSeparators path.wirePath := by
  refine .intercalate (.of_all rfl) ?_
  simp only [List.forall_mem_map]
  exact fun field member => nested_of_isIdentifier (identifiers field member)

/-- The text of a literal shields every separator: only strings hold one. -/
theorem IsLiteralText.nested {text : String} (literal : IsLiteralText text) :
    Nested clauseSeparators text := by
  cases literal with
  | word listed =>
    have words : ∀ word ∈ ["null", "true", "false"], word.toList.all Char.isAlpha = true := by
      decide
    exact .of_consists rfl (List.all_eq_true.mp (words _ listed))
  | quoted content => exact .quoted content
  | time value => exact .of_consists rfl value.consists_text
  | guid value => exact .of_consists rfl value.consists_text
  | numeral numeral => exact .of_consists rfl numeral.consists

namespace Expr

/-- The text of a call shields the comma between its operands. -/
theorem nested_callText (function : StringFunction) {receiver argument : String}
    (nestedReceiver : Nested clauseSeparators receiver)
    (nestedArgument : Nested clauseSeparators argument) :
    Nested clauseSeparators (callText function receiver argument) := by
  have text : callText function receiver argument =
      function.keyword ++ "(" ++ (receiver ++ "," ++ argument) ++ ")" := by
    simp [callText, String.append_assoc]
  have keyword : Nested clauseSeparators function.keyword := by cases function <;> exact .of_all rfl
  have receiver := nestedReceiver.mono (List.nil_subset _)
  have argument := nestedArgument.mono (List.nil_subset _)
  rw [text]
  exact keyword.applied ((receiver.append (.of_all rfl)).append argument)

/-- The text of an operand shields every separator. -/
theorem nested_of_renderOperand {expr : Expr}
    (identifiers : ∀ name ∈ expr.wireNames, isIdentifier name = true) {text : String}
    (rendered : expr.renderOperand = .ok text) : Nested clauseSeparators text := by
  induction expr generalizing text with
  | member path =>
    obtain rfl := Except.ok.inj rendered
    exact path.nested_wirePath (by simpa [wireNames, paths] using identifiers)
  | literal value => exact (Literal.isLiteralText_of_render rendered).nested
  | call method receiver argument ihReceiver ihArgument =>
    obtain ⟨function, receiverText, argumentText, -, renderedReceiver, renderedArgument, rfl⟩ :=
      renderOperand_call_eq_ok.mp rendered
    simp only [wireNames, paths, List.flatMap_append, List.forall_mem_append] at identifiers
    exact nested_callText function (ihReceiver identifiers.1 renderedReceiver)
      (ihArgument identifiers.2 renderedArgument)
  | convert inner ih => exact ih identifiers rendered
  | comparison | logical | negation | membership | collection => cases rendered

/-- Two nested sides in parentheses are nested. -/
theorem nested_infixText {left keyword right : String}
    (nestedLeft : Nested clauseSeparators left) (nestedKeyword : Nested clauseSeparators keyword)
    (nestedRight : Nested clauseSeparators right) :
    Nested clauseSeparators (infixText left keyword right) := by
  have text : infixText left keyword right =
      "(" ++ (left ++ " " ++ keyword ++ " " ++ right) ++ ")" := by
    simp [infixText, String.append_assoc]
  have blank : Nested clauseSeparators " " := .of_all rfl
  have sides := (((nestedLeft.append blank).append nestedKeyword).append blank).append nestedRight
  rw [text]
  exact .parenthesized (sides.mono (List.nil_subset _))

/-- The values of a set shield the commas between them together, and each its own. -/
theorem nested_membershipText {item : String} (nestedItem : Nested clauseSeparators item)
    {values : List String} (nestedValues : ∀ value ∈ values, Nested clauseSeparators value) :
    Nested clauseSeparators (membershipText item values) := by
  have text : membershipText item values =
      item ++ " in " ++ "(" ++ ",".intercalate values ++ ")" := by
    simp [membershipText, ← String.toList_inj]
  have bare : ∀ value ∈ values, Nested [] value := fun value member =>
    (nestedValues value member).mono (List.nil_subset _)
  have inside : Nested [] (",".intercalate values) := .intercalate (.of_all rfl) bare
  rw [text]
  exact (nestedItem.append (.of_all rfl)).applied inside

/-- **The text of a filter shields every separator.** -/
theorem nested_of_render {expr : Expr}
    (identifiers : ∀ name ∈ expr.wireNames, isIdentifier name = true) {text : String}
    (rendered : expr.render = .ok text) : Nested clauseSeparators text := by
  induction expr generalizing text with
  | comparison op left right =>
    obtain ⟨leftText, rightText, renderedLeft, renderedRight, rfl⟩ :=
      render_comparison_eq_ok.mp rendered
    simp only [wireNames, paths, List.flatMap_append, List.forall_mem_append] at identifiers
    have keyword : Nested clauseSeparators op.keyword := by cases op <;> exact .of_all rfl
    exact nested_infixText
      (nested_of_renderOperand identifiers.1 (renderOperand_of_renderSubject renderedLeft)) keyword
      (nested_of_renderOperand identifiers.2 renderedRight)
  | logical op left right ihLeft ihRight =>
    obtain ⟨leftText, rightText, renderedLeft, renderedRight, rfl⟩ :=
      render_logical_eq_ok.mp rendered
    simp only [wireNames, paths, List.flatMap_append, List.forall_mem_append] at identifiers
    have keyword : Nested clauseSeparators op.keyword := by cases op <;> exact .of_all rfl
    exact nested_infixText (ihLeft identifiers.1 renderedLeft) keyword
      (ihRight identifiers.2 renderedRight)
  | negation inner ih =>
    obtain ⟨innerText, renderedInner, rfl⟩ := render_negation_eq_ok.mp rendered
    have word : Nested clauseSeparators "not " := .of_all rfl
    exact word.applied ((ih identifiers renderedInner).mono (List.nil_subset _))
  | membership item set =>
    obtain ⟨texts, itemText, renderedSet, renderedItem, rfl⟩ := render_membership_eq_ok.mp rendered
    obtain ⟨values, -, -, renderedValues⟩ := renderSet_eq_ok renderedSet
    simp only [wireNames, paths, List.flatMap_append, List.forall_mem_append] at identifiers
    refine nested_membershipText (nested_of_renderOperand identifiers.1 renderedItem) ?_
    intro value member
    have written : .ok value ∈ values.map Literal.render := by
      rw [renderedValues]
      exact List.mem_map_of_mem member
    obtain ⟨literal, -, renderedLiteral⟩ := List.mem_map.mp written
    exact (Literal.isLiteralText_of_render renderedLiteral).nested
  | convert inner ih => exact ih identifiers rendered
  | member | literal | call => exact nested_of_renderOperand identifiers rendered
  | collection => cases rendered

end Expr

/-! ## Selections and orderings -/

/-- The selected items have the names of their fields. -/
theorem Projection.mem_wireNames_of_itemNames {items : List Expr} {names : List String}
    (found : itemNames items = .ok names) :
    ∀ name ∈ names, name ∈ items.flatMap Expr.wireNames := by
  induction items generalizing names with
  | nil =>
    cases found
    simp
  | cons item rest ih =>
    obtain ⟨name, first, found⟩ := bind_eq_ok.mp found
    obtain ⟨others, later, found⟩ := bind_eq_ok.mp found
    cases found
    refine List.forall_mem_cons.mpr ⟨?_, fun other member => ?_⟩
    · unfold itemName at first
      split at first
      · cases first
        simp [Expr.wireNames, Expr.paths]
      · cases first
    · exact List.mem_append_right _ (ih later other member)

/-- The names of selected fields are among the names of the projection. -/
theorem Projection.mem_wireNames_of_fieldNames {projection : Projection} {names : List String}
    (found : projection.fieldNames = .ok names) : ∀ name ∈ names, name ∈ projection.wireNames := by
  match projection with
  | .pick [] | .single _ => cases found
  | .pick (_ :: _) => exact mem_wireNames_of_itemNames found

/-- The term of an ordering holds no separator. -/
theorem Direction.nested_term (direction : Direction) {field : FieldName}
    (identifier : isIdentifier field.wireName = true) :
    Nested clauseSeparators (direction.term field.wireName) := by
  have name := nested_of_isIdentifier identifier
  cases direction with
  | ascending => exact name
  | descending => exact name.append (.of_all rfl)

/-! ## Aggregations -/

namespace Aggregation

/-- The groupings and terms of an aggregation close their quotes and parentheses. -/
def HasNestedParts (aggregation : Aggregation) : Prop :=
  (∀ group ∈ aggregation.groups, Nested [] group) ∧ ∀ term ∈ aggregation.terms, Nested [] term

/-- The empty aggregation has no parts. -/
theorem HasNestedParts.empty : Aggregation.empty.HasNestedParts := ⟨nofun, nofun⟩

/-- The path of a grouping is one of identifiers. -/
theorem nested_of_groupPath {expr : Expr}
    (identifiers : ∀ name ∈ expr.wireNames, isIdentifier name = true) {path : String}
    (found : groupPath expr = .ok path) : Nested [] path := by
  induction expr with
  | member path =>
    obtain rfl := Except.ok.inj found
    have nested := path.nested_wirePath (by simpa [Expr.wireNames, Expr.paths] using identifiers)
    exact nested.mono (List.nil_subset _)
  | convert inner ih => exact ih identifiers found
  | comparison | logical | negation | literal | call | membership | collection => cases found

/-- Adding groupings keeps all of them nested. -/
theorem nested_of_addGroups {fields : List Expr}
    (identifiers : ∀ name ∈ fields.flatMap Expr.wireNames, isIdentifier name = true)
    {groups result : List String} (nested : ∀ group ∈ groups, Nested [] group)
    (added : addGroups fields groups = .ok result) : ∀ group ∈ result, Nested [] group := by
  induction fields generalizing groups with
  | nil => exact Except.ok.inj added ▸ nested
  | cons field rest ih =>
    rw [List.flatMap_cons, List.forall_mem_append] at identifiers
    obtain ⟨path, found, added⟩ := bind_eq_ok.mp added
    refine ih identifiers.2 ?_ added
    unfold addGroup
    split
    · exact nested
    · refine List.forall_mem_append.mpr ⟨nested, List.forall_mem_singleton.mpr ?_⟩
      exact nested_of_groupPath identifiers.1 found

/-- An alias that was checked is an identifier. -/
theorem isIdentifier_of_checkAlias {name checked : String} (found : checkAlias name = .ok checked) :
    isIdentifier checked = true := by
  unfold checkAlias at found
  split at found
  · rename_i identifier
    exact Except.ok.inj found ▸ identifier
  · cases found

/-- A call on an aggregation keeps its parts nested. -/
theorem HasNestedParts.step {aggregation next : Aggregation} (nested : aggregation.HasNestedParts)
    {step : AggregationStep} (identifiers : ∀ name ∈ step.wireNames, isIdentifier name = true)
    (stepped : aggregation.step step = .ok next) : next.HasNestedParts := by
  cases step with
  | groupBy fields =>
    obtain ⟨groups, added, stepped⟩ := bind_eq_ok.mp stepped
    cases stepped
    exact ⟨nested_of_addGroups identifiers nested.1 added, nested.2⟩
  | aggregate field op name =>
    obtain ⟨checked, found, stepped⟩ := bind_eq_ok.mp stepped
    cases stepped
    have fieldName := nested_of_isIdentifier (identifiers _ List.mem_cons_self)
    have keyword : Nested clauseSeparators op.keyword := by cases op <;> exact .of_all rfl
    have aliasName := nested_of_isIdentifier (isIdentifier_of_checkAlias found)
    have of : Nested clauseSeparators " with " := .of_all rfl
    have called : Nested clauseSeparators " as " := .of_all rfl
    have term := (((fieldName.append of).append keyword).append called).append aliasName
    refine ⟨nested.1, List.forall_mem_append.mpr ⟨nested.2, List.forall_mem_singleton.mpr ?_⟩⟩
    exact term.mono (List.nil_subset _)
  | count name =>
    obtain ⟨checked, found, stepped⟩ := bind_eq_ok.mp stepped
    cases stepped
    have aliasName := nested_of_isIdentifier (isIdentifier_of_checkAlias found)
    have counted : Nested clauseSeparators "$count as " := .of_all rfl
    refine ⟨nested.1, List.forall_mem_append.mpr ⟨nested.2, List.forall_mem_singleton.mpr ?_⟩⟩
    exact (counted.append aliasName).mono (List.nil_subset _)

/-- Any calls on an aggregation keep its parts nested. -/
theorem HasNestedParts.run {steps : List AggregationStep} {aggregation result : Aggregation}
    (nested : aggregation.HasNestedParts)
    (identifiers : ∀ name ∈ steps.flatMap AggregationStep.wireNames, isIdentifier name = true)
    (ran : Aggregation.run steps aggregation = .ok result) : result.HasNestedParts := by
  induction steps generalizing aggregation with
  | nil => exact Except.ok.inj ran ▸ nested
  | cons step rest ih =>
    rw [List.flatMap_cons, List.forall_mem_append] at identifiers
    obtain ⟨next, stepped, ran⟩ := bind_eq_ok.mp ran
    exact ih (nested.step identifiers.1 stepped) identifiers.2 ran

/-- The groupings are in parentheses together. -/
theorem HasNestedParts.nested_groupsText {aggregation : Aggregation}
    (nested : aggregation.HasNestedParts) : Nested clauseSeparators aggregation.groupsText :=
  .parenthesized (.intercalate (.of_all rfl) nested.1)

/-- The terms are in parentheses together. -/
theorem HasNestedParts.nested_termsText {aggregation : Aggregation}
    (nested : aggregation.HasNestedParts) : Nested clauseSeparators aggregation.termsText := by
  have word : Nested clauseSeparators "aggregate" := .of_all rfl
  exact word.applied (.intercalate (.of_all rfl) nested.2)

/-- **The text of an aggregation shields every separator.** -/
theorem HasNestedParts.nested_render? {aggregation : Aggregation}
    (nested : aggregation.HasNestedParts) :
    ∀ text ∈ aggregation.render?, Nested clauseSeparators text := by
  have word : Nested clauseSeparators "groupby" := .of_all rfl
  have groups : Nested [] aggregation.groupsText :=
    nested.nested_groupsText.mono (List.nil_subset _)
  intro text rendered
  unfold render? at rendered
  split at rendered
  · cases rendered
  · cases rendered
    exact nested.nested_termsText
  · cases rendered
    exact word.applied groups
  · cases rendered
    have comma : Nested [] "," := .of_all rfl
    have terms : Nested [] aggregation.termsText :=
      nested.nested_termsText.mono (List.nil_subset _)
    have parts := word.applied ((groups.append comma).append terms)
    simpa [← String.append_assoc] using parts

end Aggregation

/-! ## Queries -/

namespace Query

/-- The values of the query keep semicolons inside of quotes and parentheses, and its clauses commas
too. Values may have commas outside, between selected fields or orderings: in a clause they stand in
the parentheses of the body. -/
def HasNestedTexts (query : Query) : Prop := query.Holds (Nested [';']) (Nested clauseSeparators)

/-- The text of a limit is a numeral. -/
theorem nested_positiveText (number : Int) :
    ∀ text ∈ positiveText number, Nested clauseSeparators text := by
  intro text written
  rw [positiveText] at written
  split at written
  · obtain rfl := Option.some.inj written
    have numeral : IsNumeral (Number.integer number).text := Number.isNumeral_text rfl
    exact .of_consists rfl numeral.consists
  · cases written

namespace HasNestedTexts

/-- The names and values of all entries keep semicolons inside, those of joined clauses too. -/
theorem nested_entries {query : Query} (nested : query.HasNestedTexts) :
    ∀ entry ∈ query.entries, Nested [';'] entry.1 ∧ Nested [';'] entry.2 := by
  have names : ∀ name ∈ QueryOptions.expandName :: QueryOptions.stepNames,
      name.toList.all (!(nestingMarks ++ [';']).contains ·) = true := by decide
  intro entry member
  rcases List.mem_append.mp member with option | expand
  · have listed := List.mem_cons_of_mem QueryOptions.expandName (nested.known entry option)
    exact ⟨.of_all (names _ listed), nested.values entry option⟩
  · split at expand
    · cases expand
    · rw [List.mem_singleton.mp expand]
      refine ⟨.of_all (names _ List.mem_cons_self), .intercalate (.of_all rfl) ?_⟩
      exact fun clause member => (nested.clauses clause member).mono (by decide)

/-- The written entries of a nested query keep semicolons inside. -/
theorem nested_rawEntry {query : Query} (nested : query.HasNestedTexts) :
    ∀ part ∈ query.entries.map rawEntry, Nested [';'] part := by
  rw [List.forall_mem_map]
  intro entry member
  obtain ⟨name, value⟩ := nested.nested_entries entry member
  exact (name.append (.of_all rfl)).append value

/-- **A clause shields every separator** of the query nested in it. -/
theorem nested_expandClause {query : Query} (nested : query.HasNestedTexts) {field : FieldName}
    (identifier : isIdentifier field.wireName = true) :
    Nested clauseSeparators (expandClause field query) := by
  have name := nested_of_isIdentifier identifier
  rw [expandClause]
  split
  · exact name
  · refine name.applied (.intercalate (.of_all rfl) fun part member => ?_)
    exact (nested.nested_rawEntry part member).mono (List.nil_subset _)

/-- The orderings so far are a value of the query. -/
theorem nested_get? {query : Query} (nested : query.HasNestedTexts) {name value : String}
    (found : query.options.get? name = some value) : Nested [';'] value := by
  obtain ⟨front, back, split, -⟩ := List.lookup_eq_some_iff.mp found
  exact nested.values (name, value) (by simp [split])

/-- **Every step writes nested texts** if its names are identifiers and its nested query has such
texts. -/
theorem writes_of_effect {query : Query} (nested : query.HasNestedTexts) {step : QueryStep}
    (identifiers : ∀ name ∈ step.wireNames, isIdentifier name = true)
    (deeper : ∀ field steps, step = .expandWith field steps → (buildSkipping steps).HasNestedTexts)
    {effect : QueryEffect} (effective : step.effect query = .ok effect) :
    effect.Writes (Nested [';']) (Nested clauseSeparators) := by
  have semicolon : [';'] ⊆ clauseSeparators := by decide
  cases step with
  | entitySet name =>
    cases effective
    trivial
  | select projection =>
    obtain ⟨names, found, written⟩ := bind_eq_ok.mp effective
    cases written
    refine .assign (by decide) (.intercalate (.of_all rfl) fun name member => ?_)
    have listed := Projection.mem_wireNames_of_fieldNames found name member
    exact (nested_of_isIdentifier (identifiers name listed)).mono semicolon
  | filter condition =>
    obtain ⟨text, rendered, written⟩ := bind_eq_ok.mp effective
    cases written
    exact .assign (by decide) ((Expr.nested_of_render identifiers rendered).mono semicolon)
  | expand field =>
    cases effective
    exact nested_of_isIdentifier (identifiers _ List.mem_cons_self)
  | expandWith field steps =>
    obtain ⟨inner, built, written⟩ := bind_eq_ok.mp effective
    cases written
    have innerNested := deeper field steps rfl
    rw [buildSkipping_of_build built] at innerNested
    exact innerNested.nested_expandClause (identifiers _ List.mem_cons_self)
  | orderBy field direction =>
    cases effective
    have term := (direction.nested_term (identifiers _ List.mem_cons_self)).mono semicolon
    exact .assign (by decide) term
  | thenBy field direction =>
    simp only [QueryStep.effect] at effective
    split at effective
    · cases effective
    · -- The new term comes behind those that are a value of the query already.
      rename_i orders found
      cases effective
      have term := (direction.nested_term (identifiers _ List.mem_cons_self)).mono semicolon
      have comma : Nested [';'] "," := .of_all rfl
      exact .assign (by decide) (((nested.nested_get? found).append comma).append term)
  | top number | skip number =>
    cases effective
    exact ⟨by decide, fun text written => (nested_positiveText number text written).mono semicolon⟩
  | count enabled =>
    cases effective
    cases enabled with
    | false =>
      refine ⟨by decide, fun text written => ?_⟩
      cases written
    | true => exact .assign (by decide) (.of_all rfl)
  | apply steps =>
    obtain ⟨aggregation, ran, written⟩ := bind_eq_ok.mp effective
    cases written
    have parts := Aggregation.HasNestedParts.empty.run identifiers ran
    exact ⟨by decide, fun text written => (parts.nested_render? text written).mono semicolon⟩

end HasNestedTexts

/-- **Steps whose names are identifiers build queries with nested texts**, by induction on the depth
of the nesting. -/
theorem hasNestedTexts_buildSkipping (steps : List QueryStep)
    (identifiers : ∀ name ∈ QueryStep.allWireNames steps, isIdentifier name = true) :
    (buildSkipping steps).HasNestedTexts := by
  refine buildSkipping_invariant _ (fun step member query effect nested effective => ?_) .empty
  have stepIdentifiers : ∀ name ∈ step.wireNames, isIdentifier name = true := fun name written =>
    identifiers name (QueryStep.wireNames_subset_allWireNames member written)
  refine nested.apply (nested.writes_of_effect stepIdentifiers ?_ effective)
  -- The steps of the nested query are a part of this step, so they are fewer.
  rintro field inner rfl
  have smaller : sizeOf inner < sizeOf steps := by
    have step := List.sizeOf_lt_of_mem member
    simp only [QueryStep.expandWith.sizeOf_spec] at step
    omega
  exact hasNestedTexts_buildSkipping inner fun name written =>
    stepIdentifiers name (List.mem_cons_of_mem _ written)
termination_by sizeOf steps

/-- The body of a clause is read back entry by entry. -/
theorem HasNestedTexts.map_cutAt_nestedText {query : Query} (nested : query.HasNestedTexts)
    (filled : query.entries ≠ []) :
    (splitOutside ';' query.nestedText).map (cutAt '=') = query.entries := by
  have parts : splitOutside ';' query.nestedText = query.entries.map rawEntry :=
    splitOutside_intercalate (by decide) rfl (by simpa using filled) nested.nested_rawEntry
  have cut : ∀ entry ∈ query.entries, cutAt '=' (rawEntry entry) = entry := fun entry member =>
    cutAt_append rfl ((nested.isEntryName entry member).free '=' (by decide)) entry.2
  rw [parts, List.map_map]
  exact (List.map_congr_left cut).trans (List.map_id _)

/-- **Expand clauses are read back**, as long as names are identifiers. The joined clauses of a
query come apart at the commas outside quotes and parentheses. A nested query that is built adds one
clause: the field alone if the nested query has nothing to say, and otherwise the field before a body
in parentheses. The body comes apart at the semicolons outside quotes and parentheses, and each part
at its first equals sign, into the options of the nested query and its own joined clauses. -/
theorem splitOutside_expands (steps : List QueryStep)
    (identifiers : ∀ name ∈ QueryStep.allWireNames steps, isIdentifier name = true) :
    let query := buildSkipping steps
    (query.expands ≠ [] → splitOutside ',' (",".intercalate query.expands) = query.expands) ∧
    ∀ (nested outer : Query) (field : FieldName), build steps = .ok nested →
      ∃ clause, (QueryStep.expandWith field steps).run outer =
          .ok { outer with expands := outer.expands ++ [clause] } ∧
        (nested.options.entries = [] ∧ nested.expands = [] → clause = field.wireName) ∧
        (¬(nested.options.entries = [] ∧ nested.expands = []) →
          ∃ body, clause = field.wireName ++ "(" ++ body ++ ")" ∧
            (splitOutside ';' body).map (cutAt '=') = nested.options.entries ++
              (if nested.expands = [] then []
                else [("$expand", ",".intercalate nested.expands)])) := by
  intro query
  have texts : query.HasNestedTexts := hasNestedTexts_buildSkipping steps identifiers
  refine ⟨fun filled => ?_, fun nested outer field built => ?_⟩
  · refine splitOutside_intercalate (by decide) rfl filled fun clause member => ?_
    exact (texts.clauses clause member).mono (by decide)
  · obtain rfl : query = nested := buildSkipping_of_build built
    have ran : (QueryStep.expandWith field steps).run outer =
        .ok (outer.expandWith field query) := by
      rw [QueryStep.run]
      exact congrArg (Except.map (outer.expandWith field)) built
    refine ⟨expandClause field query, ran, fun empty => ?_, fun filled => ?_⟩
    · exact if_pos (entries_eq_nil.mpr empty)
    · have entries : query.entries ≠ [] := mt entries_eq_nil.mp filled
      exact ⟨query.nestedText, if_neg entries, texts.map_cutAt_nestedText entries⟩

/-- A nested query with a string of quotes, parentheses and separators, and with a query nested in
it. -/
theorem splitOutside_expands_hostile :
    let inner : List QueryStep :=
      [.filter
          (.comparison .eq (.member (.ofField (.plain "name"))) (.literal (.string "a';,(&=)"))),
        .expandWith (.plain "unit") [.top 2, .count true], .expand (.plain "vendor")]
    let lines := "lines($filter=(name eq 'a'';,(&=)');$expand=unit($top=2;$count=true),vendor)"
    (buildSkipping [.expandWith (.plain "lines") inner, .expand (.plain "buyer")]).expands =
        [lines, "buyer"] ∧
      splitOutside ',' (lines ++ ",buyer") = [lines, "buyer"] ∧
      ∃ body, lines = "lines" ++ "(" ++ body ++ ")" ∧
        (splitOutside ';' body).map (cutAt '=') =
          [("$filter", "(name eq 'a'';,(&=)')"),
            ("$expand", "unit($top=2;$count=true),vendor")] := by
  intro inner lines
  have built : build inner =
      .ok ⟨⟨[("$filter", "(name eq 'a'';,(&=)')")]⟩,
        ["unit($top=2;$count=true)", "vendor"], none⟩ := rfl
  have ran : (QueryStep.expandWith (.plain "lines") inner).run .empty =
      .ok ⟨.empty, [lines], none⟩ := rfl
  refine ⟨rfl, ?_, ?_⟩
  · exact (splitOutside_expands [.expandWith (.plain "lines") inner, .expand (.plain "buyer")]
      (by decide)).1 (List.cons_ne_nil lines ["buyer"])
  · obtain ⟨clause, added, -, some⟩ :=
      (splitOutside_expands inner (by decide)).2 _ .empty (.plain "lines") built
    obtain ⟨body, written, read⟩ := some (by decide)
    rw [ran] at added
    have same : [lines] = [clause] := congrArg Query.expands (Except.ok.inj added)
    obtain rfl := List.singleton_inj.mp same
    exact ⟨body, written, read⟩

end Query

end ODataClient

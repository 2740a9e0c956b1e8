import Mathlib.Logic.Relation
import ODataClient.Proofs.Filter.Grammar
import ODataClient.Proofs.Query.LastWrites

/-! # Runs of an aggregation

The calls on an aggregation give it things to check, the fields of groupings and the aliases of terms, and
the first that is unsound stops the run. What a run gathers is told from the calls as a list, without a
state: a path grouped by again adds nothing, and paths and terms do not see each other.

* **`Text.IsAlias`** — the aliases; `Text.isIdentifier_iff` says that the check knows them.
* **`AggregationItem`**, **`AggregationItem.IsFirstFault`** — what is checked, and the error of a run.
  `Aggregation.of?_step` is one call, `Aggregation.of?_run` the whole run.
* **`Aggregation.gathered`** — the paths and terms of some calls; `step_of_sound` and `run_of_sound` say
  that a run gathers them.
* **`Aggregation.Regroups`** — one change to the calls that cannot be seen, and
  `alike_of_eqvGen_regroups` for any number of them.
* **`Aggregation.run_gathers_calls`** — all of it for runs on a new aggregation, with the value of the
  option. -/

namespace ODataClient

/-! ## Aliases -/

namespace Text

/-- A letter of ASCII, or the underscore. -/
def IsAliasStart (char : Char) : Prop :=
  'A' ≤ char ∧ char ≤ 'Z' ∨ 'a' ≤ char ∧ char ≤ 'z' ∨ char = '_'

/-- A letter or a digit of ASCII, or the underscore. -/
def IsAliasPart (char : Char) : Prop := IsAliasStart char ∨ '0' ≤ char ∧ char ≤ '9'

/-- A letter or the underscore, and then letters, digits and underscores. -/
def IsAlias (text : String) : Prop :=
  ∃ first rest, text.toList = first :: rest ∧ IsAliasStart first ∧ ∀ char ∈ rest, IsAliasPart char

theorem isIdentifierStart_iff {char : Char} : isIdentifierStart char = true ↔ IsAliasStart char := by
  have upper : char.isUpper = decide ('A' ≤ char ∧ char ≤ 'Z') := rfl
  have lower : char.isLower = ('a' ≤ char && char ≤ 'z') := rfl
  have letter : char.isAlpha = (char.isUpper || char.isLower) := rfl
  simp only [isIdentifierStart, IsAliasStart, letter, upper, lower, Bool.or_eq_true, Bool.and_eq_true,
    decide_eq_true_eq, beq_iff_eq, or_assoc]

theorem isIdentifierPart_iff {char : Char} : isIdentifierPart char = true ↔ IsAliasPart char := by
  have digit : char.isDigit = ('0' ≤ char && char ≤ '9') := rfl
  have word : char.isAlphanum = (char.isAlpha || char.isDigit) := rfl
  rw [IsAliasPart, ← isIdentifierStart_iff]
  simp only [isIdentifierPart, isIdentifierStart, word, digit, Bool.or_eq_true, Bool.and_eq_true,
    decide_eq_true_eq, or_right_comm]

/-- The check of an alias knows the aliases. -/
theorem isIdentifier_iff {text : String} : isIdentifier text = true ↔ IsAlias text := by
  rw [isIdentifier, IsAlias]
  cases text.toList with
  | nil => simp [isIdentifierChars]
  | cons first rest =>
    simp only [isIdentifierChars, Bool.and_eq_true, List.all_eq_true, isIdentifierStart_iff,
      isIdentifierPart_iff]
    constructor
    · exact fun parts => ⟨first, rest, rfl, parts⟩
    · rintro ⟨_, _, ⟨⟩, parts⟩
      exact parts

end Text

/-! ## What is checked -/

/-- The wire path that a grouping stands for, if it is a member under its coercions. -/
def Expr.groupPath? (expr : Expr) : Option String :=
  match expr.stripConvert with
  | .member path => some path.wirePath
  | _ => none

theorem Expr.isSome_groupPath?_iff {expr : Expr} :
    expr.groupPath?.isSome = true ↔ ∃ path, expr.stripConvert = .member path := by
  rw [groupPath?]
  cases expr.stripConvert <;> simp

/-- What a call gives to check. -/
inductive AggregationItem
  /-- A field to group by, given as an expression. -/
  | field (expr : Expr)
  /-- The alias of a term. -/
  | name (text : String)
deriving DecidableEq, Repr

namespace AggregationItem

/-- A field must be a member under its coercions, and a name an alias. -/
def IsSound : AggregationItem → Prop
  | field expr => ∃ path, expr.stripConvert = .member path
  | name text => Text.IsAlias text

instance : DecidablePred IsSound
  | field _ => decidable_of_iff _ Expr.isSome_groupPath?_iff
  | name _ => decidable_of_iff _ Text.isIdentifier_iff

/-- The error of an item that is unsound. A field is described without its coercions. -/
def error : AggregationItem → QueryError
  | field expr => .invalidAggregationField expr.stripConvert.describe
  | name text => .invalidAggregationField ("alias '" ++ text ++ "' is not an identifier")

/-- What is wrong with an item. -/
def offence? (item : AggregationItem) : Option QueryError :=
  if item.IsSound then none else some item.error

theorem offence?_eq_none_iff {item : AggregationItem} : item.offence? = none ↔ item.IsSound := by
  simp [offence?]

theorem offence?_eq_some_iff {item : AggregationItem} {error : QueryError} :
    item.offence? = some error ↔ ¬ item.IsSound ∧ item.error = error := by
  simp [offence?]

/-- An error is that of the first item, among those of all calls in order, that is unsound. -/
def IsFirstFault (items : List AggregationItem) (error : QueryError) : Prop :=
  ∃ before item after, items = before ++ item :: after ∧
    (¬ item.IsSound ∧ item.error = error) ∧ ∀ earlier ∈ before, earlier.IsSound

theorem findSome?_offence?_eq_none_iff {items : List AggregationItem} :
    items.findSome? offence? = none ↔ ∀ item ∈ items, item.IsSound := by
  simp only [List.findSome?_eq_none_iff, offence?_eq_none_iff]

/-- The error of the first unsound item is found by looking at one item after another. -/
theorem findSome?_offence?_eq_some_iff {items : List AggregationItem} {error : QueryError} :
    items.findSome? offence? = some error ↔ IsFirstFault items error := by
  simp only [List.findSome?_eq_some_iff, offence?_eq_none_iff, offence?_eq_some_iff, IsFirstFault]

end AggregationItem

/-! ## What calls give -/

namespace AggregationStep

/-- What a call gives to check, in order. -/
def items : AggregationStep → List AggregationItem
  | groupBy fields => fields.map .field
  | aggregate _ _ name | count name => [.name name]

/-- The wire paths that a call groups by. -/
def paths : AggregationStep → List String
  | groupBy fields => fields.filterMap Expr.groupPath?
  | aggregate _ _ _ | count _ => []

/-- The term of a call that is no grouping. -/
def term? : AggregationStep → Option String
  | groupBy _ => none
  | aggregate field op name => some (field.wireName ++ " with " ++ op.keyword ++ " as " ++ name)
  | count name => some ("$count as " ++ name)

@[simp] theorem items_groupBy (fields : List Expr) : (groupBy fields).items = fields.map .field := rfl

@[simp] theorem paths_groupBy (fields : List Expr) :
    (groupBy fields).paths = fields.filterMap Expr.groupPath? := rfl

@[simp] theorem filterMap_term?_groupBy (fields : List Expr) (rest : List AggregationStep) :
    (groupBy fields :: rest).filterMap term? = rest.filterMap term? := rfl

/-- A call that adds a term groups by nothing. -/
theorem paths_of_term? {call : AggregationStep} {term : String} (isTerm : call.term? = some term) :
    call.paths = [] := by
  cases call with
  | groupBy fields => cases isTerm
  | aggregate | count => rfl

end AggregationStep

namespace Aggregation

open AggregationItem QueryError

/-- What some calls gather: their wire paths without those that come again, and their terms. -/
def gathered (calls : List AggregationStep) : Aggregation where
  groups := (calls.flatMap AggregationStep.paths).eraseDups
  terms := calls.filterMap AggregationStep.term?

/-- All that some calls give to check is sound. -/
def IsSoundRun (calls : List AggregationStep) : Prop :=
  ∀ item ∈ calls.flatMap AggregationStep.items, item.IsSound

theorem isSoundRun_append_cons {before after : List AggregationStep} {call : AggregationStep} :
    IsSoundRun (before ++ call :: after) ↔
      IsSoundRun before ∧ (∀ item ∈ call.items, item.IsSound) ∧ IsSoundRun after := by
  simp only [IsSoundRun, List.flatMap_append, List.flatMap_cons, List.forall_mem_append]

theorem isSoundRun_cons {call : AggregationStep} {rest : List AggregationStep} :
    IsSoundRun (call :: rest) ↔ (∀ item ∈ call.items, item.IsSound) ∧ IsSoundRun rest := by
  simp only [IsSoundRun, List.flatMap_cons, List.forall_mem_append]

/-! ## Where a run stops -/

/-- A grouping has its path if it has one, and else the error of a field. -/
theorem groupPath_eq (expr : Expr) :
    groupPath expr = expr.groupPath?.elim (.error (AggregationItem.field expr).error) .ok := by
  induction expr with
  | convert inner ih => exact ih
  | comparison | logical | negation | member | literal | call | membership | collection => rfl

theorem of?_groupPath (expr : Expr) : of? (groupPath expr) = (AggregationItem.field expr).offence? := by
  have sound : (AggregationItem.field expr).IsSound ↔ _ := Expr.isSome_groupPath?_iff.symm
  simp only [groupPath_eq, offence?, sound]
  cases expr.groupPath? <;> rfl

theorem of?_checkAlias (name : String) : of? (checkAlias name) = (AggregationItem.name name).offence? := by
  have sound : (AggregationItem.name name).IsSound ↔ _ := Text.isIdentifier_iff.symm
  simp only [checkAlias, offence?, sound]
  split <;> rfl

/-- Adding groupings stops at the first that is unsound, whatever was grouped by before. -/
theorem of?_addGroups (fields : List Expr) (groups : List String) :
    of? (addGroups fields groups) = (fields.map AggregationItem.field).findSome? offence? := by
  induction fields generalizing groups with
  | nil => rfl
  | cons field rest ih =>
    -- What a grouping adds is never looked at by the check of a later one.
    rw [addGroups, of?_bind fun _ => ih _, of?_groupPath, List.map_cons, List.findSome?_cons]
    cases (AggregationItem.field field).offence? <;> rfl

/-- A call stops at the first of its items that is unsound. -/
theorem of?_step (aggregation : Aggregation) (call : AggregationStep) :
    of? (aggregation.step call) = call.items.findSome? offence? := by
  cases call with
  | groupBy fields => exact of?_bind_pure.trans (of?_addGroups fields aggregation.groups)
  | aggregate field op name =>
    refine (of?_bind_pure.trans (of?_checkAlias name)).trans ?_
    simp [AggregationStep.items]
  | count name =>
    refine (of?_bind_pure.trans (of?_checkAlias name)).trans ?_
    simp [AggregationStep.items]

/-- **A run stops at the first unsound item of its calls**, whatever was gathered before. -/
theorem of?_run (calls : List AggregationStep) (aggregation : Aggregation) :
    of? (run calls aggregation) = (calls.flatMap AggregationStep.items).findSome? offence? := by
  induction calls generalizing aggregation with
  | nil => rfl
  | cons call rest ih =>
    rw [run, of?_bind fun _ => ih _, of?_step, List.flatMap_cons, List.findSome?_append]

/-! ## What a run gathers -/

/-- A path is added unless it came before. -/
theorem addGroup_eraseDups (seen : List String) (path : String) :
    addGroup seen.eraseDups path = (seen ++ [path]).eraseDups := by
  rw [List.eraseDups_append]
  by_cases listed : path ∈ seen
  · simp [addGroup, listed, List.removeAll]
  · simp [addGroup, listed, List.removeAll, List.eraseDups_cons]

/-- Sound groupings are added in order, but for those that came before. -/
theorem addGroups_of_sound {fields : List Expr}
    (sound : ∀ field ∈ fields, (AggregationItem.field field).IsSound) (seen : List String) :
    addGroups fields seen.eraseDups =
      .ok (seen ++ fields.filterMap Expr.groupPath?).eraseDups := by
  induction fields generalizing seen with
  | nil => simp [addGroups]
  | cons field rest ih =>
    obtain ⟨first, others⟩ := List.forall_mem_cons.mp sound
    obtain ⟨path, isPath⟩ := Option.isSome_iff_exists.mp (Expr.isSome_groupPath?_iff.mpr first)
    have read : groupPath field = .ok path := by rw [groupPath_eq, isPath]; rfl
    calc addGroups (field :: rest) seen.eraseDups
        = addGroups rest (addGroup seen.eraseDups path) := by rw [addGroups, read]; rfl
      _ = addGroups rest (seen ++ [path]).eraseDups := by rw [addGroup_eraseDups]
      _ = .ok (seen ++ [path] ++ rest.filterMap Expr.groupPath?).eraseDups := ih others _
      _ = .ok (seen ++ (field :: rest).filterMap Expr.groupPath?).eraseDups := by
        rw [List.filterMap_cons_some isPath, List.append_assoc, List.singleton_append]

theorem checkAlias_of_sound {name : String} (sound : (AggregationItem.name name).IsSound) :
    checkAlias name = .ok name :=
  if_pos (Text.isIdentifier_iff.mpr sound)

/-- **One sound call** adds its paths, but for those that came before, and its term. -/
theorem step_of_sound {call : AggregationStep} (sound : ∀ item ∈ call.items, item.IsSound)
    (seen terms : List String) :
    step ⟨seen.eraseDups, terms⟩ call =
      .ok ⟨(seen ++ call.paths).eraseDups, terms ++ call.term?.toList⟩ := by
  cases call with
  | groupBy fields =>
    rw [step, addGroups_of_sound (List.forall_mem_map.mp sound) seen, AggregationStep.term?,
      Option.toList_none, List.append_nil]
    rfl
  | aggregate field op name =>
    rw [step, checkAlias_of_sound (sound _ (List.mem_singleton_self _)), AggregationStep.paths,
      List.append_nil]
    rfl
  | count name =>
    rw [step, checkAlias_of_sound (sound _ (List.mem_singleton_self _)), AggregationStep.paths,
      List.append_nil]
    rfl

/-- Sound calls add their paths, but for those that came before, and their terms. -/
theorem run_from_of_sound {calls : List AggregationStep} (sound : IsSoundRun calls)
    (seen terms : List String) :
    run calls ⟨seen.eraseDups, terms⟩ =
      .ok ⟨(seen ++ calls.flatMap AggregationStep.paths).eraseDups,
        terms ++ calls.filterMap AggregationStep.term?⟩ := by
  -- The paths seen so far stand as they were given, repetitions and all, so that those of a call can be
  -- appended; the state has them without their repetitions.
  induction calls generalizing seen terms with
  | nil => simp [run]
  | cons call rest ih =>
    obtain ⟨first, others⟩ := isSoundRun_cons.mp sound
    rw [run, step_of_sound first]
    refine (ih others _ _).trans ?_
    cases isTerm : call.term? <;> simp [isTerm]

/-- **Sound calls on a new aggregation** gather their paths and terms. -/
theorem run_of_sound {calls : List AggregationStep} (sound : IsSoundRun calls) :
    run calls empty = .ok (gathered calls) := by
  simpa [empty, gathered] using run_from_of_sound sound [] []

/-- A run on a new aggregation has a result if its calls are sound, and it is what they gather. -/
theorem run_eq_ok_iff {calls : List AggregationStep} {result : Aggregation} :
    run calls empty = .ok result ↔ IsSoundRun calls ∧ result = gathered calls := by
  constructor
  · intro ran
    have sound : IsSoundRun calls := by
      rw [IsSoundRun, ← findSome?_offence?_eq_none_iff, ← of?_run calls empty, ran]
      rfl
    exact ⟨sound, Except.ok.inj (ran.symm.trans (run_of_sound sound))⟩
  · rintro ⟨sound, rfl⟩
    exact run_of_sound sound

/-- The error of a run is that of the first unsound item. -/
theorem run_eq_error_iff {calls : List AggregationStep} {error : QueryError} :
    run calls empty = .error error ↔ IsFirstFault (calls.flatMap AggregationStep.items) error := by
  rw [← of?_eq_some_iff, of?_run, AggregationItem.findSome?_offence?_eq_some_iff]

/-! ## Calls that gather the same -/

/-- One change to some calls that cannot be seen. -/
inductive Regroups : List AggregationStep → List AggregationStep → Prop
  /-- The fields of a grouping are split over two. -/
  | split (before after : List AggregationStep) (fields others : List Expr) :
      Regroups (before ++ .groupBy (fields ++ others) :: after)
        (before ++ .groupBy fields :: .groupBy others :: after)
  /-- A member, under any coercions, is grouped by again when its path is listed before it, in the same
  grouping or an earlier one. -/
  | again (before after : List AggregationStep) (fields others : List Expr) {field : Expr}
      {path : MemberPath} (isMember : field.stripConvert = .member path)
      (listed : path.wirePath ∈
        before.flatMap AggregationStep.paths ++ fields.filterMap Expr.groupPath?) :
      Regroups (before ++ .groupBy (fields ++ others) :: after)
        (before ++ .groupBy (fields ++ field :: others) :: after)
  /-- A call that adds a term comes before a grouping and not after it. -/
  | pass (before after : List AggregationStep) (fields : List Expr) {call : AggregationStep}
      {term : String} (isTerm : call.term? = some term) :
      Regroups (before ++ .groupBy fields :: call :: after)
        (before ++ call :: .groupBy fields :: after)

/-- A path that came before adds nothing. -/
theorem eraseDups_append_cons_of_mem {path : String} {seen : List String} (listed : path ∈ seen)
    (later : List String) : (seen ++ path :: later).eraseDups = (seen ++ later).eraseDups := by
  rw [List.eraseDups_append, List.eraseDups_append, List.removeAll, List.removeAll,
    List.filter_cons_of_neg (by simpa using listed)]

namespace Regroups

variable {calls others : List AggregationStep}

/-- One change leaves what is gathered. -/
theorem gathered_eq (regroups : Regroups calls others) : gathered calls = gathered others := by
  cases regroups with
  | split before after fields others => simp [gathered]
  | @again before after fields others field path isMember listed =>
    have isPath : field.groupPath? = some path.wirePath := by rw [Expr.groupPath?, isMember]
    have grouped := eraseDups_append_cons_of_mem listed
      (others.filterMap Expr.groupPath? ++ after.flatMap AggregationStep.paths)
    simpa [gathered, isPath] using grouped.symm
  | pass before after fields isTerm =>
    simp [gathered, isTerm, AggregationStep.paths_of_term? isTerm]

/-- One change leaves calls sound, or unsound. -/
theorem isSoundRun_iff (regroups : Regroups calls others) : IsSoundRun calls ↔ IsSoundRun others := by
  cases regroups with
  | split before after fields others =>
    simp only [isSoundRun_append_cons, isSoundRun_cons, AggregationStep.items_groupBy,
      List.map_append, List.forall_mem_append, and_assoc]
  | @again before after fields others field path isMember listed =>
    have isSound : (AggregationItem.field field).IsSound := ⟨path, isMember⟩
    simp only [isSoundRun_append_cons, AggregationStep.items_groupBy, List.map_append, List.map_cons,
      List.forall_mem_append, List.forall_mem_cons, isSound, true_and]
  | pass before after fields isTerm =>
    rw [isSoundRun_append_cons, isSoundRun_append_cons, isSoundRun_cons, isSoundRun_cons]
    exact and_congr_right fun _ => and_left_comm

end Regroups

/-- Any number of changes leave what is gathered, and leave calls sound, or unsound. -/
theorem alike_of_eqvGen_regroups {calls others : List AggregationStep}
    (alike : Relation.EqvGen Regroups calls others) :
    (IsSoundRun calls ↔ IsSoundRun others) ∧ gathered calls = gathered others := by
  induction alike with
  | rel calls others regroups => exact ⟨regroups.isSoundRun_iff, regroups.gathered_eq⟩
  | refl calls => exact ⟨Iff.rfl, rfl⟩
  | symm calls others _ ih => exact ⟨ih.1.symm, ih.2.symm⟩
  | trans calls middle others _ _ first second =>
    exact ⟨first.1.trans second.1, first.2.trans second.2⟩

/-! ## The value of the option -/

/-- The value of the option for some paths and some terms, if there is one. -/
inductive IsApplyText : List String → List String → Option String → Prop
  /-- There is no value if there is nothing. -/
  | nothing : IsApplyText [] [] none
  /-- The paths alone. -/
  | grouped {groups : List String} (filled : groups ≠ []) :
      IsApplyText groups [] (some ("groupby((" ++ ",".intercalate groups ++ "))"))
  /-- The terms alone. -/
  | aggregated {terms : List String} (filled : terms ≠ []) :
      IsApplyText [] terms (some ("aggregate(" ++ ",".intercalate terms ++ ")"))
  /-- The paths, and then the terms. -/
  | both {groups terms : List String} (grouped : groups ≠ []) (aggregated : terms ≠ []) :
      IsApplyText groups terms (some ("groupby((" ++ ",".intercalate groups ++ "),aggregate(" ++
        ",".intercalate terms ++ "))"))

/-- An aggregation is written as its paths and terms are. -/
theorem isApplyText_render? (aggregation : Aggregation) :
    IsApplyText aggregation.groups aggregation.terms aggregation.render? := by
  obtain ⟨groups, terms⟩ := aggregation
  have opening : "groupby((" = "groupby(" ++ "(" := rfl
  have middle : "),aggregate(" = ")" ++ ("," ++ "aggregate(") := rfl
  have closing : "))" = ")" ++ ")" := rfl
  cases groups with
  | nil =>
    cases terms with
    | nil => exact .nothing
    | cons term rest => exact .aggregated (List.cons_ne_nil term rest)
  | cons path others =>
    cases terms with
    | nil =>
      have text := IsApplyText.grouped (List.cons_ne_nil path others)
      simpa only [opening, closing, render?, groupsText, String.append_assoc] using text
    | cons term rest =>
      have text := IsApplyText.both (List.cons_ne_nil path others) (List.cons_ne_nil term rest)
      simpa only [opening, middle, closing, render?, groupsText, termsText, String.append_assoc]
        using text

/-! ## A run as a whole -/

/-- **A run on a new aggregation.** It has a result exactly if every field is a member under its
coercions and every alias is one, and any error is that of the first item of which this is not true. The
value of a result, and of the option on any query, has the paths of all groupings without those that
come again, and the terms in the order of their calls. Splitting groupings, grouping by a listed path
again and moving terms across groupings, any number of times, leave the value. -/
theorem run_gathers_calls (calls : List AggregationStep) :
    ((∃ result, run calls empty = .ok result) ↔ IsSoundRun calls) ∧
      (∀ error, run calls empty = .error error ↔
        IsFirstFault (calls.flatMap AggregationStep.items) error) ∧
      ∀ result, run calls empty = .ok result →
        IsApplyText (gathered calls).groups (gathered calls).terms result.render? ∧
          (∀ query : Query, ∃ next, (QueryStep.apply calls).run query = .ok next ∧
            next.options.get? QueryOptions.applyName = result.render?) ∧
          ∀ others, Relation.EqvGen Regroups calls others →
            ∃ other, run others empty = .ok other ∧ other.render? = result.render? := by
  refine ⟨⟨?_, ?_⟩, fun error => run_eq_error_iff, ?_⟩
  · rintro ⟨result, ran⟩
    exact (run_eq_ok_iff.mp ran).1
  · exact fun sound => ⟨gathered calls, run_of_sound sound⟩
  · intro result ran
    obtain ⟨sound, rfl⟩ := run_eq_ok_iff.mp ran
    refine ⟨isApplyText_render? _, fun query => ?_, fun others alike => ?_⟩
    · refine ⟨query.aggregate (gathered calls), by rw [QueryStep.run, ran]; rfl, ?_⟩
      exact (QueryOptions.get?_assign _ _ _ _).trans (if_pos rfl)
    · obtain ⟨stillSound, same⟩ := alike_of_eqvGen_regroups alike
      exact ⟨gathered others, run_of_sound (stillSound.mp sound), by rw [same]⟩

/-- The alias in the second call comes before the literal in the third. -/
example : run [.groupBy [(FieldName.plain "region").expr], .count "1st", .groupBy [.literal .null]]
    empty = .error (.invalidAggregationField "alias '1st' is not an identifier") := rfl

/-- A term moves behind a grouping, the grouping is split, and its first field, a path of two segments,
is grouped by again without its coercion. -/
theorem run_gathers_calls_moved_split_and_repeated :
    let city := Expr.member ⟨[.plain "customer", .renamed "city" "cityName"]⟩
    let item := (FieldName.renamed "item" "itemNo").expr
    let total := AggregationStep.aggregate (.plain "amount") .sum "total"
    let calls := [total, .groupBy [city.convert, item], .count "_n1"]
    let others := [.groupBy [city.convert], .groupBy [item, city], total, .count "_n1"]
    Relation.EqvGen Regroups calls others ∧
      ∃ result other, run calls empty = .ok result ∧ run others empty = .ok other ∧
        result.render? = some ("groupby((customer/cityName,itemNo),"
          ++ "aggregate(amount with sum as total,$count as _n1))") ∧
        other.render? = result.render? := by
  intro city item total calls others
  have alike : Relation.EqvGen Regroups calls others :=
    .trans _ _ _ (.symm _ _ (.rel _ _ (.pass [] [.count "_n1"] [city.convert, item] rfl)))
      (.trans _ _ _ (.rel _ _ (.split [] [total, .count "_n1"] [city.convert] [item]))
        (.rel _ _ (.again [.groupBy [city.convert]] [total, .count "_n1"] [item] [] rfl (by decide))))
  have ran : run calls empty = .ok ⟨["customer/cityName", "itemNo"],
      ["amount with sum as total", "$count as _n1"]⟩ := rfl
  obtain ⟨-, -, whole⟩ := run_gathers_calls calls
  obtain ⟨-, -, regrouped⟩ := whole _ ran
  obtain ⟨other, otherRan, same⟩ := regrouped others alike
  exact ⟨alike, _, other, ran, otherRan, rfl, same⟩

end Aggregation

end ODataClient

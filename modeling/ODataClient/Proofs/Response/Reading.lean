import Mathlib.Data.List.Forall2
import ODataClient.Proofs.Json.Values
import ODataClient.Response.Envelope

/-! # How responses are read

An envelope is read as a whole: it exists if each of its fields has the shape that the field asks for,
and the answers of a batch are one of these fields. What a field asks for is said here by shapes of
values, apart from the readers.

* **`SubResponse.IsAnswer`** — the values that are an answer on their own, and the answer that they
  are; `SubResponse.ofValue?_eq_some_iff` says that the reader agrees.
* **`Envelope.Holds`**, **`Envelope.IsMadeOf`** — what an optional field holds, and the envelope that
  the members of an object make up; `Envelope.ofFields_eq_some_iff` says that the reader agrees.
* **`Envelope.ofBody_of_parse?`** — an envelope is made of the members of the object in the body,
  found by their names.
* **`Envelope.exists_isMadeOf_iff`** — an object with entries for answers makes up an envelope if its
  other fields are readable and every entry is an answer.
-/

namespace ODataClient

/-- All results of a reading exist if each does, in the same order. -/
theorem mapM_eq_some_iff {α β : Type} {read : α → Option β} {items : List α} {results : List β} :
    items.mapM read = some results ↔
      List.Forall₂ (fun item result => read item = some result) items results := by
  induction items generalizing results with
  | nil =>
    rw [List.mapM_nil, List.forall₂_nil_left_iff]
    exact Option.some_inj.trans eq_comm
  | cons item rest ih =>
    rw [List.mapM_cons, List.forall₂_cons_left_iff]
    constructor
    · intro read
      obtain ⟨result, first, others⟩ := Option.bind_eq_some_iff.mp read
      obtain ⟨results, others, same⟩ := Option.bind_eq_some_iff.mp others
      exact ⟨result, results, first, ih.mp others, (Option.some.inj same).symm⟩
    · rintro ⟨result, results, first, others, rfl⟩
      rw [first, ih.mpr others]
      rfl

/-- A value is a text if it is written as one. -/
theorem JsonValue.string?_eq_some_iff {value : JsonValue} {text : String} :
    value.string? = some text ↔ value = .string text := by
  cases value <;> simp [string?]

/-- A value is a natural number up to a bound if it is written as one. -/
theorem JsonValue.nat?_eq_some_iff {value : JsonValue} {upper number : Nat} :
    value.nat? upper = some number ↔ value = .number (.integer number) ∧ number ≤ upper := by
  constructor
  · intro read
    obtain ⟨int, isInt, rfl⟩ := Option.map_eq_some_iff.mp read
    cases value with
    | number value =>
      cases value with
      | integer value =>
        simp only [int?, JsonNumber.toInt?, Option.bind_eq_bind, Option.bind_some,
          Option.ite_none_right_eq_some, Option.some.injEq] at isInt
        obtain ⟨⟨low, high⟩, rfl⟩ := isInt
        rw [Int.toNat_of_nonneg low]
        exact ⟨rfl, by omega⟩
      | double value => cases isInt
    | null | bool | string | array | object => cases isInt
  · rintro ⟨rfl, bound⟩
    simp [nat?, int?, JsonNumber.toInt?, bound]

/-! ## Answers -/

namespace SubResponse

/-- The ids that a value spells: a text, or the decimal text of a natural number. -/
inductive SpellsId : JsonValue → String → Prop
  /-- A text is the id. -/
  | text (id : String) : SpellsId (.string id) id
  /-- A number is written in decimal. -/
  | number (number : Nat) (bound : number ≤ maxId) :
      SpellsId (.number (.integer number)) (naturalText number)

/-- The headers that a field gives: none if it is left out, else the members of an object of texts. -/
inductive GivesHeaders : Option JsonValue → List (String × String) → Prop
  /-- The field is left out. -/
  | absent : GivesHeaders none []
  /-- The field is an object of texts. -/
  | texts (headers : List (String × String)) :
      GivesHeaders (some (.object (headers.map fun header => (header.1, .string header.2)))) headers

/-- The values that are an answer on their own, whatever their body. -/
structure IsAnswer (value : JsonValue) (answer : SubResponse) : Prop where
  /-- There are an id and a status, and perhaps headers and a body. -/
  fields : ∃ id headers body,
    value.fields? fieldNames =
        some [some id, some (.number (.integer answer.status)), headers, body] ∧
      SpellsId id answer.id ∧ GivesHeaders headers answer.headers ∧ answer.body = body.getD .null
  /-- The status has 16 bits. -/
  bound : answer.status ≤ maxStatus

/-- The reader of ids agrees with what values spell. -/
theorem id?_eq_some_iff {value : JsonValue} {id : String} :
    id? value = some id ↔ SpellsId value id := by
  constructor
  · intro read
    match value with
    | .string text =>
      obtain rfl := Option.some.inj read
      exact .text text
    | .number value =>
      obtain ⟨number, isNumber, rfl⟩ := Option.map_eq_some_iff.mp read
      obtain ⟨same, bound⟩ := JsonValue.nat?_eq_some_iff.mp isNumber
      rw [same]
      exact .number number bound
    | .null | .bool _ | .array _ | .object _ => cases read
  · intro spells
    cases spells with
    | text => rfl
    | number number bound =>
      rw [id?, JsonValue.nat?_eq_some_iff.mpr ⟨rfl, bound⟩]
      · rfl
      · intro text same
        cases same

/-- A member is read as a header if its value is a text. -/
theorem header_eq_some_iff {member : String × JsonValue} {header : String × String} :
    (member.2.string?.map (member.1, ·)) = some header ↔ member = (header.1, .string header.2) := by
  obtain ⟨name, value⟩ := member
  constructor
  · intro read
    obtain ⟨text, isText, rfl⟩ := Option.map_eq_some_iff.mp read
    cases value with
    | string value =>
      obtain rfl := Option.some.inj isText
      rfl
    | null | bool | number | array | object => cases isText
  · intro same
    cases same
    rfl

/-- Members are read as headers if all their values are texts. -/
theorem headers?_object_eq_some_iff {members : List (String × JsonValue)}
    {headers : List (String × String)} :
    headers? (.object members) = some headers ↔
      members = headers.map fun header => (header.1, .string header.2) := by
  have each : headers? (.object members) = some headers ↔
      List.Forall₂ (fun member header => member.2.string?.map (member.1, ·) = some header)
        members headers := mapM_eq_some_iff
  simp only [header_eq_some_iff] at each
  rw [each, ← List.forall₂_map_right_iff (R := Eq), List.forall₂_eq_eq_eq]

/-- The reader of headers agrees with what fields give. -/
theorem fieldOr_headers?_eq_some_iff {field : Option JsonValue} {headers : List (String × String)} :
    JsonValue.fieldOr [] headers? field = some headers ↔ GivesHeaders field headers := by
  constructor
  · intro read
    match field with
    | none =>
      obtain rfl := Option.some.inj read
      exact .absent
    | some (.object members) =>
      rw [headers?_object_eq_some_iff.mp read]
      exact .texts headers
    | some .null | some (.bool _) | some (.number _) | some (.string _) | some (.array _) =>
      cases read
  · intro given
    cases given with
    | absent => rfl
    | texts => exact headers?_object_eq_some_iff.mpr rfl

/-- **The reader of answers agrees** with what answers are. -/
theorem ofValue?_eq_some_iff {value : JsonValue} {answer : SubResponse} :
    ofValue? value = some answer ↔ IsAnswer value answer := by
  constructor
  · intro read
    obtain ⟨fields, found, read⟩ := Option.bind_eq_some_iff.mp read
    unfold ofFields at read
    split at read
    · rename_i id status headers body
      obtain ⟨spelled, isId, read⟩ := Option.bind_eq_some_iff.mp read
      obtain ⟨code, isStatus, read⟩ := Option.bind_eq_some_iff.mp read
      obtain ⟨given, areHeaders, read⟩ := Option.bind_eq_some_iff.mp read
      obtain rfl := Option.some.inj read
      obtain ⟨rfl, bound⟩ := JsonValue.nat?_eq_some_iff.mp isStatus
      exact ⟨⟨id, headers, body, found, id?_eq_some_iff.mp isId,
        fieldOr_headers?_eq_some_iff.mp areHeaders, rfl⟩, bound⟩
    · cases read
  · rintro ⟨⟨id, headers, body, found, isId, areHeaders, isBody⟩, bound⟩
    rw [ofValue?, found]
    simp only [Option.bind_eq_bind, Option.bind_some, ofFields, id?_eq_some_iff.mpr isId,
      JsonValue.nat?_eq_some_iff.mpr ⟨rfl, bound⟩, fieldOr_headers?_eq_some_iff.mpr areHeaders,
      ← isBody]
    rfl

/-- A value is at most one answer. -/
theorem IsAnswer.unique {value : JsonValue} {first second : SubResponse}
    (isFirst : IsAnswer value first) (isSecond : IsAnswer value second) : first = second := by
  rw [← ofValue?_eq_some_iff] at isFirst isSecond
  exact Option.some.inj (isFirst.symm.trans isSecond)

end SubResponse

/-! ## Optional fields -/

namespace Envelope

/-- A field that may be left out or absent holds nothing in these two cases, and what its value stands
for otherwise. -/
inductive Holds {β : Type} (standsFor : JsonValue → β → Prop) : Option JsonValue → Option β → Prop
  /-- The field is left out. -/
  | leftOut : Holds standsFor none none
  /-- The field is absent. -/
  | absent : Holds standsFor (some .null) none
  /-- The field has a value. -/
  | present {value : JsonValue} {content : β} (filled : value ≠ .null)
      (stands : standsFor value content) : Holds standsFor (some value) (some content)

/-- The reader of optional fields agrees with what they hold if the reader of their values does. -/
theorem optional_eq_some_iff {β : Type} {read : JsonValue → Option β}
    {standsFor : JsonValue → β → Prop}
    (agrees : ∀ value content, read value = some content ↔ standsFor value content)
    {field : Option JsonValue} {content : Option β} :
    optional read field = some content ↔ Holds standsFor field content := by
  have present {value : JsonValue} (filled : value ≠ .null) :
      optional read (some value) = (read value).map some := by
    cases value with
    | null => exact absurd rfl filled
    | bool | number | string | array | object => rfl
  constructor
  · intro found
    match field with
    | none =>
      obtain rfl := Option.some.inj found
      exact .leftOut
    | some value =>
      by_cases null : value = .null
      · subst null
        obtain rfl := Option.some.inj found
        exact .absent
      · rw [present null] at found
        obtain ⟨content, isRead, rfl⟩ := Option.map_eq_some_iff.mp found
        exact .present null ((agrees value content).mp isRead)
  · intro holds
    cases holds with
    | leftOut => rfl
    | absent => rfl
    | present filled stands => rw [present filled, (agrees _ _).mpr stands, Option.map_some]

/-- A field holds something or nothing if it has no other value than those that stand for something. -/
theorem exists_holds_iff {β : Type} {standsFor : JsonValue → β → Prop} {field : Option JsonValue} :
    (∃ content, Holds standsFor field content) ↔
      ∀ value, field = some value → value = .null ∨ ∃ content, standsFor value content := by
  constructor
  · rintro ⟨content, holds⟩ value rfl
    cases holds with
    | absent => exact .inl rfl
    | present _ stands => exact .inr ⟨_, stands⟩
  · intro readable
    match field with
    | none => exact ⟨none, .leftOut⟩
    | some value =>
      by_cases null : value = .null
      · exact ⟨none, null ▸ .absent⟩
      · obtain same | ⟨content, stands⟩ := readable value rfl
        · exact absurd same null
        · exact ⟨some content, .present null stands⟩

/-! ## Envelopes -/

/-- The envelope that a status and the members of an object make up. -/
structure IsMadeOf (envelope : Envelope JsonValue) (status : Nat)
    (members : List (String × JsonValue)) : Prop where
  /-- The status is kept. -/
  status : envelope.status = status
  /-- The records are the items of an array; none if there is no array. -/
  records : ∃ items, Holds (fun value items => value = .array items) (members.lookup "value") items ∧
    envelope.records = items.getD []
  /-- The link is a text. -/
  nextLink : Holds (fun value link => value = .string link) (members.lookup "@odata.nextLink")
    envelope.nextLink
  /-- The count is a natural number of 64 bits. -/
  count : Holds (fun value (number : Nat) => value = .number (.integer number) ∧
    number ≤ maxCount) (members.lookup "@odata.count") envelope.count
  /-- The answers are the items of an array; none if there is no array. -/
  answers : ∃ answers,
    Holds (fun value answers => ∃ entries, value = .array entries ∧
      List.Forall₂ SubResponse.IsAnswer entries answers) (members.lookup "responses") answers ∧
    envelope.answers = answers.getD []

/-- The items of an array, each left as it is. -/
theorem list?_some_eq_some_iff {value : JsonValue} {items : List JsonValue} :
    list? some value = some items ↔ value = .array items := by
  have untouched (items : List JsonValue) : items.mapM some = some items :=
    mapM_eq_some_iff.mpr (List.forall₂_same.mpr fun _ _ => rfl)
  cases value <;> simp [list?, JsonValue.array?, untouched]

/-- The items of an array, each read as an answer. -/
theorem list?_ofValue?_eq_some_iff {value : JsonValue} {answers : List SubResponse} :
    list? SubResponse.ofValue? value = some answers ↔
      ∃ entries, value = .array entries ∧ List.Forall₂ SubResponse.IsAnswer entries answers := by
  cases value <;>
    simp [list?, JsonValue.array?, mapM_eq_some_iff, SubResponse.ofValue?_eq_some_iff]

/-- **The reader of envelopes agrees** with what members make up. -/
theorem ofFields_eq_some_iff {status : Nat} {members : List (String × JsonValue)}
    {envelope : Envelope JsonValue} :
    ofFields status [members.lookup "value", members.lookup "@odata.nextLink",
        members.lookup "@odata.count", members.lookup "responses"] = some envelope ↔
      envelope.IsMadeOf status members := by
  have records (items : Option (List JsonValue)) :
      optional (list? some) (members.lookup "value") = some items ↔ Holds _ _ items :=
    optional_eq_some_iff fun _ _ => list?_some_eq_some_iff
  have link (text : Option String) :
      optional JsonValue.string? (members.lookup "@odata.nextLink") = some text ↔ Holds _ _ text :=
    optional_eq_some_iff fun _ _ => JsonValue.string?_eq_some_iff
  have count (number : Option Nat) :
      optional (JsonValue.nat? maxCount) (members.lookup "@odata.count") = some number ↔
        Holds _ _ number :=
    optional_eq_some_iff fun _ _ => JsonValue.nat?_eq_some_iff
  have answers (found : Option (List SubResponse)) :
      optional (list? SubResponse.ofValue?) (members.lookup "responses") = some found ↔
        Holds _ _ found :=
    optional_eq_some_iff fun _ _ => list?_ofValue?_eq_some_iff
  constructor
  · intro made
    obtain ⟨items, areItems, made⟩ := Option.bind_eq_some_iff.mp made
    obtain ⟨text, isText, made⟩ := Option.bind_eq_some_iff.mp made
    obtain ⟨number, isNumber, made⟩ := Option.bind_eq_some_iff.mp made
    obtain ⟨found, areFound, made⟩ := Option.bind_eq_some_iff.mp made
    obtain rfl := Option.some.inj made
    exact ⟨rfl, ⟨items, (records items).mp areItems, rfl⟩, (link text).mp isText,
      (count number).mp isNumber, ⟨found, (answers found).mp areFound, rfl⟩⟩
  · rintro ⟨rfl, ⟨items, areItems, isRecords⟩, isLink, isCount, ⟨found, areFound, isAnswers⟩⟩
    rw [ofFields, (records items).mpr areItems, (link _).mpr isLink, (count _).mpr isCount,
      (answers found).mpr areFound]
    simp only [Option.bind_eq_bind, Option.bind_some, ← isRecords, ← isAnswers]
    rfl

/-- **An envelope is made of the members of its body**, found by their names. -/
theorem ofBody_of_parse? {body : String} {members : List (String × JsonValue)}
    (isObject : JsonValue.parse? body = some (.object members)) (status : Nat) :
    ofBody status body =
      match ofFields status [members.lookup "value", members.lookup "@odata.nextLink",
        members.lookup "@odata.count", members.lookup "responses"] with
      | some envelope => .ok envelope
      | none => .error (.decode .malformed (some body)) := by
  have filled := JsonValue.isBlankText_of_parse? isObject
  have fields := (JsonValue.ordered_of_parse? isObject).pickFields_eq fieldNames
  rw [ofBody, filled, isObject]
  simp only [Bool.false_eq_true, if_false, JsonValue.fields?, fields]
  rfl

/-- What an envelope asks of its members beside the answers of a batch: each of them may be left out
or absent, and has its own type otherwise. -/
structure IsReadable (members : List (String × JsonValue)) : Prop where
  /-- The records are an array. -/
  records : ∀ value, members.lookup "value" = some value →
    value = .null ∨ ∃ items, value = .array items
  /-- The link is a text. -/
  nextLink : ∀ value, members.lookup "@odata.nextLink" = some value →
    value = .null ∨ ∃ text, value = .string text
  /-- The count is a natural number of 64 bits. -/
  count : ∀ value, members.lookup "@odata.count" = some value →
    value = .null ∨ ∃ number ≤ maxCount, value = .number (.integer number)

/-- **An object with entries for answers makes up an envelope** if the other fields are readable and
every entry is an answer. The envelope keeps the status, and the answers in the order of the
entries. -/
theorem exists_isMadeOf_iff {members : List (String × JsonValue)} {entries : List JsonValue}
    (carried : members.lookup "responses" = some (.array entries)) {status kept : Nat}
    {answers : List SubResponse} :
    (∃ envelope : Envelope JsonValue, envelope.IsMadeOf status members ∧
      envelope.status = kept ∧ envelope.answers = answers) ↔
    kept = status ∧ IsReadable members ∧ List.Forall₂ SubResponse.IsAnswer entries answers := by
  have counts (value : JsonValue) :
      (∃ number : Nat, value = .number (.integer number) ∧ number ≤ maxCount) ↔
        ∃ number ≤ maxCount, value = .number (.integer number) := by
    simp only [and_comm]
  constructor
  · rintro ⟨envelope, made, rfl, rfl⟩
    obtain ⟨items, areItems, -⟩ := made.records
    obtain ⟨found, areFound, same⟩ := made.answers
    have count (value : JsonValue) (isValue : members.lookup "@odata.count" = some value) :=
      (exists_holds_iff.mp ⟨_, made.count⟩ value isValue).imp_right (counts value).mp
    have readable : IsReadable members :=
      ⟨exists_holds_iff.mp ⟨_, areItems⟩, exists_holds_iff.mp ⟨_, made.nextLink⟩, count⟩
    rw [carried] at areFound
    cases areFound with
    | present _ stands =>
      obtain ⟨_, ⟨⟩, all⟩ := stands
      exact ⟨made.status, readable, same ▸ all⟩
  · rintro ⟨rfl, readable, all⟩
    obtain ⟨items, areItems⟩ := exists_holds_iff.mpr readable.records
    obtain ⟨link, isLink⟩ := exists_holds_iff.mpr readable.nextLink
    obtain ⟨count, isCount⟩ := exists_holds_iff.mpr fun value isValue =>
      (readable.count value isValue).imp_right (counts value).mpr
    refine ⟨⟨kept, items.getD [], link, count, answers⟩, ?_, rfl, rfl⟩
    exact ⟨rfl, ⟨items, areItems, rfl⟩, isLink, isCount, some answers,
      carried ▸ .present nofun ⟨entries, rfl, all⟩, rfl⟩

end Envelope

end ODataClient

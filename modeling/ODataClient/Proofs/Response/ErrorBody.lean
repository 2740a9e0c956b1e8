import ODataClient.Proofs.Json.ReadBack
import ODataClient.Response.Envelope

/-! # Errors of a service, on their own and in a batch

The body of an error is read in two places: as the text of a whole response, and as the value of an
answer in a batch. The reader of texts sees a value as it is written, so it finds the fields that the
reader of values finds, each as the text of its value.

* **`IsRecordOf`** — the values that are a record with given fields, as an object or as an array;
  `JsonValue.fields?_eq_some_iff` says that the reader of values agrees.
* **`JsonValue.fields?_written`** — the reader of texts finds the texts of the same fields.
* **`ErrorDetail.IsIn`** — the values that tell a detail; `ErrorDetail.ofText?_text` says that their
  texts tell the same.
* **`SubResponse.error?_agrees`** — an answer in a batch and a response with its text as the body
  report the same error. -/

namespace ODataClient

/-! ## Fields of values -/

/-- A value is a record with given fields: an object that has exactly one member for each of their
names, whatever else it holds, or the array of their values. -/
inductive IsRecordOf (fields : List (String × JsonValue)) : JsonValue → Prop
  /-- An object, with members of other names between the fields. -/
  | object (members : List (String × JsonValue))
      (single : ∀ field ∈ fields, members.filter (·.1 == field.1) = [field]) :
      IsRecordOf fields (.object members)
  /-- An array without names. -/
  | array : IsRecordOf fields (.array (fields.map Prod.snd))

/-- The members of an object give fields if each is a member, and the only one of its name. -/
theorem pickFields_eq_some_iff {members fields : List (String × JsonValue)} :
    pickFields members (fields.map Prod.fst) = some (fields.map fun field => some field.2) ↔
      ∀ field ∈ fields, members.filter (·.1 == field.1) = [field] := by
  induction fields with
  | nil => simp [pickFields]
  | cons field rest ih =>
    rw [List.map_cons, List.map_cons, pickFields, List.forall_mem_cons, ← ih]
    split
    · rename_i absent
      simp [absent]
    · rename_i member found
      -- The member has the name of the field, so only its value is to be compared.
      have isMember : member ∈ members.filter (·.1 == field.1) := found ▸ List.mem_singleton_self _
      have named : member.1 = field.1 := beq_iff_eq.mp (List.mem_filter.mp isMember).2
      rw [found, List.cons.injEq, Prod.ext_iff]
      simp [named, and_comm]
    · rename_i several
      constructor
      · intro found
        cases found
      · rintro ⟨single, -⟩
        exact absurd single (several field)

/-- The items of an array give fields if they are the values of the fields in their order. -/
theorem padFields_eq_some_iff {items : List JsonValue} {fields : List (String × JsonValue)} :
    padFields items (fields.map Prod.fst) = some (fields.map fun field => some field.2) ↔
      items = fields.map Prod.snd := by
  induction fields generalizing items with
  | nil => cases items <;> simp [padFields]
  | cons field rest ih =>
    cases items with
    | nil => simp [padFields]
    | cons item items =>
      rw [List.map_cons, List.map_cons, List.map_cons, padFields, List.cons.injEq, ← ih]
      simp [and_comm]

/-- **The reader of fields agrees** with what records are. -/
theorem JsonValue.fields?_eq_some_iff {value : JsonValue} {fields : List (String × JsonValue)} :
    value.fields? (fields.map Prod.fst) = some (fields.map fun field => some field.2) ↔
      IsRecordOf fields value := by
  constructor
  · intro read
    cases value with
    | object members => exact .object members (pickFields_eq_some_iff.mp read)
    | array items =>
      obtain rfl := padFields_eq_some_iff.mp read
      exact .array
    | null | bool | number | string => cases read
  · intro given
    cases given with
    | object members single => exact pickFields_eq_some_iff.mpr single
    | array => exact padFields_eq_some_iff.mpr rfl

/-! ## Fields of texts -/

section Mapped

variable {α β : Type} (change : α → β)

/-- Members are picked by their names, whatever they hold. -/
theorem pickFields_map (members : List (String × α)) (names : List String) :
    pickFields (members.map (Prod.map id change)) names =
      (pickFields members names).map (List.map (Option.map change)) := by
  induction names with
  | nil => rfl
  | cons name rest ih =>
    have filtered : (members.map (Prod.map id change)).filter (·.1 == name) =
        (members.filter (·.1 == name)).map (Prod.map id change) := List.filter_map
    rw [pickFields, pickFields, filtered, ih]
    -- No member has the name, or one, or more than one.
    generalize members.filter (·.1 == name) = matching
    rcases matching with _ | ⟨_, _ | _⟩ <;> cases pickFields members rest <;> rfl

/-- Items are assigned by their places, whatever they are. -/
theorem padFields_map (items : List α) (names : List String) :
    padFields (items.map change) names =
      (padFields items names).map (List.map (Option.map change)) := by
  induction items generalizing names with
  | nil => simp [padFields]
  | cons item rest ih =>
    cases names with
    | nil => rfl
    | cons name names =>
      rw [List.map_cons, padFields, padFields, ih]
      cases padFields rest names <;> rfl

end Mapped

namespace JsonValue

/-- The texts of items are taken one by one. -/
theorem writtenItems_eq_map (items : List JsonValue) : writtenItems items = items.map written := by
  induction items with
  | nil => rfl
  | cons item rest ih => rw [writtenItems, ih, List.map_cons]

/-- Every member of a written object has a key, and the text of its value. -/
theorem namedMembers?_writtenMembers (members : List (String × JsonValue)) :
    JsonSyntax.namedMembers? (writtenMembers members) =
      some (members.map (Prod.map id written)) := by
  induction members with
  | nil => rfl
  | cons member rest ih =>
    rw [writtenMembers, JsonSyntax.namedMembers?, ih]
    rfl

/-- **The text of a value has the fields of the value**, each as the text of what it holds. -/
theorem fields?_written (value : JsonValue) (names : List String) :
    value.written.fields? names =
      (value.fields? names).map (List.map (Option.map written)) := by
  cases value with
  | object members =>
    rw [written, JsonSyntax.fields?, namedMembers?_writtenMembers]
    exact pickFields_map written members names
  | array items =>
    rw [written, JsonSyntax.fields?, writtenItems_eq_map]
    exact padFields_map written items names
  | null | bool | number | string => rfl

/-- The text of a value is a string if the value is one. -/
theorem string?_written (value : JsonValue) : value.written.string? = value.string? := by
  cases value <;> rfl

end JsonValue

/-! ## Details -/

namespace ErrorDetail

/-- A value tells a detail: it is a record of one field, and this is a record of two texts. -/
def IsIn (detail : ErrorDetail) (value : JsonValue) : Prop :=
  ∃ inner, IsRecordOf [("error", inner)] value ∧
    IsRecordOf [("code", .string detail.code), ("message", .string detail.message)] inner

/-- What is inside an error body is its only field. -/
theorem inner_eq_some_iff {α : Type} {fields : List (Option α)} {found : α} :
    inner fields = some found ↔ fields = [some found] := by
  constructor
  · intro read
    unfold inner at read
    split at read
    · rw [Option.some.inj read]
    · cases read
  · rintro rfl
    rfl

/-- A detail is made of two fields that are texts. -/
theorem ofFields_eq_some_iff {fields : List (Option JsonValue)} {detail : ErrorDetail} :
    ofFields JsonValue.string? fields = some detail ↔
      fields = [some (.string detail.code), some (.string detail.message)] := by
  constructor
  · intro read
    unfold ofFields at read
    split at read
    · rename_i code message
      obtain ⟨codeText, isCode, read⟩ := Option.bind_eq_some_iff.mp read
      obtain ⟨messageText, isMessage, made⟩ := Option.bind_eq_some_iff.mp read
      obtain rfl := Option.some.inj made
      cases code <;> cases isCode
      cases message <;> cases isMessage
      rfl
    · cases read
  · rintro rfl
    rfl

/-- **The reader of values agrees** with what tells a detail. -/
theorem ofValue?_eq_some_iff {value : JsonValue} {detail : ErrorDetail} :
    ofValue? value = some detail ↔ detail.IsIn value := by
  have outer (inner : JsonValue) :
      value.fields? outerNames = some [some inner] ↔ IsRecordOf [("error", inner)] value :=
    @JsonValue.fields?_eq_some_iff value [("error", inner)]
  have both (inner : JsonValue) : inner.fields? fieldNames =
        some [some (.string detail.code), some (.string detail.message)] ↔
      IsRecordOf [("code", .string detail.code), ("message", .string detail.message)] inner :=
    @JsonValue.fields?_eq_some_iff inner
      [("code", .string detail.code), ("message", .string detail.message)]
  constructor
  · intro read
    obtain ⟨fields, found, read⟩ := Option.bind_eq_some_iff.mp read
    obtain ⟨inside, isInside, read⟩ := Option.bind_eq_some_iff.mp read
    obtain ⟨texts, given, made⟩ := Option.bind_eq_some_iff.mp read
    rw [inner_eq_some_iff.mp isInside] at found
    rw [ofFields_eq_some_iff.mp made] at given
    exact ⟨inside, (outer inside).mp found, (both inside).mp given⟩
  · rintro ⟨inside, isOuter, isInside⟩
    rw [ofValue?, (outer inside).mpr isOuter]
    simp only [Option.bind_eq_bind, Option.bind_some, inner_eq_some_iff.mpr rfl,
      (both inside).mpr isInside, ofFields_eq_some_iff.mpr rfl]

/-- What is inside an error body is found whatever the body is made of. -/
theorem inner_map {α β : Type} (change : α → β) (fields : List (Option α)) :
    inner (fields.map (Option.map change)) = (inner fields).map change := by
  rcases fields with _ | ⟨_ | _, _ | _⟩ <;> rfl

/-- A detail is made of texts, whatever they are read from. -/
theorem ofFields_written (fields : List (Option JsonValue)) :
    ofFields JsonSyntax.string? (fields.map (Option.map JsonValue.written)) =
      ofFields JsonValue.string? fields := by
  rcases fields with _ | ⟨_ | code, _ | ⟨_ | message, _ | _⟩⟩
  case cons.some.cons.some.nil =>
    simp only [List.map_cons, List.map_nil, Option.map_some, ofFields, JsonValue.string?_written]
  all_goals rfl

/-- **The text of a value tells what the value tells.** -/
theorem ofText?_text (value : JsonValue) : ofText? value.text = ofValue? value := by
  rw [ofText?, ofValue?, JsonSyntax.parse?_text]
  simp only [Option.bind_eq_bind, Option.bind_some, JsonValue.fields?_written, Option.bind_map,
    Function.comp_def, inner_map, ofFields_written]

end ErrorDetail

/-! ## Errors -/

/-- **An answer in a batch reports the error of a response** with its status and the text of its body:
the status, the detail that the body tells if it tells one, and the text. -/
theorem SubResponse.error?_agrees (answer : SubResponse)
    (failed : ¬ (200 ≤ answer.status ∧ answer.status < 300)) :
    ∃ error : ApiError,
      answer.error? = some error ∧
      ApiError.ofResponse answer.status answer.body.text = error ∧
      (∀ headers, Envelope.ofResponse ⟨answer.status, headers, answer.body.text⟩ =
        .error (.api error)) ∧
      error.status = answer.status ∧ error.body = answer.body.text ∧
      ∀ detail, error.detail = some detail ↔ detail.IsIn answer.body := by
  have status : isSuccessStatus answer.status = false := by
    simpa [isSuccessStatus] using failed
  have detail := ErrorDetail.ofText?_text answer.body
  refine ⟨.ofResponse answer.status answer.body.text, ?_, rfl, ?_, rfl, rfl, ?_⟩
  · rw [error?, isSuccess, status, ApiError.ofResponse, detail]
    rfl
  · intro headers
    rw [Envelope.ofResponse, Response.isSuccess, status]
    rfl
  · intro told
    rw [ApiError.ofResponse, detail, ErrorDetail.ofValue?_eq_some_iff]

/-- The error in an answer that leaves out all names. -/
theorem SubResponse.error?_agrees_array :
    let body : JsonValue := .array [.array [.string "NotFound", .string "No such item"]]
    let error : ApiError := ⟨404, some ⟨"NotFound", "No such item"⟩, body.text⟩
    ¬ (200 ≤ 404 ∧ 404 < 300) ∧
      (SubResponse.mk "1" 404 [] body).error? = some error ∧
      ∀ headers, Envelope.ofResponse ⟨404, headers, body.text⟩ = .error (.api error) := by
  intro body error
  have failed : ¬ (200 ≤ 404 ∧ 404 < 300) := by decide
  obtain ⟨found, inBatch, -, alone, status, text, told⟩ := error?_agrees ⟨"1", 404, [], body⟩ failed
  have detail : found.detail = error.detail := (told _).mpr ⟨_, .array, .array⟩
  have same : found = error := by
    cases found
    cases status
    cases text
    cases detail
    rfl
  exact ⟨failed, same ▸ inBatch, same ▸ alone⟩

end ODataClient

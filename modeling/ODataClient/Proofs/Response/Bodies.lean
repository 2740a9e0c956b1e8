import ODataClient.Proofs.Response.Reading

/-! # What comes of a body

The body of a successful response is read in two steps: as an envelope of values, and then record by
record. What comes of both steps together is said here by the shapes of values, apart from the readers.

* **`Envelope.AreRecords`**, **`Envelope.IsFirstBad`** — all values are records, or one is the first
  that is none; `Envelope.areRecords_or_isFirstBad` says that one of both is the case.
* **`Envelope.Yields`** — what comes of a body, case by case; `Envelope.yields_iff` says that it is what
  the two steps give. -/

namespace ODataClient

namespace Envelope

/-! ## Records -/

section Records

variable {α : Type} (type : RecordType α)

/-- Values are the records of a type, in the same order. -/
def AreRecords (values : List JsonValue) (records : List α) : Prop :=
  List.Forall₂ (fun value record => type.read value = some record) values records

/-- The value behind some others is the first one that is no record. -/
structure IsFirstBad (earlier : List JsonValue) (value : JsonValue) : Prop where
  /-- All earlier values are records. -/
  good : ∀ other ∈ earlier, (type.read other).isSome
  /-- The value is none. -/
  bad : type.read value = none

/-- Either all values are records, or one of them is the first that is none. -/
theorem areRecords_or_isFirstBad (values : List JsonValue) :
    (∃ records, AreRecords type values records) ∨
      ∃ earlier value later, values = earlier ++ value :: later ∧ IsFirstBad type earlier value := by
  induction values with
  | nil => exact .inl ⟨[], .nil⟩
  | cons value rest ih =>
    cases read : type.read value with
    | none => exact .inr ⟨[], value, rest, rfl, nofun, read⟩
    | some record =>
      obtain ⟨records, areRecords⟩ | ⟨earlier, bad, later, rfl, isFirst⟩ := ih
      · exact .inl ⟨record :: records, .cons read areRecords⟩
      · have isRecord : (type.read value).isSome := Option.isSome_of_eq_some read
        exact .inr ⟨value :: earlier, bad, later, rfl,
          List.forall_mem_cons.mpr ⟨isRecord, isFirst.good⟩, isFirst.bad⟩

variable {type}

/-- Values that all are records are read in their order. -/
theorem readRecords_of_areRecords {values : List JsonValue} {records : List α}
    (areRecords : AreRecords type values records) (index : Nat) :
    readRecords type index values = .ok records := by
  induction areRecords generalizing index with
  | nil => rfl
  | cons read _ ih =>
    rw [readRecords, read]
    simp only [ih, Except.map]

/-- The first value that is no record is named by its place. -/
theorem readRecords_of_isFirstBad {earlier : List JsonValue} {value : JsonValue}
    (isFirst : IsFirstBad type earlier value) (later : List JsonValue) (index : Nat) :
    readRecords type index (earlier ++ value :: later) = .error (index + earlier.length) := by
  obtain ⟨good, bad⟩ := isFirst
  induction earlier generalizing index with
  | nil =>
    rw [List.nil_append, readRecords, bad]
    rfl
  | cons first rest ih =>
    obtain ⟨isRecord, good⟩ := List.forall_mem_cons.mp good
    obtain ⟨record, read⟩ := Option.isSome_iff_exists.mp isRecord
    rw [List.cons_append, readRecords, read]
    simp only [ih (index + 1) good, Except.map, List.length_cons]
    rw [Nat.add_assoc, Nat.add_comm 1]

end Records

/-! ## Bodies -/

/-- What comes of the body of a successful response. -/
inductive Yields {α : Type} (type : RecordType α) (status : Nat) (body : String) :
    Except Error (Envelope α) → Prop
  /-- A blank body gives an empty envelope. -/
  | blank (blank : Text.isBlankText body = true) : Yields type status body (.ok (empty status))
  /-- So does a value that is no object. -/
  | other {value : JsonValue} (parsed : JsonValue.parse? body = some value)
      (noObject : ∀ members, value ≠ .object members) : Yields type status body (.ok (empty status))
  /-- Any other text that is no value is at fault as a whole. -/
  | unparsable (filled : Text.isBlankText body = false) (unparsed : JsonValue.parse? body = none) :
      Yields type status body (.error (.decode .malformed (some body)))
  /-- So is an object that makes up no envelope. -/
  | malformed {members : List (String × JsonValue)}
      (parsed : JsonValue.parse? body = some (.object members))
      (noEnvelope : ∀ envelope, ¬ IsMadeOf envelope status members) :
      Yields type status body (.error (.decode .malformed (some body)))
  /-- An envelope of records is given with these in the order of the array. -/
  | envelope {members : List (String × JsonValue)} {untyped : Envelope JsonValue} {records : List α}
      (parsed : JsonValue.parse? body = some (.object members))
      (made : untyped.IsMadeOf status members)
      (areRecords : AreRecords type untyped.records records) :
      Yields type status body (.ok { untyped with records })
  /-- Otherwise the first value that is no record is named by its place. -/
  | badRecord {members : List (String × JsonValue)} {untyped : Envelope JsonValue}
      {earlier later : List JsonValue} {value : JsonValue}
      (parsed : JsonValue.parse? body = some (.object members))
      (made : untyped.IsMadeOf status members)
      (split : untyped.records = earlier ++ value :: later)
      (isFirst : IsFirstBad type earlier value) :
      Yields type status body (.error (.decode (.badRecord earlier.length) none))

section Bodies

variable {α : Type} {type : RecordType α} {status : Nat} {body : String}

/-- The envelope of an object is read record by record. -/
theorem ofBody_of_isMadeOf {members : List (String × JsonValue)} {untyped : Envelope JsonValue}
    (parsed : JsonValue.parse? body = some (.object members))
    (made : untyped.IsMadeOf status members) : ofBody status body = .ok untyped := by
  rw [ofBody_of_parse? parsed, ofFields_eq_some_iff.mpr made]

/-- An object that makes up no envelope has none. -/
theorem ofBody_of_not_isMadeOf {members : List (String × JsonValue)}
    (parsed : JsonValue.parse? body = some (.object members))
    (noEnvelope : ∀ envelope, ¬ IsMadeOf envelope status members) :
    ofBody status body = .error (.decode .malformed (some body)) := by
  have noFields : ofFields status [members.lookup "value", members.lookup "@odata.nextLink",
      members.lookup "@odata.count", members.lookup "responses"] = none := by
    rw [Option.eq_none_iff_forall_ne_some]
    intro envelope made
    exact noEnvelope envelope (ofFields_eq_some_iff.mp made)
  rw [ofBody_of_parse? parsed, noFields]

/-- A value that is no object gives an empty envelope. -/
theorem ofBody_of_noObject {value : JsonValue} (parsed : JsonValue.parse? body = some value)
    (noObject : ∀ members, value ≠ .object members) : ofBody status body = .ok (empty status) := by
  rw [ofBody, JsonValue.isBlankText_of_parse? parsed, parsed]
  cases value with
  | object members => exact absurd rfl (noObject members)
  | null | bool | number | string | array => rfl

/-- Both steps of reading an object give what comes of it. -/
theorem yields_of_object {members : List (String × JsonValue)}
    (parsed : JsonValue.parse? body = some (.object members)) :
    Yields type status body ((ofBody status body).bind (typed type)) := by
  by_cases made : ∃ untyped : Envelope JsonValue, untyped.IsMadeOf status members
  · -- The envelope is there, so the result depends on its records.
    obtain ⟨untyped, made⟩ := made
    rw [ofBody_of_isMadeOf parsed made, Except.bind, typed]
    obtain ⟨records, areRecords⟩ | ⟨earlier, value, later, split, isFirst⟩ :=
      areRecords_or_isFirstBad type untyped.records
    · rw [readRecords_of_areRecords areRecords]
      exact .envelope parsed made areRecords
    · rw [split, readRecords_of_isFirstBad isFirst, Nat.zero_add]
      exact .badRecord parsed made split isFirst
  · rw [not_exists] at made
    rw [ofBody_of_not_isMadeOf parsed made]
    exact .malformed parsed made

/-- Both steps of reading give what comes of a body. -/
theorem yields_ofBody (type : RecordType α) (status : Nat) (body : String) :
    Yields type status body ((ofBody status body).bind (typed type)) := by
  cases blank : Text.isBlankText body with
  | true =>
    rw [ofBody, if_pos blank]
    exact .blank blank
  | false =>
    cases parsed : JsonValue.parse? body with
    | none =>
      rw [ofBody, blank, parsed]
      exact .unparsable blank parsed
    | some value =>
      by_cases isObject : ∃ members, value = .object members
      · obtain ⟨members, rfl⟩ := isObject
        exact yields_of_object parsed
      · rw [not_exists] at isObject
        rw [ofBody_of_noObject parsed isObject]
        exact .other parsed isObject

/-- **What comes of a body is what both steps of reading give**, and nothing else. -/
theorem yields_iff {result : Except Error (Envelope α)} :
    Yields type status body result ↔ result = (ofBody status body).bind (typed type) := by
  constructor
  · intro yields
    cases yields with
    | blank blank =>
      rw [ofBody, if_pos blank]
      rfl
    | other parsed noObject =>
      rw [ofBody_of_noObject parsed noObject]
      rfl
    | unparsable filled unparsed =>
      rw [ofBody, filled, unparsed]
      rfl
    | malformed parsed noEnvelope =>
      rw [ofBody_of_not_isMadeOf parsed noEnvelope]
      rfl
    | envelope parsed made areRecords =>
      rw [ofBody_of_isMadeOf parsed made, Except.bind, typed, readRecords_of_areRecords areRecords]
    | badRecord parsed made split isFirst =>
      rw [ofBody_of_isMadeOf parsed made, Except.bind, typed, split,
        readRecords_of_isFirstBad isFirst, Nat.zero_add]
  · rintro rfl
    exact yields_ofBody type status body

end Bodies

end Envelope

end ODataClient

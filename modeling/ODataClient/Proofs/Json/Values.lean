import Mathlib.Data.List.DropRight
import ODataClient.Json.Fields
import ODataClient.Proofs.Json.ReadBack
import ODataClient.Text.Blank

/-! # Values of texts

A text stands for a value if it is nested no deeper than the reader goes. The members of an object are
then in the order of their keys, so that a field is found by its name whatever the order in which it
was written.

* **`JsonValue.Ordered`** — members in the order of their keys; `ordered_of_parse?` says that all
  objects that are read have such members, and `pickFields_of_ordered` what their fields are.
* **`JsonValue.sorted`** — a value with the members of all its objects in order.
* **`JsonValue.fits`** — the values that are read back as values; `JsonValue.parse?_text_of_fits` reads
  them back.
* **`JsonValue.parse?_of_isBlankText`** — a blank text is no value.
-/

namespace ODataClient

/-! ## Members in order -/

namespace JsonValue

/-- Members in the order of their keys, one for each key. -/
def Ordered (members : List (String × JsonValue)) : Prop :=
  members.Pairwise fun earlier later => earlier.1 < later.1

/-- Members after an insertion are the new one and earlier ones. -/
theorem eq_or_mem_of_mem_insertMember {key : String} {value : JsonValue}
    {members : List (String × JsonValue)} {member : String × JsonValue}
    (inserted : member ∈ insertMember key value members) :
    member = (key, value) ∨ member ∈ members := by
  induction members with
  | nil => exact .inl (List.mem_singleton.mp inserted)
  | cons first rest ih =>
    rw [insertMember] at inserted
    split at inserted
    · exact List.mem_cons.mp inserted
    · split at inserted
      · exact (List.mem_cons.mp inserted).imp_right (List.mem_cons_of_mem first)
      · rcases List.mem_cons.mp inserted with rfl | later
        · exact .inr List.mem_cons_self
        · exact (ih later).imp_right (List.mem_cons_of_mem first)

/-- An insertion keeps members in order. -/
theorem ordered_insertMember {members : List (String × JsonValue)} (ordered : Ordered members)
    (key : String) (value : JsonValue) : Ordered (insertMember key value members) := by
  induction members with
  | nil => exact List.pairwise_singleton _ _
  | cons first rest ih =>
    obtain ⟨least, others⟩ := List.pairwise_cons.mp ordered
    rw [insertMember]
    by_cases before : key < first.1
    · rw [if_pos before]
      refine List.pairwise_cons.mpr ⟨?_, ordered⟩
      intro member isMember
      rcases List.mem_cons.mp isMember with rfl | later
      · exact before
      · exact String.lt_trans before (least member later)
    · rw [if_neg before]
      by_cases same : key = first.1
      · rw [if_pos same, same]
        exact List.pairwise_cons.mpr ⟨least, others⟩
      · rw [if_neg same]
        refine List.pairwise_cons.mpr ⟨?_, ih others⟩
        intro member isMember
        rcases eq_or_mem_of_mem_insertMember isMember with rfl | earlier
        · -- The new key is neither before the first one nor equal to it.
          apply String.not_le.mp
          intro notBehind
          exact same (String.le_antisymm notBehind (String.not_lt.mp before))
        · exact least member earlier

/-- Insertions one after another keep members in order. -/
theorem ordered_foldl_insertMember (members : List (String × JsonValue))
    {sorted : List (String × JsonValue)} (ordered : Ordered sorted) :
    Ordered (members.foldl (fun sorted member => insertMember member.1 member.2 sorted) sorted) := by
  induction members generalizing sorted with
  | nil => exact ordered
  | cons member rest ih => exact ih (ordered_insertMember ordered member.1 member.2)

/-- Members in order hold one value for each key. -/
theorem Ordered.filter_eq {members : List (String × JsonValue)} (ordered : Ordered members)
    (name : String) :
    members.filter (·.1 == name) = (members.lookup name).toList.map (name, ·) := by
  induction members with
  | nil => rfl
  | cons member rest ih =>
    obtain ⟨key, value⟩ := member
    obtain ⟨least, others⟩ := List.pairwise_cons.mp ordered
    by_cases same : name = key
    · subst same
      -- All later keys are greater.
      have none : rest.filter (·.1 == name) = [] := by
        rw [List.filter_eq_nil_iff]
        intro later isLater equal
        rw [beq_iff_eq] at equal
        exact String.lt_irrefl name (equal ▸ least later isLater)
      rw [List.filter_cons, if_pos (beq_self_eq_true name), none, List.lookup_cons_self]
      rfl
    · have different : (key == name) = false := beq_false_of_ne (Ne.symm same)
      rw [List.filter_cons_of_neg (by simp [different]), ih others, List.lookup_cons,
        beq_false_of_ne same]

/-- The fields among members in order are found by their names. -/
theorem Ordered.pickFields_eq {members : List (String × JsonValue)} (ordered : Ordered members)
    (names : List String) :
    pickFields members names = some (names.map fun name => members.lookup name) := by
  induction names with
  | nil => rfl
  | cons name rest ih =>
    rw [pickFields, ordered.filter_eq, ih, List.map_cons]
    cases members.lookup name <;> rfl

end JsonValue

/-- The members of an object are read in order. -/
theorem JsonSyntax.ordered_of_value? {depth : Nat} {text : JsonSyntax}
    {members : List (String × JsonValue)} (read : text.value? depth = some (.object members)) :
    JsonValue.Ordered members := by
  cases text with
  | object written =>
    cases depth with
    | zero => cases read
    | succ depth =>
      obtain ⟨values, -, same⟩ := Option.map_eq_some_iff.mp read
      obtain rfl := JsonValue.object.inj same
      exact JsonValue.ordered_foldl_insertMember values List.Pairwise.nil
  | array items =>
    cases depth with
    | zero => cases read
    | succ depth =>
      obtain ⟨values, -, same⟩ := Option.map_eq_some_iff.mp read
      cases same
  | null | bool value => cases read
  | number text | string text =>
    obtain ⟨value, -, same⟩ := Option.map_eq_some_iff.mp read
    cases same

/-- The object that a text stands for has its members in order. -/
theorem JsonValue.ordered_of_parse? {text : String} {members : List (String × JsonValue)}
    (read : parse? text = some (.object members)) : Ordered members := by
  obtain ⟨tree, -, value⟩ := Option.bind_eq_some_iff.mp read
  exact JsonSyntax.ordered_of_value? value

/-! ## Blank texts -/

namespace JsonSyntax

/-- Space in front of a value makes no difference. -/
theorem readValue_skipSpace (fuel : Nat) (chars : List Char) :
    readValue fuel (skipSpace chars) = readValue fuel chars := by
  have again : skipSpace (skipSpace chars) = skipSpace chars := by
    rw [skipSpace, skipSpace, List.dropWhile_idempotent]
  cases fuel with
  | zero => rfl
  | succ fuel => rw [readValue, readValue, again]

/-- A blank character is no digit and begins no value. -/
theorem of_isBlank {char : Char} (blank : Text.isBlank char = true) :
    char.isDigit = false ∧ char ∉ valueMarks := by
  constructor
  · rw [Bool.eq_false_iff]
    intro digit
    have bounds : 48 ≤ char.toNat ∧ char.toNat ≤ 57 := by
      simpa [Char.isDigit, UInt32.le_iff_toNat_le] using digit
    simp [Text.isBlank] at blank
    omega
  · intro mark
    simp only [valueMarks, List.mem_cons, List.not_mem_nil, or_false] at mark
    rcases mark with rfl | rfl | rfl | rfl | rfl | rfl | rfl <;> cases blank

/-- No number begins with a character that is no digit. -/
theorem unsignedNumber_cons_eq_none {char : Char} (noDigit : char.isDigit = false) (negative : Bool)
    (rest : List Char) : unsignedNumber negative (char :: rest) = none := by
  have none : digit? char = none := by
    rw [digit?, noDigit]
    rfl
  rw [unsignedNumber, wholePart, digits, none]
  rfl

end JsonSyntax

/-- **A blank text stands for no value.** -/
theorem JsonValue.parse?_of_isBlankText {text : String} (blank : Text.isBlankText text = true) :
    parse? text = none := by
  have read (fuel : Nat) : JsonSyntax.readValue (fuel + 1) text.toList = none := by
    rw [← JsonSyntax.readValue_skipSpace]
    cases stripped : JsonSyntax.skipSpace text.toList with
    | nil => rfl
    | cons char rest =>
      -- The first character that is no space for the reader is still a blank one.
      have inside : char ∈ text.toList :=
        (List.dropWhile_sublist _).mem (stripped ▸ List.mem_cons_self)
      obtain ⟨noDigit, other⟩ := JsonSyntax.of_isBlank (List.all_eq_true.mp blank char inside)
      have solid : JsonSyntax.isSpace char = false := by
        have first := List.head?_dropWhile_not JsonSyntax.isSpace text.toList
        rw [← JsonSyntax.skipSpace, stripped] at first
        simpa using first
      rw [JsonSyntax.readValue_of_notMem solid other, JsonSyntax.unsignedNumber_cons_eq_none noDigit]
      rfl
  rw [parse?, JsonSyntax.parse?]
  simp only [read]
  rfl

/-- A text that stands for a value is not blank. -/
theorem JsonValue.isBlankText_of_parse? {text : String} {value : JsonValue}
    (parsed : parse? text = some value) : Text.isBlankText text = false := by
  rw [Bool.eq_false_iff]
  intro blank
  rw [parse?_of_isBlankText blank] at parsed
  cases parsed

/-! ## Values read back -/

namespace JsonValue

mutual

/-- A value with the members of its objects in the order of their keys; of equal keys the last one
counts. -/
def sorted : JsonValue → JsonValue
  | null => null
  | bool value => bool value
  | number value => number value
  | string text => string text
  | array items => array (sortedItems items)
  | object members => ofMembers (sortedMembers members)

/-- Items with the members of their objects in order. -/
def sortedItems : List JsonValue → List JsonValue
  | [] => []
  | item :: rest => item.sorted :: sortedItems rest

/-- Members in their written order, with the members of the objects in them in order. -/
def sortedMembers : List (String × JsonValue) → List (String × JsonValue)
  | [] => []
  | (key, value) :: rest => (key, value.sorted) :: sortedMembers rest

end

mutual

/-- Whether a value is nested at most `depth` deep and all its numbers are integers of 64 bits. -/
def fits : Nat → JsonValue → Bool
  | _, null => true
  | _, bool _ => true
  | _, number (.integer value) => decide (JsonNumber.IsWord value)
  | _, number (.double _) => false
  | _, string _ => true
  | 0, array _ => false
  | depth + 1, array items => allFit depth items
  | 0, object _ => false
  | depth + 1, object members => membersFit depth members

/-- Whether all items fit. -/
def allFit : Nat → List JsonValue → Bool
  | _, [] => true
  | depth, item :: rest => item.fits depth && allFit depth rest

/-- Whether the values of all members fit. -/
def membersFit : Nat → List (String × JsonValue) → Bool
  | _, [] => true
  | depth, (_, value) :: rest => value.fits depth && membersFit depth rest

end

/-- Items are put in order one by one. -/
theorem sortedItems_eq_map (items : List JsonValue) : sortedItems items = items.map sorted := by
  induction items with
  | nil => rfl
  | cons item rest ih => rw [sortedItems, ih, List.map_cons]

/-- A single member is in order. -/
theorem sorted_object_singleton (key : String) (value : JsonValue) :
    (object [(key, value)]).sorted = object [(key, value.sorted)] := by
  rw [sorted, sortedMembers, sortedMembers]
  rfl

/-- Items fit if each of them does. -/
theorem allFit_eq_all (depth : Nat) (items : List JsonValue) :
    allFit depth items = items.all (fits depth) := by
  induction items with
  | nil => rfl
  | cons item rest ih => rw [allFit, ih, List.all_cons]

end JsonValue

namespace JsonSyntax

open JsonValue

mutual

/-- A value that fits is what its text stands for, but for the order of members. -/
theorem value?_written : ∀ {depth : Nat} {value : JsonValue}, value.fits depth = true →
    value.written.value? depth = some value.sorted
  | _, .null, _ => rfl
  | _, .bool _, _ => rfl
  | _, .number (.integer value), fits => by
    rw [JsonValue.fits, decide_eq_true_eq] at fits
    rw [written, value?, JsonNumber.ofText?_written fits]
    rfl
  | _, .string _, _ => rfl
  | _ + 1, .array items, fits => by
    rw [JsonValue.fits] at fits
    rw [written, value?, itemValues?_writtenItems fits]
    rfl
  | _ + 1, .object members, fits => by
    rw [JsonValue.fits] at fits
    rw [written, value?, memberValues?_writtenMembers fits]
    rfl

/-- So are items. -/
theorem itemValues?_writtenItems : ∀ {depth : Nat} {items : List JsonValue},
    allFit depth items = true → itemValues? depth (writtenItems items) = some (sortedItems items)
  | _, [], _ => rfl
  | _, item :: rest, fits => by
    rw [allFit, Bool.and_eq_true] at fits
    rw [writtenItems, itemValues?, value?_written fits.1, itemValues?_writtenItems fits.2]
    rfl

/-- So are members. -/
theorem memberValues?_writtenMembers : ∀ {depth : Nat} {members : List (String × JsonValue)},
    membersFit depth members = true →
    memberValues? depth (writtenMembers members) = some (sortedMembers members)
  | _, [], _ => rfl
  | _, (key, value) :: rest, fits => by
    rw [membersFit, Bool.and_eq_true] at fits
    rw [writtenMembers, memberValues?, value?_written fits.1, memberValues?_writtenMembers fits.2]
    rfl

end

end JsonSyntax

namespace JsonValue

/-- **A value is read back** from its compact text, with its members in order. -/
theorem parse?_text_of_fits {value : JsonValue} (fits : value.fits JsonSyntax.maxDepth = true) :
    parse? value.text = some value.sorted := by
  rw [parse?, JsonSyntax.parse?_text]
  exact JsonSyntax.value?_written fits

/-- An object whose only member is a list is read back with the items in their order. -/
theorem parse?_text_singleton {key : String} {items : List JsonValue}
    (fit : ∀ item ∈ items, item.fits (JsonSyntax.maxDepth - 2) = true) :
    parse? (object [(key, array items)]).text =
      some (object [(key, array (items.map sorted))]) := by
  have fits : (object [(key, array items)]).fits JsonSyntax.maxDepth = true := by
    show (allFit 125 items && true) = true
    rw [Bool.and_true, allFit_eq_all, List.all_eq_true]
    exact fit
  rw [parse?_text_of_fits fits, sorted_object_singleton, sorted, sortedItems_eq_map]

end JsonValue

end ODataClient

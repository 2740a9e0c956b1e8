import ODataClient.Lookup
import ODataClient.Transport.Mailbox

/-! # Mailboxes keep order

A call takes outcomes in the order in which they are delivered to it, and none that is delivered to another
call, however deliveries to many calls and takings are mixed.

* **`lookup_assign`**, **`lookup_deliver`** — what the operations do to the mailbox of a call.
* **`Mailboxes.Exchange`** — a mixed run of deliveries and takings.
* **`delivered_eq_taken`** — what a call found at first and what was delivered to it is what it took and what
  it finds at last. -/

namespace ODataClient.Mailboxes

variable {boxes first last next : Mailboxes} {id other : String}

/-- A mailbox that is given to a call is its only one. -/
theorem lookup_assign (boxes : Mailboxes) (id other : String) (box : Mailbox) :
    (boxes.assign id box).lookup other = if other = id then some box else boxes.lookup other := by
  rw [assign, lookup_cons_eq_ite, lookup_filter_bne]
  by_cases same : other = id
  · rw [if_pos same, if_pos same]
  · rw [if_neg same, if_neg same, if_neg same]

/-- A delivery adds an outcome to the mailbox of one call. -/
theorem lookup_deliver (boxes : Mailboxes) (id other : String) (outcome : Outcome) :
    (boxes.deliver id outcome).lookup other =
      (boxes.lookup other).map fun box =>
        if other = id then { box with outcomes := box.outcomes ++ [outcome] } else box := by
  induction boxes with
  | nil => rfl
  | cons entry rest ih =>
    obtain ⟨name, box⟩ := entry
    rw [deliver, List.map_cons, lookup_cons_eq_ite, lookup_cons_eq_ite]
    by_cases same : other = name
    · rw [if_pos same, if_pos same, same]
      simp
    · rw [if_neg same, if_neg same]
      exact ih

/-- The mailbox of a call that gets nothing but what is delivered. -/
def Holds (boxes : Mailboxes) (id : String) (outcomes : List Outcome) : Prop :=
  boxes.lookup id = some ⟨outcomes, none⟩

/-- A mixed run of deliveries and takings, with the names of the calls. -/
inductive Exchange (first : Mailboxes) :
    List (String × Outcome) → List (String × Outcome) → Mailboxes → Prop
  /-- Nothing happened. -/
  | start : Exchange first [] [] first
  /-- An outcome is delivered to a call. -/
  | deliver {delivered taken : List (String × Outcome)} {boxes : Mailboxes}
      (exchange : Exchange first delivered taken boxes) (id : String) (outcome : Outcome) :
      Exchange first (delivered ++ [(id, outcome)]) taken (boxes.deliver id outcome)
  /-- A call takes an outcome. -/
  | take {delivered taken : List (String × Outcome)} {boxes next : Mailboxes}
      (exchange : Exchange first delivered taken boxes) {id : String} {outcome : Outcome}
      (takes : boxes.take? id = some (outcome, next)) :
      Exchange first delivered (taken ++ [(id, outcome)]) next

/-- The outcomes that belong to a call. -/
def ofCall (id : String) (outcomes : List (String × Outcome)) : List Outcome :=
  (outcomes.filter (·.1 == id)).map (·.2)

/-- One more outcome. -/
theorem ofCall_concat (id name : String) (outcomes : List (String × Outcome)) (outcome : Outcome) :
    ofCall id (outcomes ++ [(name, outcome)]) =
      ofCall id outcomes ++ if name = id then [outcome] else [] := by
  by_cases same : name = id <;> simp [ofCall, List.filter_append, same]

/-- A call that gets nothing but what is delivered takes the first of it. -/
theorem Holds.take?_cases {outcomes : List Outcome} {outcome : Outcome}
    (holds : boxes.Holds id outcomes) (takes : boxes.take? id = some (outcome, next)) :
    ∃ rest, outcomes = outcome :: rest ∧ next.Holds id rest := by
  rw [take?, holds] at takes
  cases outcomes with
  | nil => cases takes
  | cons first rest =>
    cases takes
    exact ⟨rest, rfl, by rw [Holds, lookup_assign, if_pos rfl]⟩

/-- A call that takes an outcome leaves the others theirs. -/
theorem holds_of_take? {outcomes : List Outcome} {outcome : Outcome}
    (takes : boxes.take? id = some (outcome, next)) (apart : other ≠ id) :
    next.Holds other outcomes ↔ boxes.Holds other outcomes := by
  unfold take? at takes
  split at takes
  · cases takes
  · obtain ⟨_, -, same⟩ := Option.map_eq_some_iff.mp takes
    cases same
    rfl
  · cases takes
    rw [Holds, lookup_assign, if_neg apart, Holds]

/-- **First in, first out**: what a call found at first and what was delivered to it is what it took and what
it finds at last. -/
theorem delivered_eq_taken {delivered taken : List (String × Outcome)}
    (exchange : Exchange first delivered taken last) {before : List Outcome}
    (holds : first.Holds id before) :
    ∃ after, last.Holds id after ∧
      before ++ ofCall id delivered = ofCall id taken ++ after := by
  induction exchange with
  | start => exact ⟨before, holds, by simp [ofCall]⟩
  | deliver exchange name outcome ih =>
    obtain ⟨after, held, balance⟩ := ih
    by_cases same : id = name
    · refine ⟨after ++ [outcome], ?_, ?_⟩
      · rw [Holds, lookup_deliver, held]
        simp [same]
      · rw [ofCall_concat, if_pos same.symm, ← List.append_assoc, balance, List.append_assoc]
    · refine ⟨after, ?_, ?_⟩
      · rw [Holds, lookup_deliver, held]
        simp [same]
      · rw [ofCall_concat, if_neg (Ne.symm same), List.append_nil, balance]
  | take exchange takes ih =>
    rename_i name outcome
    obtain ⟨after, held, balance⟩ := ih
    by_cases same : id = name
    · subst same
      obtain ⟨rest, rfl, kept⟩ := held.take?_cases takes
      exact ⟨rest, kept, by rw [ofCall_concat, if_pos rfl, List.append_assoc, balance]; rfl⟩
    · refine ⟨after, (holds_of_take? takes same).mpr held, ?_⟩
      rw [ofCall_concat, if_neg (Ne.symm same), List.append_nil, balance]

end ODataClient.Mailboxes

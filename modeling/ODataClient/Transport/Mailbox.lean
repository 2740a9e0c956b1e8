import ODataClient.Transport.Schedule

/-! # Mailboxes
Outcomes prepared for calls by name. A call whose mailbox is empty waits, unless the mailbox has an
outcome for every attempt after the prepared ones. -/

namespace ODataClient

/-- The outcomes prepared for one call. -/
structure Mailbox where
  /-- The outcomes to be taken in order. -/
  outcomes : List Outcome
  /-- The outcome of every attempt after them; without it the call waits. -/
  afterwards : Option Outcome
deriving Repr

/-- The mailboxes of calls by name. -/
abbrev Mailboxes := List (String × Mailbox)

namespace Mailboxes

/-- Give a call a mailbox in place of any earlier one. -/
def assign (boxes : Mailboxes) (id : String) (box : Mailbox) : Mailboxes :=
  (id, box) :: boxes.filter (·.1 != id)

/-- Add an outcome to the mailbox of a call. -/
def deliver (boxes : Mailboxes) (id : String) (outcome : Outcome) : Mailboxes :=
  boxes.map fun (name, box) =>
    (name, if name == id then { box with outcomes := box.outcomes ++ [outcome] } else box)

/-- The next outcome for a call. -/
def take? (id : String) (boxes : Mailboxes) : Option (Outcome × Mailboxes) :=
  match boxes.lookup id with
  | none => none
  | some ⟨[], afterwards⟩ => afterwards.map (·, boxes)
  | some ⟨outcome :: rest, afterwards⟩ => some (outcome, boxes.assign id ⟨rest, afterwards⟩)

/-- The mailboxes as a source of outcomes. -/
def source : OutcomeSource Mailboxes := ⟨take?⟩

end Mailboxes

end ODataClient

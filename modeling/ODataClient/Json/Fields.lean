import ODataClient.Json.Syntax

/-! # Fields of records
A record may be written as an object with a member for each field, or as an array of its fields in
their declared order. Members of other names are ignored; a field given twice makes the record
unreadable, and so does an array with more items than fields. -/

namespace ODataClient

/-- What is found for each of some names among members; none if a name occurs twice. -/
def pickFields {α : Type} (members : List (String × α)) : List String → Option (List (Option α))
  | [] => some []
  | name :: rest =>
    match members.filter (·.1 == name) with
    | [] => (pickFields members rest).map (none :: ·)
    | [member] => (pickFields members rest).map (some member.2 :: ·)
    | _ => none

/-- What is found for each of some names among items in the order of the names. -/
def padFields {α : Type} : List α → List String → Option (List (Option α))
  | [], names => some (names.map fun _ => none)
  | _ :: _, [] => none
  | item :: items, _ :: names => (padFields items names).map (some item :: ·)

/-- The fields of a record given as a value. -/
def JsonValue.fields? (names : List String) : JsonValue → Option (List (Option JsonValue))
  | object members => pickFields members names
  | array items => padFields items names
  | _ => none

namespace JsonSyntax

/-- The members of an object, if all have a key. -/
def namedMembers? : List (Option String × JsonSyntax) → Option (List (String × JsonSyntax))
  | [] => some []
  | (key, item) :: rest => do
    let key ← key
    let members ← namedMembers? rest
    return (key, item) :: members

/-- The fields of a record given as a text. -/
def fields? (names : List String) : JsonSyntax → Option (List (Option JsonSyntax))
  | object members => do
    let members ← namedMembers? members
    pickFields members names
  | array items => padFields items names
  | _ => none

end JsonSyntax

end ODataClient

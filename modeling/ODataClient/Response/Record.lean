import ODataClient.Json.Fields
import ODataClient.Model.EntityName

/-! # Record types
A record type has a name, from which the entity set follows, and a reader for its records. -/

namespace ODataClient

/-- A type of records. -/
structure RecordType (α : Type) where
  /-- The singular name. -/
  name : String
  /-- The record that a JSON value is, if it is one. -/
  read : JsonValue → Option α

/-- The name of the entity set of a record type. -/
def RecordType.entitySet {α : Type} (type : RecordType α) : String := EntityName.entitySet type.name

/-- Records that are kept as the JSON values they came as. -/
def RecordType.untyped (name : String) : RecordType JsonValue := ⟨name, some⟩

/-- A customer. -/
structure Customer where
  /-- The number that identifies the customer. -/
  number : String
  /-- The name that is shown. -/
  displayName : String
  /-- The balance due; zero if it is left out. -/
  balance : Double
deriving DecidableEq, Repr

/-- An item. -/
structure Item where
  /-- The number that identifies the item. -/
  id : Int
deriving DecidableEq, Repr

/-- A line of an order. -/
structure OrderLine where
  /-- The number that identifies the line. -/
  id : Nat
  /-- A remark. -/
  note : Option String
  /-- The tags; none if they are left out. -/
  tags : List String
  /-- Whether the line is blocked. -/
  blocked : Bool
deriving DecidableEq, Repr

namespace JsonValue

/-- The floating-point number that a value is. -/
def double? : JsonValue → Option Double
  | number value => some value.toDouble
  | _ => none

/-- The texts that the items of an array are. -/
def strings? (value : JsonValue) : Option (List String) := do
  let items ← value.array?
  items.mapM string?

/-- The text that a value is, or that it is absent. -/
def nullable? {α : Type} (read : JsonValue → Option α) : JsonValue → Option (Option α)
  | null => some none
  | value => (read value).map some

/-- A field that may be left out: what is read from it, or else a default. -/
def fieldOr {α : Type} (default : α) (read : JsonValue → Option α) : Option JsonValue → Option α
  | none => some default
  | some value => read value

end JsonValue

/-- The reader of customers. -/
def Customer.read? (value : JsonValue) : Option Customer := do
  match ← value.fields? ["number", "displayName", "balance"] with
  | [some number, some displayName, balance] =>
    return {
      number := ← number.string?
      displayName := ← displayName.string?
      balance := ← JsonValue.fieldOr (BinaryFloat.ofInt 0) JsonValue.double? balance }
  | _ => none

/-- The reader of items. -/
def Item.read? (value : JsonValue) : Option Item := do
  match ← value.fields? ["id"] with
  | [some id] => return { id := ← id.int? (-Nat.pow 2 31) (Nat.pow 2 31 - 1) }
  | _ => none

/-- The reader of order lines. -/
def OrderLine.read? (value : JsonValue) : Option OrderLine := do
  match ← value.fields? ["id", "note", "tags", "blocked"] with
  | [some id, note, tags, some blocked] =>
    return {
      id := ← id.nat? 255
      note := ← JsonValue.fieldOr none (JsonValue.nullable? JsonValue.string?) note
      tags := ← JsonValue.fieldOr [] JsonValue.strings? tags
      blocked := ← blocked.bool? }
  | _ => none

namespace RecordType

/-- Customers. -/
def customer : RecordType Customer := ⟨"Customer", Customer.read?⟩

/-- Items. -/
def item : RecordType Item := ⟨"Item", Item.read?⟩

/-- Lines of orders. -/
def orderLine : RecordType OrderLine := ⟨"OrderLine", OrderLine.read?⟩

end RecordType

end ODataClient

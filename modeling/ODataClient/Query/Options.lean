import ODataClient.Lookup

/-! # Query options
The options of a query: a map from names to values that remembers the order of insertion. Replacing
a value keeps its place; removing a name and setting it again moves it to the end. -/

namespace ODataClient

/-- Option names with their values, in the order in which the names were first set. -/
structure QueryOptions where
  /-- The entries in order. -/
  entries : List (String × String)
deriving DecidableEq, Repr

namespace QueryOptions

/-- No option at all. -/
def empty : QueryOptions := ⟨[]⟩

/-- The value of an option. -/
def get? (options : QueryOptions) (name : String) : Option String := options.entries.lookup name

/-- Whether an option is set. -/
def contains (options : QueryOptions) (name : String) : Bool := (options.get? name).isSome

/-- Whether no option is set. -/
def isEmpty (options : QueryOptions) : Bool := options.entries.isEmpty

/-- Entries with the value of a name replaced, or added at the end. -/
def setEntry (name value : String) : List (String × String) → List (String × String)
  | [] => [(name, value)]
  | entry :: rest =>
    if entry.1 = name then (name, value) :: rest else entry :: setEntry name value rest

/-- Set an option, in its old place if it had one. -/
def set (options : QueryOptions) (name value : String) : QueryOptions :=
  ⟨setEntry name value options.entries⟩

/-- Remove an option; nothing happens if it is not set. -/
def remove (options : QueryOptions) (name : String) : QueryOptions :=
  ⟨options.entries.filter (·.1 != name)⟩

/-- Set an option to a value, or remove it when there is none. -/
def assign (options : QueryOptions) (name : String) : Option String → QueryOptions
  | some value => options.set name value
  | none => options.remove name

/-! ## What an option is after an operation -/

@[simp] theorem get?_empty (name : String) : empty.get? name = none := rfl

theorem lookup_setEntry (name value other : String) (entries : List (String × String)) :
    (setEntry name value entries).lookup other =
      if other = name then some value else entries.lookup other := by
  induction entries with
  | nil => grind [setEntry]
  | cons entry rest ih =>
    obtain ⟨key, held⟩ := entry
    grind [setEntry]

@[simp] theorem get?_set_self (options : QueryOptions) (name value : String) :
    (options.set name value).get? name = some value := by
  simp [get?, set, lookup_setEntry]

@[simp] theorem get?_set_of_ne (options : QueryOptions) {name other : String} (value : String)
    (h : other ≠ name) : (options.set name value).get? other = options.get? other := by
  simp [get?, set, lookup_setEntry, h]

@[simp] theorem get?_remove_self (options : QueryOptions) (name : String) :
    (options.remove name).get? name = none := by
  simp [get?, remove, lookup_filter_bne]

@[simp] theorem get?_remove_of_ne (options : QueryOptions) {name other : String}
    (h : other ≠ name) : (options.remove name).get? other = options.get? other := by
  simp [get?, remove, lookup_filter_bne, h]

/-! ## Names -/

/-- The condition that records must meet. -/
def filterName : String := "$filter"

/-- The fields that are returned. -/
def selectName : String := "$select"

/-- The order of the records. -/
def orderName : String := "$orderby"

/-- The number of records returned. -/
def topName : String := "$top"

/-- The number of records passed over. -/
def skipName : String := "$skip"

/-- Whether the total number of records is returned. -/
def countName : String := "$count"

/-- The related records returned with each record. -/
def expandName : String := "$expand"

/-- The grouping and aggregation of records. -/
def applyName : String := "$apply"

end QueryOptions

end ODataClient

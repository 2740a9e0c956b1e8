import ODataClient.Json.Number

/-! # JSON values
JSON values and their compact text. The members of an object are kept in the order of their keys,
one for each key. -/

namespace ODataClient

/-- A JSON value. -/
inductive JsonValue
  /-- The absent value. -/
  | null
  /-- A truth value. -/
  | bool (value : Bool)
  /-- A number. -/
  | number (value : JsonNumber)
  /-- A text. -/
  | string (text : String)
  /-- A list of values. -/
  | array (items : List JsonValue)
  /-- Named values. -/
  | object (members : List (String × JsonValue))
deriving Repr

namespace JsonValue

/-- Members with one more, in the order of keys; an equal key's value is replaced. -/
def insertMember (key : String) (value : JsonValue) :
    List (String × JsonValue) → List (String × JsonValue)
  | [] => [(key, value)]
  | member :: rest =>
    if key < member.1 then (key, value) :: member :: rest
    else if key = member.1 then (key, value) :: rest
    else member :: insertMember key value rest

/-- The object with some members, later ones replacing earlier ones of equal key. -/
def ofMembers (members : List (String × JsonValue)) : JsonValue :=
  .object (members.foldl (fun sorted member => insertMember member.1 member.2 sorted) [])

/-- The text that a value is. -/
def string? : JsonValue → Option String
  | string text => some text
  | _ => none

/-- The truth value that a value is. -/
def bool? : JsonValue → Option Bool
  | bool value => some value
  | _ => none

/-- The integer that a value is, between two bounds. -/
def int? (lower upper : Int) : JsonValue → Option Int
  | number value => do
    let int ← value.toInt?
    if lower ≤ int ∧ int ≤ upper then some int else none
  | _ => none

/-- The natural number that a value is, up to a bound. -/
def nat? (upper : Nat) (value : JsonValue) : Option Nat := (value.int? 0 upper).map Int.toNat

/-- The items of an array. -/
def array? : JsonValue → Option (List JsonValue)
  | array items => some items
  | _ => none

/-- Whether a value is an object. -/
def isObject : JsonValue → Bool
  | object _ => true
  | _ => false

/-- The four hexadecimal digits of an escaped control character. -/
def controlEscape (char : Char) : List Char :=
  ['\\', 'u', '0', '0', Nat.digitChar (char.toNat / 16), Nat.digitChar (char.toNat % 16)]

/-- The written form of one character of a string. -/
def charText (char : Char) : List Char :=
  if char = '"' then ['\\', '"']
  else if char = '\\' then ['\\', '\\']
  else if char = '\x08' then ['\\', 'b']
  else if char = '\x0c' then ['\\', 'f']
  else if char = '\n' then ['\\', 'n']
  else if char = '\r' then ['\\', 'r']
  else if char = '\t' then ['\\', 't']
  else if char.toNat < 32 then controlEscape char
  else [char]

/-- A string between double quotes. -/
def stringText (text : String) : String :=
  String.ofList ('"' :: text.toList.flatMap charText ++ ['"'])

/-- A member, given the text of its value. -/
def memberText (key value : String) : String := stringText key ++ ":" ++ value

/-- Texts between square brackets. -/
def bracketed (items : List String) : String := "[" ++ ",".intercalate items ++ "]"

/-- Texts between curly brackets. -/
def braced (members : List String) : String := "\x7b" ++ ",".intercalate members ++ "\x7d"

mutual

/-- The compact text of a value. -/
def text : JsonValue → String
  | null => "null"
  | bool value => if value then "true" else "false"
  | number value => value.text
  | string text => stringText text
  | array items => bracketed (itemTexts items)
  | object members => braced (memberTexts members)

/-- The compact texts of values. -/
def itemTexts : List JsonValue → List String
  | [] => []
  | item :: rest => item.text :: itemTexts rest

/-- The compact texts of members. -/
def memberTexts : List (String × JsonValue) → List String
  | [] => []
  | (key, value) :: rest => memberText key value.text :: memberTexts rest

end

@[simp] theorem toList_stringText (text : String) :
    (stringText text).toList = '"' :: text.toList.flatMap charText ++ ['"'] := by
  simp [stringText]

end JsonValue

end ODataClient

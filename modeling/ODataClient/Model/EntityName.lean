import ODataClient.Text.Lowercase

/-! # Names of entity sets
A record type is named in the singular and addressed in the plural. The plural follows English
spelling by the end of the name; the entity set is the plural in lower case. -/

namespace ODataClient.EntityName

/-- Whether a character is an ASCII vowel of either case. -/
def isVowel (char : Char) : Bool :=
  let lowered := char.toLower
  lowered == 'a' || lowered == 'e' || lowered == 'i' || lowered == 'o' || lowered == 'u'

/-- The characters a plural has in place of the singular's, given the singular from its last
character backwards; the result is reversed too. -/
def pluralReversed (reversed : List Char) : List Char :=
  match reversed.map Text.lowerChar with
  | [] => []
  | 'z' :: before =>
    if before.head? = some 't' then 's' :: reversed else 's' :: 'e' :: 'z' :: reversed
  | 's' :: _ => 's' :: 'e' :: reversed
  | 'x' :: _ => 's' :: 'e' :: reversed
  | 'h' :: 's' :: _ => 's' :: 'e' :: reversed
  | 'h' :: 'c' :: _ => 's' :: 'e' :: reversed
  | 'y' :: _ =>
    match reversed with
    | _ :: before :: rest =>
      if isVowel before then 's' :: reversed else 's' :: 'e' :: 'i' :: before :: rest
    | _ => 's' :: reversed
  | _ => 's' :: reversed

/-- The plural of a singular name. -/
def plural (name : String) : String :=
  String.ofList (pluralReversed name.toList.reverse).reverse

/-- The name of the entity set of a record type. -/
def entitySet (name : String) : String := Text.lower (plural name)

@[simp] theorem toList_plural (name : String) :
    (plural name).toList = (pluralReversed name.toList.reverse).reverse := by
  simp [plural]

end ODataClient.EntityName

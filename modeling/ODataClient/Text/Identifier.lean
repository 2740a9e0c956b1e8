/-! # Identifiers
The names that an aggregate may give to its result: an ASCII letter or underscore, then ASCII
letters, digits and underscores. -/

namespace ODataClient.Text

/-- A character that may begin an identifier. -/
def isIdentifierStart (char : Char) : Bool := char.isAlpha || char == '_'

/-- A character that may continue an identifier. -/
def isIdentifierPart (char : Char) : Bool := char.isAlphanum || char == '_'

/-- Whether a list of characters is an identifier. -/
def isIdentifierChars : List Char → Bool
  | [] => false
  | first :: rest => isIdentifierStart first && rest.all isIdentifierPart

/-- Whether a text is an identifier. -/
def isIdentifier (text : String) : Bool := isIdentifierChars text.toList

end ODataClient.Text

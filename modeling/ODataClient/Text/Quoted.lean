/-! # Quoted strings of the filter grammar
A string is written between single quotes, and each quote inside it is written twice, so the closing
quote is the first one that is not doubled. -/

namespace ODataClient.Text

/-- Every single quote written twice. -/
def doubleQuotes : List Char → List Char
  | [] => []
  | char :: rest =>
    if char = '\'' then '\'' :: '\'' :: doubleQuotes rest else char :: doubleQuotes rest

/-- A text between single quotes, its own quotes doubled. -/
def quoted (text : String) : String :=
  String.ofList ('\'' :: doubleQuotes text.toList ++ ['\''])

@[simp] theorem doubleQuotes_nil : doubleQuotes [] = [] := rfl

@[simp] theorem doubleQuotes_quote (rest : List Char) :
    doubleQuotes ('\'' :: rest) = '\'' :: '\'' :: doubleQuotes rest := rfl

@[simp] theorem doubleQuotes_cons {char : Char} (h : char ≠ '\'') (rest : List Char) :
    doubleQuotes (char :: rest) = char :: doubleQuotes rest := by
  simp [doubleQuotes, h]

@[simp] theorem toList_quoted (text : String) :
    (quoted text).toList = '\'' :: doubleQuotes text.toList ++ ['\''] := by
  simp [quoted]

end ODataClient.Text

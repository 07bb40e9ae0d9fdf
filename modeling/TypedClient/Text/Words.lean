import TypedClient.Text.Basic
import TypedClient.Text.Lowercase

/-! # Words inside an identifier

An identifier is cut into words at its case changes: `getUsers` has the words `get` and `Users`,
`HTTPStatus` the words `HTTP` and `Status`, and digits form words of their own. Everything else
separates words. The rule is local (`joins`): it compares two neighbouring characters and, between
two capitals, looks one character further.

The words of a text are its ASCII letters and digits and nothing else (`words_flatten`). In Pascal
case each word is capitalized and the words are run together.
-/

namespace TypedClient.Text

/-- The characters that words are made of. -/
def isWordChar (c : Char) : Bool :=
  c.isUpper || c.isLower || c.isDigit

/-- The character and the one after it, at the head of `rest`, stand in one word. Of a run of
capitals the last one belongs to the small letters after it. -/
def joins (c : Char) (rest : List Char) : Bool :=
  match rest with
  | [] => false
  | next :: after =>
    (c.isLower && next.isLower) || (c.isUpper && next.isLower) || (c.isDigit && next.isDigit) ||
      (c.isUpper && next.isUpper && !(after.head?.any Char.isLower))

/-- The words of a text, from left to right. -/
def words : List Char → List (List Char)
  | [] => []
  | c :: rest =>
    if !isWordChar c then words rest
    else if joins c rest then extendFirst c (words rest)
    else [c] :: words rest

/-- The word with its first letter in upper case and the others in lower case. -/
def capitalize : List Char → List Char
  | [] => []
  | first :: rest => first.toUpper :: rest.map Char.toLower

/-- The capitalized words of a text, run together: `get_users` and `getUsers` give `GetUsers`. -/
def pascalCase (text : String) : String :=
  String.ofList ((words text.toList).flatMap capitalize)

/-- The text with each piece between underscores in Pascal case. -/
def pascalPieces (text : String) : String :=
  String.intercalate "_" ((pieces '_' text.toList).map fun piece =>
    pascalCase (String.ofList piece))

/-- The text with its first character in lower case. -/
def lowerFirst (text : String) : String :=
  match text.toList with
  | [] => ""
  | first :: rest => String.ofList (lowercase first ++ rest)

/-- Cutting into words drops the separators and nothing else. -/
theorem words_flatten (text : List Char) : (words text).flatten = text.filter isWordChar := by
  induction text with
  | nil => rfl
  | cons c rest ih =>
    by_cases letter : isWordChar c <;> by_cases together : joins c rest <;>
      simp [words, letter, together, ih, extendFirst_flatten]

end TypedClient.Text

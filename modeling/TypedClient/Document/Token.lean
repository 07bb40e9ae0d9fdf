/-! # Tokens of GraphQL documents

The lexical tokens, the wording by which messages name them, and every way in which a text can fail
to be a document. A fault says what was wrong; `SyntaxFault.message` says it in words.
-/

namespace TypedClient.Document

/-- The tokens that consist of a fixed mark. -/
inductive Mark where
  | bang | dollar | ampersand | parenOpen | parenClose | ellipsis | colon | equals | atSign
  | bracketOpen | bracketClose | braceOpen | pipe | braceClose
  deriving DecidableEq, Repr

/-- The mark as it is written. -/
def Mark.text : Mark → String
  | bang => "!"
  | dollar => "$"
  | ampersand => "&"
  | parenOpen => "("
  | parenClose => ")"
  | ellipsis => "..."
  | colon => ":"
  | equals => "="
  | atSign => "@"
  | bracketOpen => "["
  | bracketClose => "]"
  | braceOpen => "\x7b"
  | pipe => "|"
  | braceClose => "\x7d"

/-- A lexical token. Strings hold their value, not their spelling. -/
inductive Token where
  | mark (mark : Mark)
  | name (text : String)
  | int (digits : String)
  | float (digits : String)
  | string (text : String)
  | blockString (text : String)
  | endOfDocument
  deriving DecidableEq, Repr

/-- The text between single quotes, as it stands. -/
def inQuotes (text : String) : String :=
  "'" ++ text ++ "'"

/-- The token as a message names it. -/
def Token.describe : Token → String
  | .mark sign => inQuotes sign.text
  | name text => "Name " ++ inQuotes text
  | int digits => "Int " ++ inQuotes digits
  | float digits => "Float " ++ inQuotes digits
  | string text => "String " ++ inQuotes text
  | blockString text => "BlockString " ++ inQuotes text
  | endOfDocument => "<EOF>"

/-- The text that the token holds, if it is a name or a string. -/
def Token.text? : Token → Option String
  | name text => some text
  | string text => some text
  | blockString text => some text
  | _ => none

/-- What the grammar asks for at a place where it admits one kind of token. -/
inductive Wanted where
  | mark (mark : Mark)
  | name
  | keyword (word : String)
  | endOfDocument
  deriving DecidableEq, Repr

/-- The wanted token as a message names it. -/
def Wanted.describe : Wanted → String
  | .mark sign => inQuotes sign.text
  | name => "Name"
  | keyword word => inQuotes word
  | endOfDocument => "<EOF>"

/-- Why a text is not a document. A character is absent where the text ended. -/
inductive SyntaxFault where
  | unexpectedCharacter (c : Char)
  | digitAfterZero (c : Char)
  | digitWanted (c : Option Char)
  | unterminatedString
  | badEscape (shown : String)
  | badUnicodeEscape (shown : String)
  | wanted (wanted : Wanted) (found : Token)
  | unexpected (found : Token)
  | variableInConstant (name : String)
  | reservedEnumValue (found : Token)
  | describedShorthand
  | describedNonDefinition
  | nestedTooDeeply
  deriving DecidableEq, Repr

/-- The upper-case hexadecimal digits of a number, at least four of them. -/
def codePointDigits (n : Nat) : String :=
  let digits := (Nat.toDigits 16 n).map Char.toUpper
  String.ofList (List.replicate (4 - digits.length) '0' ++ digits)

/-- A character as a message shows it: itself if it is printable ASCII, else its code point. -/
def describeChar : Option Char → String
  | none => "<EOF>"
  | some c =>
    if 0x20 ≤ c.toNat ∧ c.toNat ≤ 0x7e then inQuotes (String.singleton c)
    else "U+" ++ codePointDigits c.toNat

/-- The fault in words, without the common beginning. -/
def SyntaxFault.detail : SyntaxFault → String
  | unexpectedCharacter c =>
    if c = '\'' then
      "Unexpected single quote character ('), did you mean to use a double quote (\")?"
    else "Unexpected character: " ++ describeChar (some c) ++ "."
  | digitAfterZero c => "Invalid number, unexpected digit after 0: " ++ describeChar (some c) ++ "."
  | digitWanted c => "Invalid number, expected digit but got: " ++ describeChar c ++ "."
  | unterminatedString => "Unterminated string."
  | badEscape shown => "Invalid character escape sequence: " ++ inQuotes shown ++ "."
  | badUnicodeEscape shown => "Invalid Unicode escape sequence: " ++ inQuotes shown ++ "."
  | .wanted sought found => "Expected " ++ sought.describe ++ ", found " ++ found.describe ++ "."
  | unexpected found => "Unexpected " ++ found.describe ++ "."
  | variableInConstant name =>
    "Unexpected variable " ++ inQuotes ("$" ++ name) ++ " in constant value."
  | reservedEnumValue found =>
    found.describe ++ " is reserved and cannot be used for an enum value."
  | describedShorthand =>
    "Unexpected description, descriptions are not supported on shorthand queries."
  | describedNonDefinition =>
    "Unexpected description, only GraphQL definitions support descriptions."
  | nestedTooDeeply => "Document is nested too deeply. Parsing aborted."

/-- The fault in words. -/
def SyntaxFault.message (fault : SyntaxFault) : String :=
  "Syntax Error: " ++ fault.detail

end TypedClient.Document

import TypedClient.Text.Lines

/-! # Block strings

A block string stands between triple quotes over several lines. Its value leaves out the margin that
all lines but the first have in common, and the blank lines at both ends (`value`). `print` writes a
value so that reading it gives the value back: it opens a line of its own wherever the first line
could be taken for indented text or the closing quotes for part of the text.
-/

namespace TypedClient.Document.BlockString

/-- The characters that make up a margin. -/
def isBlank (c : Char) : Bool :=
  c = ' ' || c = '\t'

/-- The number of blanks in front of a line, unless the line is blank throughout. -/
def margin? (line : List Char) : Option Nat :=
  if line.all isBlank then none else some (line.takeWhile isBlank).length

/-- The least of the margins, none if every line is blank. -/
def commonMargin? (lines : List (List Char)) : Option Nat :=
  (lines.filterMap margin?).min?

/-- The lines without the blank ones at either end. -/
def trimBlankLines (lines : List (List Char)) : List (List Char) :=
  let opened := lines.dropWhile (·.all isBlank)
  (opened.reverse.dropWhile (·.all isBlank)).reverse

/-- The value that the raw lines of a block string stand for. -/
def value : List (List Char) → List (List Char)
  | [] => []
  | first :: others =>
    let shifted := match commonMargin? others with
      | some margin => others.map (·.drop margin)
      | none => others
    trimBlankLines (first :: shifted)

/-- The text with a backslash before three quotes in a row. -/
def escapeQuotes : List Char → List Char
  | '"' :: '"' :: '"' :: rest => '\\' :: '"' :: '"' :: '"' :: escapeQuotes rest
  | c :: rest => c :: escapeQuotes rest
  | [] => []

/-- The line is empty or starts with a blank. -/
def startsBlank (line : List Char) : Bool :=
  match line with
  | [] => true
  | c :: _ => isBlank c

/-- Block strings longer than this are spread over several lines. -/
def lineLimit : Nat := 70

/-- The block string with the given value. -/
def print (text : List Char) : List Char :=
  let escaped := escapeQuotes text
  let lines := Text.textLines escaped
  let single := lines.length == 1
  let forcesBreak := !single && lines.tail.all startsBlank
  let endsEscaped := ['\\', '"', '"', '"'].isSuffixOf escaped
  let endsInQuote := ['"'].isSuffixOf text && !endsEscaped
  let endsInSlash := ['\\'].isSuffixOf text
  let spread := !single || text.length > lineLimit || endsInQuote || endsInSlash || endsEscaped
  let opensLine := (spread && !(single && text.head?.any isBlank)) || forcesBreak
  let closesLine := spread || endsInQuote || endsInSlash
  ['"', '"', '"'] ++ (if opensLine then ['\n'] else []) ++ escaped ++
    (if closesLine then ['\n'] else []) ++ ['"', '"', '"']

end TypedClient.Document.BlockString

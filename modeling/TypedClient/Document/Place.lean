import TypedClient.Document.Lexer
import TypedClient.Document.Syntax

/-! # Places in the text of a document

A place is the place of a token. `Place.offset` finds the characters in front of it by going over
the text once more, in step with the scan: both see the same tokens (`Lexer.starts_length`).

A message about a place shows its line with the lines around it and a mark below the character
(`Place.excerpt`). Counted and shown are the lines between the line ends of a document. The text in
front of a place has at most as many lines as the whole text (`Place.line_le`), so every place has a
line to show.
-/

namespace TypedClient.Document

namespace Lexer

/-- How many characters stand in front of each token of a text whose first `skip` characters are
already read; `before` of them stand in front of the text. -/
def starts : (skip before : Nat) → List Char → List Nat
  | _, _, [] => []
  | skip + 1, before, _ :: rest => starts skip (before + 1) rest
  | 0, before, c :: rest =>
    if isSeparator c then starts 0 (before + 1) rest
    else if c = '#' then
      starts (rest.takeWhile fun c => !isLineEnd c).length (before + 1) rest
    else match lexeme c rest with
      | .error _ => []
      | .ok (_, count) => before :: starts count (before + 1) rest

/-- Every token of the scan has its start. -/
theorem starts_length (skip before : Nat) (text : List Char) :
    (starts skip before text).length = (scan skip text).length := by
  induction text generalizing skip before with
  | nil => cases skip <;> rfl
  | cons c rest ih =>
    cases skip with
    | succ skip => exact ih skip (before + 1)
    | zero =>
      by_cases separator : isSeparator c
      · simp only [starts, scan, if_pos separator, ih]
      · by_cases comment : c = '#'
        · simp only [starts, scan, if_neg separator, if_pos comment, ih]
        · rw [starts, scan, if_neg separator, if_neg comment, if_neg separator, if_neg comment]
          cases found : lexeme c rest with
          | error fault => rfl
          | ok lexed => simp [Tokens.length, ih]

end Lexer

namespace Place

variable (place : Place)

/-- The number of characters in front of the place. -/
def offset : Nat :=
  let starts := Lexer.starts 0 0 place.text.toList
  (starts[starts.length - place.tokensLeft]?).getD place.text.length

/-- The lines of the text in front of the place. The last one is the part of the line of the place
that stands in front of it. -/
def linesBefore : List (List Char) :=
  Text.textLines (place.text.toList.take place.offset)

/-- The number of the line of the place, from 1 on. -/
def line : Nat :=
  place.linesBefore.length

/-- The number of the place in its line, from 1 on. -/
def column : Nat :=
  (place.linesBefore.getLast?.getD []).length + 1

/-- The lines of the whole text. -/
def lines : List (List Char) :=
  Text.textLines place.text.toList

/-- Every place has a line. -/
theorem line_le : place.line ≤ place.lines.length :=
  Text.textLines_length_take place.offset place.text.toList

/-- Lines are counted from 1 on. -/
theorem line_pos : 0 < place.line :=
  List.length_pos_iff.2 (Text.textLines_ne_nil _)

/-- The line of the place. -/
def ownLine : List Char :=
  place.lines.get ⟨place.line - 1, by have := place.line_le; have := place.line_pos; omega⟩

/-- A line longer than this is shown in pieces. -/
def lineLimit : Nat := 120

/-- The length of the pieces of a long line. -/
def pieceLength : Nat := 80

/-- The pieces of a long line. -/
def piecesOf (line : List Char) : List (List Char) :=
  (List.range ((line.length + pieceLength - 1) / pieceLength)).map fun index =>
    (line.drop (index * pieceLength)).take pieceLength

/-- The text with blanks in front up to a width. -/
def alignRight (width : Nat) (text : List Char) : List Char :=
  List.replicate (width - text.length) ' ' ++ text

/-- Lines behind labels, which are aligned. -/
def labelled (lines : List (String × List Char)) : String :=
  let width := (lines.map (·.1.length)).foldl max 0
  String.intercalate "\n" (lines.map fun (label, line) =>
    String.ofList (alignRight width label.toList ++ if line.isEmpty then [] else ' ' :: line))

/-- The label of a line. -/
def label (number : Nat) : String :=
  toString number ++ " |"

/-- The lines around the place and the mark below it. Of a long line the pieces are shown up to the
one behind the mark. -/
def shownLines : List (String × List Char) :=
  let mark (column : Nat) : String × List Char := ("|", alignRight column ['^'])
  if place.ownLine.length ≤ lineLimit then
    let before := if place.line = 1 then none else place.lines[place.line - 2]?
    (before.map (label (place.line - 1), ·)).toList ++
      [(label place.line, place.ownLine), mark place.column] ++
      ((place.lines[place.line]?).map (label (place.line + 1), ·)).toList
  else
    let pieces := piecesOf place.ownLine
    let index := place.column / pieceLength
    (label place.line, pieces.headD []) ::
      ((pieces.drop 1).take index).map ("|", ·) ++
      mark (place.column % pieceLength) :: ((pieces[index + 1]?).map ("|", ·)).toList

/-- The line and column of the place, and the lines around it. -/
def excerpt : String :=
  "GraphQL request:" ++ toString place.line ++ ":" ++ toString place.column ++ "\n" ++
    labelled place.shownLines

end Place

end TypedClient.Document

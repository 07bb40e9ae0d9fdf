import TypedClient.Template.Expression

/-! # Segments of custom templates

A custom template is text with outputs between double braces and comments between a brace and a
number sign. Comments leave nothing behind: not the line end right after them, and not the blanks
in front of them if nothing else stands on their line. A dash inside of a brace takes away all
blanks on its side, a plus sign keeps them.

`piecesOf?` cuts a template at its outputs and comments, and `settle` takes the blanks away.
-/

namespace TypedClient.Template

/-- What an opening mark does to the blanks in front of it. -/
inductive Margin where
  | usual
  | kept
  | dropped
  deriving DecidableEq, Repr

/-- A part of a template as it is written. Where a new line starts right behind an output or a
comment, it ends its line. -/
inductive Piece where
  | literal (text : List Char)
  | output (margin : Margin) (expression : Expression) (endsLine : Bool)
  | comment (margin : Margin) (endsLine : Bool)

/-- A part of a template as it is rendered. -/
inductive Segment where
  | literal (text : String)
  | output (expression : Expression)
  deriving Repr

/-- The text of a segment. -/
def Segment.render (scope : List (String × TemplateValue)) :
    Segment → Except TemplateFault RawText
  | literal text => .ok (RawText.ofString text)
  | output expression => do return (← expression.value scope).inline

/-- The text of a template. -/
def renderSegments (segments : List Segment) (scope : List (String × TemplateValue)) :
    Except TemplateFault RawText := do
  return (← segments.mapM (Segment.render scope)).flatten

/-- All filters of the segment are known. -/
def Segment.isKnown : Segment → Bool
  | literal _ => true
  | output expression => expression.isKnown

/-! ## Cutting a template -/

/-- What the sign behind an opening mark means, and the number of characters that it takes. -/
def marginOf : List Char → Margin × Nat
  | '-' :: _ => (.dropped, 1)
  | '+' :: _ => (.kept, 1)
  | _ => (.usual, 0)

/-- The number of characters up to the end of a comment, which is included. -/
def commentWidth? : List Char → Option Nat
  | [] => none
  | '+' :: '#' :: '}' :: _ => some 3
  | '-' :: '#' :: '}' :: rest => some (3 + (Text.leadingBlanks rest).length)
  | '#' :: '}' :: '\n' :: _ => some 3
  | '#' :: '}' :: _ => some 2
  | _ :: rest => (commentWidth? rest).map (· + 1)

/-- The last of the first `width` characters is a line feed. -/
def endsLine (width : Nat) (text : List Char) : Bool :=
  (text.take width).getLast? = some '\n'

/-- The output behind its opening braces, and the number of characters that it takes. -/
def outputPiece? (text : List Char) : Option (Piece × Nat) := do
  let (margin, sign) := marginOf text
  let (tokens, width) ← Token.outputTokens? [] 0 '{' (text.drop sign)
  let expression ← Expression.ofTokens? tokens
  return (.output margin expression (endsLine (sign + width) text), sign + width)

/-- The comment behind its opening mark, and the number of characters that it takes. One that opens
at the end of the template needs no end. -/
def commentPiece? (text : List Char) : Option (Piece × Nat) :=
  let (margin, sign) := marginOf text
  if (text.drop sign).isEmpty then some (.comment margin false, sign)
  else (commentWidth? (text.drop sign)).map fun width =>
    (.comment margin (endsLine (sign + width) text), sign + width)

/-- Puts a character in front of pieces. -/
def extendLiteral (c : Char) : List Piece → List Piece
  | .literal text :: rest => .literal (c :: text) :: rest
  | pieces => .literal [c] :: pieces

/-- The pieces of a template whose first `skip` characters are already read. Statements are not
known. -/
def piecesOf? : (skip : Nat) → List Char → Option (List Piece)
  | _, [] => some []
  | skip + 1, _ :: rest => piecesOf? skip rest
  | 0, c :: rest =>
    let opened := if c = '{' then rest.head? else none
    match opened with
    | some '{' => do
      let (piece, width) ← outputPiece? (rest.drop 1)
      return piece :: (← piecesOf? (1 + width) rest)
    | some '#' => do
      let (piece, width) ← commentPiece? (rest.drop 1)
      return piece :: (← piecesOf? (1 + width) rest)
    | some '%' => none
    | _ => (piecesOf? 0 rest).map (extendLiteral c)

/-! ## Taking blanks away -/

/-- The text without the blanks on its last line, if nothing else stands there. What stands in front
of the text decides whether its first line counts as one. -/
def dropLineMargin (startsLine : Bool) (text : List Char) : List Char :=
  let last := text.reverse.takeWhile (· ≠ '\n')
  if (startsLine || '\n' ∈ text) && last.all Text.isBlank then text.take (text.length - last.length)
  else text

/-- The text in front of an opening mark. -/
def beforeMark (startsLine inComment : Bool) (margin : Margin) (text : List Char) : List Char :=
  match margin with
  | .dropped => Text.dropTrailingBlanks text
  | .kept => text
  | .usual => if inComment then dropLineMargin startsLine text else text

/-- The segments that pieces stand for; `startsLine` says whether a line starts in front of them. -/
def settle (startsLine : Bool) : List Piece → List Segment
  | [] => []
  | .output _ expression endsLine :: rest => .output expression :: settle endsLine rest
  | .comment _ endsLine :: rest => settle endsLine rest
  | .literal text :: rest =>
    let kept := match rest with
      | .output margin _ _ :: _ => beforeMark startsLine false margin text
      | .comment margin _ :: _ => beforeMark startsLine true margin text
      | _ => text
    .literal (String.ofList kept) :: settle false rest

/-- The segments of a template. -/
def segmentsOf? (text : List Char) : Option (List Segment) :=
  (piecesOf? 0 text).map (settle true)

end TypedClient.Template

import TypedClient.Document.Lexer

/-! # Reading tokens

A reader takes tokens from the front of a list and gives a value, or a fault. The token in front is
always known: taking a token already looks at the next one, so a fault of the text right behind a
token comes before any fault of the grammar there (`Reader.take`).

The combinators for lists need no bound from outside. Each item takes a token, so the number of
tokens that are left bounds the number of items.
-/

namespace TypedClient.Document

/-- Reads a value from the front of the tokens. -/
abbrev Reader := StateT Tokens (Except SyntaxFault)

namespace Reader

/-- The token in front. -/
def peek : Reader Token := do
  match ← get with
  | .done => return .endOfDocument
  | .fault fault => throw fault
  | .cons token _ => return token

/-- The token after the one in front. -/
def peekSecond : Reader Token := do
  match ← get with
  | .cons _ (.cons token _) => return token
  | .cons _ (.fault fault) => throw fault
  | .fault fault => throw fault
  | _ => return .endOfDocument

/-- Takes the token in front, and looks at the one behind it. -/
def take : Reader Token := do
  let token ← peek
  match ← get with
  | .cons _ rest => set rest
  | _ => pure ()
  discard peek
  return token

/-- The number of tokens left. -/
def remaining : Reader Nat := do
  return (← get).length

/-- Refuses the token in front. -/
def refuse {α : Type} : Reader α := do
  throw (.unexpected (← peek))

/-- The mark stands in front. -/
def atMark (mark : Mark) : Reader Bool := do
  return (← peek) == .mark mark

/-- Takes the mark if it stands in front. -/
def skip? (mark : Mark) : Reader Bool := do
  if ← atMark mark then
    discard take
    return true
  else return false

/-- Takes the mark. -/
def mark (mark : Mark) : Reader Unit := do
  unless ← skip? mark do throw (.wanted (.mark mark) (← peek))

/-- Takes a name. -/
def name : Reader String := do
  match ← peek with
  | .name text => do
    discard take
    return text
  | found => throw (.wanted .name found)

/-- Takes the word if it stands in front. -/
def skipWord? (word : String) : Reader Bool := do
  if (← peek) == .name word then
    discard take
    return true
  else return false

/-- Takes the word. -/
def word (word : String) : Reader Unit := do
  unless ← skipWord? word do throw (.wanted (.keyword word) (← peek))

/-- Makes sure that all tokens are taken. -/
def endOfDocument : Reader Unit := do
  let found ← peek
  unless found == .endOfDocument do throw (.wanted .endOfDocument found)

variable {α : Type}

/-- Items up to the closing mark, which is taken too. Their number is at most `bound`. -/
def itemsUntil (item : Reader α) (close : Mark) : (bound : Nat) → Reader (List α)
  | 0 => return []
  | bound + 1 => do
    if ← skip? close then return []
    else
      let first ← item
      return first :: (← itemsUntil item close bound)

/-- Items between two marks, perhaps none. -/
def bracketed (start : Mark) (item : Reader α) (close : Mark) : Reader (List α) := do
  mark start
  itemsUntil item close ((← remaining) + 1)

/-- Items between two marks, at least one. -/
def bracketedSome (start : Mark) (item : Reader α) (close : Mark) : Reader (List α) := do
  mark start
  let first ← item
  return first :: (← itemsUntil item close ((← remaining) + 1))

/-- At least one item between two marks, or nothing at all. -/
def bracketed? (start : Mark) (item : Reader α) (close : Mark) : Reader (List α) := do
  if ← atMark start then bracketedSome start item close else return []

/-- Items as long as the given mark stands in front of each. -/
def itemsAt (start : Mark) (item : Reader α) : (bound : Nat) → Reader (List α)
  | 0 => return []
  | bound + 1 => do
    if ← atMark start then
      let first ← item
      return first :: (← itemsAt start item bound)
    else return []

/-- All items in front that start with the given mark, perhaps none. -/
def allAt (start : Mark) (item : Reader α) : Reader (List α) := do
  if ← atMark start then itemsAt start item ((← remaining) + 1) else return []

/-- Further items, each behind the separator. -/
def itemsAfter (separator : Mark) (item : Reader α) : (bound : Nat) → Reader (List α)
  | 0 => return []
  | bound + 1 => do
    if ← skip? separator then
      let next ← item
      return next :: (← itemsAfter separator item bound)
    else return []

/-- At least one item, with the separator between items and, if one likes, in front. -/
def separated (separator : Mark) (item : Reader α) : Reader (List α) := do
  discard (skip? separator)
  let first ← item
  return first :: (← itemsAfter separator item ((← remaining) + 1))

/-- Reads a whole text. -/
def readAll (reader : Reader α) (text : String) : Except SyntaxFault α := do
  let whole : Reader α := do
    let value ← reader
    endOfDocument
    return value
  let (value, _) ← whole.run (Tokens.ofText text)
  return value

end Reader

end TypedClient.Document

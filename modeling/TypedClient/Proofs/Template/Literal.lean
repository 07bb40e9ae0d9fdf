import TypedClient.Document.Lexer
import TypedClient.Text.Identifier

/-! # Template literals

A template literal stands between backticks. `Literal.read` reads one as the language of the
generated module does: a backslash escapes what follows it, `$\x7b` opens a substitution, the first
backtick that is not escaped ends the literal, and every line end is a line feed. An escape that is
not well-formed leaves the literal without a text, and so do the halves of a pair that do not stand
together.
-/

namespace TypedClient.Template

/-- A part of a template literal: a character of its text, or the substitution of a constant. -/
inductive LiteralPart where
  | char (c : Char)
  | substitution (name : String)
  deriving DecidableEq, Repr

namespace Literal

/-- The characters that end a line. -/
def isLineTerminator (c : Char) : Bool :=
  c.toNat ∈ [0x0a, 0x0d, 0x2028, 0x2029]

/-- The characters of identifiers. -/
def isIdentifierChar (c : Char) : Bool :=
  Text.isNameChar c || c = '$'

/-! ## Escapes -/

/-- The code point that a single character behind a backslash stands for. -/
def letterCode : Char → Nat
  | 'b' => 0x08
  | 't' => 0x09
  | 'n' => 0x0a
  | 'v' => 0x0b
  | 'f' => 0x0c
  | 'r' => 0x0d
  | c => c.toNat

/-- The code point in braces behind `\u`, and the number of characters behind the backslash. -/
def bracedCode? (text : List Char) : Option (Nat × Nat) :=
  let digits := text.takeWhile fun c => (Text.digitValue? 16 c).isSome
  let code := Text.numberIn 16 digits
  if digits ≠ [] ∧ (text.drop digits.length).head? = some '}' ∧ code ≤ 0x10ffff then
    some (code, digits.length + 3)
  else none

/-- The code point that an escape stands for, which may be half of a pair, and the number of
characters behind the backslash. -/
def code? : List Char → Option (Nat × Nat)
  | 'u' :: '{' :: rest => bracedCode? rest
  | 'u' :: rest => (Document.Lexer.hexCode? rest).map (·, 5)
  | 'x' :: rest => (Text.numberInFront? 16 2 rest).map (·, 3)
  | '0' :: rest => if rest.head?.any Char.isDigit then none else some (0, 1)
  | c :: _ => if c.isDigit then none else some (letterCode c, 1)
  | [] => none

/-- The character that two code points stand for if they form a pair. -/
def pair? (high low : Nat) : Option Char :=
  if 0xd800 ≤ high ∧ high ≤ 0xdbff ∧ 0xdc00 ≤ low ∧ low ≤ 0xdfff then
    some (Char.ofNat (0x10000 + (high - 0xd800) * 0x400 + (low - 0xdc00)))
  else none

/-- What an escape stands for, and the number of characters behind the backslash. An escaped line
end stands for nothing. -/
def escape? (text : List Char) : Option (List Char × Nat) :=
  match text with
  | [] => none
  | c :: rest =>
    if isLineTerminator c then
      some ([], if c = '\r' ∧ rest.head? = some '\n' then 2 else 1)
    else match code? text with
      | none => none
      | some (code, width) =>
        if Document.Lexer.isScalar code then some ([Char.ofNat code], width)
        else match text.drop width with
          | '\\' :: second => do
            let (low, further) ← code? second
            return ([← pair? code low], width + 1 + further)
          | _ => none

/-! ## Reading -/

/-- What the character and those behind it stand for, and the number of the latter that belong to
it. -/
def partsAt? (c : Char) (rest : List Char) : Option (List LiteralPart × Nat) :=
  if c = '\\' then (escape? rest).map fun (cooked, width) => (cooked.map .char, width)
  else if c = '$' ∧ rest.head? = some '{' then
    let name := rest.tail.takeWhile isIdentifierChar
    if (rest.drop (name.length + 1)).head? = some '}' then
      some ([.substitution (String.ofList name)], name.length + 2)
    else none
  else if c = '\r' then some ([.char '\n'], if rest.head? = some '\n' then 1 else 0)
  else some ([.char c], 0)

/-- The parts of a literal up to its closing backtick, and the text behind it. The first `skip`
characters belong to a part already read. -/
def read : (skip : Nat) → List Char → Option (List LiteralPart × List Char)
  | _, [] => none
  | skip + 1, _ :: rest => read skip rest
  | 0, c :: rest =>
    if c = '`' then some ([], rest)
    else do
      let (parts, width) ← partsAt? c rest
      let (more, left) ← read width rest
      return (parts ++ more, left)

/-- The parts of the literal that starts a text, and the text behind its closing backtick. -/
def ofText? (text : String) : Option (List LiteralPart × String) :=
  match text.toList with
  | '`' :: rest => (read 0 rest).map fun (parts, left) => (parts, String.ofList left)
  | _ => none

/-- The constants that are substituted, in order. -/
def substitutions (parts : List LiteralPart) : List String :=
  parts.filterMap fun
    | .char _ => none
    | .substitution name => some name

/-- The characters of the text, with a blank for each substitution. -/
def blanked (parts : List LiteralPart) : List Char :=
  parts.map fun
    | .char c => c
    | .substitution _ => ' '

end Literal

end TypedClient.Template

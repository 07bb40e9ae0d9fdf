import TypedClient.Document.BlockString
import TypedClient.Document.Token
import TypedClient.Text.Character

/-! # Cutting a document into tokens

`Tokens.ofText` cuts a text into its tokens. Blanks, commas, line ends, byte order marks and
comments separate tokens and are dropped. A text that goes wrong gives the tokens before the place
and then the fault, so that whoever reads the tokens decides which of two faults comes first.

Each lexeme is recognized by looking ahead from its first character; the recognizer returns the
token and how many further characters it takes, and the scan passes over that many.
-/

namespace TypedClient.Document

/-- The tokens of a text in order, up to its end or to the place where it goes wrong. -/
inductive Tokens where
  | done
  | fault (fault : SyntaxFault)
  | cons (token : Token) (rest : Tokens)

/-- The number of tokens. -/
def Tokens.length : Tokens → Nat
  | done => 0
  | .fault _ => 0
  | cons _ rest => rest.length + 1

namespace Lexer

/-- A token and the number of characters that its lexeme takes. -/
abbrev Recognized := Except SyntaxFault (Token × Nat)

/-- The characters between tokens. -/
def isSeparator (c : Char) : Bool :=
  c = ' ' || c = '\t' || c = ',' || c = '\n' || c = '\r' || c = Char.ofNat 0xfeff

/-- The character ends a line. -/
def isLineEnd (c : Char) : Bool :=
  c = '\n' || c = '\r'

/-- The characters that start a name. -/
def isNameStart (c : Char) : Bool :=
  c.isAlpha || c = '_'

/-- The characters that continue a name. -/
def isNameChar (c : Char) : Bool :=
  c.isAlphanum || c = '_'

/-- The mark that consists of the character. -/
def mark? : Char → Option Mark
  | '!' => some .bang
  | '$' => some .dollar
  | '&' => some .ampersand
  | '(' => some .parenOpen
  | ')' => some .parenClose
  | ':' => some .colon
  | '=' => some .equals
  | '@' => some .atSign
  | '[' => some .bracketOpen
  | ']' => some .bracketClose
  | '{' => some .braceOpen
  | '|' => some .pipe
  | '}' => some .braceClose
  | _ => none

/-! ## Numbers -/

/-- The digits in front of a text, at least one. -/
def digits (text : List Char) : Except SyntaxFault (List Char) :=
  match text.takeWhile Char.isDigit with
  | [] => .error (.digitWanted text.head?)
  | found => .ok found

/-- The digits of a whole number, which start with a zero only if that is all. -/
def wholeDigits (text : List Char) : Except SyntaxFault (List Char) :=
  match text with
  | '0' :: next :: _ => if next.isDigit then .error (.digitAfterZero next) else .ok ['0']
  | _ => digits text

/-- The part of a number from its point on, empty if there is none. -/
def fractionPart (text : List Char) : Except SyntaxFault (List Char) :=
  match text with
  | '.' :: rest => do return '.' :: (← digits rest)
  | _ => return []

/-- The part of a number from its exponent mark on, empty if there is none. -/
def exponentPart (text : List Char) : Except SyntaxFault (List Char) :=
  match text with
  | e :: rest =>
    if e = 'e' ∨ e = 'E' then
      match rest with
      | sign :: after =>
        if sign = '+' ∨ sign = '-' then do return e :: sign :: (← digits after)
        else do return e :: (← digits rest)
      | [] => .error (.digitWanted none)
    else return []
  | [] => return []

/-- The number in front of a text. A point or a letter right after it is refused. -/
def number (text : List Char) : Recognized := do
  let sign := text.takeWhile (· = '-') |>.take 1
  let rest := text.drop sign.length
  let whole ← wholeDigits rest
  let rest := rest.drop whole.length
  let fraction ← fractionPart rest
  let rest := rest.drop fraction.length
  let exponent ← exponentPart rest
  let rest := rest.drop exponent.length
  if rest.head?.any fun c => c = '.' || isNameStart c then throw (.digitWanted rest.head?)
  let lexeme := sign ++ whole ++ fraction ++ exponent
  let spelling := String.ofList lexeme
  let token := if fraction.isEmpty && exponent.isEmpty then Token.int spelling else .float spelling
  return (token, lexeme.length)

/-! ## Strings -/

/-- The value of a hexadecimal digit. -/
def hexValue? : Char → Option Nat :=
  Text.digitValue? 16

/-- The number that four hexadecimal digits in front of a text write. -/
def hexCode? : List Char → Option Nat :=
  Text.numberInFront? 16 4

/-- The number is a code point of a character: below the limit and no half of a pair. -/
def isScalar (code : Nat) : Bool :=
  code < 0xd800 || (0xdfff < code && code ≤ 0x10ffff)

/-- The escape in braces, after the opening one. At most `left` characters are read; `read` holds
those before, latest first, and `code` the number they write. -/
def bracedEscape (left : Nat) (read : List Char) (code : Nat) :
    List Char → Except SyntaxFault (Char × Nat)
  | [] => refuse read
  | c :: rest =>
    match left with
    | 0 => refuse read
    | left + 1 =>
      if c = '}' then
        if !read.isEmpty && isScalar code then .ok (Char.ofNat code, read.length + 3)
        else refuse (c :: read)
      else match hexValue? c with
        | some digit => bracedEscape left (c :: read) (code * 16 + digit) rest
        | none => refuse (c :: read)
where
  /-- The fault that shows the escape as far as it was read. -/
  refuse (read : List Char) : Except SyntaxFault (Char × Nat) :=
    .error (.badUnicodeEscape (String.ofList ('\\' :: 'u' :: '{' :: read.reverse)))

/-- The escape of four digits after the letter, or of two such that form a pair. -/
def fixedEscape (text : List Char) : Except SyntaxFault (Char × Nat) :=
  let refused := .error (.badUnicodeEscape (String.ofList ('\\' :: 'u' :: text.take 4)))
  match hexCode? text with
  | none => refused
  | some high =>
    if isScalar high then .ok (Char.ofNat high, 5)
    else if high ≤ 0xdbff then
      match text.drop 4 with
      | '\\' :: 'u' :: second =>
        match hexCode? second with
        | some low =>
          if 0xdc00 ≤ low ∧ low ≤ 0xdfff then
            .ok (Char.ofNat (0x10000 + (high - 0xd800) * 0x400 + (low - 0xdc00)), 11)
          else refused
        | none => refused
      | _ => refused
    else refused

/-- The character that an escape stands for and the number of characters after the backslash. -/
def escape (text : List Char) : Except SyntaxFault (Char × Nat) :=
  match text with
  | 'u' :: '{' :: rest => bracedEscape 9 [] 0 rest
  | 'u' :: rest => fixedEscape rest
  | '"' :: _ => .ok ('"', 1)
  | '\\' :: _ => .ok ('\\', 1)
  | '/' :: _ => .ok ('/', 1)
  | 'b' :: _ => .ok (Char.ofNat 0x08, 1)
  | 'f' :: _ => .ok (Char.ofNat 0x0c, 1)
  | 'n' :: _ => .ok ('\n', 1)
  | 'r' :: _ => .ok ('\r', 1)
  | 't' :: _ => .ok ('\t', 1)
  | _ => .error (.badEscape (String.ofList ('\\' :: text.take 1)))

/-- The value of a string and the characters it takes up to its closing quote. The first `skip`
characters belong to an escape already read. -/
def stringBody : (skip : Nat) → List Char → Except SyntaxFault (List Char × Nat)
  | _, [] => .error .unterminatedString
  | skip + 1, _ :: rest => do
    let (value, count) ← stringBody skip rest
    return (value, count + 1)
  | 0, c :: rest =>
    if c = '"' then .ok ([], 1)
    else if isLineEnd c then .error .unterminatedString
    else if c = '\\' then do
      let (escaped, width) ← escape rest
      let (value, count) ← stringBody width rest
      return (escaped :: value, count + 1)
    else do
      let (value, count) ← stringBody 0 rest
      return (c :: value, count + 1)

/-- The raw lines of a block string and the characters it takes up to its closing quotes, if it has
any. -/
def blockBody? : List Char → Option (List (List Char) × Nat)
  | [] => none
  | '"' :: '"' :: '"' :: _ => some ([[]], 3)
  | '\\' :: '"' :: '"' :: '"' :: rest => do
    let (lines, count) ← blockBody? rest
    let quoted := Text.extendFirst '"' (Text.extendFirst '"' (Text.extendFirst '"' lines))
    return (quoted, count + 4)
  | '\r' :: '\n' :: rest => do
    let (lines, count) ← blockBody? rest
    return ([] :: lines, count + 2)
  | c :: rest => do
    let (lines, count) ← blockBody? rest
    return (if isLineEnd c then [] :: lines else Text.extendFirst c lines, count + 1)

/-- The string whose opening quote stands in front of the text. -/
def string (text : List Char) : Recognized :=
  match text with
  | '"' :: '"' :: rest =>
    match blockBody? rest with
    | none => .error .unterminatedString
    | some (lines, count) =>
      let value := (BlockString.value lines).intersperse ['\n'] |>.flatten
      .ok (.blockString (String.ofList value), count + 2)
  | _ => do
    let (value, count) ← stringBody 0 text
    return (.string (String.ofList value), count)

/-! ## The scan -/

/-- The lexeme that starts with `c`, with the number of characters it takes after `c`. -/
def lexeme (c : Char) (rest : List Char) : Recognized :=
  match mark? c with
  | some mark => .ok (.mark mark, 0)
  | none =>
    if isNameStart c then
      let more := rest.takeWhile isNameChar
      .ok (.name (String.ofList (c :: more)), more.length)
    else if c.isDigit || c = '-' then do
      let (token, count) ← number (c :: rest)
      return (token, count - 1)
    else if c = '"' then string rest
    else if c = '.' ∧ ['.', '.'].isPrefixOf rest then .ok (.mark .ellipsis, 2)
    else .error (.unexpectedCharacter c)

/-- The tokens of a text whose first `skip` characters are already read. -/
def scan : (skip : Nat) → List Char → Tokens
  | _, [] => .done
  | skip + 1, _ :: rest => scan skip rest
  | 0, c :: rest =>
    if isSeparator c then scan 0 rest
    else if c = '#' then scan (rest.takeWhile fun c => !isLineEnd c).length rest
    else match lexeme c rest with
      | .error fault => .fault fault
      | .ok (token, count) => .cons token (scan count rest)

end Lexer

/-- The tokens of a text. -/
def Tokens.ofText (text : String) : Tokens :=
  Lexer.scan 0 text.toList

end TypedClient.Document

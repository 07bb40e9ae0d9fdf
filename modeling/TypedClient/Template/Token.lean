import TypedClient.Number.Double
import TypedClient.Text.Character
import TypedClient.Text.Identifier
import TypedClient.Text.RawText

/-! # Tokens of outputs

An output of a custom template stands between double braces. `outputTokens?` cuts it into tokens up
to the closing braces, which do not close it inside of brackets. A dash in front of the closing
braces takes away the blanks behind them.
-/

namespace TypedClient.Template

/-- A token of an output. -/
inductive Token where
  | name (text : String)
  | number (value : Nat)
  | decimal (value : Double)
  | text (content : RawText)
  | mark (mark : Char)
  deriving DecidableEq, Repr

namespace Token

/-- A token and the number of characters that it takes, at least one. -/
abbrev Recognized := Option (Token × Nat)

/-! ## Numbers -/

/-- The digits behind a digit or a mark. An underscore may stand in front of each of them. -/
def digitTail (isDigit : Char → Bool) : List Char → List Char
  | [] => []
  | c :: rest =>
    if isDigit c || (c = '_' && rest.head?.any isDigit) then c :: digitTail isDigit rest else []

/-- The digits in front of a text. Between two digits an underscore may stand. -/
def digitRun (isDigit : Char → Bool) (text : List Char) : List Char :=
  if text.head?.any isDigit then digitTail isDigit text else []

/-- The character is a decimal digit, of any script. -/
def isDecimal (c : Char) : Bool :=
  (Text.decimalValue? c).isSome

/-- The number that decimal digits write. -/
def decimalNumber (digits : List Char) : Nat :=
  Text.numberOf Text.decimalValue? 10 digits

/-- The value of a hexadecimal digit. -/
def hexValue? (c : Char) : Option Nat :=
  (Text.decimalValue? c).or (Text.digitValue? 16 c)

/-- The part of a number from its point on, empty if no digit follows the point. -/
def fractionRun (text : List Char) : List Char :=
  match text with
  | '.' :: rest => match digitRun isDecimal rest with
    | [] => []
    | digits => '.' :: digits
  | _ => []

/-- The part of a number from its exponent mark on, empty if there is none. -/
def exponentRun (text : List Char) : List Char :=
  match text with
  | e :: rest =>
    if e = 'e' ∨ e = 'E' then
      let sign := rest.takeWhile (fun c => c = '+' ∨ c = '-') |>.take 1
      match digitRun isDecimal (rest.drop sign.length) with
      | [] => []
      | digits => e :: (sign ++ digits)
    else []
  | [] => []

/-- The number of double precision written by a whole part, a fraction and an exponent. Exponents
beyond the range of such numbers are cut off. -/
def decimalOf (whole fraction exponent : List Char) : Double :=
  let digits := (whole ++ fraction).filter isDecimal
  let places := (fraction.filter isDecimal).length
  let size := min (decimalNumber exponent) (digits.length + 1000)
  let power : Int := if '-' ∈ exponent then -(size : Int) else size
  Double.ofDecimal false (decimalNumber digits) (power - places)

/-- The whole number that starts with an ASCII digit in front of a text. A base is marked by a zero
and a letter; without one, a zero is followed by zeros only. -/
def wholeNumber? (text : List Char) : Recognized :=
  let based (base : Nat) (value? : Char → Option Nat) (digits : List Char) : Recognized :=
    match digitTail (fun c => (value? c).isSome) digits with
    | [] => some (.number 0, 1)
    | run => some (.number (Text.numberOf value? base run), 2 + run.length)
  match text with
  | [] => none
  | '0' :: letter :: digits =>
    if letter = 'b' ∨ letter = 'B' then based 2 (Text.digitValue? 2) digits
    else if letter = 'o' ∨ letter = 'O' then based 8 (Text.digitValue? 8) digits
    else if letter = 'x' ∨ letter = 'X' then based 16 hexValue? digits
    else some (.number 0, (digitRun (· = '0') text).length)
  | first :: _ =>
    if first.isDigit then
      let run := digitRun isDecimal text
      some (.number (decimalNumber run), run.length)
    else none

/-- The number in front of a text that starts with a decimal digit. Right behind a point only whole
numbers are read. -/
def number? (afterPoint : Bool) (text : List Char) : Recognized :=
  let whole := digitRun isDecimal text
  let fraction := fractionRun (text.drop whole.length)
  let exponent := exponentRun (text.drop (whole.length + fraction.length))
  if afterPoint || (fraction.isEmpty && exponent.isEmpty) then wholeNumber? text
  else some (.decimal (decimalOf whole fraction exponent),
    whole.length + fraction.length + exponent.length)

/-! ## Texts -/

/-- A character as it stands in an escaped text: itself if it is ASCII, else as an escape. -/
def asciiEscape (c : Char) : List Char :=
  if c.toNat < 0x80 then [c]
  else if c.toNat < 0x100 then '\\' :: 'x' :: Text.hexPadded 2 c.toNat
  else if c.toNat < 0x10000 then '\\' :: 'u' :: Text.hexPadded 4 c.toNat
  else '\\' :: 'U' :: Text.hexPadded 8 c.toNat

/-- The code point that so many hexadecimal digits in front of a text write. -/
def hexEscape? (count : Nat) (text : List Char) : Option (RawText × Nat) := do
  let code ← Text.numberInFront? 16 count text
  return ([← CodePoint.ofNat? code], count + 1)

/-- What the escape behind a backslash stands for, and how many characters it takes. An unknown
escape stands for itself. Characters are not known by their names. -/
def escape? (text : List Char) : Option (RawText × Nat) :=
  let single (code : Nat) := some ([.char (Char.ofNat code)], 1)
  match text with
  | [] => none
  | '\n' :: _ => some ([], 1)
  | 'a' :: _ => single 0x07
  | 'b' :: _ => single 0x08
  | 't' :: _ => single 0x09
  | 'n' :: _ => single 0x0a
  | 'v' :: _ => single 0x0b
  | 'f' :: _ => single 0x0c
  | 'r' :: _ => single 0x0d
  | 'x' :: rest => hexEscape? 2 rest
  | 'u' :: rest => hexEscape? 4 rest
  | 'U' :: rest => hexEscape? 8 rest
  | 'N' :: _ => none
  | c :: _ =>
    if c = '\\' ∨ c = '\'' ∨ c = '"' then some ([.char c], 1)
    else
      let octal := (text.takeWhile fun c => (Text.digitValue? 8 c).isSome).take 3
      if octal.isEmpty then some ([.char '\\', .char c], 1)
      else some ([.char (Char.ofNat (Text.numberIn 8 octal))], octal.length)

/-- The text that an escaped text stands for. The first `skip` characters are already read. -/
def unescape? : (skip : Nat) → List Char → Option RawText
  | _, [] => some []
  | skip + 1, _ :: rest => unescape? skip rest
  | 0, c :: rest =>
    if c = '\\' then do
      let (stands, width) ← escape? rest
      return stands ++ (← unescape? width rest)
    else do return .char c :: (← unescape? 0 rest)

/-- What stands in front of a closing quote, as it is written; a backslash takes the next character
with it. -/
def quotedRun? (quote : Char) : List Char → Option (List Char)
  | [] => none
  | '\\' :: c :: rest => do return '\\' :: c :: (← quotedRun? quote rest)
  | c :: rest => if c = quote then some [] else do return c :: (← quotedRun? quote rest)

/-- The text behind its opening quote. -/
def text? (quote : Char) (rest : List Char) : Recognized := do
  let run ← quotedRun? quote rest
  let content ← unescape? 0 (run.flatMap asciiEscape)
  return (.text content, run.length + 2)

/-! ## The tokens of an output -/

/-- The characters that are tokens by themselves. -/
def isMark (c : Char) : Bool :=
  c ∈ ['.', '|', '(', ')', '[', ']', ',', '=', '-', '+']

/-- The token that starts with `c`. -/
def lexeme? (afterPoint : Bool) (c : Char) (rest : List Char) : Recognized :=
  if isDecimal c then number? afterPoint (c :: rest)
  else if Text.isNameStart c then
    let more := rest.takeWhile Text.isNameChar
    some (.name (String.ofList (c :: more)), more.length + 1)
  else if c = '\'' ∨ c = '"' then text? c rest
  else if isMark c then some (.mark c, 1)
  else none

/-- The closing brackets that are due after a token. -/
def bracketsAfter? (due : List Char) : Token → Option (List Char)
  | mark '(' => some (')' :: due)
  | mark '[' => some (']' :: due)
  | mark c =>
    if c = ')' ∨ c = ']' then
      match due with
      | first :: others => if c = first then some others else none
      | [] => none
    else some due
  | _ => some due

/-- The number of characters that the end of an output takes, if it stands in front of a text. -/
def endWidth? (text : List Char) : Option Nat :=
  match text with
  | '-' :: '}' :: '}' :: rest => some (3 + (Text.leadingBlanks rest).length)
  | '}' :: '}' :: _ => some 2
  | _ => none

/-- The tokens of an output and the number of characters that it takes with its end. The first
`skip` characters are already read, `before` is the character in front, and `due` holds the closing
brackets that have to come before the end. -/
def outputTokens? (due : List Char) : (skip : Nat) → (before : Char) → List Char →
    Option (List Token × Nat)
  | _, _, [] => none
  | skip + 1, _, c :: rest => do
    let (tokens, width) ← outputTokens? due skip c rest
    return (tokens, width + 1)
  | 0, before, c :: rest =>
    match if due.isEmpty then endWidth? (c :: rest) else none with
    | some width => some ([], width)
    | none =>
      if Text.isBlank c then do
        let (tokens, width) ← outputTokens? due 0 c rest
        return (tokens, width + 1)
      else do
        let (token, length) ← lexeme? (before = '.') c rest
        let due ← bracketsAfter? due token
        let (tokens, width) ← outputTokens? due (length - 1) c rest
        return (token :: tokens, width + 1)

end Token

end TypedClient.Template

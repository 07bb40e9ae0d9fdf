/-! # Characters

Blanks are the characters that show as empty space, line ends and the separators of information
included. Digits have a value in a base of up to sixteen; besides the ASCII digits there are decimal
digits of other scripts, ten in a row from zero to nine each.
-/

namespace TypedClient.Text

/-! ## Blanks -/

/-- The character is a blank in the Unicode sense. -/
def isBlank (c : Char) : Bool :=
  let code := c.toNat
  (0x09 ≤ code && code ≤ 0x0d) || (0x1c ≤ code && code ≤ 0x20) || code == 0x85 || code == 0xa0 ||
    code == 0x1680 || (0x2000 ≤ code && code ≤ 0x200a) || code == 0x2028 || code == 0x2029 ||
    code == 0x202f || code == 0x205f || code == 0x3000

/-- The blanks in front of a text. -/
def leadingBlanks (text : List Char) : List Char :=
  text.takeWhile isBlank

/-- The text without the blanks at its end. -/
def dropTrailingBlanks (text : List Char) : List Char :=
  (text.reverse.dropWhile isBlank).reverse

/-- The ASCII characters that count as white space are blanks. -/
theorem isBlank_of_isWhitespace {c : Char} (white : c.isWhitespace = true) : isBlank c = true := by
  simp only [Char.isWhitespace, Bool.or_eq_true, decide_eq_true_eq] at white
  rcases white with ((rfl | rfl) | rfl) | rfl <;> rfl

/-! ## Digits -/

/-- The value of a digit in a base. Letters count in either case. -/
def digitValue? (base : Nat) (c : Char) : Option Nat :=
  let value :=
    if c.isDigit then some (c.toNat - '0'.toNat)
    else if 'a' ≤ c ∧ c ≤ 'f' then some (c.toNat - 'a'.toNat + 10)
    else if 'A' ≤ c ∧ c ≤ 'F' then some (c.toNat - 'A'.toNat + 10)
    else none
  value.filter (· < base)

/-- The decimal zeros beyond ASCII, in ascending order. -/
def decimalZeros : List Nat :=
  [
    1632, 1776, 1984, 2406, 2534, 2662, 2790, 2918, 3046, 3174, 3302, 3430, 3558, 3664, 3792, 3872,
    4160, 4240, 6112, 6160, 6470, 6608, 6784, 6800, 6992, 7088, 7232, 7248, 42528, 43216, 43264,
    43472, 43504, 43600, 44016, 65296, 66720, 68912, 69734, 69872, 69942, 70096, 70384, 70736,
    70864, 71248, 71360, 71472, 71904, 72016, 72784, 73040, 73120, 92768, 92864, 93008, 120782,
    120792, 120802, 120812, 120822, 123200, 123632, 125264, 130032]

/-- The value of a decimal digit of any script. -/
def decimalValue? (c : Char) : Option Nat :=
  if c.toNat < 0x80 then digitValue? 10 c
  else (decimalZeros.find? fun first => first ≤ c.toNat && c.toNat < first + 10).map (c.toNat - ·)

/-- The number that digits write, given their values; other characters count for nothing. -/
def numberOf (value? : Char → Option Nat) (base : Nat) (digits : List Char) : Nat :=
  (digits.filterMap value?).foldl (fun number digit => number * base + digit) 0

/-- The number that digits write in a base. Other characters count for nothing. -/
def numberIn (base : Nat) (digits : List Char) : Nat :=
  numberOf (digitValue? base) base digits

/-- The number that `count` digits in front of a text write, if so many stand there. -/
def numberInFront? (base count : Nat) (text : List Char) : Option Nat :=
  let front := text.take count
  if front.length = count ∧ front.all (fun c => (digitValue? base c).isSome) then
    some (numberIn base front)
  else none

theorem digitValue?_lt {base value : Nat} {c : Char} (digit : digitValue? base c = some value) :
    value < base := by
  simp only [digitValue?, Option.filter_eq_some_iff] at digit
  simpa using digit.2

theorem decimalZeros_beyond_ascii : decimalZeros.all (0x80 ≤ ·) = true := by
  decide

end TypedClient.Text

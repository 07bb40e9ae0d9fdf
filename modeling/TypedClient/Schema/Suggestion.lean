import TypedClient.Document.Token
import TypedClient.Text.Basic

/-! # Suggestions for unknown names

An unknown name is often a known one with a slip: a character left out, added or changed, or two
neighbours swapped. The known names within a few such slips are suggested, the closest first.
-/

namespace TypedClient.Schema

/-- One step further in the table of slips: the row for one more character of the first text, from
the row before it, the one before that, and the characters of both texts around the place. -/
def nextRow (c : Char) (previous : Option Char) (above twoAbove : List Nat) (start : Nat)
    (other : List Char) : List Nat :=
  go other none above twoAbove start
where
  /-- The entries from a place on; `left` is the entry before it. -/
  go : List Char → Option Char → List Nat → List Nat → Nat → List Nat
    | [], _, _, _, left => [left]
    | d :: rest, before, corner :: up :: above, twoAbove, left =>
      let changed := corner + if c = d then 0 else 1
      let entry := min (min (up + 1) (left + 1)) changed
      let swapped := match twoAbove with
        | diagonal :: _ =>
          if previous = some d ∧ before = some c then min entry (diagonal + 1) else entry
        | [] => entry
      let twoAbove := if before.isSome then twoAbove.drop 1 else twoAbove
      left :: go rest (some d) (up :: above) twoAbove swapped
    | _ :: _, _, _, _, left => [left]

/-- The last row of the table of slips, after all characters of the first text. -/
def lastRow (other : List Char) : List Char → Option Char → List Nat → List Nat → Nat → List Nat
  | [], _, row, _, _ => row
  | c :: rest, previous, above, twoAbove, index =>
    lastRow other rest (some c) (nextRow c previous above twoAbove (index + 1) other) above
      (index + 1)

/-- The least number of slips that turn one text into another. -/
def slips (first second : List Char) : Nat :=
  ((lastRow second first none (List.range (second.length + 1)) [] 0).getLast?).getD 0

/-- The distance between a name and an option: the number of slips, where a difference in case alone
counts as one. -/
def distance (name option : String) : Nat :=
  if name = option then 0
  else
    let lower (text : String) := text.toList.map Char.toLower
    if lower name = lower option then 1 else slips (lower option) (lower name)

/-- A piece of a name for its natural order: a text or a number. -/
inductive NaturalPart where
  | text (text : String)
  | number (value : Nat) (digits : String)

/-- Puts a character in front of the parts of a name. Parts alternate, with a text first. -/
def extendParts (c : Char) : List NaturalPart → List NaturalPart
  | .text "" :: .number value digits :: rest =>
    if c.isDigit then
      let digits := String.singleton c ++ digits
      .text "" :: .number ((digits.toNat?).getD value) digits :: rest
    else .text (String.singleton c) :: .number value digits :: rest
  | .text text :: rest =>
    if c.isDigit then .text "" :: .number (c.toNat - '0'.toNat) (String.singleton c) ::
      .text text :: rest
    else .text (String.singleton c ++ text) :: rest
  | parts => .text (String.singleton c) :: parts

/-- The parts of a name, from a text over a number to a text and so on. -/
def naturalParts (name : String) : List NaturalPart :=
  name.toList.foldr extendParts [.text ""]

/-- The order of names in which numbers count by their value. -/
def naturalLe : List NaturalPart → List NaturalPart → Bool
  | [], _ => true
  | _ :: _, [] => false
  | .text a :: as, .text b :: bs => if a = b then naturalLe as bs else decide (a < b)
  | .number m a :: as, .number n b :: bs =>
    if m = n ∧ a = b then naturalLe as bs else decide (m < n ∨ (m = n ∧ a < b))
  | .text _ :: _, .number _ _ :: _ => false
  | .number _ _ :: _, .text _ :: _ => true

/-- The number of slips within which a name of the given length is suggested. -/
def threshold (length : Nat) : Nat :=
  2 * length / 5 + 1

/-- The options close to a name, the closest first, those at one distance in natural order. -/
def suggestions (name : String) (options : List String) : List String :=
  let measured := options.eraseDups.map fun option => (distance name option, option)
  let close := measured.filter fun entry => entry.1 ≤ threshold name.length
  let sorted := close.mergeSort fun a b =>
    a.1 < b.1 || (a.1 == b.1 && naturalLe (naturalParts a.2) (naturalParts b.2))
  sorted.map (·.2)

/-- At most this many names are suggested. -/
def suggestionLimit : Nat := 5

/-- The question behind a message about an unknown name, empty without suggestions. -/
def didYouMean (names : List String) : String :=
  match (names.take suggestionLimit).map Document.inQuotes with
  | [] => ""
  | [only] => " Did you mean " ++ only ++ "?"
  | [first, second] => " Did you mean " ++ first ++ " or " ++ second ++ "?"
  | several =>
    " Did you mean " ++ String.intercalate ", " several.dropLast ++ ", or " ++
      (several.getLast?).getD "" ++ "?"

end TypedClient.Schema

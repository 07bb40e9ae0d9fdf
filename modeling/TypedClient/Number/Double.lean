/-! # Numbers of double precision

A number with a point or an exponent stands for the nearest number of double precision: a mantissa
of at most 53 bits times a power of two. `Double.ofDecimal` finds it, with ties going to the even
mantissa, and `Double.shortest` finds the fewest decimal digits that lead back to it. All of it is
exact arithmetic on natural numbers.
-/

namespace TypedClient

/-- A number of double precision. -/
inductive Double where
  | finite (negative : Bool) (mantissa : Nat) (exponent : Int)
  | infinite (negative : Bool)
  deriving DecidableEq, Repr

namespace Double

/-- A power of two. -/
def twoTo (exponent : Nat) : Nat :=
  Nat.pow 2 exponent

/-- A power of ten. -/
def tenTo (exponent : Nat) : Nat :=
  Nat.pow 10 exponent

/-- The number of bits of a full mantissa. -/
def precision : Nat := 53

/-- The least exponent, that of the numbers closest to zero. -/
def leastExponent : Int := -1074

/-- The greatest exponent. -/
def greatestExponent : Int := 971

/-- The quotient rounded to the nearest natural number, a tie to the even one. -/
def roundQuotient (numerator denominator : Nat) : Nat :=
  let whole := numerator / denominator
  let twice := 2 * (numerator % denominator)
  if twice < denominator then whole
  else if denominator < twice then whole + 1
  else whole + whole % 2

/-- The fraction `numerator / denominator · 2 ^ (-exponent)`, as a pair. -/
def scale (numerator denominator : Nat) (exponent : Int) : Nat × Nat :=
  if 0 ≤ exponent then (numerator, denominator * twoTo exponent.toNat)
  else (numerator * twoTo (-exponent).toNat, denominator)

/-- The exponent that gives the fraction a full mantissa. -/
def exponentFor (numerator denominator : Nat) : Int :=
  let guess : Int := (numerator.log2 : Int) - denominator.log2 - (precision - 1 : Nat)
  let (n, d) := scale numerator denominator guess
  if n < d * twoTo (precision - 1) then guess - 1 else guess

/-- The number nearest to a fraction. -/
def ofFraction (negative : Bool) (numerator denominator : Nat) : Double :=
  if numerator = 0 then .finite negative 0 0
  else
    let exponent := max (exponentFor numerator denominator) leastExponent
    let (n, d) := scale numerator denominator exponent
    let mantissa := roundQuotient n d
    let carried := mantissa = twoTo precision
    let exponent := if carried then exponent + 1 else exponent
    let mantissa := if carried then mantissa / 2 else mantissa
    if exponent > greatestExponent then .infinite negative
    else .finite negative mantissa exponent

/-- The number nearest to `digits · 10 ^ exponent`. -/
def ofDecimal (negative : Bool) (digits : Nat) (exponent : Int) : Double :=
  if 0 ≤ exponent then ofFraction negative (digits * tenTo exponent.toNat) 1
  else ofFraction negative digits (tenTo (-exponent).toNat)

/-- The number with the sign changed. -/
def negate : Double → Double
  | finite negative mantissa exponent => finite (!negative) mantissa exponent
  | infinite negative => infinite (!negative)

/-- The number is zero. -/
def isZero : Double → Bool
  | finite _ mantissa _ => mantissa == 0
  | infinite _ => false

/-- The whole number that it is, if it is one. -/
def toInt? : Double → Option Int
  | finite negative mantissa exponent =>
    let magnitude := if 0 ≤ exponent then some (mantissa * twoTo exponent.toNat)
      else if mantissa % twoTo (-exponent).toNat = 0 then some (mantissa / twoTo (-exponent).toNat)
      else none
    magnitude.map fun n => if negative then -(n : Int) else n
  | infinite _ => none

/-- The fraction that the mantissa and the exponent stand for. -/
def fraction (mantissa : Nat) (exponent : Int) : Nat × Nat :=
  if 0 ≤ exponent then (mantissa * twoTo exponent.toNat, 1)
  else (mantissa, twoTo (-exponent).toNat)

/-- The number of decimal digits before the point, or minus the number of zeros after it. -/
def magnitude (numerator denominator : Nat) : Int :=
  if denominator ≤ numerator then (Nat.toDigits 10 (numerator / denominator)).length
  else 1 - (Nat.toDigits 10 ((denominator - 1) / numerator)).length

/-- The decimal neighbours of a fraction with `count` digits, the nearer one first, and their
exponent. -/
def neighbours (numerator denominator count : Nat) : List Nat × Int :=
  let exponent : Int := magnitude numerator denominator - count
  let (n, d) := if 0 ≤ exponent then (numerator, denominator * tenTo exponent.toNat)
    else (numerator * tenTo (-exponent).toNat, denominator)
  let below := n / d
  if roundQuotient n d = below then ([below, below + 1], exponent)
  else ([below + 1, below], exponent)

/-- The decimal `digits · 10 ^ exponent` of the fewest digits that leads back to a number, and of
those the nearest; tried with `count` digits and more. -/
def search (mantissa : Nat) (exponent : Int) : (tries count : Nat) → Nat × Int
  | 0, _ => (0, 0)
  | tries + 1, count =>
    let (n, d) := fraction mantissa exponent
    let (candidates, scaled) := neighbours n d count
    match candidates.find? fun digits => ofDecimal false digits scaled == ofFraction false n d with
    | some digits => (digits, scaled)
    | none => search mantissa exponent tries (count + 1)

/-- The fewest digits that lead back to a mantissa and exponent, and the place of the point counted
from the first of them. Seventeen digits always suffice. -/
def shortest (mantissa : Nat) (exponent : Int) : List Char × Int :=
  let (digits, scaled) := search mantissa exponent 17 1
  let all := Nat.toDigits 10 digits
  let kept := (all.reverse.dropWhile (· = '0')).reverse
  (kept, all.length + scaled)

/-- The digits with the point at the given place. An exponent of two digits or more stands in for
the point where four or more zeros would follow it or more than sixteen digits precede it. -/
def layOut (digits : List Char) (point : Int) : List Char :=
  if -4 < point ∧ point ≤ 16 then
    if point ≤ 0 then '0' :: '.' :: (List.replicate (-point).toNat '0' ++ digits)
    else
      let whole := digits.take point.toNat
      let padded := whole ++ List.replicate (point.toNat - whole.length) '0'
      match digits.drop point.toNat with
      | [] => padded ++ ['.', '0']
      | rest => padded ++ '.' :: rest
  else
    let power := point - 1
    let powerDigits := Nat.toDigits 10 power.natAbs
    let head := match digits with
      | [] => []
      | [digit] => [digit]
      | first :: rest => first :: '.' :: rest
    head ++ 'e' :: (if power < 0 then '-' else '+') ::
      (List.replicate (2 - powerDigits.length) '0' ++ powerDigits)

/-- The number in the fewest digits that identify it. -/
def print : Double → String
  | finite negative mantissa exponent =>
    let sign := if negative then ['-'] else []
    if mantissa = 0 then String.ofList (sign ++ ['0', '.', '0'])
    else
      let (digits, point) := shortest mantissa exponent
      String.ofList (sign ++ layOut digits point)
  | infinite negative => if negative then "-inf" else "inf"

end Double

end TypedClient

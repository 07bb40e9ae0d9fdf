import TypedClient.Text.Basic

/-! # Similarity of texts

Two texts are the more similar the more of their characters match. Their longest common stretch
matches, and so do the longest common stretches before and behind it, and so on. The similarity is
the part of all characters of both texts that match, and texts are close if that is at least three
fifths (`isClose`).
-/

namespace TypedClient.Text

/-- A stretch that two texts have in common: where it starts in each, and its length. -/
structure Stretch where
  first : Nat
  second : Nat
  length : Nat
  deriving DecidableEq, Repr

/-- The number of characters that two texts have in common at their beginnings. -/
def commonStart : List Char → List Char → Nat
  | c :: rest, d :: others => if c = d then commonStart rest others + 1 else 0
  | _, _ => 0

/-- The longest common stretch. Of several it is the one that starts first in the first text, and of
those the one that starts first in the second. -/
def longestStretch (text other : List Char) : Stretch :=
  let stretches := (List.range text.length).flatMap fun start =>
    (List.range other.length).map fun otherStart =>
      Stretch.mk start otherStart (commonStart (text.drop start) (other.drop otherStart))
  stretches.foldl (fun best found => if best.length < found.length then found else best) ⟨0, 0, 0⟩

/-- The number of characters of a text that match another one. -/
def matchCount (text other : List Char) : Nat :=
  match longestStretch text other with
  | ⟨first, second, length⟩ =>
    if _ : 0 < length ∧ first < text.length then
      matchCount (text.take first) (other.take second) + length +
        matchCount (text.drop (first + length)) (other.drop (second + length))
    else 0
termination_by text.length
decreasing_by
  · simp only [List.length_take]
    omega
  · simp only [List.length_drop]
    omega

/-- An option with the number of its characters that match a name, and the number of the characters
of both. -/
structure Likeness where
  option : String
  matching : Nat
  total : Nat
  deriving DecidableEq, Repr

/-- The likeness of an option to a name. -/
def likeness (name option : String) : Likeness :=
  ⟨option, matchCount option.toList name.toList, option.length + name.length⟩

/-- At least three fifths of the characters match; each match counts in both texts. -/
def Likeness.isClose (found : Likeness) : Bool :=
  3 * found.total ≤ 10 * found.matching

/-- The first option is the better one: more of its characters match, or as many, and it stands
behind the other in the order of texts. -/
def Likeness.isBetter (found other : Likeness) : Bool :=
  other.matching * found.total < found.matching * other.total ||
    (found.matching * other.total == other.matching * found.total && other.option ≤ found.option)

/-- The options that are close to a name, at most three, in the order of texts. -/
def closeOptions (name : String) (options : List String) : List String :=
  let close := (options.map (likeness name)).filter (·.isClose)
  sorted (((close.mergeSort Likeness.isBetter).take 3).map (·.option))

end TypedClient.Text

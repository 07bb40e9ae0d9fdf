import TypedClient.Proofs.Text.Pattern

/-! # Pascal case by position

Cutting a text into words and capitalizing them comes to a rule that looks at one character and its
two neighbours: digits stay, a letter is put in upper case if it starts a word (`startsWord`) and in
lower case if not, and everything else is dropped (`pascalCase_positional`). No letter and no digit
is lost on the way.
-/

namespace TypedClient.Text

/-! ## One character and its neighbours -/

/-- A letter starts a word, given the characters before and behind it: there is no letter before it,
or it is a capital behind a small letter, or a capital between a capital and a small letter. -/
def startsWord (before : Option Char) (c : Char) (behind : Option Char) : Bool :=
  !before.any Char.isAlpha || (c.isUpper && before.any Char.isLower) ||
    (c.isUpper && before.any Char.isUpper && behind.any Char.isLower)

/-- What becomes of a character, given the characters before and behind it. -/
def recase (before : Option Char) (c : Char) (behind : Option Char) : Option Char :=
  if c.isAlpha then some (if startsWord before c behind then c.toUpper else c.toLower)
  else if c.isDigit then some c
  else none

/-- The character before a position. -/
def charBefore? (text : List Char) : Nat → Option Char
  | 0 => none
  | position + 1 => text[position]?

/-- What becomes of the character at a position. -/
def recaseAt (text : List Char) (position : Nat) : Option Char :=
  text[position]?.bind fun c => recase (charBefore? text position) c text[position + 1]?

/-- What becomes of a text behind the given character. -/
def recaseFrom (before : Option Char) : List Char → List Char
  | [] => []
  | c :: rest => (recase before c rest.head?).toList ++ recaseFrom (some c) rest

/-- Going through a text comes to the same as looking at each position by itself. -/
theorem recaseFrom_eq_positions (front rest : List Char) :
    recaseFrom front.getLast? rest =
      (List.range' front.length rest.length).filterMap (recaseAt (front ++ rest)) := by
  induction rest generalizing front with
  | nil => rfl
  | cons c rest ih =>
      have before : charBefore? (front ++ c :: rest) front.length = front.getLast? := by
        induction front using List.reverseRecOn with
        | nil => rfl
        | append_singleton front last _ => simp [charBefore?]
      have behind : (front ++ c :: rest)[front.length + 1]? = rest.head? := by
        rw [List.getElem?_append_right (by omega), Nat.add_sub_cancel_left, List.head?_eq_getElem?]
        rfl
      have here : recaseAt (front ++ c :: rest) front.length =
          recase front.getLast? c rest.head? := by
        rw [recaseAt, before, behind, List.getElem?_append_right (Nat.le_refl _), Nat.sub_self]
        rfl
      have later := ih (front ++ [c])
      rw [List.getLast?_concat, List.length_append, List.length_singleton, List.append_assoc,
        List.singleton_append] at later
      rw [recaseFrom, later, List.length_cons, List.range'_succ, List.filterMap_cons, here]
      cases recase front.getLast? c rest.head? <;> rfl

/-! ## Words and positions -/

/-- The words run together, each capitalized but for the first one if it goes on from before. -/
def caseWords (joined : Bool) : List (List Char) → List Char
  | [] => []
  | word :: others =>
    (if joined then word.map Char.toLower else capitalize word) ++ others.flatMap capitalize

/-- A letter starts a word exactly if it is not joined to the character before it. -/
theorem startsWord_eq_not_joins {c : Char} (letter : c.isAlpha = true) (before : Option Char)
    (rest : List Char) :
    startsWord before c rest.head? = !before.any (joins · (c :: rest)) := by
  cases before with
  | none => rfl
  | some b =>
      have noDigit := isDigit_of_isAlpha letter
      cases upper : c.isUpper with
      | true =>
          have noLower := isLower_of_isUpper upper
          simp only [startsWord, joins, Option.any_some, upper, noLower, noDigit]
          cases bUpper : b.isUpper with
          | true => simp [Char.isAlpha, bUpper, isLower_of_isUpper bUpper]
          | false => cases bLower : b.isLower <;> simp [Char.isAlpha, bUpper, bLower]
      | false =>
          have lower : c.isLower = true := by
            rwa [Char.isAlpha, upper, Bool.false_or] at letter
          simp only [startsWord, joins, Option.any_some, upper, lower, noDigit]
          cases bUpper : b.isUpper <;> cases bLower : b.isLower <;>
            simp [Char.isAlpha, bUpper, bLower]

/-- A digit is kept as it is. -/
theorem recase_of_isDigit {c : Char} (digit : c.isDigit = true) (before behind : Option Char) :
    recase before c behind = some c := by
  have noLetter : c.isAlpha = false := by
    rw [Char.isAlpha, (not_letter_of_isDigit digit).1, (not_letter_of_isDigit digit).2]
    rfl
  rw [recase, noLetter, digit]
  rfl

/-- A letter or digit is small where it joins the one before it, and large otherwise. -/
theorem recase_of_isWordChar {c : Char} (own : isWordChar c = true) (before : Option Char)
    (rest : List Char) :
    recase before c rest.head? =
      some (if before.any (joins · (c :: rest)) then c.toLower else c.toUpper) := by
  rcases isWordChar_iff.1 own with letter | digit
  · rw [recase, if_pos letter, startsWord_eq_not_joins letter]
    cases before.any (joins · (c :: rest)) <;> rfl
  · rw [recase_of_isDigit digit, (case_of_isDigit digit).1, (case_of_isDigit digit).2, ite_self]

/-- A character between words is dropped. -/
theorem recase_of_not_isWordChar {c : Char} (other : isWordChar c = false)
    (before behind : Option Char) : recase before c behind = none := by
  simp only [isWordChar, Bool.or_eq_false_iff] at other
  obtain ⟨⟨upper, lower⟩, digit⟩ := other
  simp [recase, Char.isAlpha, upper, lower, digit]

/-- What separates words is joined to nothing. -/
theorem not_joins_of_not_isWordChar {c : Char} (other : isWordChar c = false) (b : Char)
    (rest : List Char) : joins c rest = false ∧ joins b (c :: rest) = false := by
  simp only [isWordChar, Bool.or_eq_false_iff] at other
  obtain ⟨⟨upper, lower⟩, digit⟩ := other
  constructor
  · cases rest <;> simp [joins, upper, lower, digit]
  · simp [joins, upper, lower, digit]

/-- Going through a text, the words are capitalized and run together. -/
theorem recaseFrom_eq_caseWords (before : Option Char) (text : List Char) :
    recaseFrom before text = caseWords (before.any (joins · text)) (words text) := by
  induction text generalizing before with
  | nil => rfl
  | cons c rest ih =>
      rw [recaseFrom, ih, words, Option.any_some]
      cases own : isWordChar c with
      | false =>
          have apart : before.any (joins · (c :: rest)) = false := by
            cases before with
            | none => rfl
            | some b => exact (not_joins_of_not_isWordChar own b rest).2
          rw [recase_of_not_isWordChar own, apart, (not_joins_of_not_isWordChar own c rest).1]
          rfl
      | true =>
          rw [recase_of_isWordChar own]
          cases together : joins c rest with
          | false =>
              cases rest' : words rest <;> cases before.any (joins · (c :: rest)) <;>
                simp [caseWords, capitalize]
          | true =>
              cases split : words rest <;> cases before.any (joins · (c :: rest)) <;>
                simp [caseWords, extendFirst, capitalize]

/-- Pascal case changes each character by itself, seeing its neighbours. -/
theorem pascalCase_toList (text : String) :
    (pascalCase text).toList = recaseFrom none text.toList := by
  have whole : caseWords false (words text.toList) = (words text.toList).flatMap capitalize := by
    cases words text.toList <;> rfl
  rw [recaseFrom_eq_caseWords, pascalCase, String.toList_ofList]
  exact whole.symm

/-- **Pascal case by position.** Pascal case capitalizes the words that the search for them finds,
and that comes to the rule for one position after the other. Letters and digits are all kept, in
their order. -/
theorem pascalCase_positional (text : String) :
    (pascalCase text).toList = (wordPattern.findAll text.toList).flatMap capitalize ∧
      (pascalCase text).toList =
        (List.range text.toList.length).filterMap (recaseAt text.toList) ∧
      fold (pascalCase text) = (text.toList.filter Char.isAlphanum).map Char.toLower := by
  refine ⟨?_, ?_, fold_pascalCase text⟩
  · rw [findAll_wordPattern, pascalCase, String.toList_ofList]
  · rw [pascalCase_toList, List.range_eq_range']
    exact recaseFrom_eq_positions [] text.toList

example : pascalCase "getHTTPStatus_v2x" = "GetHttpStatusV2X" := by decide

end TypedClient.Text

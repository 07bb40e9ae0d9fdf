import TypedClient.Proofs.Text.Casing

/-! # Patterns

A pattern describes stretches of a text. It can match at the start of a text in several ways, which
are tried in a fixed order: of two alternatives the first one first, and of a run of characters the
longest one first (`Pattern.ways`). A search takes the first way of all and goes on behind it, and
where there is no way at all it goes on behind the next character (`Pattern.findAll`).

The words of an identifier are what a search for one pattern finds (`findAll_wordPattern`). The
pattern has an alternative for each kind of word: capitals in front of a capitalized word, small
letters with or without a capital in front, capitals, and digits.
-/

namespace TypedClient.Text

/-- A pattern for stretches of a text. -/
inductive Pattern where
  /-- One character that is accepted. -/
  | one (accepts : Char → Bool)
  /-- One or more characters that are accepted, as many as possible. -/
  | run (accepts : Char → Bool)
  /-- The pattern if possible, nothing otherwise. -/
  | maybe (inner : Pattern)
  /-- The first pattern and right behind it the second. -/
  | row (first second : Pattern)
  /-- The first pattern if possible, the second otherwise. -/
  | either (first second : Pattern)
  /-- Nothing, in front of a stretch of the pattern. -/
  | ahead (inner : Pattern)

/-- The lengths of the runs at the start of a text, the longest first. -/
def runLengths (accepts : Char → Bool) : List Char → List Nat
  | [] => []
  | c :: rest => if accepts c then (runLengths accepts rest).map (· + 1) ++ [1] else []

namespace Pattern

/-- The lengths of the stretches of a pattern at the start of a text, in the order in which they are
tried. -/
def ways : Pattern → List Char → List Nat
  | one accepts, text => if text.head?.any accepts then [1] else []
  | run accepts, text => runLengths accepts text
  | maybe inner, text => inner.ways text ++ [0]
  | row first second, text =>
    (first.ways text).flatMap fun size => (second.ways (text.drop size)).map (· + size)
  | either first second, text => first.ways text ++ second.ways text
  | ahead inner, text => if (inner.ways text).isEmpty then [] else [0]

/-- The length of the stretch that is taken at the start of a text. -/
def first? (pattern : Pattern) (text : List Char) : Option Nat :=
  (pattern.ways text).head?

/-- The stretches that a search through a text finds, from left to right. Stretches without
characters are passed over. -/
def findAll (pattern : Pattern) : List Char → List (List Char)
  | [] => []
  | c :: rest =>
    match pattern.first? (c :: rest) with
    | some (size + 1) => (c :: rest.take size) :: pattern.findAll (rest.drop size)
    | _ => pattern.findAll rest
  termination_by text => text.length

end Pattern

/-- Capitals in front of a capital with a small letter behind. -/
def acronymPattern : Pattern :=
  .row (.run Char.isUpper) (.ahead (.row (.one Char.isUpper) (.one Char.isLower)))

/-- Small letters, with a capital in front if there is one. -/
def smallPattern : Pattern :=
  .row (.maybe (.one Char.isUpper)) (.run Char.isLower)

/-- The words of an identifier. -/
def wordPattern : Pattern :=
  .either acronymPattern (.either smallPattern (.either (.run Char.isUpper) (.run Char.isDigit)))

/-! ## What a pattern takes -/

namespace Pattern

variable {accepts : Char → Bool} {c : Char} {text : List Char}

/-- A run goes on as long as it can. -/
theorem first?_run_cons (own : accepts c = true) (rest : List Char) :
    (run accepts).first? (c :: rest) = some (((run accepts).first? rest).elim 1 (· + 1)) := by
  simp only [first?, ways, runLengths, own, ↓reduceIte, List.head?_append, List.head?_map]
  cases (runLengths accepts rest).head? <;> rfl

/-- A run needs one character at least. -/
theorem ways_run_of_not (refused : text.head?.any accepts = false) :
    (run accepts).ways text = [] := by
  cases text with
  | nil => rfl
  | cons c rest =>
      have other : accepts c = false := refused
      simp [ways, runLengths, other]

theorem first?_run_of_not (refused : text.head?.any accepts = false) :
    (run accepts).first? text = Option.none := by
  rw [first?, ways_run_of_not refused]
  rfl

end Pattern

open Pattern

/-- The text starts with a capital and a small letter. -/
def startsCapitalized : List Char → Bool
  | [] => false
  | c :: rest => c.isUpper && rest.head?.any Char.isLower

/-- Looking ahead takes nothing. -/
theorem ways_ahead_capitalized (text : List Char) :
    (ahead (.row (.one Char.isUpper) (.one Char.isLower))).ways text =
      if startsCapitalized text then [0] else [] := by
  cases text with
  | nil => rfl
  | cons c rest =>
      cases upper : c.isUpper
      · simp [ways, startsCapitalized, upper]
      · cases rest with
        | nil => simp [ways, startsCapitalized, upper]
        | cons d after => cases lower : d.isLower <;> simp [ways, startsCapitalized, upper, lower]

theorem isUpper_of_head?_isLower {text : List Char} (lower : text.head?.any Char.isLower = true) :
    text.head?.any Char.isUpper = false := by
  cases text with
  | nil => rfl
  | cons c rest => exact isUpper_of_isLower lower

/-- What does not begin with a capital letter does not begin capitalized. -/
theorem startsCapitalized_of_not {text : List Char} (other : text.head?.any Char.isUpper = false) :
    startsCapitalized text = false := by
  cases text with
  | nil => rfl
  | cons c rest =>
      have own : c.isUpper = false := other
      rw [startsCapitalized, own, Bool.false_and]

section Alternatives

variable {c : Char} (rest : List Char)

/-- All capitals are taken that stand in front of a capitalized word. -/
theorem first?_acronym_of_isUpper (upper : c.isUpper = true) :
    acronymPattern.first? (c :: rest) = ((acronymPattern.first? rest).map (· + 1)).or
      (if startsCapitalized rest then some 1 else none) := by
  have shifted : acronymPattern.ways (c :: rest) = (acronymPattern.ways rest).map (· + 1) ++
      if startsCapitalized rest then [1] else [] := by
    rw [acronymPattern]
    simp only [ways.eq_4, ways_ahead_capitalized]
    simp only [ways, runLengths, upper, ↓reduceIte, List.flatMap_append, List.flatMap_map,
      List.map_flatMap, List.flatMap_singleton, List.drop_succ_cons, List.drop_zero]
    congr 1
    · refine List.flatMap_congr fun size _ => ?_
      split <;> simp
    · split <;> rfl
  rw [first?, shifted, List.head?_append, List.head?_map, first?]
  congr 1
  split <;> rfl

/-- An acronym begins with a capital letter. -/
theorem first?_acronym_of_not {text : List Char} (other : text.head?.any Char.isUpper = false) :
    acronymPattern.first? text = none := by
  rw [acronymPattern, first?, ways, ways_run_of_not other]
  rfl

/-- A word of small letters can have a capital letter in front. -/
theorem first?_small_of_isUpper (upper : c.isUpper = true) :
    smallPattern.first? (c :: rest) = ((run Char.isLower).first? rest).map (· + 1) := by
  have other : (c :: rest).head?.any Char.isLower = false := isLower_of_isUpper upper
  have capital : (maybe (.one Char.isUpper)).ways (c :: rest) = [1, 0] := by
    simp [ways, upper]
  rw [smallPattern, first?, ways, capital, List.flatMap_cons, List.flatMap_singleton,
    List.drop_zero, ways_run_of_not other, List.map_nil, List.append_nil, List.head?_map]
  rfl

/-- Without a capital letter in front a word of small letters is a run of them. -/
theorem first?_small_of_not {text : List Char} (other : text.head?.any Char.isUpper = false) :
    smallPattern.first? text = (run Char.isLower).first? text := by
  have nothing : (maybe (.one Char.isUpper)).ways text = [0] := by
    simp [ways, other]
  rw [smallPattern, first?, ways, nothing, List.flatMap_singleton]
  exact congrArg List.head? (List.map_id _)

/-- The first pattern that matches decides. -/
theorem first?_either (one other : Pattern) (text : List Char) :
    (either one other).first? text = (one.first? text).or (other.first? text) :=
  List.head?_append

end Alternatives

/-! ## Words are what is found -/

/-- The number of characters that follow the first one in its word. -/
def wordTail (c : Char) : List Char → Nat
  | [] => 0
  | next :: after => if joins c (next :: after) then wordTail next after + 1 else 0

/-- Only digits are joined to digits, and only letters to letters. -/
theorem joins_kinds {c next : Char} {after : List Char}
    (together : joins c (next :: after) = true) :
    c.isDigit = true ∧ next.isDigit = true ∨ c.isAlpha = true ∧ next.isAlpha = true := by
  simp only [joins, Bool.or_eq_true, Bool.and_eq_true] at together
  rcases together with ((both | both) | both) | both
  · exact .inr (by simp [Char.isAlpha, both])
  · exact .inr (by simp [Char.isAlpha, both])
  · exact .inl both
  · exact .inr (by simp [Char.isAlpha, both])

theorem isWordChar_of_joins {c next : Char} {after : List Char}
    (together : joins c (next :: after) = true) : isWordChar next = true :=
  isWordChar_iff.2 ((joins_kinds together).symm.imp And.right And.right)

/-- Characters that are joined make up the first word. -/
theorem words_cons {c : Char} (own : isWordChar c = true) (rest : List Char) :
    words (c :: rest) =
      (c :: rest.take (wordTail c rest)) :: words (rest.drop (wordTail c rest)) := by
  induction rest generalizing c with
  | nil => simp [words, own, joins, wordTail]
  | cons next after ih =>
      rw [words, own, wordTail]
      by_cases together : joins c (next :: after) = true
      · simp [together, ih (isWordChar_of_joins together), extendFirst]
      · simp [together]

/-- A run of characters that are joined to their like and to nothing else is a word. -/
theorem first?_run_eq_wordTail {accepts : Char → Bool}
    (like : ∀ c next after, accepts c = true → joins c (next :: after) = accepts next) {c : Char}
    (own : accepts c = true) (rest : List Char) :
    (run accepts).first? (c :: rest) = some (wordTail c rest + 1) := by
  induction rest generalizing c with
  | nil => rw [first?_run_cons own, first?_run_of_not rfl, wordTail]; rfl
  | cons next after ih =>
      rw [first?_run_cons own, wordTail, like c next after own]
      by_cases nextOwn : accepts next = true
      · rw [if_pos nextOwn, ih nextOwn]
        rfl
      · have other : (next :: after).head?.any accepts = false := Bool.eq_false_iff.2 nextOwn
        rw [if_neg nextOwn, first?_run_of_not other]
        rfl

/-- A small letter is joined by small letters. -/
theorem joins_of_isLower {c : Char} (lower : c.isLower = true) (next : Char) (after : List Char) :
    joins c (next :: after) = next.isLower := by
  simp [joins, lower, isUpper_of_isLower lower, isDigit_of_isLower lower]

/-- A digit is joined by digits. -/
theorem joins_of_isDigit {c : Char} (digit : c.isDigit = true) (next : Char) (after : List Char) :
    joins c (next :: after) = next.isDigit := by
  obtain ⟨upper, lower⟩ := not_letter_of_isDigit digit
  simp [joins, digit, upper, lower]

/-- A capital letter is joined by small letters, and by a capital one that begins no new word. -/
theorem joins_of_isUpper {c : Char} (upper : c.isUpper = true) (next : Char) (after : List Char) :
    joins c (next :: after) =
      (next.isLower || (next.isUpper && !after.head?.any Char.isLower)) := by
  simp [joins, upper, isLower_of_isUpper upper, isDigit_of_isUpper upper]

/-- The alternatives are tried one after another. -/
theorem first?_word (text : List Char) :
    wordPattern.first? text = (acronymPattern.first? text).or ((smallPattern.first? text).or
      (((run Char.isUpper).first? text).or ((run Char.isDigit).first? text))) := by
  rw [wordPattern, first?_either, first?_either, first?_either]

/-- A word that begins with a small letter ends where its tail does. -/
theorem first?_word_of_isLower {c : Char} (lower : c.isLower = true) (rest : List Char) :
    wordPattern.first? (c :: rest) = some (wordTail c rest + 1) := by
  have other : (c :: rest).head?.any Char.isUpper = false := isUpper_of_isLower lower
  rw [first?_word, first?_acronym_of_not other, first?_small_of_not other,
    first?_run_eq_wordTail (fun c next after own => joins_of_isLower own next after) lower]
  rfl

/-- A word that begins with a digit ends where its tail does. -/
theorem first?_word_of_isDigit {c : Char} (digit : c.isDigit = true) (rest : List Char) :
    wordPattern.first? (c :: rest) = some (wordTail c rest + 1) := by
  obtain ⟨upper, lower⟩ := not_letter_of_isDigit digit
  have notUpper : (c :: rest).head?.any Char.isUpper = false := upper
  have notLower : (c :: rest).head?.any Char.isLower = false := lower
  rw [first?_word, first?_acronym_of_not notUpper, first?_small_of_not notUpper,
    first?_run_of_not notLower, first?_run_of_not notUpper,
    first?_run_eq_wordTail (fun c next after own => joins_of_isDigit own next after) digit]
  rfl

/-- From a capital on, what is taken depends on what the alternatives take behind it. -/
theorem first?_word_cons_of_isUpper {c : Char} (upper : c.isUpper = true) (rest : List Char) :
    wordPattern.first? (c :: rest) =
      (((acronymPattern.first? rest).map (· + 1)).or
        (if startsCapitalized rest then some 1 else none)).or
      ((((run Char.isLower).first? rest).map (· + 1)).or
        (some (((run Char.isUpper).first? rest).elim 1 (· + 1)))) := by
  rw [first?_word, first?_acronym_of_isUpper _ upper, first?_small_of_isUpper _ upper,
    first?_run_cons upper, Option.some_or]

/-- A capital in front of a capitalized word is a word of its own. -/
theorem first?_word_before_capitalized {c next : Char} (upper : c.isUpper = true)
    (nextUpper : next.isUpper = true) {after : List Char}
    (capitalized : after.head?.any Char.isLower = true) :
    wordPattern.first? (c :: next :: after) = some 1 := by
  have small : after.head?.any Char.isUpper = false := isUpper_of_head?_isLower capitalized
  have alone : acronymPattern.first? (next :: after) = none := by
    rw [first?_acronym_of_isUpper _ nextUpper, first?_acronym_of_not small,
      startsCapitalized_of_not small]
    rfl
  rw [first?_word_cons_of_isUpper upper, alone, startsCapitalized, nextUpper, capitalized]
  rfl

/-- Any other capital in front of a capital is taken with it. -/
theorem first?_word_before_capital {c next : Char} (upper : c.isUpper = true)
    (nextUpper : next.isUpper = true) {after : List Char}
    (alone : after.head?.any Char.isLower = false) :
    wordPattern.first? (c :: next :: after) =
      (wordPattern.first? (next :: after)).map (· + 1) := by
  have notLower : (next :: after).head?.any Char.isLower = false := isLower_of_isUpper nextUpper
  rw [first?_word_cons_of_isUpper upper, first?_word (next :: after),
    first?_small_of_isUpper _ nextUpper, first?_run_of_not notLower, first?_run_of_not alone,
    first?_run_cons nextUpper, startsCapitalized, alone, Bool.and_false]
  cases acronymPattern.first? (next :: after) <;> rfl

/-- In front of anything but a capital, a capital is taken with the small letters behind it. -/
theorem first?_word_before_other {c : Char} (upper : c.isUpper = true) {rest : List Char}
    (other : rest.head?.any Char.isUpper = false) :
    wordPattern.first? (c :: rest) = some (((run Char.isLower).first? rest).elim 1 (· + 1)) := by
  rw [first?_word_cons_of_isUpper upper, first?_acronym_of_not other,
    startsCapitalized_of_not other, first?_run_of_not other]
  cases (run Char.isLower).first? rest <;> rfl

/-- A word that begins with a capital letter ends where its tail does. -/
theorem first?_word_of_isUpper {c : Char} (upper : c.isUpper = true) (rest : List Char) :
    wordPattern.first? (c :: rest) = some (wordTail c rest + 1) := by
  induction rest generalizing c with
  | nil =>
      rw [first?_word_before_other upper rfl]
      rfl
  | cons next after ih =>
      rw [wordTail, joins_of_isUpper upper]
      by_cases nextUpper : next.isUpper = true
      · rw [isLower_of_isUpper nextUpper, nextUpper, Bool.false_or, Bool.true_and]
        cases capitalized : after.head?.any Char.isLower with
        | true => exact first?_word_before_capitalized upper nextUpper capitalized
        | false =>
            rw [first?_word_before_capital upper nextUpper capitalized, ih nextUpper]
            rfl
      · have notUpper : (next :: after).head?.any Char.isUpper = false :=
          Bool.eq_false_iff.2 nextUpper
        rw [first?_word_before_other upper notUpper, Bool.eq_false_iff.2 nextUpper,
          Bool.false_and, Bool.or_false]
        by_cases nextLower : next.isLower = true
        · rw [if_pos nextLower, first?_run_eq_wordTail
            (fun c next after own => joins_of_isLower own next after) nextLower]
          rfl
        · have notLower : (next :: after).head?.any Char.isLower = false :=
            Bool.eq_false_iff.2 nextLower
          rw [if_neg nextLower, first?_run_of_not notLower]
          rfl

/-- No word begins with any other character. -/
theorem first?_word_of_not {c : Char} (other : isWordChar c = false) (rest : List Char) :
    wordPattern.first? (c :: rest) = none := by
  simp only [isWordChar, Bool.or_eq_false_iff] at other
  obtain ⟨⟨upper, lower⟩, digit⟩ := other
  have notUpper : (c :: rest).head?.any Char.isUpper = false := upper
  have notLower : (c :: rest).head?.any Char.isLower = false := lower
  have notDigit : (c :: rest).head?.any Char.isDigit = false := digit
  rw [first?_word, first?_acronym_of_not notUpper, first?_small_of_not notUpper,
    first?_run_of_not notLower, first?_run_of_not notUpper, first?_run_of_not notDigit]
  rfl

/-- At a character of words, the search takes its whole word from there on. -/
theorem first?_wordPattern (c : Char) (rest : List Char) :
    wordPattern.first? (c :: rest) =
      if isWordChar c then some (wordTail c rest + 1) else none := by
  by_cases own : isWordChar c = true
  · rw [if_pos own]
    cases upper : c.isUpper with
    | true => exact first?_word_of_isUpper upper rest
    | false =>
        cases lower : c.isLower with
        | true => exact first?_word_of_isLower lower rest
        | false =>
            rw [isWordChar, upper, lower, Bool.false_or, Bool.false_or] at own
            exact first?_word_of_isDigit own rest
  · rw [if_neg own]
    exact first?_word_of_not (Bool.eq_false_iff.2 own) rest

/-- **Words by search.** The words of a text are what the search for their pattern finds. -/
theorem findAll_wordPattern (text : List Char) : wordPattern.findAll text = words text := by
  induction text using Pattern.findAll.induct wordPattern with
  | case1 => rw [findAll, words]
  | case2 c rest size found ih =>
      rw [findAll, found]
      dsimp only
      rw [first?_wordPattern] at found
      obtain ⟨own, taken⟩ := Option.ite_none_right_eq_some.1 found
      rw [ih, words_cons own, ← Nat.succ.inj (Option.some.inj taken)]
  | case3 c rest nothing ih =>
      have other : isWordChar c = false := by
        by_contra own
        rw [Bool.not_eq_false] at own
        exact nothing (wordTail c rest) (by rw [first?_wordPattern, if_pos own])
      rw [findAll, first?_wordPattern, other, words, other]
      exact ih

end TypedClient.Text

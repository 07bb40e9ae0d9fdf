import TypedClient.Proofs.Text.Pascal

/-! # Pascal case of Pascal case

Run together, capitalized words lose the boundaries between them, and Pascal case can find others
the next time: `x_y` becomes `XY`, which is a single word. That happens only where two words of one
letter follow each other (`pascalCase_pascalCase_eq_iff`): at all other places a capital tells where
a word starts. In a text in Pascal case no two such words follow each other any more
(`lettersApart_words_pascalCase`), so a second application is the last one that can change anything
(`pascalCase_stabilises`).
-/

namespace TypedClient.Text

/-! ## Capitalized words -/

/-- The word is a single letter. -/
def isLetter : List Char → Bool
  | [c] => c.isAlpha
  | _ => false

/-- The word consists of digits, or of a capital and small letters. -/
inductive IsCapitalized : List Char → Prop where
  | number {c : Char} {rest : List Char} (first : c.isDigit = true)
      (others : ∀ d ∈ rest, d.isDigit = true) : IsCapitalized (c :: rest)
  | letters {c : Char} {rest : List Char} (first : c.isUpper = true)
      (others : ∀ d ∈ rest, d.isLower = true) : IsCapitalized (c :: rest)

/-- A capitalized word is made of letters and digits. -/
theorem IsCapitalized.isWordChar_of_mem {word : List Char} (kind : IsCapitalized word) :
    ∀ c ∈ word, isWordChar c = true := by
  cases kind with
  | number first others =>
      exact List.forall_mem_cons.2 ⟨isWordChar_iff.2 (.inr first),
        fun d member => isWordChar_iff.2 (.inr (others d member))⟩
  | letters first others =>
      exact List.forall_mem_cons.2 ⟨isWordChar_iff.2 (.inl (isAlpha_of_isUpper first)),
        fun d member => isWordChar_iff.2 (.inl (isAlpha_of_isLower (others d member)))⟩

/-- A word consists of digits or of letters. -/
theorem words_kinds (text : List Char) : ∀ word ∈ words text,
    word ≠ [] ∧ ((∀ c ∈ word, c.isDigit = true) ∨ ∀ c ∈ word, c.isAlpha = true) := by
  induction text with
  | nil => exact fun _ member => absurd member List.not_mem_nil
  | cons c rest ih =>
      intro word member
      rw [words] at member
      cases own : isWordChar c with
      | false =>
          rw [own] at member
          exact ih word member
      | true =>
          rw [own] at member
          cases together : joins c rest with
          | false =>
              rw [together] at member
              rcases List.mem_cons.1 member with rfl | later
              · refine ⟨List.cons_ne_nil _ _, ?_⟩
                simpa using (isWordChar_iff.1 own).symm
              · exact ih word later
          | true =>
              obtain _ | ⟨next, after⟩ := rest
              · cases together
              rw [together] at member
              -- The first word goes on with the next character, which decides on its kind.
              have split := words_cons (isWordChar_of_joins together) after
              rw [split] at ih member
              rcases List.mem_cons.1 member with rfl | later
              · refine ⟨List.cons_ne_nil _ _, ?_⟩
                obtain ⟨_, kind⟩ := ih _ List.mem_cons_self
                rcases joins_kinds together with ⟨digit, nextDigit⟩ | ⟨letter, nextLetter⟩
                · have digits := kind.resolve_right fun letters => by
                    rw [isDigit_of_isAlpha (letters next List.mem_cons_self)] at nextDigit
                    cases nextDigit
                  exact .inl (List.forall_mem_cons.2 ⟨digit, digits⟩)
                · have letters := kind.resolve_left fun digits => by
                    have nextDigit := digits next List.mem_cons_self
                    rw [isDigit_of_isAlpha nextLetter] at nextDigit
                    cases nextDigit
                  exact .inr (List.forall_mem_cons.2 ⟨letter, letters⟩)
              · exact ih word (List.mem_cons_of_mem _ later)

/-- Every word of a text is capitalized. -/
theorem isCapitalized_of_mem (text : List Char) :
    ∀ word ∈ (words text).map capitalize, IsCapitalized word := by
  intro _ member
  obtain ⟨word, inside, rfl⟩ := List.mem_map.1 member
  obtain ⟨filled, kind⟩ := words_kinds text word inside
  obtain _ | ⟨c, rest⟩ := word
  · exact absurd rfl filled
  obtain ⟨own, others⟩ : c ∈ c :: rest ∧ ∀ d ∈ rest, d ∈ c :: rest :=
    ⟨List.mem_cons_self, fun _ => List.mem_cons_of_mem c⟩
  rw [capitalize]
  rcases kind with digits | letters
  · have same : rest.map Char.toLower = rest :=
      (List.map_congr_left fun d inside => (case_of_isDigit (digits d (others d inside))).2).trans
        (List.map_id rest)
    rw [(case_of_isDigit (digits c own)).1, same]
    exact .number (digits c own) fun d inside => digits d (others d inside)
  · refine .letters ?_ fun d lowered => ?_
    · rw [Char.isUpper_toUpper_eq_isAlpha]
      exact letters c own
    · obtain ⟨e, inside, rfl⟩ := List.mem_map.1 lowered
      rw [Char.isLower_toLower_eq_isAlpha]
      exact letters e (others e inside)

/-- Pascal case puts capitalized words one behind the other. -/
theorem pascalCase_toList_eq_flatten (text : String) :
    (pascalCase text).toList = ((words text.toList).map capitalize).flatten := by
  rw [pascalCase, String.toList_ofList, List.flatMap_def]

/-- A word that begins with a letter does so when it is capitalized. -/
theorem isLetter_capitalize (word : List Char) : isLetter (capitalize word) = isLetter word := by
  cases word with
  | nil => rfl
  | cons c rest => cases rest <;> simp [capitalize, isLetter]

/-! ## Characters that stay -/

/-- A small letter behind a letter stays. -/
theorem recase_of_isLower {c b : Char} (lower : c.isLower = true) (letter : b.isAlpha = true)
    (behind : Option Char) : recase (some b) c behind = some c := by
  have upper := isUpper_of_isLower lower
  have inside : startsWord (some b) c behind = false := by
    simp [startsWord, letter, upper]
  rw [recase, if_pos (isAlpha_of_isLower lower), inside]
  exact congrArg some (Char.toLower_eq_of_not_isUpper (Bool.eq_false_iff.1 upper))

/-- A capital stays exactly if it is not between another capital and something else than a small
letter. -/
theorem recase_of_isUpper_iff {c : Char} (upper : c.isUpper = true) (before behind : Option Char) :
    recase before c behind = some c ↔
      (before.any Char.isUpper = true → behind.any Char.isLower = true) := by
  have stays : c.toUpper = c :=
    Char.toUpper_eq_of_not_isLower (Bool.eq_false_iff.1 (isLower_of_isUpper upper))
  have changes : c.toLower ≠ c := by
    intro same
    have small := Char.isUpper_toLower_eq_false c
    rw [same, upper] at small
    cases small
  have starts : recase before c behind = some c ↔ startsWord before c behind = true := by
    rw [recase, if_pos (isAlpha_of_isUpper upper), stays, Option.some.injEq]
    cases startsWord before c behind <;> simp [changes]
  rw [starts, startsWord, upper]
  cases before with
  | none => simp
  | some b =>
      cases bUpper : b.isUpper with
      | true => simp [Char.isAlpha, bUpper, isLower_of_isUpper bUpper]
      | false => cases bLower : b.isLower <;> simp [Char.isAlpha, bUpper, bLower]

/-! ## What a second application changes -/

/-- Digits stay, and so do small letters behind a letter. -/
theorem recaseFrom_append {rest : List Char} {c : Char}
    (kind : (∀ d ∈ rest, d.isDigit = true) ∨ c.isAlpha = true ∧ ∀ d ∈ rest, d.isLower = true)
    (text : List Char) :
    recaseFrom (some c) (rest ++ text) = rest ++ recaseFrom (some (rest.getLastD c)) text := by
  induction rest generalizing c with
  | nil => rfl
  | cons d rest ih =>
      have here : recase (some c) d (rest ++ text).head? = some d := by
        rcases kind with digits | ⟨letter, small⟩
        · exact recase_of_isDigit (digits d List.mem_cons_self) _ _
        · exact recase_of_isLower (small d List.mem_cons_self) letter _
      have later : (∀ e ∈ rest, e.isDigit = true) ∨
          d.isAlpha = true ∧ ∀ e ∈ rest, e.isLower = true := by
        refine kind.imp (fun digits => (List.forall_mem_cons.1 digits).2) fun ⟨_, small⟩ => ?_
        obtain ⟨own, others⟩ := List.forall_mem_cons.1 small
        exact ⟨isAlpha_of_isLower own, others⟩
      rw [List.cons_append, recaseFrom, here, ih later, List.getLastD_cons]
      rfl

namespace IsCapitalized

variable {c : Char} {rest : List Char}

/-- A capitalized word ends with a capital exactly if it is a single letter. -/
theorem isUpper_getLastD (kind : IsCapitalized (c :: rest)) :
    (rest.getLastD c).isUpper = isLetter (c :: rest) := by
  cases rest with
  | nil =>
      cases kind with
      | number digit _ =>
          simp [isLetter, Char.isAlpha, not_letter_of_isDigit digit]
      | letters upper _ => simp [isLetter, Char.isAlpha, upper]
  | cons d rest =>
      have last : rest.getLastD d ∈ d :: rest := List.getLastD_mem_cons
      rw [List.getLastD_cons]
      cases kind with
      | number _ digits => exact (not_letter_of_isDigit (digits _ last)).1
      | letters _ small => exact isUpper_of_isLower (small _ last)

/-- The first character of a capitalized word stays, unless the word is a single letter behind a
capital. -/
theorem recase_first_iff (kind : IsCapitalized (c :: rest)) (before : Option Char)
    {text : List Char} (behind : text.head?.any Char.isLower = false) :
    recase before c (rest ++ text).head? = some c ↔
      (before.any Char.isUpper = true → isLetter (c :: rest) = false) := by
  cases kind with
  | number digit _ =>
      have noLetter : isLetter (c :: rest) = false := by
        cases rest <;> simp [isLetter, Char.isAlpha, not_letter_of_isDigit digit]
      exact ⟨fun _ _ => noLetter, fun _ => recase_of_isDigit digit _ _⟩
  | letters upper small =>
      rw [recase_of_isUpper_iff upper]
      cases rest with
      | nil => simp [isLetter, Char.isAlpha, upper, behind]
      | cons d rest => simp [isLetter, small d List.mem_cons_self]

/-- Capitalized words that are run together do not start with a small letter. -/
theorem isLower_head?_flatten {words : List (List Char)}
    (kinds : ∀ word ∈ words, IsCapitalized word) :
    words.flatten.head?.any Char.isLower = false := by
  cases words with
  | nil => rfl
  | cons word words =>
      cases kinds word List.mem_cons_self with
      | number digit _ => exact (not_letter_of_isDigit digit).2
      | letters upper _ => exact isLower_of_isUpper upper

end IsCapitalized

/-- No two words of one letter follow each other. -/
def LettersApart (words : List (List Char)) : Prop :=
  words.IsChain fun word next => ¬(isLetter word = true ∧ isLetter next = true)

/-- Of the first two words only one begins with a letter, and so on. -/
theorem lettersApart_cons {word : List Char} {words : List (List Char)} :
    LettersApart (word :: words) ↔
      (isLetter word = true → ∀ next ∈ words.head?, isLetter next = false) ∧
        LettersApart words := by
  rw [LettersApart, List.isChain_cons]
  refine and_congr_left fun _ => ⟨fun apart letter next head => ?_, fun apart next head both => ?_⟩
  · exact Bool.eq_false_iff.2 fun nextLetter => apart next head ⟨letter, nextLetter⟩
  · exact Bool.eq_false_iff.1 (apart both.1 next head) both.2

/-- Capitalized words that are run together stay as they are exactly if no two words of one letter
follow each other. -/
theorem recaseFrom_flatten_iff {words : List (List Char)} (before : Option Char)
    (kinds : ∀ word ∈ words, IsCapitalized word) :
    recaseFrom before words.flatten = words.flatten ↔
      (before.any Char.isUpper = true → ∀ word ∈ words.head?, isLetter word = false) ∧
        LettersApart words := by
  induction words generalizing before with
  | nil => simp [recaseFrom, LettersApart]
  | cons word words ih =>
      obtain ⟨kind, others⟩ := List.forall_mem_cons.1 kinds
      obtain _ | ⟨c, rest⟩ := word
      · cases kind
      have tail : (∀ d ∈ rest, d.isDigit = true) ∨
          c.isAlpha = true ∧ ∀ d ∈ rest, d.isLower = true := by
        cases kind with
        | number _ digits => exact .inl digits
        | letters upper small => exact .inr ⟨isAlpha_of_isUpper upper, small⟩
      have first := kind.recase_first_iff before (IsCapitalized.isLower_head?_flatten others)
      obtain ⟨d, changed⟩ : ∃ d, recase before c (rest ++ words.flatten).head? = some d :=
        ⟨_, recase_of_isWordChar (kind.isWordChar_of_mem c List.mem_cons_self) before _⟩
      rw [changed, Option.some.injEq] at first
      rw [List.flatten_cons, List.cons_append, recaseFrom, changed, recaseFrom_append tail,
        Option.toList_some, List.singleton_append, List.cons.injEq, List.append_cancel_left_eq,
        first, ih _ others, Option.any_some, kind.isUpper_getLastD, lettersApart_cons]
      simp only [List.head?_cons, Option.mem_some_iff, forall_eq']

/-- A second application of Pascal case changes nothing exactly if no two words of one letter follow
each other. -/
theorem pascalCase_pascalCase_eq_iff (text : String) :
    pascalCase (pascalCase text) = pascalCase text ↔ LettersApart (words text.toList) := by
  rw [← String.toList_inj, pascalCase_toList (pascalCase text), pascalCase_toList_eq_flatten,
    recaseFrom_flatten_iff none (isCapitalized_of_mem text.toList), LettersApart, List.isChain_map]
  simp only [isLetter_capitalize, Option.any_none, Bool.false_eq_true, false_implies, true_and]
  rfl

/-! ## After the second application -/

/-- Behind a single capital that is a word, the next word is no single letter: it starts with no
capital, or goes on with the small letter that keeps the two capitals apart. -/
theorem isLetter_next_word {c d : Char} (upper : c.isUpper = true) {after : List Char}
    (apart : joins c (d :: after) = false) :
    isLetter (d :: after.take (wordTail d after)) = false := by
  rw [joins_of_isUpper upper, Bool.or_eq_false_iff] at apart
  obtain ⟨notLower, between⟩ := apart
  cases dUpper : d.isUpper with
  | false =>
      cases after.take (wordTail d after) <;> simp [isLetter, Char.isAlpha, dUpper, notLower]
  | true =>
      rw [dUpper, Bool.true_and, Bool.not_eq_false'] at between
      cases after with
      | nil => cases between
      | cons e after =>
          have eLower : e.isLower = true := between
          have together : joins d (e :: after) = true := by
            rw [joins_of_isUpper dUpper, eLower, Bool.true_or]
          rw [wordTail, if_pos together]
          rfl

/-- Every small letter but the first character stands behind a letter. -/
def IsRooted (text : List Char) : Prop :=
  text.IsChain fun c next => next.isLower = true → c.isAlpha = true

/-- In a text of words whose small letters stand behind letters, no two words of one letter follow
each other. If the text starts with a small letter, its first word can be an exception. -/
theorem lettersApart_words {text : List Char} (own : ∀ c ∈ text, isWordChar c = true)
    (rooted : IsRooted text) :
    (text.head?.any Char.isLower = false → LettersApart (words text)) ∧
      LettersApart (words text).tail := by
  induction text with
  | nil => exact ⟨fun _ => .nil, .nil⟩
  | cons c rest ih =>
      obtain ⟨ownFirst, ownRest⟩ := List.forall_mem_cons.1 own
      obtain ⟨behind, rootedRest⟩ := List.isChain_cons.1 rooted
      obtain ⟨whole, tail⟩ := ih ownRest rootedRest
      rw [words, ownFirst]
      cases together : joins c rest with
      | true =>
          obtain _ | ⟨next, after⟩ := rest
          · cases together
          rw [words_cons (isWordChar_of_joins together)] at tail ⊢
          exact ⟨fun _ => lettersApart_cons.2 ⟨fun long => absurd long Bool.false_ne_true, tail⟩,
            tail⟩
      | false =>
          have later : LettersApart (words rest) := by
            apply whole
            cases rest with
            | nil => rfl
            | cons next after =>
                rw [List.head?_cons, Option.any_some, Bool.eq_false_iff]
                intro lower
                have letter := behind next rfl lower
                rw [Char.isAlpha, Bool.or_eq_true] at letter
                rcases letter with upper | small
                · rw [joins_of_isUpper upper, lower] at together
                  cases together
                · rw [joins_of_isLower small, lower] at together
                  cases together
          refine ⟨fun notLower => lettersApart_cons.2 ⟨fun letter next head => ?_, later⟩, later⟩
          have upper : c.isUpper = true := by
            have notSmall : c.isLower = false := notLower
            rwa [isLetter, Char.isAlpha, notSmall, Bool.or_false] at letter
          cases rest with
          | nil => cases head
          | cons d after =>
              rw [words_cons (ownRest d List.mem_cons_self)] at head
              cases head
              exact isLetter_next_word upper together

namespace IsCapitalized

variable {word : List Char}

theorem isRooted (kind : IsCapitalized word) : IsRooted word := by
  refine (List.pairwise_of_forall_mem_list fun c member next after lower => ?_).isChain
  cases kind with
  | @number c rest first others =>
      have digits : ∀ d ∈ c :: rest, d.isDigit = true := List.forall_mem_cons.2 ⟨first, others⟩
      have digit := digits next after
      rw [isDigit_of_isLower lower] at digit
      cases digit
  | letters first others =>
      rcases List.mem_cons.1 member with rfl | later
      · exact isAlpha_of_isUpper first
      · exact isAlpha_of_isLower (others c later)

theorem isRooted_flatten {words : List (List Char)}
    (kinds : ∀ word ∈ words, IsCapitalized word) : IsRooted words.flatten := by
  induction words with
  | nil => exact .nil
  | cons word words ih =>
      obtain ⟨kind, others⟩ := List.forall_mem_cons.1 kinds
      refine List.isChain_append.2 ⟨kind.isRooted, ih others, fun c _ next head lower => ?_⟩
      have notLower := isLower_head?_flatten others
      rw [Option.mem_def.1 head, Option.any_some, lower] at notLower
      cases notLower

end IsCapitalized

/-- In a text in Pascal case no two words of one letter follow each other. -/
theorem lettersApart_words_pascalCase (text : String) :
    LettersApart (words (pascalCase text).toList) := by
  have kinds := isCapitalized_of_mem text.toList
  rw [pascalCase_toList_eq_flatten]
  refine (lettersApart_words ?_ (IsCapitalized.isRooted_flatten kinds)).1
    (IsCapitalized.isLower_head?_flatten kinds)
  intro c member
  obtain ⟨word, inside, own⟩ := List.mem_flatten.1 member
  exact (kinds word inside).isWordChar_of_mem c own

/-- **Pascal case settles.** A third application of Pascal case changes nothing, and a second one
changes nothing exactly if the search for words finds no two of one letter after each other. -/
theorem pascalCase_stabilises (text : String) :
    pascalCase (pascalCase (pascalCase text)) = pascalCase (pascalCase text) ∧
      (pascalCase (pascalCase text) = pascalCase text ↔
        LettersApart (wordPattern.findAll text.toList)) := by
  refine ⟨(pascalCase_pascalCase_eq_iff _).2 (lettersApart_words_pascalCase text), ?_⟩
  rw [findAll_wordPattern]
  exact pascalCase_pascalCase_eq_iff text

example : pascalCase "x_y_to_z" = "XYToZ" ∧ pascalCase "XYToZ" = "XyToZ" := by decide

end TypedClient.Text

import Mathlib
import TypedClient.Proofs.Text.Pieces
import TypedClient.Text.Words

/-! # What Pascal case keeps

Pascal case changes the case of letters and drops the characters between words. A text of letters,
digits and underscores that is cut at its underscores has nothing to drop, so all that changes is
the case of letters (`fold_pascalPieces`).

The library is imported whole because its lemmas about the case of single letters, such as
`Char.toLower_toUpper_eq_toLower`, are in none of its smaller modules.
-/

namespace TypedClient.Text

/-! ## Letters apart from case -/

/-- The characters with all ASCII letters in lower case. -/
def fold (text : String) : List Char :=
  text.toList.map Char.toLower

/-- Letters are folded one by one. -/
theorem fold_append (first second : String) :
    fold (first ++ second) = fold first ++ fold second := by
  rw [fold, String.toList_append, List.map_append, fold, fold]

/-! ## Kinds of characters -/

/-- A letter is no digit. -/
theorem isDigit_of_isAlpha {c : Char} (letter : c.isAlpha = true) : c.isDigit = false := by
  simp only [Char.isAlpha, Char.isUpper, Char.isLower, Bool.or_eq_true, Bool.and_eq_true,
    decide_eq_true_eq, ge_iff_le, UInt32.le_iff_toNat_le] at letter
  rw [Bool.eq_false_iff]
  simp only [Char.isDigit, ne_eq, Bool.and_eq_true, decide_eq_true_eq, ge_iff_le,
    UInt32.le_iff_toNat_le]
  change (65 ≤ c.val.toNat ∧ c.val.toNat ≤ 90) ∨ (97 ≤ c.val.toNat ∧ c.val.toNat ≤ 122) at letter
  change ¬(48 ≤ c.val.toNat ∧ c.val.toNat ≤ 57)
  omega

/-- A capital letter is no small one. -/
theorem isLower_of_isUpper {c : Char} (upper : c.isUpper = true) : c.isLower = false :=
  Bool.eq_false_iff.2 (Char.not_isLower_of_isUpper upper)

/-- A small letter is no capital one. -/
theorem isUpper_of_isLower {c : Char} (lower : c.isLower = true) : c.isUpper = false :=
  Bool.eq_false_iff.2 (Char.not_isUpper_of_isLower lower)

/-- A capital letter is a letter. -/
theorem isAlpha_of_isUpper {c : Char} (upper : c.isUpper = true) : c.isAlpha = true := by
  rw [Char.isAlpha, upper, Bool.true_or]

/-- A small letter is a letter. -/
theorem isAlpha_of_isLower {c : Char} (lower : c.isLower = true) : c.isAlpha = true := by
  rw [Char.isAlpha, lower, Bool.or_true]

theorem isDigit_of_isUpper {c : Char} (upper : c.isUpper = true) : c.isDigit = false :=
  isDigit_of_isAlpha (isAlpha_of_isUpper upper)

theorem isDigit_of_isLower {c : Char} (lower : c.isLower = true) : c.isDigit = false :=
  isDigit_of_isAlpha (isAlpha_of_isLower lower)

/-- A digit is no letter of either case. -/
theorem not_letter_of_isDigit {c : Char} (digit : c.isDigit = true) :
    c.isUpper = false ∧ c.isLower = false := by
  constructor <;> rw [Bool.eq_false_iff] <;> intro letter
  · rw [isDigit_of_isUpper letter] at digit
    cases digit
  · rw [isDigit_of_isLower letter] at digit
    cases digit

/-- Digits have no case. -/
theorem case_of_isDigit {c : Char} (digit : c.isDigit = true) : c.toUpper = c ∧ c.toLower = c :=
  ⟨Char.toUpper_eq_of_not_isLower (Bool.eq_false_iff.1 (not_letter_of_isDigit digit).2),
    Char.toLower_eq_of_not_isUpper (Bool.eq_false_iff.1 (not_letter_of_isDigit digit).1)⟩

/-- Letters and digits stay such in either case. -/
theorem isAlphanum_cases {c : Char} (alphanum : c.isAlphanum = true) :
    c.toUpper.isAlphanum = true ∧ c.toLower.isAlphanum = true := by
  by_cases alpha : c.isAlpha = true
  · simp [Char.isAlphanum, alpha]
  · rw [Char.isAlpha, Bool.or_eq_true, not_or] at alpha
    rw [Char.toUpper_eq_of_not_isLower alpha.2, Char.toLower_eq_of_not_isUpper alpha.1]
    exact ⟨alphanum, alphanum⟩

/-- Words are made of letters and digits. -/
theorem isWordChar_iff {c : Char} : isWordChar c = true ↔ c.isAlpha = true ∨ c.isDigit = true := by
  rw [isWordChar, ← Char.isAlpha, Bool.or_eq_true]

/-! ## Words -/

/-- A capital letter in front is all that changes in a word. -/
theorem map_toLower_capitalize (word : List Char) :
    (capitalize word).map Char.toLower = word.map Char.toLower := by
  cases word with
  | nil => rfl
  | cons first rest =>
      rw [capitalize, List.map_cons, List.map_cons, Char.toLower_toUpper_eq_toLower, List.map_map]
      exact congrArg (first.toLower :: ·)
        (List.map_congr_left fun c _ => Char.toLower_toLower_eq_toLower c)

/-- Pascal case keeps the characters of words, apart from case. -/
theorem fold_pascalCase (text : String) :
    fold (pascalCase text) = (text.toList.filter isWordChar).map Char.toLower := by
  rw [fold, pascalCase, String.toList_ofList, List.map_flatMap, ← words_flatten, List.map_flatten,
    ← List.flatMap_def]
  exact List.flatMap_congr fun word _ => map_toLower_capitalize word

/-! ## Pieces -/

/-- A text of letters, digits and underscores stays as it is, apart from case. -/
theorem fold_pascalPieces {text : String}
    (plain : ∀ c ∈ text.toList, isWordChar c = true ∨ c = '_') :
    fold (pascalPieces text) = fold text := by
  have whole : ∀ piece ∈ pieces '_' text.toList, ∀ c ∈ piece, isWordChar c = true := by
    intro piece member c inside
    obtain ⟨own, differs⟩ := mem_of_mem_pieces member inside
    exact (plain c own).resolve_right differs
  have joined (parts : List (List Char)) (words : ∀ part ∈ parts, ∀ c ∈ part, isWordChar c = true) :
      fold (String.intercalate "_" (parts.map fun part => pascalCase (String.ofList part))) =
        (['_'].intercalate parts).map Char.toLower := by
    induction parts with
    | nil => rfl
    | cons part rest ih =>
        obtain ⟨own, others⟩ := List.forall_mem_cons.1 words
        have kept : fold (pascalCase (String.ofList part)) = part.map Char.toLower := by
          rw [fold_pascalCase, String.toList_ofList, List.filter_eq_self.2 own]
        cases rest with
        | nil =>
            rw [List.map_singleton, String.intercalate_singleton, kept,
              List.intercalate_singleton]
        | cons second rest =>
            rw [List.map_cons, String.intercalate_cons_of_ne_nil (by simp),
              List.intercalate_cons_of_ne_nil (by simp), fold_append, fold_append, ih others, kept,
              List.map_append, List.map_append]
            rfl
  rw [pascalPieces, joined _ whole, intercalate_pieces, fold]

end TypedClient.Text

import TypedClient.Document.Lexer
import TypedClient.Document.Printer
import TypedClient.Proofs.Template.Literal
import TypedClient.Proofs.Text.Solid

/-! # Escapes in strings

A character is written in a string as itself or behind a backslash. Both readers of an escape, that
of documents and that of template literals, take what is written for the same character
(`escapeChar_spelled`).
-/

namespace TypedClient.Document

open Template Text

/-- The character has to be escaped in a string. -/
def isEscaped (c : Char) : Bool :=
  c = '"' || c = '\\' || c.toNat < 0x20 || (0x7f ≤ c.toNat && c.toNat ≤ 0x9f)

/-- A character that needs no escape stands for itself. -/
theorem escapeChar_raw {c : Char} (raw : isEscaped c = false) : escapeChar c = [c] := by
  simp only [isEscaped, Bool.or_eq_false_iff, Bool.and_eq_false_iff, decide_eq_false_iff_not] at raw
  obtain ⟨⟨⟨quote, slash⟩, low⟩, high⟩ := raw
  have other {d : Char} (control : d.toNat < 0x20) : c ≠ d := by
    rintro rfl
    exact low control
  unfold escapeChar
  rw [if_neg quote, if_neg slash, if_neg (other (by decide)), if_neg (other (by decide)),
    if_neg (other (by decide)), if_neg (other (by decide)), if_neg (other (by decide)), if_neg]
  omega

/-- The digits of a small code point are four hexadecimal ones, and spell it. -/
theorem digits_codePointDigits {code : Nat} (small : code < 0xa0) :
    (codePointDigits code).toList.length = 4 ∧
      (codePointDigits code).toList.all (fun c => (Text.digitValue? 16 c).isSome) = true ∧
      Text.numberIn 16 (codePointDigits code).toList = code := by
  revert code
  decide +kernel

/-- The digits of a code point that is escaped are read as the code point. -/
theorem hexCode_codePointDigits {code : Nat} (small : code < 0xa0) (rest : List Char) :
    Lexer.hexCode? ((codePointDigits code).toList ++ rest) = some code := by
  obtain ⟨length, all, value⟩ := digits_codePointDigits small
  have front : ((codePointDigits code).toList ++ rest).take 4 = (codePointDigits code).toList := by
    rw [← length, List.take_left]
  unfold Lexer.hexCode? Text.numberInFront?
  simp only [front, length, all, value, and_self, if_true]

/-- What follows the backslash of an escape: both readers take it for the character. -/
structure Spells (spelled : List Char) (c : Char) : Prop where
  graphic : ∀ d ∈ spelled, IsGraphic d
  document : ∀ rest, Lexer.escape (spelled ++ rest) = .ok (c, spelled.length)
  template : ∀ rest, Literal.escape? (spelled ++ rest) = some ([c], spelled.length)

/-- A code point in four digits. -/
theorem spells_codePoint {c : Char} (small : c.toNat < 0xa0) :
    Spells ('u' :: (codePointDigits c.toNat).toList) c := by
  have coded := hexCode_codePointDigits small
  have digits := digits_codePointDigits small
  have scalar : Lexer.isScalar c.toNat = true := by
    simp only [Lexer.isScalar, Bool.or_eq_true, decide_eq_true_eq]
    omega
  have brace (rest after : List Char) :
      (codePointDigits c.toNat).toList ++ rest ≠ '{' :: after := by
    obtain ⟨first, others, split⟩ := List.exists_cons_of_length_eq_add_one digits.1
    rw [split, List.all_cons, Bool.and_eq_true] at digits
    rw [split]
    intro same
    obtain ⟨rfl, _⟩ := List.cons.inj same
    exact absurd digits.2.1.1 (by decide)
  refine ⟨?_, fun rest => ?_, fun rest => ?_⟩
  · intro d member
    rcases List.mem_cons.1 member with rfl | member
    · decide
    · exact graphic_of_digit (List.all_eq_true.1 digits.2.1 d member)
  · rw [List.cons_append, Lexer.escape, Lexer.fixedEscape, coded]
    · simp only [scalar, if_true, Char.ofNat_toNat, List.length_cons, digits.1]
    · exact brace rest
  · have number : Literal.code? ('u' :: ((codePointDigits c.toNat).toList ++ rest)) =
        some (c.toNat, 5) := by
      rw [Literal.code?, coded]
      · rfl
      · exact brace rest
    rw [List.cons_append, Literal.escape?, if_neg (by decide), number]
    simp only [scalar, if_true, Char.ofNat_toNat, List.length_cons, digits.1]

/-- An escaped character is written so that both readers take it for that character. -/
theorem escapeChar_spelled {c : Char} (escaped : isEscaped c = true) :
    ∃ spelled, escapeChar c = '\\' :: spelled ∧ Spells spelled c := by
  have single {mark d : Char} (graphic : IsGraphic mark)
      (document : ∀ rest, Lexer.escape (mark :: rest) = .ok (d, 1))
      (template : ∀ rest, Literal.escape? (mark :: rest) = some ([d], 1)) : Spells [mark] d :=
    ⟨fun _ member => by rw [List.mem_singleton.1 member]; exact graphic, document, template⟩
  unfold escapeChar
  split
  · next same =>
    subst same
    exact ⟨['"'], rfl, single (by decide) (fun _ => rfl) fun _ => rfl⟩
  split
  · next same =>
    subst same
    exact ⟨['\\'], rfl, single (by decide) (fun _ => rfl) fun _ => rfl⟩
  split
  · next same =>
    subst same
    exact ⟨['b'], rfl, single (by decide) (fun _ => rfl) fun _ => rfl⟩
  split
  · next same =>
    subst same
    exact ⟨['t'], rfl, single (by decide) (fun _ => rfl) fun _ => rfl⟩
  split
  · next same =>
    subst same
    exact ⟨['n'], rfl, single (by decide) (fun _ => rfl) fun _ => rfl⟩
  split
  · next same =>
    subst same
    exact ⟨['f'], rfl, single (by decide) (fun _ => rfl) fun _ => rfl⟩
  split
  · next same =>
    subst same
    exact ⟨['r'], rfl, single (by decide) (fun _ => rfl) fun _ => rfl⟩
  next quote slash _ _ _ _ _ =>
  simp only [isEscaped, quote, slash, decide_false, Bool.false_or, Bool.or_eq_true,
    Bool.and_eq_true, decide_eq_true_eq] at escaped
  rw [if_pos escaped]
  exact ⟨_, rfl, spells_codePoint (by omega)⟩

end TypedClient.Document

import TypedClient.Proofs.Document.Printed
import TypedClient.Proofs.Document.Scan
import TypedClient.Proofs.Document.StringBody
import TypedClient.Proofs.Template.Raw

/-! # Plain strings

The strings that come through a template literal as they are (`StringLiteral.IsPlain`). Their
printed text is read as itself in the literal, but for a margin that a block string does not notice
and for escapes that stand for the same characters.
-/

namespace TypedClient.Document

open Text Template

/-- The string needs no escapes anywhere: its text is inert in a template literal; between single
quotes it holds no quotes and no line terminators, between triple quotes no three quotes in a row
and no line boundaries but line feeds. -/
def StringLiteral.IsPlain (literal : StringLiteral) : Prop :=
  Literal.IsInert literal.text.toList ∧
    if literal.block then ¬tripleQuote <:+: literal.text.toList ∧
      ∀ c ∈ literal.text.toList, isLineBoundary c = true → c = '\n'
    else ∀ c ∈ literal.text.toList, c ≠ '"' ∧ Literal.isLineTerminator c = false

instance (literal : StringLiteral) : Decidable literal.IsPlain :=
  inferInstanceAs (Decidable (Literal.IsInert literal.text.toList ∧
    if literal.block then ¬tripleQuote <:+: literal.text.toList ∧
      ∀ c ∈ literal.text.toList, isLineBoundary c = true → c = '\n'
    else ∀ c ∈ literal.text.toList, c ≠ '"' ∧ Literal.isLineTerminator c = false))

/-! ## Between triple quotes -/

/-- A text without three quotes in a row, which does not end with one, closes a block string
late. -/
theorem closesLate_of_single {run : Nat} {text : List Char} (few : run ≤ 2)
    (single : ¬tripleQuote <:+: List.replicate run '"' ++ text)
    (last : (List.replicate run '"' ++ text).getLast? ≠ some '"') :
    closesLate run text = true := by
  induction text generalizing run with
  | nil =>
      rw [List.append_nil] at last
      cases run with
      | zero => rfl
      | succ run => exact absurd (by simp [List.getLast?_replicate]) last
  | cons c text ih =>
      rw [closesLate]
      split
      · next quote =>
        subst quote
        have more : List.replicate run '"' ++ '"' :: text =
            List.replicate (run + 1) '"' ++ text := by
          rw [List.replicate_succ', List.append_assoc]
          rfl
        rw [more] at single last
        have room : run < 2 := by
          refine Decidable.byContradiction fun full => single ?_
          obtain rfl : run = 2 := by omega
          exact ⟨[], text, rfl⟩
        rw [ih room single last, decide_eq_true room]
        rfl
      · refine ih (Nat.zero_le 2) (fun inside => single ?_) (fun ends => last ?_)
        · exact inside.trans ⟨List.replicate run '"' ++ [c], [], by simp⟩
        · rw [List.replicate_zero, List.nil_append] at ends
          rw [List.getLast?_append, List.getLast?_cons, ends]
          rfl

/-- A margin of blanks keeps no quotes apart. -/
theorem closesLate_indentAfterNewlines {margin : List Char} (blank : ∀ c ∈ margin, c = ' ')
    (run : Nat) (text : List Char) :
    closesLate run (indentAfterNewlines margin text) = closesLate run text := by
  induction text generalizing run with
  | nil => rfl
  | cons c text ih =>
      rw [indentAfterNewlines]
      split
      · next feed =>
        subst feed
        rw [closesLate, if_neg (by decide), closesLate_margin blank, ih, closesLate,
          if_neg (by decide)]
      · rw [closesLate, closesLate, ih, ih]

/-- What is known of the body of a plain block string. -/
structure IsPlainBody (body : List Char) : Prop where
  inert : Literal.IsInert body
  feeds : ∀ c ∈ body, isLineBoundary c = true → c = '\n'
  late : closesLate 0 body = true

/-- A margin of blanks brings no other characters. -/
theorem mem_indentAfterNewlines {margin text : List Char} (blank : ∀ c ∈ margin, c = ' ')
    {c : Char} (member : c ∈ indentAfterNewlines margin text) : c ∈ text ∨ c = ' ' := by
  induction text with
  | nil => exact .inl member
  | cons d text ih =>
      rw [indentAfterNewlines] at member
      split at member
      · rcases List.mem_cons.1 member with rfl | member
        · exact .inl List.mem_cons_self
        · rcases List.mem_append.1 member with member | member
          · exact .inr (blank c member)
          · exact (ih member).imp (List.mem_cons_of_mem _) id
      · rcases List.mem_cons.1 member with rfl | member
        · exact .inl List.mem_cons_self
        · exact (ih member).imp (List.mem_cons_of_mem _) id

/-- A line feed at either end makes no neighbours. -/
theorem infix_of_feeds {a b : Char} (first : a ≠ '\n') (second : b ≠ '\n')
    {opened text closed : List Char} (opens : opened = [] ∨ opened = ['\n'])
    (closes : closed = [] ∨ closed = ['\n'])
    (inside : [a, b] <:+: opened ++ text ++ closed) : [a, b] <:+: text := by
  have front : [a, b] <:+: opened ++ text := by
    rcases closes with rfl | rfl
    · rwa [List.append_nil] at inside
    · refine (List.infix_concat_iff.1 inside).resolve_left fun ends => second ?_
      obtain ⟨before, same⟩ := ends
      have last := congrArg List.getLast? same
      simpa using last
  rcases opens with rfl | rfl
  · exact front
  · exact (List.infix_cons_iff.1 front).resolve_left fun ⟨_, same⟩ =>
      first (List.cons.inj same).1

/-- The body of a block string is plain if its text is. -/
theorem IsBlockBody.isPlain {text body : List Char} (isBody : IsBlockBody text body)
    (inert : Literal.IsInert text) (single : ¬tripleQuote <:+: text)
    (feeds : ∀ c ∈ text, isLineBoundary c = true → c = '\n') : IsPlainBody body := by
  obtain ⟨margin, opened, closed, blank, opens, closes, rfl⟩ := isBody
  rw [escapeQuotes_single single]
  have ends : closed = [] ∨ closed = ['\n'] := closes.imp And.left id
  have chars {c : Char} (member : c ∈ indentAfterNewlines margin (opened ++ text ++ closed)) :
      c ∈ text ∨ c = '\n' ∨ c = ' ' := by
    rcases mem_indentAfterNewlines blank member with member | same
    · rcases List.mem_append.1 member with member | member
      · rcases List.mem_append.1 member with member | member
        · rcases opens with rfl | rfl
          · exact absurd member List.not_mem_nil
          · exact .inr (.inl (List.mem_singleton.1 member))
        · exact .inl member
      · rcases ends with rfl | rfl
        · exact absurd member List.not_mem_nil
        · exact .inr (.inl (List.mem_singleton.1 member))
    · exact .inr (.inr same)
  refine ⟨⟨fun member => ?_, fun member => ?_, fun inside => ?_⟩, fun c member boundary => ?_, ?_⟩
  · exact (chars member).elim inert.slash (by decide)
  · exact (chars member).elim inert.backtick (by decide)
  · exact inert.substitution (infix_of_feeds (by decide) (by decide) opens ends
      (infix_of_indentAfterNewlines blank (by decide) (by decide) inside))
  · rcases chars member with member | rfl | rfl
    · exact feeds c member boundary
    · rfl
    · cases boundary
  · rw [closesLate_indentAfterNewlines blank]
    have opened_ : closesLate 0 (opened ++ text ++ closed) = closesLate 0 (text ++ closed) := by
      rcases opens with rfl | rfl
      · rfl
      · rw [List.append_assoc, List.singleton_append, closesLate, if_neg (by decide)]
    rw [opened_]
    refine closesLate_of_single (Nat.zero_le 2) (fun inside => single ?_) ?_
    · rw [List.replicate_zero, List.nil_append] at inside
      rcases ends with rfl | rfl
      · rwa [List.append_nil] at inside
      · refine (List.infix_concat_iff.1 inside).resolve_left fun last => ?_
        obtain ⟨before, same⟩ := last
        have last := congrArg List.getLast? same
        simp [tripleQuote] at last
    · rcases closes with ⟨rfl, last⟩ | rfl
      · rw [List.append_nil]
        exact last single
      · simp

/-- The block string with the body that a text starts with, behind its first quote. -/
theorem string_block {body : List Char} (late : closesLate 0 body = true) (slash : '\\' ∉ body)
    (carriage : '\r' ∉ body) (rest : List Char) :
    Lexer.string ('"' :: '"' :: (body ++ (tripleQuote ++ rest))) =
      .ok (.blockString (String.ofList
        ((BlockString.value (textLines body)).intersperse ['\n']).flatten), body.length + 5) := by
  have found := Lexer.blockBody_closesLate late slash carriage rest
  rw [List.append_assoc] at found
  rw [Lexer.string, found]

/-- **Moved blocks.** A plain body is moved to one that is read as the same block string. -/
theorem IsPlainBody.exists_shifted {body margin : List Char} (plain : IsPlainBody body)
    (blank : ∀ c ∈ margin, c = ' ') :
    ∃ shifted, Literal.IsInert shifted ∧ '\r' ∉ shifted ∧
      (∀ rest, moved margin false (body ++ '"' :: rest) =
        shifted ++ '"' :: moved margin false rest) ∧
      ∃ value, (∀ rest, Lexer.string ('"' :: '"' :: (body ++ (tripleQuote ++ rest))) =
          .ok (.blockString value, body.length + 5)) ∧
        ∀ rest, Lexer.string ('"' :: '"' :: (shifted ++ (tripleQuote ++ rest))) =
          .ok (.blockString value, shifted.length + 5) := by
  obtain ⟨shifted, body', same⟩ := exists_movedBody blank false plain.feeds
  obtain ⟨first, others, first', others', cut, cut', start, step⟩ := body'.lines
  obtain rfl : first' = first := start
  have carriage : '\r' ∉ body := fun member => by cases plain.feeds _ member rfl
  have chars {c : Char} (other : c ≠ ' ') (outside : c ∉ body) : c ∉ shifted :=
    fun member => (body'.chars c member).elim outside other
  have noSlash := chars (by decide) plain.inert.slash
  have noReturn := chars (by decide) carriage
  refine ⟨shifted, ⟨noSlash, chars (by decide) plain.inert.backtick, fun inside => ?_⟩, noReturn,
    same, _, string_block plain.late plain.inert.slash carriage, fun rest => ?_⟩
  · have whole := same []
    refine plain.inert.substitution ?_
    have moved_ : ['$', '{'] <:+: moved margin false (body ++ ['"']) := by
      rw [whole]
      exact inside.trans (List.infix_append' [] shifted _)
    have inside := infix_of_moved blank (by decide) (by decide) (by decide) false moved_
    refine (List.infix_concat_iff.1 inside).resolve_left fun ends => ?_
    obtain ⟨before, same⟩ := ends
    have last := congrArg List.getLast? same
    simp at last
  · rw [string_block (body'.late 0 (fun same => by cases same) plain.late) noSlash noReturn, cut,
      cut', BlockString.value_shifted blank _ step]

end TypedClient.Document

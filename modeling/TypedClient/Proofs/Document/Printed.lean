import TypedClient.Document.Printer
import TypedClient.Proofs.Document.BlockBody
import TypedClient.Proofs.Document.Escape

/-! # What is printed

A printed text consists of its strings and of plain characters between them: line feeds and
printable ASCII, without quotes, number signs, backslashes and backticks. No dollar sign opens a
substitution, and no string stands directly behind another one. `Printed` says so, with the strings
in order. Nested texts keep this shape, since blanks are put only behind line feeds.
-/

namespace TypedClient.Document

open Text

/-- The characters that are printed outside of strings. -/
def IsOutside (c : Char) : Prop :=
  (c = '\n' ∨ 0x20 ≤ c.toNat ∧ c.toNat < 0x7f) ∧ c ≠ '"' ∧ c ≠ '#' ∧ c ≠ '\\' ∧ c ≠ '`'

instance (c : Char) : Decidable (IsOutside c) :=
  inferInstanceAs (Decidable ((c = '\n' ∨ 0x20 ≤ c.toNat ∧ c.toNat < 0x7f) ∧ c ≠ '"' ∧ c ≠ '#' ∧
    c ≠ '\\' ∧ c ≠ '`'))

/-- What stands between the triple quotes of a block string: its text, perhaps on lines of its own,
with some margin behind its line feeds. -/
def IsBlockBody (text body : List Char) : Prop :=
  ∃ margin opened closed, (∀ c ∈ margin, c = ' ') ∧ (opened = [] ∨ opened = ['\n']) ∧
    (closed = [] ∧ (¬tripleQuote <:+: text → text.getLast? ≠ some '"') ∨ closed = ['\n']) ∧
    body = indentAfterNewlines margin (opened ++ BlockString.escapeQuotes text ++ closed)

/-- A printed text and its strings. -/
inductive Printed : List Char → List StringLiteral → Prop
  | nil : Printed [] []
  | char {c : Char} {rest : List Char} {strings : List StringLiteral} (outside : IsOutside c)
      (dollar : c = '$' → ∃ next after, rest = next :: after ∧ next ≠ '{')
      (others : Printed rest strings) : Printed (c :: rest) strings
  | string {text : String} {rest : List Char} {strings : List StringLiteral}
      (apart : rest.head? ≠ some '"') (others : Printed rest strings) :
      Printed ('"' :: (text.toList.flatMap escapeChar ++ '"' :: rest)) (⟨text, false⟩ :: strings)
  | block {text : String} {body rest : List Char} {strings : List StringLiteral}
      (isBody : IsBlockBody text.toList body) (apart : rest.head? ≠ some '"')
      (others : Printed rest strings) :
      Printed (tripleQuote ++ (body ++ (tripleQuote ++ rest))) (⟨text, true⟩ :: strings)

/-! ## Putting texts together -/

namespace Printed

variable {text other : List Char} {strings more : List StringLiteral}

/-- Printed texts can stand one behind the other, unless a string would meet a string. -/
theorem append (first : Printed text strings) (second : Printed other more)
    (apart : strings = [] ∨ other.head? ≠ some '"') :
    Printed (text ++ other) (strings ++ more) := by
  have head {rest : List Char} (own : rest.head? ≠ some '"') (apart : other.head? ≠ some '"') :
      (rest ++ other).head? ≠ some '"' := by
    cases rest with
    | nil => exact apart
    | cons => exact own
  induction first with
  | nil => exact second
  | char outside dollar _ ih =>
      refine .char outside (fun same => ?_) (ih apart)
      obtain ⟨next, after, rfl, brace⟩ := dollar same
      exact ⟨next, after ++ other, rfl, brace⟩
  | string own _ ih =>
      have apart := apart.resolve_left (List.cons_ne_nil _ _)
      rw [List.cons_append, List.append_assoc]
      exact .string (head own apart) (ih (.inr apart))
  | block isBody own _ ih =>
      have apart := apart.resolve_left (List.cons_ne_nil _ _)
      rw [List.append_assoc, List.append_assoc, List.append_assoc]
      exact .block isBody (head own apart) (ih (.inr apart))

/-- A text of plain characters. -/
theorem chars (plain : ∀ c ∈ text, IsOutside c ∧ c ≠ '$') : Printed text [] := by
  induction text with
  | nil => exact .nil
  | cons c text ih =>
      obtain ⟨outside, dollar⟩ := plain c List.mem_cons_self
      exact .char outside (fun same => absurd same dollar)
        (ih fun d member => plain d (List.mem_cons_of_mem _ member))

/-- A text without quotes has no strings. -/
theorem eq_nil_of_quiet (printed : Printed text strings) (quiet : '"' ∉ text) :
    strings = [] := by
  induction printed with
  | nil => rfl
  | char _ _ _ ih => exact ih fun member => quiet (List.mem_cons_of_mem _ member)
  | string => exact absurd List.mem_cons_self quiet
  | block => exact absurd List.mem_cons_self quiet

end Printed

/-! ## Nesting -/

/-- A margin is put into each part of a text. -/
theorem indentAfterNewlines_append (margin first second : List Char) :
    indentAfterNewlines margin (first ++ second) =
      indentAfterNewlines margin first ++ indentAfterNewlines margin second := by
  induction first with
  | nil => rfl
  | cons c first ih =>
      rw [List.cons_append, indentAfterNewlines, indentAfterNewlines, ih]
      split <;> simp

/-- On one line there is no place for a margin. -/
theorem indentAfterNewlines_inner {margin text : List Char} (inner : '\n' ∉ text) :
    indentAfterNewlines margin text = text := by
  induction text with
  | nil => rfl
  | cons c text ih =>
      have noFeed : c ≠ '\n' := fun same => inner (same ▸ List.mem_cons_self)
      rw [indentAfterNewlines, if_neg noFeed,
        ih fun member => inner (List.mem_cons_of_mem _ member)]

/-- Two margins, one after the other, are one. -/
theorem indentAfterNewlines_twice {margin other : List Char} (inner : '\n' ∉ other)
    (text : List Char) :
    indentAfterNewlines margin (indentAfterNewlines other text) =
      indentAfterNewlines (margin ++ other) text := by
  induction text with
  | nil => rfl
  | cons c text ih =>
      rw [indentAfterNewlines, indentAfterNewlines]
      split
      · next feed =>
        rw [indentAfterNewlines, if_pos feed, indentAfterNewlines_append,
          indentAfterNewlines_inner inner, ih, List.append_assoc]
      · next other => rw [indentAfterNewlines, if_neg other, ih]

/-- The first line has no margin in front. -/
theorem head_indentAfterNewlines (margin text : List Char) :
    (indentAfterNewlines margin text).head? = text.head? := by
  cases text with
  | nil => rfl
  | cons c text =>
      rw [indentAfterNewlines]
      split <;> rfl

/-- An escaped text stands on one line. -/
theorem newline_not_mem_escaped (text : List Char) : '\n' ∉ text.flatMap escapeChar := by
  intro member
  obtain ⟨c, _, inside⟩ := List.mem_flatMap.1 member
  cases kind : isEscaped c with
  | true =>
      obtain ⟨spelled, written, spells⟩ := escapeChar_spelled kind
      rw [written] at inside
      rcases List.mem_cons.1 inside with same | inside
      · cases same
      · exact absurd (spells.graphic _ inside) (by decide)
  | false =>
      rw [escapeChar_raw kind, List.mem_singleton] at inside
      subst inside
      cases kind

/-- The body of a block string may be moved to the right. -/
theorem IsBlockBody.indent {text body margin : List Char} (isBody : IsBlockBody text body)
    (blank : ∀ c ∈ margin, c = ' ') : IsBlockBody text (indentAfterNewlines margin body) := by
  obtain ⟨own, opened, closed, ownBlank, opens, closes, rfl⟩ := isBody
  refine ⟨margin ++ own, opened, closed, fun c member => ?_, opens, closes,
    indentAfterNewlines_twice (fun member => by cases ownBlank _ member) _⟩
  exact (List.mem_append.1 member).elim (blank c) (ownBlank c)

/-- A printed text may be moved to the right. -/
theorem Printed.indent {margin text : List Char} {strings : List StringLiteral}
    (blank : ∀ c ∈ margin, c = ' ') (printed : Printed text strings) :
    Printed (indentAfterNewlines margin text) strings := by
  induction printed with
  | nil => exact .nil
  | @char c rest strings outside dollar _ ih =>
      rw [indentAfterNewlines]
      split
      · refine .char outside (fun same => ?_) ?_
        · next feed =>
          subst feed
          cases same
        · refine (Printed.chars fun c member => ?_).append ih (.inl rfl)
          rw [blank c member]
          decide
      · refine .char outside (fun same => ?_) ih
        obtain ⟨next, after, rfl, brace⟩ := dollar same
        obtain ⟨others, front⟩ := List.head?_eq_some_iff.1
          (head_indentAfterNewlines margin (next :: after))
        exact ⟨next, others, front, brace⟩
  | @string text rest strings apart _ ih =>
      have inner : '\n' ∉ '"' :: (text.toList.flatMap escapeChar ++ ['"']) := by
        have escaped := newline_not_mem_escaped text.toList
        simp only [List.mem_cons, List.mem_append, List.not_mem_nil, or_false, not_or]
        exact ⟨by decide, escaped, by decide⟩
      have split : '"' :: (text.toList.flatMap escapeChar ++ '"' :: rest) =
          '"' :: (text.toList.flatMap escapeChar ++ ['"']) ++ rest := by simp
      rw [← head_indentAfterNewlines margin] at apart
      rw [split, indentAfterNewlines_append, indentAfterNewlines_inner inner, List.cons_append,
        List.append_assoc]
      exact .string apart ih
  | block isBody apart _ ih =>
      have inner : '\n' ∉ tripleQuote := by decide
      rw [indentAfterNewlines_append, indentAfterNewlines_append, indentAfterNewlines_append,
        indentAfterNewlines_inner inner]
      exact .block (isBody.indent blank) (by rw [head_indentAfterNewlines]; exact apart) ih

/-! ## Strings -/

/-- Where no three quotes stand in a row there is nothing to escape. -/
theorem escapeQuotes_single {text : List Char} (single : ¬tripleQuote <:+: text) :
    BlockString.escapeQuotes text = text := by
  fun_induction BlockString.escapeQuotes text with
  | case1 rest => exact absurd ⟨[], rest, rfl⟩ single
  | case2 c rest _ ih =>
      rw [ih fun inside => single (List.infix_cons inside)]
  | case3 => rfl

/-- A block string that closes on the line of its text does not end in a quote. -/
theorem isBlockBody_print (text : List Char) :
    ∃ body, IsBlockBody text body ∧
      BlockString.print text = tripleQuote ++ (body ++ (tripleQuote ++ [])) := by
  have lines (line : Bool) : (if line then ['\n'] else []) = [] ∨
      (if line then ['\n'] else []) = ['\n'] := by
    cases line
    · exact .inl rfl
    · exact .inr rfl
  have plain (text : List Char) : indentAfterNewlines [] text = text := by
    induction text with
    | nil => rfl
    | cons c text ih => rw [indentAfterNewlines, ih]; split <;> rfl
  unfold BlockString.print
  extract_lets escaped lines_ single forcesBreak endsEscaped endsInQuote endsInSlash spread
    opensLine closesLine
  refine ⟨(if opensLine then ['\n'] else []) ++ escaped ++ (if closesLine then ['\n'] else []),
    ⟨[], _, _, fun _ member => absurd member List.not_mem_nil, lines opensLine, ?_, (plain _).symm⟩,
    by simp [tripleQuote]⟩
  cases closes : closesLine with
  | true => exact .inr rfl
  | false =>
      refine .inl ⟨rfl, fun noTriple last => ?_⟩
      obtain ⟨front, split⟩ := List.getLast?_eq_some_iff.1 last
      have quoted : ['"'].isSuffixOf text = true :=
        List.isSuffixOf_iff_suffix.2 ⟨front, split.symm⟩
      have unescaped : endsEscaped = false := by
        rw [← Bool.not_eq_true]
        intro ends
        obtain ⟨before, same⟩ := List.isSuffixOf_iff_suffix.1 ends
        refine noTriple ⟨before ++ ['\\'], [], ?_⟩
        rw [← escapeQuotes_single noTriple]
        exact (by simp [tripleQuote] : _ = before ++ ['\\', '"', '"', '"']).trans same
      have open_ : closesLine = true := by
        simp [closesLine, endsInQuote, quoted, unescaped]
      rw [closes] at open_
      cases open_

/-- A string is printed as itself. -/
theorem printed_literal (literal : StringLiteral) : Printed literal.print.toList [literal] := by
  obtain ⟨text, block⟩ := literal
  cases block with
  | false =>
      rw [StringLiteral.print, if_neg Bool.false_ne_true, String.toList_ofList]
      exact .string (by decide) .nil
  | true =>
      obtain ⟨body, isBody, same⟩ := isBlockBody_print text.toList
      rw [StringLiteral.print, if_pos rfl, String.toList_ofList, same]
      exact .block isBody (by decide) .nil

/-- A printed text does not end in a carriage return. -/
theorem Printed.getLast_ne {text : List Char} {strings : List StringLiteral}
    (printed : Printed text strings) : text.getLast? ≠ some '\r' := by
  have behind {front rest : List Char} {last : Char} (own : last ≠ '\r')
      (ih : rest.getLast? ≠ some '\r') : (front ++ last :: rest).getLast? ≠ some '\r' := by
    rw [List.getLast?_append, List.getLast?_cons]
    cases ends : rest.getLast? with
    | none => simpa using own
    | some c =>
        rw [ends] at ih
        simpa using ih
  induction printed with
  | nil => decide
  | @char c rest _ outside _ _ ih =>
      refine @behind [] rest c ?_ ih
      rintro rfl
      exact absurd outside (by decide)
  | @string text rest _ _ _ ih =>
      exact @behind ('"' :: text.toList.flatMap escapeChar) rest '"' (by decide) ih
  | @block text body rest _ _ _ _ ih =>
      have split : tripleQuote ++ (body ++ (tripleQuote ++ rest)) =
          (tripleQuote ++ body ++ ['"', '"']) ++ '"' :: rest := by simp [tripleQuote]
      rw [split]
      exact behind (by decide) ih

end TypedClient.Document

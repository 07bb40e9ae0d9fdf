import TypedClient.Proofs.Document.EmbeddedBlock
import TypedClient.Proofs.Document.EmbeddedString

/-! # Documents in a template literal

A printed document with plain strings has the same tokens when it is read from a template literal
(`Printed.exists_shown`). Conversely, a document whose strings are read back from the literal has
plain strings only (`Printed.plain`).
-/

namespace TypedClient.Document

open Text Template Literal Lexer

theorem IsOutside.inner {c : Char} (outside : IsOutside c) (feed : c ≠ '\n') :
    isLineBoundary c = false := by
  obtain ⟨range, _⟩ := outside
  have range := range.resolve_left feed
  simp only [isLineBoundary, List.mem_cons, List.not_mem_nil, or_false, decide_eq_false_iff_not]
  omega

/-- A string has the value of its body, if no further quote makes it a block string. -/
theorem string_of_body {rest value : List Char} {count : Nat}
    (body : stringBody 0 rest = .ok (value, count)) (apart : ¬['"', '"'] <+: rest) :
    Lexer.string rest = .ok (.string (String.ofList value), count) := by
  unfold Lexer.string
  split
  · next more => exact absurd ⟨more, rfl⟩ apart
  · rw [body]
    rfl

variable {margin : List Char}

/-- What a plain document is in a template literal: the text that is read there has the same tokens,
up to the line feed behind it. -/
structure IsShown (margin text shown : List Char) : Prop where
  reads : ∀ tail, read 0 (moved margin false text ++ tail) =
    (read 0 tail).map (prepend (shown.map .char))
  apart : text.head? ≠ some '"' → shown.head? ≠ some '"'
  scans : ∀ tail front, scan 0 ('\n' :: tail) = .done → IsQuiet front →
    (scan 0 (front ++ text)).strings?.isSome = true →
      scan 0 (front ++ (shown ++ '\n' :: tail)) = scan 0 (front ++ text)

/-- The empty text is shown as itself. -/
theorem IsShown.nil : IsShown margin [] [] := by
  refine ⟨fun tail => ?_, id, fun tail front last quiet whole => ?_⟩
  · rw [moved, List.nil_append]
    cases read 0 tail <;> rfl
  · exact scan_congr quiet (fun _ member => by cases member) (isBounded_feed _) whole fun _ => last

/-- A character outside of strings is shown as it is, unless it would open a substitution. -/
theorem IsShown.char {c : Char} {rest shown : List Char} (outside : IsOutside c) (feed : c ≠ '\n')
    (dollar : c = '$' → ∃ next after, rest = next :: after ∧ next ≠ '{')
    (others : IsShown margin rest shown) : IsShown margin (c :: rest) (c :: shown) := by
  have inner := outside.inner feed
  obtain ⟨_, quote, sign, slash, backtick⟩ := outside
  refine ⟨fun tail => ?_, id, fun tail front last quiet whole => ?_⟩
  · have carriage : c ≠ '\r' := by
      rintro rfl
      cases inner
    rw [moved_inner inner, List.map_cons]
    refine (read_char slash backtick carriage fun same opens => ?_).trans ?_
    · obtain ⟨next, after, rfl, brace⟩ := dollar same
      obtain ⟨more, shape⟩ := exists_moved_cons margin next after
      rw [shape] at opens
      have first := Option.some.inj opens
      split at first
      · cases first
      · exact brace first
    · exact (congrArg _ (others.reads tail)).trans (map_prepend [.char c] (shown.map .char) _)
  · have quietMore : IsQuiet (front ++ [c]) :=
      quiet.append fun d member => by
        rw [List.mem_singleton.1 member]
        exact ⟨quote, feed, sign⟩
    have same := others.scans tail (front ++ [c]) last quietMore
    simp only [List.append_assoc, List.singleton_append] at same
    exact same whole

/-- Blanks do nothing in a template literal. -/
theorem isInert_blanks {blanks : List Char} (blank : ∀ c ∈ blanks, c = ' ') :
    IsInert blanks ∧ '\r' ∉ blanks ∧ blanks.getLast? ≠ some '$' := by
  refine ⟨⟨fun member => ?_, fun member => ?_, fun inside => ?_⟩, fun member => ?_, fun last => ?_⟩
  · cases blank _ member
  · cases blank _ member
  · cases blank _ (inside.subset List.mem_cons_self)
  · cases blank _ member
  · cases blank _ (List.mem_of_getLast? last)

/-- A new line is shown with some blanks in front. -/
theorem IsShown.line (blank : ∀ c ∈ margin, c = ' ') {rest shown : List Char}
    (others : IsShown margin rest shown) :
    ∃ blanks, IsShown margin ('\n' :: rest) ('\n' :: (blanks ++ shown)) := by
  obtain ⟨blanks, inMargin, start⟩ := @moved_fresh margin rest
  have own : ∀ c ∈ blanks, c = ' ' := fun c member => blank c (inMargin member)
  obtain ⟨inert, carriage, dollar⟩ := isInert_blanks own
  refine ⟨blanks, ⟨fun tail => ?_, id, fun tail front last quiet whole => ?_⟩⟩
  · rw [moved_boundary rfl false (fun same => by cases same), start, List.cons_append,
      List.append_assoc, read_char (by decide) (by decide) (by decide) (fun same => by cases same),
      read_raw inert carriage (fun _ => dollar), others.reads, map_prepend, map_prepend,
      List.map_cons, List.map_append]
    rfl
  · refine scan_congr quiet (isBounded_feed _) (isBounded_feed _) whole fun whole => ?_
    rw [scan_separator rfl] at whole
    rw [List.cons_append, scan_separator rfl, scan_separator rfl, List.append_assoc,
      scan_blanks own]
    exact others.scans tail [] last (fun _ member => absurd member List.not_mem_nil) whole

/-- A string, given what it is read from in the document and in the literal. -/
theorem IsShown.literal {own inside rest shown : List Char} {token : Token}
    (others : IsShown margin rest shown)
    (reads : ∀ tail, Literal.read 0 (moved margin false ('"' :: (own ++ rest)) ++ tail) =
      (Literal.read 0 (moved margin false rest ++ tail)).map
        (prepend (('"' :: inside).map .char)))
    (first : Lexer.string (own ++ rest) = .ok (token, own.length))
    (second : ∀ tail, tail.head? ≠ some '"' →
      Lexer.string (inside ++ tail) = .ok (token, inside.length))
    (apart : rest.head? ≠ some '"') :
    IsShown margin ('"' :: (own ++ rest)) ('"' :: (inside ++ shown)) := by
  refine ⟨fun tail => ?_, fun same => absurd rfl same, fun tail front last quiet whole => ?_⟩
  · rw [reads, others.reads, map_prepend, ← List.map_append, List.cons_append]
  · refine scan_congr quiet (isBounded_quote _) (isBounded_quote _) whole fun whole => ?_
    have shownApart : (shown ++ '\n' :: tail).head? ≠ some '"' := by
      cases shown with
      | nil => exact fun same => by cases same
      | cons c shown => exact others.apart apart
    rw [scan_string first, Tokens.strings?, Option.isSome_map] at whole
    rw [List.cons_append, List.append_assoc, scan_string (second _ shownApart),
      scan_string first]
    exact congrArg _
      (others.scans tail [] last (fun _ member => absurd member List.not_mem_nil) whole)

/-- Escaped text does not begin with a quote. -/
theorem head_escaped (text : List Char) : (text.flatMap escapeChar).head? ≠ some '"' := by
  intro first
  cases text with
  | nil => cases first
  | cons c text =>
      rw [List.flatMap_cons] at first
      cases kind : isEscaped c with
      | true =>
          obtain ⟨spelled, written, _⟩ := escapeChar_spelled kind
          rw [written] at first
          cases first
      | false =>
          rw [escapeChar_raw kind] at first
          exact (isBare_of_isEscaped kind).1 (Option.some.inj first)

/-- Two quotes in a row would have to be the closing one and another behind it. -/
theorem not_empty_of_apart {own tail : List Char} (first : own.head? ≠ some '"')
    (apart : tail.head? ≠ some '"') : ¬['"', '"'] <+: own ++ '"' :: tail := by
  rintro ⟨after, same⟩
  cases own with
  | nil =>
      obtain ⟨_, next⟩ := List.cons.inj same
      exact apart (by rw [← next]; rfl)
  | cons c own => exact first (by rw [← (List.cons.inj same).1]; rfl)

/-- A plain string is shown as it is, and its value is read from there. -/
theorem IsShown.string {text : String} {rest shown : List Char}
    (plain : StringLiteral.IsPlain ⟨text, false⟩) (apart : rest.head? ≠ some '"')
    (others : IsShown margin rest shown) :
    IsShown margin ('"' :: (text.toList.flatMap escapeChar ++ '"' :: rest))
      ('"' :: (text.toList ++ '"' :: shown)) := by
  obtain ⟨inert, chars⟩ := plain
  have bare : ∀ c ∈ text.toList, IsBare c := by
    intro c member
    obtain ⟨quote, ends⟩ := chars c member
    refine ⟨quote, fun same => inert.slash (same ▸ member), ?_⟩
    simp only [isLineEnd, Bool.or_eq_false_iff, decide_eq_false_iff_not]
    constructor <;> (rintro rfl; cases ends)
  have noQuote : text.toList.head? ≠ some '"' :=
    fun first => (bare _ (List.mem_of_head? first)).1 rfl
  have quoted (own tail : List Char) : own ++ '"' :: tail = (own ++ ['"']) ++ tail := by simp
  have first : Lexer.string ((text.toList.flatMap escapeChar ++ ['"']) ++ rest) =
      .ok (.string text, (text.toList.flatMap escapeChar ++ ['"']).length) := by
    rw [← quoted, string_of_body (stringBody_escaped text.toList rest)
      (not_empty_of_apart (head_escaped _) apart), String.ofList_toList, List.length_append]
    rfl
  rw [quoted (text.toList.flatMap escapeChar), quoted text.toList]
  refine others.literal (fun tail => ?_) first (fun tail apart => ?_) apart
  · rw [← quoted, moved_inner (by decide), if_neg Bool.false_ne_true, List.nil_append,
      moved_escaped (fun c member => (chars c member).2), moved_inner (by decide),
      if_neg Bool.false_ne_true, List.nil_append, List.cons_append, List.append_assoc,
      List.cons_append, read_char (by decide) (by decide) (by decide) (fun same => by cases same),
      read_escaped inert.backtick inert.substitution,
      read_char (by decide) (by decide) (by decide) (fun same => by cases same), map_prepend,
      map_prepend]
    simp
  · rw [← quoted, string_of_body (stringBody_bare bare tail) (not_empty_of_apart noQuote apart),
      String.ofList_toList, List.length_append]
    rfl

/-- The quotes around a block string stay where they are. -/
theorem moved_block {body start : List Char} (shape : ∀ rest,
    moved margin false (body ++ '"' :: rest) = start ++ '"' :: moved margin false rest)
    (rest : List Char) : moved margin false (tripleQuote ++ (body ++ (tripleQuote ++ rest))) =
      tripleQuote ++ (start ++ (tripleQuote ++ moved margin false rest)) := by
  have closed : moved margin false (['"', '"'] ++ rest) = ['"', '"'] ++ moved margin false rest :=
    moved_line (by decide) rest
  rw [moved_line (by decide)]
  exact congrArg _ ((shape _).trans (congrArg (fun behind => start ++ '"' :: behind) closed))

/-- A plain block string is shown with another margin, and its value is read from there. -/
theorem IsShown.block (blank : ∀ c ∈ margin, c = ' ') {text : String}
    {body rest shown : List Char} (isBody : IsBlockBody text.toList body)
    (plain : StringLiteral.IsPlain ⟨text, true⟩) (apart : rest.head? ≠ some '"')
    (others : IsShown margin rest shown) :
    ∃ shifted, IsShown margin (tripleQuote ++ (body ++ (tripleQuote ++ rest)))
      (tripleQuote ++ (shifted ++ (tripleQuote ++ shown))) := by
  obtain ⟨inert, single, feeds⟩ := plain
  obtain ⟨shifted, inside, carriage, same, value, first, second⟩ :=
    (isBody.isPlain inert single feeds).exists_shifted blank
  have opened (body rest : List Char) : tripleQuote ++ (body ++ (tripleQuote ++ rest)) =
      '"' :: (('"' :: '"' :: (body ++ tripleQuote)) ++ rest) := by simp [tripleQuote]
  have closed (body rest : List Char) : ('"' :: '"' :: (body ++ tripleQuote)) ++ rest =
      '"' :: '"' :: (body ++ (tripleQuote ++ rest)) := by simp
  have found : Lexer.string (('"' :: '"' :: (body ++ tripleQuote)) ++ rest) =
      .ok (.blockString value, ('"' :: '"' :: (body ++ tripleQuote)).length) := by
    rw [closed, first, List.length_cons, List.length_cons, List.length_append]
    rfl
  refine ⟨shifted, ?_⟩
  rw [opened body, opened shifted]
  refine others.literal (fun tail => ?_) found (fun tail _ => ?_) apart
  · have whole : IsInert tripleQuote := by decide
    rw [← opened, moved_block same, List.append_assoc, List.append_assoc, List.append_assoc,
      read_raw whole (by decide) (fun _ => by decide),
      read_raw inside carriage (fun opens => by cases opens),
      read_raw whole (by decide) (fun _ => by decide), map_prepend, map_prepend]
    simp [tripleQuote]
  · rw [closed, second, List.length_cons, List.length_cons, List.length_append]
    rfl

/-- **Plain documents.** In a template literal a text with plain strings has the same tokens. -/
theorem Printed.exists_shown (blank : ∀ c ∈ margin, c = ' ') {text : List Char}
    {strings : List StringLiteral} (printed : Printed text strings)
    (plain : ∀ literal ∈ strings, literal.IsPlain) : ∃ shown, IsShown margin text shown := by
  induction printed with
  | nil => exact ⟨[], .nil⟩
  | @char c rest strings outside dollar _ ih =>
      obtain ⟨shown, others⟩ := ih plain
      by_cases feed : c = '\n'
      · subst feed
        obtain ⟨blanks, line⟩ := others.line blank
        exact ⟨_, line⟩
      · exact ⟨_, others.char outside feed dollar⟩
  | string apart _ ih =>
      obtain ⟨own, plain⟩ := List.forall_mem_cons.1 plain
      obtain ⟨shown, others⟩ := ih plain
      exact ⟨_, others.string own apart⟩
  | block isBody apart _ ih =>
      obtain ⟨own, plain⟩ := List.forall_mem_cons.1 plain
      obtain ⟨shown, others⟩ := ih plain
      obtain ⟨shifted, whole⟩ := others.block blank isBody own apart
      exact ⟨_, whole⟩

/-! ## What is read back -/

/-- Blanks cook to themselves. -/
theorem cooks_of_blanks {blanks rest : List Char} {parts : List LiteralPart}
    (own : ∀ c ∈ blanks, c = ' ') (cooks : Cooks (blanks ++ rest) parts)
    (unsubstituted : substitutions parts = []) :
    ∃ others, parts = blanks.map .char ++ others ∧ Cooks rest others ∧
      substitutions others = [] := by
  induction blanks generalizing parts with
  | nil => exact ⟨parts, rfl, cooks, unsubstituted⟩
  | cons c blanks ih =>
      obtain rfl := own c List.mem_cons_self
      obtain ⟨others, rfl, cooks, unsubstituted, _⟩ := cooks.of_raw (by decide) unsubstituted
      obtain ⟨others, rfl, behind⟩ := ih (fun d member => own d (List.mem_cons_of_mem _ member))
        cooks unsubstituted
      exact ⟨others, rfl, behind⟩

/-- The strings are plain if they are read from the text in a template literal, whatever quiet text
stands in front. -/
def PlainIfRead (margin text : List Char) (strings : List StringLiteral) : Prop :=
  ∀ parts front tail, Cooks (moved margin false text ++ ['\n']) parts → substitutions parts = [] →
    IsQuiet front → (scan 0 (front ++ (blanked parts ++ tail))).strings? = some strings →
      ∀ literal ∈ strings, literal.IsPlain

namespace PlainIfRead

variable {rest : List Char} {strings : List StringLiteral}

/-- The margin behind a line feed is read for itself. -/
theorem feed (blank : ∀ c ∈ margin, c = ' ') (others : PlainIfRead margin rest strings) :
    PlainIfRead margin ('\n' :: rest) strings := by
  intro parts front tail cooks unsubstituted quiet whole
  obtain ⟨blanks, inMargin, start⟩ := @moved_fresh margin rest
  have own : ∀ c ∈ blanks, c = ' ' := fun c member => blank c (inMargin member)
  rw [moved_boundary rfl false (fun same => by cases same), start, List.cons_append,
    List.append_assoc] at cooks
  obtain ⟨parts, rfl, cooks, unsubstituted, _⟩ := cooks.of_raw (by decide) unsubstituted
  obtain ⟨behind, rfl, cooks, unsubstituted⟩ := cooks_of_blanks own cooks unsubstituted
  rw [blanked_char, blanked_append, blanked_chars, List.cons_append, List.append_assoc] at whole
  have line := strings_of_front quiet (isBounded_feed _) whole
  rw [scan_separator rfl] at line
  exact others behind blanks tail cooks unsubstituted (isQuiet_blanks own) line

/-- A character outside of strings leaves the strings behind it plain. -/
theorem char {c : Char} (outside : IsOutside c) (feed : c ≠ '\n')
    (others : PlainIfRead margin rest strings) : PlainIfRead margin (c :: rest) strings := by
  intro parts front tail cooks unsubstituted quiet whole
  obtain ⟨_, quote, sign, slash, _⟩ := id outside
  rw [moved_inner (outside.inner feed), if_neg Bool.false_ne_true, List.nil_append,
    List.cons_append] at cooks
  obtain ⟨parts, rfl, cooks, unsubstituted, _⟩ := cooks.of_raw slash unsubstituted
  refine others parts (front ++ [c]) tail cooks unsubstituted (quiet.append fun d member => ?_) ?_
  · rw [List.mem_singleton.1 member]
    exact ⟨quote, feed, sign⟩
  · rw [List.append_assoc]
    exact whole

/-- A string that is read as its value is plain, and so are those behind it. -/
theorem string {text : String} (others : PlainIfRead margin rest strings) :
    PlainIfRead margin ('"' :: (text.toList.flatMap escapeChar ++ '"' :: rest))
      (⟨text, false⟩ :: strings) := by
  intro parts front tail cooks unsubstituted quiet whole
  rw [moved_inner (by decide), if_neg Bool.false_ne_true, List.nil_append,
    List.cons_append] at cooks
  obtain ⟨parts, rfl, cooks, unsubstituted, _⟩ := cooks.of_raw (by decide) unsubstituted
  obtain ⟨count, found, behind⟩ :=
    strings_quote (strings_of_front quiet (isBounded_quote _) whole)
  obtain ⟨own, after, cooks, unsubstituted, same⟩ := plain_of_string cooks unsubstituted found
  change (scan 0 ((blanked parts ++ tail).drop count)).strings? = some strings at behind
  rw [same] at behind
  exact List.forall_mem_cons.2
    ⟨own, others after [] tail cooks unsubstituted (fun _ member => absurd member List.not_mem_nil)
      behind⟩

/-- A block string that is read as its value is plain, and so are those behind it. -/
theorem block (blank : ∀ c ∈ margin, c = ' ') {text : String} {body : List Char}
    (isBody : IsBlockBody text.toList body) (others : PlainIfRead margin rest strings) :
    PlainIfRead margin (tripleQuote ++ (body ++ (tripleQuote ++ rest)))
      (⟨text, true⟩ :: strings) := by
  intro parts front tail cooks unsubstituted quiet whole
  obtain ⟨start, shape⟩ := @moved_append_inner margin '"' (by decide) false body
  rw [moved_block shape, List.append_assoc, List.append_assoc, List.append_assoc] at cooks
  obtain ⟨parts, rfl, cooks, unsubstituted, _⟩ := cooks.of_raw (by decide) unsubstituted
  obtain ⟨parts, rfl, cooks, unsubstituted, _⟩ := cooks.of_raw (by decide) unsubstituted
  obtain ⟨parts, rfl, cooks, unsubstituted, _⟩ := cooks.of_raw (by decide) unsubstituted
  obtain ⟨before, after, rfl, first, cooks⟩ := cooks.at_quote
  rw [substitutions_append] at unsubstituted
  obtain ⟨inside, unsubstituted⟩ := List.append_eq_nil_iff.1 unsubstituted
  change substitutions after = [] at unsubstituted
  obtain ⟨after, rfl, cooks, unsubstituted, _⟩ := cooks.of_raw (by decide) unsubstituted
  obtain ⟨after, rfl, cooks, unsubstituted, _⟩ := cooks.of_raw (by decide) unsubstituted
  obtain ⟨count, found, behind⟩ :=
    strings_quote (strings_of_front quiet (isBounded_quote _) whole)
  have literal : blanked (before ++ .char '"' :: .char '"' :: .char '"' :: after) ++ tail =
      blanked before ++ (tripleQuote ++ (blanked after ++ tail)) := by
    rw [blanked_append, List.append_assoc]
    rfl
  have embedded : EmbeddedBlock margin text.toList body start before :=
    ⟨isBody, blank, shape, first, inside⟩
  change Lexer.string ('"' :: '"' :: (blanked _ ++ tail)) = _ at found
  change (scan 0 (('"' :: '"' :: (blanked _ ++ tail)).drop count)).strings? = some strings
    at behind
  rw [literal] at found behind
  obtain ⟨own, _, same⟩ := embedded.plain found
  rw [same] at behind
  exact List.forall_mem_cons.2
    ⟨own, others after [] tail cooks unsubstituted (fun _ member => absurd member List.not_mem_nil)
      behind⟩

end PlainIfRead

/-- **Read back.** If the strings of a document are read from its text in a template literal, they
are plain. -/
theorem Printed.plain (blank : ∀ c ∈ margin, c = ' ') {text : List Char}
    {strings : List StringLiteral} (printed : Printed text strings) {parts : List LiteralPart}
    {front tail : List Char} (cooks : Cooks (moved margin false text ++ ['\n']) parts)
    (unsubstituted : substitutions parts = []) (quiet : IsQuiet front)
    (whole : (scan 0 (front ++ (blanked parts ++ tail))).strings? = some strings) :
    ∀ literal ∈ strings, literal.IsPlain := by
  have plainIfRead : PlainIfRead margin text strings := by
    clear cooks unsubstituted quiet whole
    induction printed with
    | nil => exact fun _ _ _ _ _ _ _ _ member => absurd member List.not_mem_nil
    | @char c _ _ outside _ _ ih =>
        by_cases feed : c = '\n'
        · subst feed
          exact .feed blank ih
        · exact .char outside feed ih
    | string _ _ ih => exact .string ih
    | block isBody _ _ ih => exact .block blank isBody ih
  exact plainIfRead parts front tail cooks unsubstituted quiet whole

end TypedClient.Document

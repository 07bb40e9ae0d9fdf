import TypedClient.Proofs.Document.Plain
import TypedClient.Proofs.Template.Cooked

/-! # Strings in a template literal

What becomes of a printed string in a template literal, where its lines are moved and its escapes
are resolved. A string without terminators is laid bare (`read_escaped`). If a quote or a terminator
is laid bare with it, the string is cut short there, so only plain strings are read back
(`plain_of_string`).
-/

namespace TypedClient.Document

open Text Template Literal

/-- A printable character ends no line. -/
theorem inner_of_graphic {c : Char} (graphic : IsGraphic c) : isLineBoundary c = false := by
  obtain ⟨low, high⟩ := graphic
  simp only [isLineBoundary, List.mem_cons, List.not_mem_nil, or_false, decide_eq_false_iff_not]
  omega

/-- The line boundaries that are not escaped are terminators beyond ASCII. -/
theorem terminator_of_boundary {c : Char} (raw : isEscaped c = false)
    (boundary : isLineBoundary c = true) : isLineTerminator c = true := by
  simp only [isEscaped, Bool.or_eq_false_iff, Bool.and_eq_false_iff, decide_eq_false_iff_not] at raw
  simp only [isLineBoundary, List.mem_cons, List.not_mem_nil, or_false, decide_eq_true_eq]
    at boundary
  simp only [isLineTerminator, List.mem_cons, List.not_mem_nil, or_false, decide_eq_true_eq]
  omega

theorem raw_of_terminator {c : Char} (terminator : isLineTerminator c = true)
    (bare : Lexer.IsBare c) : isEscaped c = false ∧ isLineBoundary c = true := by
  obtain ⟨quote, slash, ends⟩ := bare
  simp only [Lexer.isLineEnd, Bool.or_eq_false_iff, decide_eq_false_iff_not] at ends
  simp only [isLineTerminator, List.mem_cons, List.not_mem_nil, or_false, decide_eq_true_eq]
    at terminator
  have other {d : Char} (differs : c ≠ d) : c.toNat ≠ d.toNat :=
    fun same => differs (Char.toNat_inj.1 same)
  have feed : c.toNat ≠ 0x0a := other ends.1
  have carriage : c.toNat ≠ 0x0d := other ends.2
  constructor
  · simp only [isEscaped, Bool.or_eq_false_iff, Bool.and_eq_false_iff, decide_eq_false_iff_not]
    exact ⟨⟨⟨quote, slash⟩, by omega⟩, .inr (by omega)⟩
  · simp only [isLineBoundary, List.mem_cons, List.not_mem_nil, or_false, decide_eq_true_eq]
    omega

variable {margin : List Char}

/-! ## Between single quotes -/

/-- The escapes of a text without terminators are resolved. -/
theorem read_escaped {text : List Char} (backtick : '`' ∉ text)
    (substitution : ¬['$', '{'] <:+: text) (rest : List Char) :
    read 0 (text.flatMap escapeChar ++ '"' :: rest) =
      (read 0 ('"' :: rest)).map (prepend (text.map .char)) := by
  induction text with
  | nil =>
      rw [List.flatMap_nil, List.nil_append]
      cases read 0 ('"' :: rest) <;> rfl
  | cons c text ih =>
      have others := ih (fun member => backtick (List.mem_cons_of_mem _ member))
        fun inside => substitution (List.infix_cons inside)
      rw [List.flatMap_cons, List.append_assoc, List.map_cons]
      refine Eq.trans ?_ (map_prepend [.char c] (text.map .char) _)
      rw [← others]
      cases kind : isEscaped c with
      | true =>
          obtain ⟨spelled, written, spells⟩ := escapeChar_spelled kind
          rw [written, List.cons_append, read_spelled spells.template]
      | false =>
          rw [escapeChar_raw kind, List.singleton_append]
          refine read_char ?_ ?_ ?_ ?_
          · rintro rfl
            cases kind
          · rintro rfl
            exact backtick List.mem_cons_self
          · rintro rfl
            cases kind
          · rintro rfl opens
            cases text with
            | nil => cases opens
            | cons d text =>
                rw [List.flatMap_cons] at opens
                cases next : isEscaped d with
                | true =>
                    obtain ⟨spelled, written, _⟩ := escapeChar_spelled next
                    rw [written] at opens
                    cases opens
                | false =>
                    rw [escapeChar_raw next] at opens
                    obtain rfl := Option.some.inj opens
                    exact substitution ⟨[], text, rfl⟩

/-- An escaped text stays on its line. -/
theorem moved_escaped {text : List Char} (inner : ∀ c ∈ text, isLineTerminator c = false)
    (rest : List Char) : moved margin false (text.flatMap escapeChar ++ rest) =
      text.flatMap escapeChar ++ moved margin false rest := by
  refine moved_line (fun c member => ?_) rest
  obtain ⟨d, inside, own⟩ := List.mem_flatMap.1 member
  cases kind : isEscaped d with
  | true =>
      obtain ⟨spelled, written, spells⟩ := escapeChar_spelled kind
      rw [written] at own
      rcases List.mem_cons.1 own with rfl | own
      · rfl
      · exact inner_of_graphic (spells.graphic c own)
  | false =>
      rw [escapeChar_raw kind, List.mem_singleton] at own
      subst own
      rw [← Bool.not_eq_true]
      intro boundary
      have terminator := terminator_of_boundary kind boundary
      rw [inner c inside] at terminator
      cases terminator

/-- The parts are the characters of the text and a quote, and what becomes of the text behind. No
line boundary is in the text. -/
def ReadsWhole (behind text : List Char) (parts : List LiteralPart) : Prop :=
  ∃ others, parts = text.map .char ++ .char '"' :: others ∧ Cooks behind others ∧
    substitutions others = [] ∧ '`' ∉ text ∧ ¬['$', '{'] <:+: text ∧
    ∀ c ∈ text, isEscaped c = false → isLineBoundary c = false

/-- Somewhere in the text the parts go on with a line feed. -/
def ReadsCut (text : List Char) (parts : List LiteralPart) : Prop :=
  ∃ front c others left, text = front ++ c :: others ∧
    parts = front.map .char ++ .char '\n' :: left

/-- One more plain character is read with the whole text. -/
theorem ReadsWhole.cons {behind text : List Char} {parts : List LiteralPart} {c : Char}
    (whole : ReadsWhole behind text parts) (noBacktick : c ≠ '`')
    (dollar : c = '$' → text.head? ≠ some '{')
    (line : isEscaped c = false → isLineBoundary c = false) :
    ReadsWhole behind (c :: text) (.char c :: parts) := by
  obtain ⟨others, rfl, tail, free, backtick, substitution, lines⟩ := whole
  refine ⟨others, rfl, tail, free, ?_, fun inside => ?_, List.forall_mem_cons.2 ⟨line, lines⟩⟩
  · exact fun member => (List.mem_cons.1 member).elim (Ne.symm noBacktick) backtick
  · rcases List.infix_cons_iff.1 inside with ⟨after, start⟩ | inside
    · obtain ⟨rfl, rfl⟩ := List.cons.inj start
      exact dollar rfl rfl
    · exact substitution inside

/-- One more character in front does not make a text whole that is cut. -/
theorem ReadsCut.cons {text : List Char} {parts : List LiteralPart} (cut : ReadsCut text parts)
    (c : Char) : ReadsCut (c :: text) (.char c :: parts) := by
  obtain ⟨front, d, others, left, rfl, rfl⟩ := cut
  exact ⟨c :: front, d, others, left, rfl, rfl⟩

/-- What a literal makes of an escaped text: the text itself if no line boundary is in it, and only
its beginning and a line feed otherwise. -/
theorem cooks_escaped {text rest more : List Char} {parts : List LiteralPart}
    (cooks : Cooks (moved margin false (text.flatMap escapeChar ++ '"' :: rest) ++ more) parts)
    (unsubstituted : substitutions parts = []) :
    ReadsWhole (moved margin false rest ++ more) text parts ∨ ReadsCut text parts := by
  induction text generalizing parts with
  | nil =>
      rw [List.flatMap_nil, List.nil_append, moved_inner (by decide)] at cooks
      obtain ⟨others, rfl, tail, free, _⟩ := cooks.of_raw (by decide) unsubstituted
      exact .inl ⟨others, rfl, tail, free, List.not_mem_nil, by decide,
        fun _ member => absurd member List.not_mem_nil⟩
  | cons c text ih =>
      rw [List.flatMap_cons, List.append_assoc] at cooks
      cases kind : isEscaped c with
      | true =>
          obtain ⟨spelled, written, spells⟩ := escapeChar_spelled kind
          have inner : ∀ d ∈ '\\' :: spelled, isLineBoundary d = false :=
            List.forall_mem_cons.2 ⟨rfl, fun d member => inner_of_graphic (spells.graphic d member)⟩
          rw [written, moved_line inner, List.cons_append, List.cons_append,
            List.append_assoc] at cooks
          obtain ⟨others, rfl, tail, free⟩ := cooks.of_spelled spells.template unsubstituted
          refine (ih tail free).imp (fun whole => whole.cons ?_ ?_ ?_) (·.cons c)
          · rintro rfl
            cases kind
          · rintro rfl
            cases kind
          · exact fun raw => by rw [kind] at raw; cases raw
      | false =>
          rw [escapeChar_raw kind, List.singleton_append] at cooks
          have noSlash : c ≠ '\\' := by
            rintro rfl
            cases kind
          cases boundary : isLineBoundary c with
          | true =>
              rw [moved_boundary boundary false (fun carriage => by
                subst carriage
                cases kind)] at cooks
              obtain ⟨others, rfl, _⟩ := cooks.of_raw (by decide) unsubstituted
              exact .inr ⟨[], c, text, others, rfl, rfl⟩
          | false =>
              rw [moved_inner boundary] at cooks
              obtain ⟨others, rfl, tail, free, backtick, dollar⟩ :=
                cooks.of_raw noSlash unsubstituted
              refine (ih tail free).imp
                (fun whole => whole.cons backtick (fun same first => ?_) fun _ => boundary)
                (·.cons c)
              obtain ⟨after, rfl⟩ := List.head?_eq_some_iff.1 first
              have brace : isLineBoundary '{' = false := rfl
              exact dollar same
                (congrArg (fun text => (text ++ more).head?) (moved_inner brace false _))

/-- The value of a string that is read from between single quotes. -/
theorem stringBody_of_string {rest : List Char} {text : String} {count : Nat}
    (found : Lexer.string rest = .ok (.string text, count)) :
    Lexer.stringBody 0 rest = .ok (text.toList, count) := by
  unfold Lexer.string at found
  split at found
  · split at found
    · cases found
    · cases found
  · obtain ⟨⟨value, _⟩, body, same⟩ := bind_eq_ok.1 found
    cases same
    rw [body, String.toList_ofList]

/-- **Strings.** A string that is read back is plain, and the reader stops behind it. -/
theorem plain_of_string {text : String} {rest more tail : List Char} {parts : List LiteralPart}
    {count : Nat}
    (cooks : Cooks (moved margin false (text.toList.flatMap escapeChar ++ '"' :: rest) ++ more)
      parts) (unsubstituted : substitutions parts = [])
    (found : Lexer.string (blanked parts ++ tail) = .ok (.string text, count)) :
    StringLiteral.IsPlain ⟨text, false⟩ ∧ ∃ others, Cooks (moved margin false rest ++ more) others ∧
      substitutions others = [] ∧ (blanked parts ++ tail).drop count = blanked others ++ tail := by
  have body := stringBody_of_string found
  rcases cooks_escaped cooks unsubstituted with
    ⟨others, rfl, behind, none, backtick, substitution, lines⟩ | ⟨front, c, others, left, own, rfl⟩
  · rw [blanked_append, blanked_chars, blanked_char, List.append_assoc, List.cons_append] at body ⊢
    obtain ⟨_, _, bare⟩ := @Lexer.bare_of_stringBody '"' (.inl rfl) text.toList [] _ _
      (by rw [List.append_nil]; exact body)
    rw [Lexer.stringBody_bare bare] at body
    cases body
    refine ⟨⟨⟨fun member => (bare _ member).2.1 rfl, backtick, substitution⟩, fun c member =>
      ⟨(bare c member).1, ?_⟩⟩, others, behind, none, ?_⟩
    · rw [← Bool.not_eq_true]
      intro terminator
      obtain ⟨raw, boundary⟩ := raw_of_terminator terminator (bare c member)
      rw [lines c member raw] at boundary
      cases boundary
    · rw [← List.singleton_append, ← List.append_assoc]
      exact List.drop_left' (by simp)
  · rw [blanked_append, blanked_chars, blanked_char, List.append_assoc, List.cons_append,
      own] at body
    obtain ⟨quote, _⟩ := Lexer.bare_of_stringBody (.inr rfl) body
    cases quote

end TypedClient.Document

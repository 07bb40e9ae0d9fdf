import TypedClient.Proofs.Document.BlockCount
import TypedClient.Proofs.Document.Plain
import TypedClient.Proofs.Template.Cooked

/-! # Block strings in a template literal

A block string loses characters with every escape and with every line boundary that is no line feed,
and none come in from behind its closing quotes without quotes that its text does not have. So a
block string is read back only if it is plain (`EmbeddedBlock.plain`).
-/

namespace TypedClient.Document

open Text Template Literal

/-! ## What is kept on the way into the literal -/

section Weight

variable {margin : List Char} (blank : ∀ c ∈ margin, c = ' ')

include blank

/-- Blanks weigh nothing. -/
theorem weight_blanks (text : List Char) : weight (margin ++ text) = weight text := by
  induction margin with
  | nil => rfl
  | cons c margin ih =>
      obtain rfl := blank c List.mem_cons_self
      rw [List.cons_append, weight, ih fun d member => blank d (List.mem_cons_of_mem _ member)]
      exact Nat.zero_add _

/-- Text that is moved to the right is no heavier. -/
theorem weight_moved (fresh : Bool) (text : List Char) :
    weight (moved margin fresh text) ≤ weight text := by
  have feed (rest : List Char) : weight ('\n' :: rest) = weight rest := Nat.zero_add _
  induction fresh, text using moved.induct with
  | case1 fresh => exact Nat.le_refl _
  | case2 fresh rest ih =>
      have later := weight_le_append ['\r', '\n'] rest
      rw [moved, feed]
      exact Nat.le_trans ih later
  | case3 fresh c rest pair boundary ih =>
      have later := weight_le_append [c] rest
      rw [moved, if_pos boundary, feed]
      · exact Nat.le_trans ih later
      · exact fun after carriage => pair after carriage
  | case4 fresh c rest pair inner ih =>
      have front : ∀ d ∈ (if fresh then margin else []), d = ' ' := by
        cases fresh with
        | false => exact fun _ member => absurd member List.not_mem_nil
        | true => exact blank
      have quoted (first : rest.head? = some '"') :
          (moved margin false rest).head? = some '"' := by
        obtain ⟨others, rfl⟩ := List.head?_eq_some_iff.1 first
        rw [moved_inner (by decide)]
        rfl
      rw [moved_inner (Bool.eq_false_iff.2 inner), weight_blanks front, weight, weight]
      refine Nat.add_le_add ?_ ih
      split
      · next counted =>
        rw [if_pos ⟨counted.1, fun both => counted.2 ⟨both.1, quoted both.2⟩⟩]
      · exact Nat.zero_le _

theorem weight_indentAfterNewlines (text : List Char) :
    weight (indentAfterNewlines margin text) = weight text := by
  induction text with
  | nil => rfl
  | cons c text ih =>
      rw [indentAfterNewlines]
      split
      · next feed =>
        subst feed
        rw [weight, weight_blanks blank, ih]
        rfl
      · rw [weight, weight, ih, head_indentAfterNewlines]

/-- What does not count blanks does not notice a margin. -/
theorem countP_indentAfterNewlines {holds : Char → Bool} (blanks : holds ' ' = false)
    (text : List Char) :
    (indentAfterNewlines margin text).countP holds = text.countP holds := by
  have inMargin : margin.countP holds = 0 := by
    refine List.countP_eq_zero.2 fun c member => ?_
    rw [blank c member, blanks]
    exact Bool.false_ne_true
  induction text with
  | nil => rfl
  | cons c text ih =>
      rw [indentAfterNewlines]
      split
      · rw [List.countP_cons, List.countP_append, inMargin, ih, List.countP_cons, Nat.zero_add]
      · rw [List.countP_cons, ih, List.countP_cons]

/-- No quote is lost or added when a text is moved to the right. -/
theorem quotes_moved (fresh : Bool) (text : List Char) :
    (moved margin fresh text).countP (· = '"') = text.countP (· = '"') := by
  have blanks : ∀ c ∈ margin, decide (c = '"') = false := by
    intro c member
    rw [blank c member]
    rfl
  rw [countP_moved blanks rfl]
  congr 1
  funext c
  by_cases same : c = '"'
  · subst same
    rfl
  · simp [same]

end Weight

variable {margin : List Char}

/-- A run of characters inside of a line is kept. -/
theorem run_kept {run text own : List Char} (filled : run ≠ [])
    (inner : ∀ c ∈ run, isLineBoundary c = false) (inside : run <:+: text) :
    ∃ front rest, moved margin false (indentAfterNewlines own text ++ ['"']) =
      front ++ run ++ moved margin false (rest ++ ['"']) := by
  obtain ⟨before, after, rfl⟩ := inside
  obtain ⟨c, others, rfl⟩ := List.exists_cons_of_ne_nil filled
  have line : '\n' ∉ c :: others := fun member => by cases inner _ member
  obtain ⟨front, same⟩ := moved_append_inner (inner c List.mem_cons_self) false
    (indentAfterNewlines own before)
  refine ⟨front, indentAfterNewlines own after, ?_⟩
  rw [indentAfterNewlines_append, indentAfterNewlines_append, indentAfterNewlines_inner line,
    List.append_assoc, List.append_assoc, List.cons_append, same,
    moved_line fun d member => inner d (List.mem_cons_of_mem _ member)]
  simp

/-! ## Escaped quotes -/

/-- The backslashes in front of three quotes have no weight. -/
theorem weight_escapeQuotes (text rest : List Char) :
    weight (BlockString.escapeQuotes text ++ rest) ≤ text.countP isSolid + weight rest := by
  fun_induction BlockString.escapeQuotes text with
  | case1 others ih =>
      have quote (behind : List Char) : weight ('"' :: behind) = weight behind + 1 := by
        rw [weight, if_pos ⟨rfl, fun both => by cases both.1⟩, Nat.add_comm]
      have slash (behind : List Char) : weight ('\\' :: '"' :: behind) = weight ('"' :: behind) :=
        Nat.zero_add _
      rw [List.cons_append, List.cons_append, List.cons_append, List.cons_append, slash, quote,
        quote, quote, List.countP_cons_of_pos (by decide), List.countP_cons_of_pos (by decide),
        List.countP_cons_of_pos (by decide)]
      omega
  | case2 c others _ ih =>
      rw [List.cons_append, weight, List.countP_cons]
      split
      · next counted =>
        rw [if_pos counted.1]
        omega
      · omega
  | case3 => exact Nat.le_add_left _ _

/-- No quote is lost or added when quotes are escaped. -/
theorem quotes_escapeQuotes (text : List Char) :
    (BlockString.escapeQuotes text).countP (· = '"') = text.countP (· = '"') := by
  fun_induction BlockString.escapeQuotes text with
  | case1 others ih =>
      rw [List.countP_cons_of_neg (by decide), List.countP_cons, List.countP_cons,
        List.countP_cons, ih, List.countP_cons, List.countP_cons, List.countP_cons]
  | case2 c others _ ih => rw [List.countP_cons, ih, List.countP_cons]
  | case3 => rfl

theorem triple_escapeQuotes {text : List Char} (triple : tripleQuote <:+: text) :
    tripleQuote <:+: BlockString.escapeQuotes text := by
  fun_induction BlockString.escapeQuotes text with
  | case1 others ih => exact ⟨['\\'], BlockString.escapeQuotes others, rfl⟩
  | case2 c others none ih =>
      rcases List.infix_cons_iff.1 triple with ⟨after, start⟩ | inside
      · obtain ⟨rfl, rfl⟩ := List.cons.inj start
        exact absurd rfl (none after rfl)
      · exact List.infix_cons (ih inside)
  | case3 => exact triple

/-! ## Reading back -/

/-- A block string is read as the value of its lines. -/
theorem blockBody_of_string {rest : List Char} {value : String} {count : Nat}
    (found : Lexer.string ('"' :: '"' :: rest) = .ok (.blockString value, count)) :
    ∃ lines further, Lexer.blockBody? rest = some (lines, further) ∧
      ((BlockString.value lines).intersperse ['\n']).flatten = value.toList := by
  rw [Lexer.string] at found
  cases own : Lexer.blockBody? rest with
  | none => rw [own] at found; cases found
  | some pair =>
      obtain ⟨lines, further⟩ := pair
      rw [own] at found
      have same := (Prod.mk.inj (Except.ok.inj found)).1
      exact ⟨lines, further, rfl, by rw [← Token.blockString.inj same, String.toList_ofList]⟩

/-- A block string that is read holds of its lines all but blanks and line feeds. -/
theorem countP_of_string {holds : Char → Bool} {lines : List (List Char)} {value : List Char}
    (joined : ((BlockString.value lines).intersperse ['\n']).flatten = value)
    (space : holds ' ' = false) (tab : holds '\t' = false) (feed : holds '\n' = false) :
    value.countP holds = lines.flatten.countP holds := by
  have blanks : ∀ c, BlockString.isBlank c = true → holds c = false := by
    intro c blank
    simp only [BlockString.isBlank, Bool.or_eq_true, decide_eq_true_eq] at blank
    rcases blank with rfl | rfl
    · exact space
    · exact tab
  rw [← joined, countP_joined feed, BlockString.countP_value blanks]

/-- What a block string becomes in a literal, up to its closing quotes, and what is read from it. -/
structure EmbeddedBlock (margin text body start : List Char) (before : List LiteralPart) :
    Prop where
  isBody : IsBlockBody text body
  blank : ∀ c ∈ margin, c = ' '
  moved : ∀ rest, moved margin false (body ++ '"' :: rest) =
    start ++ '"' :: moved margin false rest
  cooks : Cooks (start ++ ['"']) (before ++ [.char '"'])
  unsubstituted : substitutions before = []

namespace EmbeddedBlock

variable {text body start : List Char} {before : List LiteralPart}

theorem start_eq (block : EmbeddedBlock margin text body start before) :
    start ++ ['"'] = Text.moved margin false (body ++ ['"']) :=
  (block.moved []).symm

/-- Quotes are kept. -/
theorem quotes_le (block : EmbeddedBlock margin text body start before) :
    text.countP (· = '"') ≤ (blanked before).countP (· = '"') := by
  obtain ⟨own, opened, closed, blank, _, _, rfl⟩ := block.isBody
  have kept := block.cooks.quotes_le
  rw [block.start_eq, quotes_moved block.blank, List.countP_append,
    countP_indentAfterNewlines blank rfl, List.countP_append, List.countP_append,
    quotes_escapeQuotes, blanked_append, List.countP_append, blanked_char, blanked_nil] at kept
  omega

/-- No more solid characters are left than the text has. -/
theorem solid_le (block : EmbeddedBlock margin text body start before) :
    (blanked before).countP isSolid ≤ text.countP isSolid := by
  obtain ⟨own, opened, closed, blank, opens, closes, rfl⟩ := block.isBody
  have lost := block.cooks.weight_le
  rw [block.start_eq, blanked_append, List.countP_append, blanked_char, blanked_nil] at lost
  have ends : weight (closed ++ ['"']) = 1 := by
    rcases closes with ⟨rfl, _⟩ | rfl <;> rfl
  have whole : indentAfterNewlines own
      (opened ++ BlockString.escapeQuotes text ++ closed) ++ ['"'] =
      indentAfterNewlines own
        (opened ++ (BlockString.escapeQuotes text ++ (closed ++ ['"']))) := by
    rw [← List.append_assoc, ← List.append_assoc, indentAfterNewlines_append _ _ ['"']]
    rfl
  have start : weight (opened ++ (BlockString.escapeQuotes text ++ (closed ++ ['"']))) =
      weight (BlockString.escapeQuotes text ++ (closed ++ ['"'])) := by
    rcases opens with rfl | rfl
    · rfl
    · exact Nat.zero_add _
  have escaped := weight_escapeQuotes text (closed ++ ['"'])
  have shifted := weight_moved block.blank false (indentAfterNewlines own
    (opened ++ BlockString.escapeQuotes text ++ closed) ++ ['"'])
  have quote : ['"'].countP isSolid = 1 := rfl
  rw [whole, weight_indentAfterNewlines blank, start] at shifted
  rw [whole] at lost
  omega

/-- Three quotes in a row are kept. -/
theorem triple_kept (block : EmbeddedBlock margin text body start before)
    (triple : tripleQuote <:+: text) : tripleQuote <:+: blanked before := by
  obtain ⟨own, opened, closed, blank, _, _, rfl⟩ := block.isBody
  have inside : tripleQuote <:+: opened ++ BlockString.escapeQuotes text ++ closed :=
    (triple_escapeQuotes triple).trans ⟨opened, closed, rfl⟩
  obtain ⟨front, rest, same⟩ := run_kept (by decide) (by decide) inside
  have cooks := block.cooks
  rw [block.start_eq, same, List.append_assoc] at cooks
  obtain ⟨first, last, split, behind⟩ := cooks.at_triple (by
    rw [substitutions_append, block.unsubstituted]
    rfl)
  -- The quote behind the text is a fourth one.
  change Cooks (Text.moved margin false (rest ++ ['"'])) last at behind
  have quoted := behind.quotes_le
  rw [quotes_moved block.blank, List.countP_append] at quoted
  have filled : last ≠ [] := by
    rintro rfl
    rw [blanked_nil, List.countP_nil] at quoted
    exact absurd quoted (by simp)
  obtain ⟨others, final, rfl⟩ := (List.eq_nil_or_concat last).resolve_left filled
  rw [List.concat_eq_append, ← List.append_assoc] at split
  have whole := (List.append_inj' split rfl).1
  rw [whole, blanked_append, blanked_append, blanked_chars]
  exact ⟨blanked first, blanked others, rfl⟩

/-- Without three quotes in a row, the solid characters up to the closing quotes are those of the
text that are no line boundaries. -/
theorem solid_start (block : EmbeddedBlock margin text body start before)
    (single : ¬tripleQuote <:+: text) :
    start.countP isSolid = text.countP fun c => isSolid c && !isLineBoundary c := by
  obtain ⟨own, opened, closed, blank, opens, closes, rfl⟩ := block.isBody
  have whole := congrArg (List.countP isSolid) block.start_eq
  have blanks : ∀ c ∈ margin, isSolid c = false := by
    intro c member
    rw [block.blank c member]
    rfl
  have line {feeds : List Char} (shape : feeds = [] ∨ feeds = ['\n']) :
      (feeds.countP fun c => isSolid c && !isLineBoundary c) = 0 := by
    rcases shape with rfl | rfl <;> rfl
  rw [countP_moved blanks rfl, List.countP_append, List.countP_append,
    countP_indentAfterNewlines blank rfl, List.countP_append, List.countP_append, line opens,
    line (closes.imp And.left id), escapeQuotes_single single] at whole
  change _ + 1 = _ + 1 at whole
  omega

/-- The text stands for itself if no solid character is lost. -/
theorem start_kept (block : EmbeddedBlock margin text body start before)
    (single : ¬tripleQuote <:+: text)
    (kept : text.countP isSolid ≤ (blanked before).countP isSolid) :
    '\\' ∉ start ∧ ∀ c ∈ text, isLineBoundary c = true → c = '\n' := by
  have solid := block.solid_start single
  have counted : (blanked (before ++ [.char '"'])).countP isSolid =
      (blanked before).countP isSolid + 1 := by
    rw [blanked_append, List.countP_append]
    rfl
  have own : (start ++ ['"']).countP isSolid = start.countP isSolid + 1 := by
    rw [List.countP_append]
    rfl
  have inside := block.cooks.countP_le
  have fewer : (text.countP fun c => isSolid c && !isLineBoundary c) ≤ text.countP isSolid :=
    List.countP_mono_left fun c _ both => (Bool.and_eq_true _ _ ▸ both).1
  constructor
  · intro slash
    have lost := block.cooks.countP_lt (List.mem_append_left _ slash)
    omega
  · intro c member boundary
    refine Decidable.byContradiction fun other => ?_
    have isSolid_ : isSolid c = true := by
      rw [← Bool.not_eq_false]
      intro blank
      rcases isSolid_eq_false blank with rfl | rfl | rfl
      · cases boundary
      · cases boundary
      · exact other rfl
    have lost := List.countP_eq_countP_filter_add text isSolid fun c => isLineBoundary c
    have positive : 0 < (text.filter fun c => isLineBoundary c).countP isSolid :=
      List.countP_pos_iff.2 ⟨c, List.mem_filter.2 ⟨member, boundary⟩, isSolid_⟩
    have others : (text.filter fun c => !isLineBoundary c).countP isSolid =
        text.countP fun c => isSolid c && !isLineBoundary c := List.countP_filter
    omega

/-- A run of characters inside of a line of the text is in the literal. -/
theorem run_kept_start (block : EmbeddedBlock margin text body start before)
    (single : ¬tripleQuote <:+: text) {run : List Char} (filled : run ≠ [])
    (inner : ∀ c ∈ run, isLineBoundary c = false) (inside : run <:+: text) :
    run <:+: start ++ ['"'] := by
  obtain ⟨own, opened, closed, _, _, _, rfl⟩ := block.isBody
  rw [← escapeQuotes_single single] at inside
  have whole : run <:+: opened ++ BlockString.escapeQuotes text ++ closed :=
    inside.trans ⟨opened, closed, rfl⟩
  obtain ⟨front, rest, same⟩ := run_kept filled inner whole
  rw [block.start_eq, same]
  exact ⟨front, _, rfl⟩

/-- A block string that is read back has no three quotes in a row and loses no solid character. -/
theorem kept_of_string {value : String}
    (block : EmbeddedBlock margin value.toList body start before) {rest : List Char} {count : Nat}
    (found : Lexer.string ('"' :: '"' :: (blanked before ++ (tripleQuote ++ rest))) =
      .ok (.blockString value, count)) :
    ¬tripleQuote <:+: value.toList ∧
      value.toList.countP isSolid ≤ (blanked before).countP isSolid := by
  obtain ⟨lines, further, own, joined⟩ := blockBody_of_string found
  rw [← List.append_assoc] at own
  have solid : value.toList.countP isSolid = lines.flatten.countP isSolid :=
    countP_of_string joined rfl rfl rfl
  have quoted : Lexer.quotes value.toList = Lexer.quotes lines.flatten :=
    countP_of_string joined rfl rfl rfl
  rcases Lexer.blockBody_counts own with ⟨fewer, less⟩ | more
  · rw [← solid] at fewer less
    refine ⟨fun triple => ?_, fewer⟩
    exact absurd (less (block.triple_kept triple)) (Nat.not_lt_of_le block.solid_le)
  · -- The reader goes beyond the closing quotes, but the text does not have these quotes.
    rw [← quoted] at more
    exact absurd more (Nat.not_lt_of_le block.quotes_le)

/-- If no solid character is lost, every character is read for itself. -/
theorem inert_of_kept (block : EmbeddedBlock margin text body start before)
    (single : ¬tripleQuote <:+: text)
    (kept : text.countP isSolid ≤ (blanked before).countP isSolid) :
    IsInert text ∧ before = start.map .char := by
  have noSlash : '\\' ∉ start ++ ['"'] := by
    intro member
    rcases List.mem_append.1 member with member | member
    · exact (block.start_kept single kept).1 member
    · exact absurd member (by decide)
  have unsubstituted : substitutions (before ++ [.char '"']) = [] := by
    rw [substitutions_append, block.unsubstituted]
    rfl
  obtain ⟨same, backtick, substitution⟩ := block.cooks.eq_chars noSlash unsubstituted
  have absent {c : Char} (inner : isLineBoundary c = false) (outside : c ∉ start ++ ['"']) :
      c ∉ text := by
    intro member
    have alone : [c] <:+: text := (List.singleton_infix_iff c text).2 member
    have inLiteral := block.run_kept_start single (List.cons_ne_nil c [])
      (List.forall_mem_singleton.2 inner) alone
    exact outside (inLiteral.subset List.mem_cons_self)
  rw [List.map_append] at same
  refine ⟨⟨absent rfl noSlash, absent rfl backtick, fun inside => ?_⟩,
    (List.append_inj' same rfl).1⟩
  exact substitution (block.run_kept_start single (List.cons_ne_nil _ _) (by decide) inside)

/-- **Block strings.** A block string that is read back is plain, and the reader stops behind it. -/
theorem plain {value : String} (block : EmbeddedBlock margin value.toList body start before)
    {rest : List Char} {count : Nat}
    (found : Lexer.string ('"' :: '"' :: (blanked before ++ (tripleQuote ++ rest))) =
      .ok (.blockString value, count)) :
    StringLiteral.IsPlain ⟨value, true⟩ ∧ before = start.map .char ∧
      ('"' :: '"' :: (blanked before ++ (tripleQuote ++ rest))).drop count = rest := by
  obtain ⟨single, kept⟩ := block.kept_of_string found
  have feeds := (block.start_kept single kept).2
  obtain ⟨inert, unchanged⟩ := block.inert_of_kept single kept
  refine ⟨⟨inert, single, feeds⟩, unchanged, ?_⟩
  obtain ⟨shifted, _, _, shape, _, _, again⟩ :=
    (block.isBody.isPlain inert single feeds).exists_shifted block.blank
  obtain rfl : start = shifted := by
    have first := block.moved []
    rw [shape [], Text.moved] at first
    exact (List.append_cancel_right first).symm
  rw [unchanged, blanked_chars] at found ⊢
  rw [again rest] at found
  cases found
  rw [← List.append_assoc, ← List.cons_append, ← List.cons_append]
  exact List.drop_left' (by simp [tripleQuote])

end EmbeddedBlock

end TypedClient.Document

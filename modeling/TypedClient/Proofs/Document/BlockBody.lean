import Mathlib.Data.List.Forall2
import Mathlib.Data.List.TakeWhile
import TypedClient.Document.Lexer
import TypedClient.Proofs.Text.Indent
import TypedClient.Proofs.Text.Solid

/-! # Strings between triple quotes

Moving the lines of a block string puts a margin in front of them. Its text is moved character by
character, which keeps its lines but for the margin and brings no quotes together
(`exists_movedBody`). The margin is common to all lines, so the value stays the same
(`value_shifted`).
-/

namespace TypedClient.Document

open Text

/-- Three quotes. -/
def tripleQuote : List Char :=
  ['"', '"', '"']

/-- With three quotes behind the text, these are the first three in a row; `run` quotes stand in
front of the text. -/
def closesLate : (run : Nat) → List Char → Bool
  | run, [] => run == 0
  | run, c :: rest => if c = '"' then run < 2 && closesLate (run + 1) rest else closesLate 0 rest

namespace Lexer

/-- A character that begins no quotes and no escape is kept, and a line end starts a new line. -/
theorem blockBody_step {c : Char} {rest : List Char} (noQuotes : ¬tripleQuote <+: c :: rest)
    (slash : c ≠ '\\') (carriage : c ≠ '\r') :
    blockBody? (c :: rest) = (blockBody? rest).map fun (lines, count) =>
      (if isLineEnd c then [] :: lines else extendFirst c lines, count + 1) := by
  rw [blockBody?]
  · cases blockBody? rest <;> rfl
  · rintro after rfl rfl
    exact noQuotes ⟨after, rfl⟩
  · exact fun _ same => absurd same slash
  · exact fun _ same => absurd same carriage

/-- Inside a block string that closes late, no three quotes come up. -/
theorem not_prefix_of_closesLate {run : Nat} {c : Char} {text : List Char}
    (late : closesLate run (c :: text) = true) (rest : List Char) :
    ¬tripleQuote <+: c :: (text ++ tripleQuote ++ rest) := by
  rintro ⟨after, whole⟩
  obtain ⟨rfl, second⟩ := List.cons.inj whole
  rw [closesLate, if_pos rfl, Bool.and_eq_true] at late
  cases text with
  | nil => cases late.2
  | cons d text =>
      obtain ⟨rfl, third⟩ := List.cons.inj second
      rw [closesLate, if_pos rfl, Bool.and_eq_true] at late
      cases text with
      | nil => cases late.2.2
      | cons e text =>
          obtain ⟨rfl, _⟩ := List.cons.inj third
          rw [closesLate, if_pos rfl, Bool.and_eq_true] at late
          have early := of_decide_eq_true late.2.2.1
          omega

/-- A line feed starts a line, and every other character is put into the first one. -/
theorem textLines_cons {c : Char} (carriage : c ≠ '\r') (rest : List Char) :
    textLines (c :: rest) = if c = '\n' then [] :: textLines rest
      else extendFirst c (textLines rest) := by
  split
  · next feed => subst feed; rfl
  · next feed =>
    rw [textLines]
    · exact fun _ same => absurd same carriage
    · exact carriage
    · exact feed

/-- Without escapes, a block string whose text closes late has the lines of the text. -/
theorem blockBody_closesLate {run : Nat} {text : List Char} (late : closesLate run text = true)
    (slash : '\\' ∉ text) (carriage : '\r' ∉ text) (rest : List Char) :
    blockBody? (text ++ tripleQuote ++ rest) = some (textLines text, text.length + 3) := by
  induction text generalizing run with
  | nil => rfl
  | cons c text ih =>
      have noSlash : c ≠ '\\' := fun same => slash (same ▸ List.mem_cons_self)
      have noReturn : c ≠ '\r' := fun same => carriage (same ▸ List.mem_cons_self)
      have later : ∃ run, closesLate run text = true := by
        rw [closesLate] at late
        split at late
        · exact ⟨run + 1, (Bool.and_eq_true _ _ ▸ late).2⟩
        · exact ⟨0, late⟩
      obtain ⟨other, later⟩ := later
      have behind := ih later (fun member => slash (List.mem_cons_of_mem _ member))
        (fun member => carriage (List.mem_cons_of_mem _ member))
      rw [List.cons_append, List.cons_append,
        blockBody_step (not_prefix_of_closesLate late rest) noSlash noReturn, behind,
        textLines_cons noReturn]
      by_cases feed : c = '\n'
      · subst feed
        rfl
      · have inner : isLineEnd c = false := by simp [isLineEnd, feed, noReturn]
        simp only [Option.map_some, inner, if_neg feed, List.length_cons]
        rw [if_neg Bool.false_ne_true]

end Lexer

/-! ## Moved lines -/

/-- The line has the margin in front, unless it is empty and stays so. -/
def IsShifted (margin line shifted : List Char) : Prop :=
  shifted = margin ++ line ∨ line = [] ∧ shifted = []

/-- What becomes of the text of a block string when its lines are moved. -/
structure MovedBody (margin : List Char) (fresh : Bool) (text shifted : List Char) : Prop where
  lines : ∃ first others first' others', textLines text = first :: others ∧
    textLines shifted = first' :: others' ∧
    (if fresh then IsShifted margin first first' else first' = first) ∧
    List.Forall₂ (IsShifted margin) others others'
  late : ∀ run, (fresh = true → run = 0) → closesLate run text = true →
    closesLate run shifted = true
  chars : ∀ c ∈ shifted, c ∈ text ∨ c = ' '

variable {margin : List Char}

theorem closesLate_margin (blank : ∀ c ∈ margin, c = ' ') (text : List Char) :
    closesLate 0 (margin ++ text) = closesLate 0 text := by
  induction margin with
  | nil => rfl
  | cons c margin ih =>
      have noQuote : c ≠ '"' := by
        rw [blank c List.mem_cons_self]
        decide
      rw [List.cons_append, closesLate, if_neg noQuote,
        ih fun d member => blank d (List.mem_cons_of_mem _ member)]

/-- A margin of blanks stands in front of the first line. -/
theorem textLines_margin (blank : ∀ c ∈ margin, c = ' ') {text first : List Char}
    {others : List (List Char)} (cut : textLines text = first :: others) :
    textLines (margin ++ text) = (margin ++ first) :: others := by
  induction margin with
  | nil => exact cut
  | cons c margin ih =>
      obtain rfl := blank c List.mem_cons_self
      rw [List.cons_append, Lexer.textLines_cons (by decide), if_neg (by decide),
        ih fun d member => blank d (List.mem_cons_of_mem _ member)]
      rfl

theorem freshMargin_blank (blank : ∀ c ∈ margin, c = ' ') (fresh : Bool) :
    ∀ c ∈ (if fresh then margin else []), c = ' ' := by
  intro c member
  cases fresh with
  | false => exact absurd member List.not_mem_nil
  | true => exact blank c member

namespace MovedBody

/-- At the end of a text nothing is left to be moved but a margin. -/
theorem nil (blank : ∀ c ∈ margin, c = ' ') (fresh : Bool) :
    MovedBody margin fresh [] (if fresh then margin else []) := by
  have front := freshMargin_blank blank fresh
  constructor
  case lines =>
    refine ⟨[], [], if fresh then margin else [], [], rfl, ?_, ?_, .nil⟩
    · rw [← List.append_nil (if fresh then margin else []), textLines_margin front rfl,
        List.append_nil]
    · cases fresh with
      | false => rfl
      | true => exact .inl (List.append_nil _).symm
  case late =>
    intro run start late
    obtain rfl := eq_of_beq late
    rw [← List.append_nil (if fresh then margin else []), closesLate_margin front]
    exact late
  case chars => exact fun c member => .inr (front c member)

variable {text shifted : List Char}

/-- A line feed starts a fresh line and stays where it is. -/
theorem feed (body : MovedBody margin true text shifted) (fresh : Bool) :
    MovedBody margin fresh ('\n' :: text) ('\n' :: shifted) := by
  obtain ⟨first, others, first', others', cut, cut', start, step⟩ := body.lines
  constructor
  case lines =>
    refine ⟨[], first :: others, [], first' :: others', ?_, ?_, ?_, .cons start step⟩
    · rw [Lexer.textLines_cons (by decide), if_pos rfl, cut]
    · rw [Lexer.textLines_cons (by decide), if_pos rfl, cut']
    · cases fresh with
      | false => rfl
      | true => exact .inr ⟨rfl, rfl⟩
  case late => exact fun run _ late => body.late 0 (fun _ => rfl) late
  case chars =>
    refine List.forall_mem_cons.2 ⟨.inl List.mem_cons_self, fun d member => ?_⟩
    exact (body.chars d member).imp (List.mem_cons_of_mem _) id

/-- Another character of a line has the margin in front if it is the first one. -/
theorem char (blank : ∀ c ∈ margin, c = ' ') {c : Char} (inner : isLineBoundary c = false)
    (body : MovedBody margin false text shifted) (fresh : Bool) :
    MovedBody margin fresh (c :: text) ((if fresh then margin else []) ++ c :: shifted) := by
  have front := freshMargin_blank blank fresh
  have noFeed : c ≠ '\n' := by
    rintro rfl
    cases inner
  have noReturn : c ≠ '\r' := by
    rintro rfl
    cases inner
  constructor
  case lines =>
    obtain ⟨first, others, first', others', cut, cut', start, step⟩ := body.lines
    have extended {lines : List (List Char)} {text first : List Char}
        (cut : textLines text = first :: lines) :
        textLines (c :: text) = (c :: first) :: lines := by
      rw [Lexer.textLines_cons noReturn, if_neg noFeed, cut]
      rfl
    refine ⟨c :: first, others, (if fresh then margin else []) ++ c :: first', others',
      extended cut, textLines_margin front (extended cut'), ?_, step⟩
    cases fresh with
    | false => exact congrArg (c :: ·) start
    | true => exact .inl (congrArg (margin ++ c :: ·) start)
  case late =>
    intro run start late
    have bare : closesLate run ((if fresh then margin else []) ++ c :: shifted) =
        closesLate run (c :: shifted) := by
      cases fresh with
      | false => rfl
      | true =>
          rw [start rfl]
          exact closesLate_margin blank _
    rw [closesLate] at late
    rw [bare, closesLate]
    by_cases quote : c = '"'
    · rw [if_pos quote, Bool.and_eq_true] at late ⊢
      exact late.imp_right (body.late (run + 1) fun same => by cases same)
    · rw [if_neg quote] at late ⊢
      exact body.late 0 (fun _ => rfl) late
  case chars =>
    intro d member
    rcases List.mem_append.1 member with blanks | member
    · exact .inr (front d blanks)
    · rcases List.mem_cons.1 member with rfl | later
      · exact .inl List.mem_cons_self
      · exact (body.chars d later).imp (List.mem_cons_of_mem _) id

end MovedBody

/-- The body of a block string is moved by itself, up to the quotes behind it. -/
theorem exists_movedBody (blank : ∀ c ∈ margin, c = ' ') (fresh : Bool) {text : List Char}
    (feeds : ∀ c ∈ text, isLineBoundary c = true → c = '\n') :
    ∃ shifted, MovedBody margin fresh text shifted ∧ ∀ rest,
      moved margin fresh (text ++ '"' :: rest) = shifted ++ '"' :: moved margin false rest := by
  induction text generalizing fresh with
  | nil => exact ⟨_, .nil blank fresh, fun rest => moved_inner (by decide) fresh rest⟩
  | cons c text ih =>
      have feedsRest : ∀ d ∈ text, isLineBoundary d = true → d = '\n' :=
        fun d member => feeds d (List.mem_cons_of_mem _ member)
      cases boundary : isLineBoundary c with
      | true =>
          obtain rfl := feeds c List.mem_cons_self boundary
          obtain ⟨shifted, body, same⟩ := ih true feedsRest
          refine ⟨_, body.feed fresh, fun rest => ?_⟩
          rw [List.cons_append, moved_boundary boundary _ (fun carriage => by cases carriage), same]
          rfl
      | false =>
          obtain ⟨shifted, body, same⟩ := ih false feedsRest
          refine ⟨_, body.char blank boundary fresh, fun rest => ?_⟩
          rw [List.cons_append, moved_inner boundary, same, List.append_assoc, List.cons_append]

/-! ## Values -/

namespace BlockString

theorem all_blank_of_margin (blank : ∀ c ∈ margin, c = ' ') : margin.all isBlank = true :=
  List.all_eq_true.2 fun c member => by rw [blank c member]; rfl

/-- A line that is moved to the right has a margin that is wider by as much. -/
theorem margin_shifted (blank : ∀ c ∈ margin, c = ' ') {line shifted : List Char}
    (step : IsShifted margin line shifted) :
    margin? shifted = (margin? line).map (· + margin.length) := by
  rcases step with rfl | ⟨rfl, rfl⟩
  · have whole := all_blank_of_margin blank
    unfold margin?
    rw [List.all_append, whole, Bool.true_and]
    cases line.all isBlank with
    | true => rfl
    | false =>
        have taken : (margin ++ line).takeWhile isBlank = margin ++ line.takeWhile isBlank := by
          rw [List.takeWhile_append_of_pos fun c member => List.all_eq_true.1 whole c member]
        simp [taken, Nat.add_comm]
  · rfl

/-- The least of some numbers grows with all of them. -/
theorem min_map_add (count : Nat) (margins : List Nat) :
    (margins.map (· + count)).min? = margins.min?.map (· + count) := by
  induction margins with
  | nil => rfl
  | cons first others ih =>
      rw [List.map_cons, List.min?_cons, List.min?_cons, ih]
      cases others.min? with
      | none => rfl
      | some least => simp [Nat.add_min_add_right]

/-- Lines that are moved to the right have a common margin that is wider by as much. -/
theorem commonMargin_shifted (blank : ∀ c ∈ margin, c = ' ') {lines shifted : List (List Char)}
    (step : List.Forall₂ (IsShifted margin) lines shifted) :
    commonMargin? shifted = (commonMargin? lines).map (· + margin.length) := by
  have margins : shifted.filterMap margin? =
      (lines.filterMap margin?).map (· + margin.length) := by
    induction step with
    | nil => rfl
    | @cons line line' lines lines' first _ ih =>
        rw [List.filterMap_cons, List.filterMap_cons, margin_shifted blank first, ih]
        cases margin? line <;> rfl
  rw [commonMargin?, margins, min_map_add]
  rfl

/-- What stands behind the margin is what stood there before. -/
theorem drop_shifted {line shifted : List Char} (step : IsShifted margin line shifted)
    (count : Nat) : shifted.drop (count + margin.length) = line.drop count := by
  rcases step with rfl | ⟨rfl, rfl⟩
  · rw [List.drop_append]
    simp
  · rw [List.drop_nil, List.drop_nil]

/-- Without a common margin all lines are blank. -/
theorem blank_of_commonMargin {lines : List (List Char)} (marginless : commonMargin? lines = none) :
    ∀ line ∈ lines, line.all isBlank = true := by
  intro line member
  rw [commonMargin?, List.min?_eq_none_iff, List.filterMap_eq_nil_iff] at marginless
  have noMargin := marginless line member
  unfold margin? at noMargin
  split at noMargin
  · next blank => exact blank
  · cases noMargin

/-- Blank lines at the end are left out. -/
theorem trimBlankLines_blank {first : List Char} {others : List (List Char)}
    (blank : ∀ line ∈ others, line.all isBlank = true) :
    trimBlankLines (first :: others) = trimBlankLines [first] := by
  cases own : first.all isBlank with
  | true =>
      have all : (first :: others).dropWhile (·.all isBlank) = [] :=
        List.dropWhile_eq_nil_iff.2 (List.forall_mem_cons.2 ⟨own, blank⟩)
      simp [trimBlankLines, all, own]
  | false =>
      have behind : others.reverse.dropWhile (·.all isBlank) = [] :=
        List.dropWhile_eq_nil_iff.2 fun line member => blank line (List.mem_reverse.1 member)
      simp [trimBlankLines, own, List.dropWhile_append, behind]

/-- **Margins do not matter.** Lines that have a margin in common stand for the same value without
it. -/
theorem value_shifted (blank : ∀ c ∈ margin, c = ' ') (first : List Char)
    {others shifted : List (List Char)} (step : List.Forall₂ (IsShifted margin) others shifted) :
    value (first :: shifted) = value (first :: others) := by
  have common := commonMargin_shifted blank step
  cases least : commonMargin? others with
  | none =>
      rw [least] at common
      rw [value, value, common, least]
      exact (trimBlankLines_blank (blank_of_commonMargin common)).trans
        (trimBlankLines_blank (blank_of_commonMargin least)).symm
  | some count =>
      have dropped : shifted.map (·.drop (count + margin.length)) = others.map (·.drop count) := by
        clear common least
        induction step with
        | nil => rfl
        | cons first _ ih => rw [List.map_cons, List.map_cons, drop_shifted first, ih]
      rw [least] at common
      rw [value, value, common, least]
      simp only [Option.map_some, dropped]

end BlockString

end TypedClient.Document

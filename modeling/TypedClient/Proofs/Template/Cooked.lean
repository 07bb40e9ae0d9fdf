import TypedClient.Proofs.Template.Raw
import TypedClient.Proofs.Text.Solid

/-! # What the text of a template literal becomes

A backslash takes what it escapes along, but never past a quote or a line feed: both end whatever
they stand in. So a literal that is read is read piecewise between them (`read_upTo`), and each
piece becomes its text (`Cooks`). Such a text holds no more than its source. It holds fewer
characters besides blanks if something in the source is escaped, and it holds every quote of the
source.
-/

namespace TypedClient.Template.Literal

open Text

/-- What is known of an escape without its backslash, and of what it stands for: it is a single
character, where a quote stands for itself and a blank for no more than a blank, or consists of
solid characters that are no quotes. -/
structure Escapes (spelling cooked : List Char) : Prop where
  short : cooked.length ≤ 1
  shape : (∃ c, spelling = [c] ∧ (c = '"' → cooked = ['"']) ∧
      (isSolid c = false → cooked.countP isSolid = 0)) ∨
    (spelling ≠ [] ∧ ∀ c ∈ spelling, isSolid c = true ∧ c ≠ '"')

/-- The parts that a piece of a literal consists of. -/
inductive Cooks : List Char → List LiteralPart → Prop
  | nil : Cooks [] []
  | raw {c : Char} {rest : List Char} {parts : List LiteralPart} (slash : c ≠ '\\')
      (backtick : c ≠ '`') (dollar : c = '$' → rest.head? ≠ some '{') (tail : Cooks rest parts) :
      Cooks (c :: rest) (.char c :: parts)
  | escaped {spelling cooked rest : List Char} {parts : List LiteralPart}
      (escapes : Escapes spelling cooked)
      (found : ∃ behind, escape? (spelling ++ (rest ++ behind)) = some (cooked, spelling.length))
      (tail : Cooks rest parts) :
      Cooks ('\\' :: (spelling ++ rest)) (cooked.map .char ++ parts)
  | substituted {spelling rest : List Char} {name : String} {parts : List LiteralPart}
      (quiet : '"' ∉ spelling) (tail : Cooks rest parts) :
      Cooks ('$' :: (spelling ++ rest)) (.substitution name :: parts)

/-! ## Escapes -/

/-- A code in braces is spelled in solid characters. -/
theorem spelling_of_bracedCode {code width : Nat} {text : List Char}
    (found : bracedCode? text = some (code, width)) :
    ∃ spelling rest, text = spelling ++ rest ∧ spelling.length + 2 = width ∧
      AllSolid spelling := by
  unfold bracedCode? at found
  simp only [Option.ite_none_right_eq_some, Option.some.injEq, Prod.mk.injEq] at found
  obtain ⟨⟨_, closing, _⟩, _, rfl⟩ := found
  obtain ⟨rest, behind⟩ := List.head?_eq_some_iff.1 closing
  refine ⟨text.takeWhile (fun c => (Text.digitValue? 16 c).isSome) ++ ['}'], rest, ?_, ?_, ?_⟩
  · rw [List.append_assoc, List.singleton_append, ← behind]
    exact (List.prefix_iff_eq_append.1 (List.takeWhile_prefix _)).symm
  · simp
  · refine AllSolid.append (fun c member => solid_of_digit ?_) (AllSolid.cons (by decide) ?_)
    · exact List.all_eq_true.1 List.all_takeWhile c member
    · exact fun _ member => absurd member List.not_mem_nil

/-- The code points of half pairs are written in solid characters; any other escape may also be a
single character. -/
theorem spelling_of_code {code width : Nat} {text : List Char}
    (found : code? text = some (code, width)) :
    ∃ spelling rest, text = spelling ++ rest ∧ spelling.length = width ∧
      (spelling ≠ [] ∧ AllSolid spelling ∨ ∃ c, spelling = [c] ∧ code = letterCode c) := by
  unfold code? at found
  split at found
  · next rest =>
    obtain ⟨spelling, after, rfl, rfl, solid⟩ := spelling_of_bracedCode found
    exact ⟨'u' :: '{' :: spelling, after, rfl, rfl, .inl ⟨List.cons_ne_nil _ _,
      .cons (by decide) (.cons (by decide) solid)⟩⟩
  · next rest _ =>
    simp only [Option.map_eq_some_iff, Prod.mk.injEq] at found
    obtain ⟨_, digits, _, rfl⟩ := found
    obtain ⟨spelling, after, rfl, length, solid⟩ := spelling_of_numberInFront digits
    exact ⟨'u' :: spelling, after, rfl, by rw [List.length_cons, length], .inl
      ⟨List.cons_ne_nil _ _, .cons (by decide) solid⟩⟩
  · next rest =>
    simp only [Option.map_eq_some_iff, Prod.mk.injEq] at found
    obtain ⟨_, digits, _, rfl⟩ := found
    obtain ⟨spelling, after, rfl, length, solid⟩ := spelling_of_numberInFront digits
    exact ⟨'x' :: spelling, after, rfl, by rw [List.length_cons, length], .inl
      ⟨List.cons_ne_nil _ _, .cons (by decide) solid⟩⟩
  · next rest =>
    simp only [Option.ite_none_left_eq_some, Option.some.injEq, Prod.mk.injEq] at found
    obtain ⟨_, _, rfl⟩ := found
    exact ⟨['0'], rest, rfl, rfl, .inl ⟨List.cons_ne_nil _ _, .cons (by decide)
      fun _ member => absurd member List.not_mem_nil⟩⟩
  · next c rest _ _ _ _ =>
    simp only [Option.ite_none_left_eq_some, Option.some.injEq, Prod.mk.injEq] at found
    obtain ⟨_, rfl, rfl⟩ := found
    exact ⟨[c], rest, rfl, rfl, .inr ⟨c, rfl, rfl⟩⟩
  · cases found

/-- A single character stands for a character of its own. -/
theorem isScalar_letterCode (c : Char) : Document.Lexer.isScalar (letterCode c) = true := by
  unfold letterCode
  split
  all_goals try rfl
  have valid := c.valid
  simp only [UInt32.isValidChar, Nat.isValidChar] at valid
  simp only [Document.Lexer.isScalar, Bool.or_eq_true, Bool.and_eq_true, decide_eq_true_eq]
  change c.val.toNat < 0xd800 ∨ 0xdfff < c.val.toNat ∧ c.val.toNat ≤ 0x10ffff
  omega

/-- A quote stands for itself, a blank for a blank. -/
theorem escapes_letter (c : Char) : Escapes [c] [Char.ofNat (letterCode c)] := by
  refine ⟨Nat.le_refl 1, .inl ⟨c, rfl, ?_, ?_⟩⟩
  · rintro rfl
    decide
  · intro blank
    rcases isSolid_eq_false blank with rfl | rfl | rfl <;> decide

/-- An escape is spelled in characters of its own. -/
theorem spelling_of_escape {width : Nat} {text cooked : List Char}
    (noReturn : text.head? ≠ some '\r') (found : escape? text = some (cooked, width)) :
    ∃ spelling rest, text = spelling ++ rest ∧ spelling.length = width ∧
      Escapes spelling cooked := by
  unfold escape? at found
  split at found
  · cases found
  next c rest =>
  split at found
  · next terminator =>
    have single : c ≠ '\r' := fun carriage => noReturn (by rw [carriage]; rfl)
    rw [if_neg fun both => single both.1] at found
    obtain ⟨rfl, rfl⟩ := found
    refine ⟨[c], rest, rfl, rfl, Nat.zero_le 1, .inl ⟨c, rfl, ?_, fun _ => rfl⟩⟩
    rintro rfl
    exact absurd terminator (by decide)
  split at found
  · cases found
  next code width coded =>
  obtain ⟨spelling, after, split, rfl, solid⟩ := spelling_of_code coded
  split at found
  · obtain ⟨rfl, rfl⟩ := found
    refine ⟨spelling, after, split, rfl, ?_⟩
    rcases solid with ⟨filled, solid⟩ | ⟨c, rfl, rfl⟩
    · exact ⟨Nat.le_refl 1, .inr ⟨filled, solid⟩⟩
    · exact escapes_letter c
  next half =>
  have noHalf {c : Char} (same : code = letterCode c) : False :=
    half (by rw [same]; exact isScalar_letterCode c)
  obtain ⟨filled, solid⟩ := solid.resolve_right fun ⟨c, _, same⟩ => noHalf same
  rw [split, List.drop_left] at found
  split at found
  · next second =>
    simp only [Option.bind_eq_bind, Option.bind_eq_some_iff] at found
    obtain ⟨⟨low, further⟩, lowCoded, joined, paired, same⟩ := found
    cases same
    obtain ⟨lowSpelling, rest, rfl, rfl, lowSolid⟩ := spelling_of_code lowCoded
    have lowHalf : Document.Lexer.isScalar low = false := by
      unfold pair? at paired
      simp only [Option.ite_none_right_eq_some] at paired
      simp only [Document.Lexer.isScalar, Bool.or_eq_false_iff, Bool.and_eq_false_iff,
        decide_eq_false_iff_not]
      omega
    obtain ⟨_, lowSolid⟩ := lowSolid.resolve_right fun ⟨c, _, same⟩ => by
      rw [same, isScalar_letterCode] at lowHalf
      cases lowHalf
    refine ⟨spelling ++ '\\' :: lowSpelling, rest, by rw [split, List.append_assoc]; rfl, ?_,
      Nat.le_refl 1, .inr ⟨List.append_ne_nil_of_left_ne_nil filled _, ?_⟩⟩
    · rw [List.length_append, List.length_cons]
      omega
    · exact AllSolid.append solid (AllSolid.cons (by decide) lowSolid)
  · cases found

/-! ## Pieces -/

variable {last : Char} {front tail : List Char}

/-- An escape ends within the piece that it starts in, or with the last character of the piece. -/
theorem cooks_of_escape (ends : last = '"' ∨ last = '\n') {cooked : List Char} {width : Nat}
    (noReturn : (front ++ last :: tail).head? ≠ some '\r')
    (found : escape? (front ++ last :: tail) = some (cooked, width)) :
    (∃ spelling more, front = spelling ++ more ∧ width = spelling.length ∧
      ∀ parts, Cooks (more ++ [last]) parts →
        Cooks ('\\' :: (front ++ [last])) (cooked.map .char ++ parts)) ∨
    (front = [] ∧ width = 1 ∧ Cooks ['\\', last] (cooked.map .char)) := by
  obtain ⟨spelling, rest, same, rfl, escapes⟩ := spelling_of_escape noReturn found
  rcases piece_of_append same with ⟨more, rfl, _⟩ | ⟨beyond, spelled⟩
  · refine .inl ⟨spelling, more, rfl, rfl, fun parts cooks => ?_⟩
    rw [List.append_assoc] at found ⊢
    exact .escaped escapes ⟨tail, by simpa using found⟩ cooks
  · rcases escapes.shape with ⟨c, single, _⟩ | ⟨_, solid⟩
    · cases front with
      | nil =>
          have alone : spelling = [last] := by
            rw [single] at spelled ⊢
            rw [(List.cons.inj spelled).1]
          have own : ∃ behind, escape? (spelling ++ ([] ++ behind)) =
              some (cooked, spelling.length) := by
            rw [List.nil_append] at found
            exact ⟨tail, by rw [alone] at found ⊢; exact found⟩
          have cooks := Cooks.escaped escapes own .nil
          rw [List.append_nil, List.append_nil, alone] at cooks
          exact .inr ⟨rfl, by rw [alone]; rfl, cooks⟩
      | cons d front =>
          rw [single] at spelled
          have length := congrArg List.length spelled
          simp at length
    · have quiet := solid last (by rw [spelled]; simp)
      rcases ends with rfl | rfl
      · exact absurd rfl quiet.2
      · exact absurd quiet.1 (by decide)

/-- Neither a quote nor a line feed stands between the braces of a substitution. -/
theorem not_mem_braces (ends : last = '"' ∨ last = '\n') {name : List Char}
    (identifier : ∀ c ∈ name, isIdentifierChar c = true) : last ∉ '{' :: (name ++ ['}']) := by
  have outside : isIdentifierChar last = false := by
    rcases ends with rfl | rfl <;> decide +kernel
  intro member
  simp only [List.mem_cons, List.mem_append, List.not_mem_nil, or_false] at member
  rcases member with rfl | inside | rfl
  · rcases ends with ends | ends <;> cases ends
  · rw [identifier last inside] at outside
    cases outside
  · rcases ends with ends | ends <;> cases ends

/-- A substitution ends within the piece that it starts in. -/
theorem cooks_of_substitution (ends : last = '"' ∨ last = '\n') {name rest : List Char}
    (identifier : ∀ c ∈ name, isIdentifierChar c = true)
    (opened : front ++ last :: tail = '{' :: (name ++ '}' :: rest)) :
    ∃ more, front = '{' :: (name ++ ['}']) ++ more ∧
      ∀ own parts, Cooks (more ++ [last]) parts →
        Cooks ('$' :: (front ++ [last])) (.substitution own :: parts) := by
  have same : front ++ last :: tail = ('{' :: (name ++ ['}'])) ++ rest := by
    rw [opened, List.cons_append, List.append_assoc, List.singleton_append]
  rcases piece_of_append same with ⟨more, rfl, _⟩ | ⟨beyond, spelled⟩
  · refine ⟨more, rfl, fun own parts cooks => ?_⟩
    rw [List.append_assoc]
    exact .substituted (not_mem_braces (.inl rfl) identifier) cooks
  · refine absurd ?_ (not_mem_braces ends identifier)
    rw [spelled]
    exact List.mem_append_right _ List.mem_cons_self

/-- The same for anything but the closing backtick. -/
theorem cooks_of_partsAt (ends : last = '"' ∨ last = '\n') {c : Char} {own : List LiteralPart}
    {width : Nat} (backtick : c ≠ '`') (noReturn : '\r' ∉ c :: front)
    (found : partsAt? c (front ++ last :: tail) = some (own, width)) :
    (∃ spelling more, front = spelling ++ more ∧ width = spelling.length ∧
      ∀ parts, Cooks (more ++ [last]) parts → Cooks (c :: (front ++ [last])) (own ++ parts)) ∨
    (front = [] ∧ width = 1 ∧ Cooks [c, last] own) := by
  unfold partsAt? at found
  split at found
  · next slash =>
    subst slash
    simp only [Option.map_eq_some_iff, Prod.mk.injEq] at found
    obtain ⟨⟨cooked, _⟩, escaped, rfl, rfl⟩ := found
    refine cooks_of_escape ends (fun carriage => ?_) escaped
    cases front with
    | nil => rcases ends with rfl | rfl <;> cases carriage
    | cons d front =>
        obtain rfl := Option.some.inj carriage
        exact noReturn (List.mem_cons_of_mem _ List.mem_cons_self)
  split at found
  · next _ dollar =>
    simp only [Option.ite_none_right_eq_some, Option.some.injEq, Prod.mk.injEq] at found
    obtain ⟨closing, rfl, rfl⟩ := found
    obtain ⟨rfl, brace⟩ := dollar
    obtain ⟨text, opened⟩ := List.head?_eq_some_iff.1 brace
    rw [opened, List.tail_cons, List.drop_succ_cons] at closing
    obtain ⟨rest, behind⟩ := List.head?_eq_some_iff.1 closing
    have named := List.prefix_iff_eq_append.1 (@List.takeWhile_prefix _ text isIdentifierChar)
    obtain ⟨more, split, cooks⟩ := cooks_of_substitution ends
      (fun c member => List.all_eq_true.1 List.all_takeWhile c member)
      (by rw [opened, ← behind, named])
    refine .inl ⟨_, more, split, ?_, cooks _⟩
    rw [opened, List.tail_cons, List.length_cons, List.length_append, List.length_singleton]
  next noSlash noDollar =>
  have noCarriage : c ≠ '\r' := by
    rintro rfl
    exact noReturn List.mem_cons_self
  rw [if_neg noCarriage] at found
  obtain ⟨rfl, rfl⟩ := found
  refine .inl ⟨[], front, rfl, rfl, fun parts cooks => .raw noSlash backtick ?_ cooks⟩
  rintro rfl brace
  refine noDollar ⟨rfl, ?_⟩
  cases front <;> exact brace

/-- The characters up to a quote or a line feed are read as a piece of their own. -/
theorem read_upTo (ends : last = '"' ∨ last = '\n') {parts : List LiteralPart} {left : List Char}
    (noReturn : '\r' ∉ front) (found : read 0 (front ++ last :: tail) = some (parts, left))
    (short : left.length ≤ tail.length) :
    ∃ before after, parts = before ++ after ∧ Cooks (front ++ [last]) before ∧
      read 0 tail = some (after, left) := by
  induction length : front.length using Nat.strongRecOn generalizing front parts with
  | ind size ih =>
      subst length
      cases front with
      | nil =>
          have started : partsAt? last tail = some ([.char last], 0) := by
            rcases ends with rfl | rfl <;> rfl
          have backtick : last ≠ '`' := by
            rcases ends with rfl | rfl <;> decide
          rw [List.nil_append, read, if_neg backtick, started] at found
          simp only [Option.bind_eq_bind, Option.bind_some, Option.bind_eq_some_iff] at found
          obtain ⟨⟨more, _⟩, rest, same⟩ := found
          cases same
          refine ⟨[.char last], more, rfl, .raw ?_ backtick ?_ .nil, rest⟩
          · rcases ends with rfl | rfl <;> decide
          · exact fun _ brace => by cases brace
      | cons c front =>
          have backtick : c ≠ '`' := by
            rintro rfl
            rw [List.cons_append, read, if_pos rfl] at found
            cases found
            simp at short
            omega
          rw [List.cons_append, read, if_neg backtick] at found
          simp only [Option.bind_eq_bind, Option.bind_eq_some_iff] at found
          obtain ⟨⟨own, width⟩, started, ⟨more, _⟩, rest, same⟩ := found
          cases same
          rw [read_skip] at rest
          rcases cooks_of_partsAt ends backtick noReturn started with
            ⟨spelling, inner, rfl, rfl, cooks⟩ | ⟨rfl, rfl, cooks⟩
          · rw [List.append_assoc, List.drop_left] at rest
            obtain ⟨before, after, rfl, piece, behind⟩ := ih inner.length
              (by rw [List.length_cons, List.length_append]; omega)
              (fun member => noReturn (List.mem_cons_of_mem _ (List.mem_append_right _ member)))
              rest rfl
            exact ⟨own ++ before, after, (List.append_assoc ..).symm, cooks before piece, behind⟩
          · exact ⟨own, more, rfl, cooks, rest⟩

/-! ## What a piece keeps -/

/-- The number of solid characters that are no backslashes in front of a quote. -/
def weight : List Char → Nat
  | [] => 0
  | c :: rest =>
    (if isSolid c ∧ ¬(c = '\\' ∧ rest.head? = some '"') then 1 else 0) + weight rest

/-- Substitutions come in the order of the text. -/
theorem substitutions_append (first second : List LiteralPart) :
    substitutions (first ++ second) = substitutions first ++ substitutions second :=
  List.filterMap_append

@[simp] theorem substitutions_char (c : Char) (parts : List LiteralPart) :
    substitutions (.char c :: parts) = substitutions parts := rfl

@[simp] theorem substitutions_chars (text : List Char) : substitutions (text.map .char) = [] := by
  induction text with
  | nil => rfl
  | cons c rest ih => exact ih

/-- The end of a text is no heavier than the text. -/
theorem weight_le_append (front rest : List Char) : weight rest ≤ weight (front ++ rest) := by
  induction front with
  | nil => exact Nat.le_refl _
  | cons c front ih =>
      rw [List.cons_append, weight]
      omega

namespace Escapes

variable {spelling cooked : List Char}

/-- What an escape stands for has no more solid characters than its spelling. -/
theorem countP_le (escapes : Escapes spelling cooked) :
    cooked.countP isSolid ≤ spelling.countP isSolid := by
  have short : cooked.countP isSolid ≤ 1 := Nat.le_trans List.countP_le_length escapes.short
  rcases escapes.shape with ⟨c, rfl, _, blank⟩ | ⟨filled, solid⟩
  · cases kind : isSolid c with
    | false => rw [blank kind]; exact Nat.zero_le _
    | true => rw [List.countP_singleton, if_pos kind]; exact short
  · obtain ⟨c, others, rfl⟩ := List.exists_cons_of_ne_nil filled
    rw [List.countP_cons, if_pos (solid c List.mem_cons_self).1]
    omega

/-- What an escape stands for weighs less than the escape. -/
theorem weight_le (escapes : Escapes spelling cooked) (rest : List Char) :
    cooked.countP isSolid + weight rest ≤ weight ('\\' :: (spelling ++ rest)) := by
  have short : cooked.countP isSolid ≤ 1 := Nat.le_trans List.countP_le_length escapes.short
  have behind := weight_le_append spelling rest
  have started {c : Char} {others : List Char} (plain : c ≠ '"')
      (spelled : spelling = c :: others) :
      weight ('\\' :: (spelling ++ rest)) = 1 + weight (spelling ++ rest) := by
    rw [weight, if_pos]
    refine ⟨by decide, fun both => plain ?_⟩
    rw [spelled] at both
    exact Option.some.inj both.2
  rcases escapes.shape with ⟨c, spelled, quote, _⟩ | ⟨filled, solid⟩
  · by_cases same : c = '"'
    · rw [quote same, spelled, same, List.singleton_append, weight, weight]
      simp [isSolid]
    · rw [started same spelled]
      omega
  · obtain ⟨c, others, spelled⟩ := List.exists_cons_of_ne_nil filled
    rw [started (solid c (spelled ▸ List.mem_cons_self)).2 spelled]
    omega

/-- No quote is lost in an escape. -/
theorem quotes_le (escapes : Escapes spelling cooked) :
    spelling.countP (· = '"') ≤ cooked.countP (· = '"') := by
  rcases escapes.shape with ⟨c, rfl, quote, _⟩ | ⟨_, solid⟩
  · by_cases same : c = '"'
    · exact Nat.le_of_eq (by rw [quote same, same])
    · rw [List.countP_singleton, if_neg (by simpa using same)]
      exact Nat.zero_le _
  · rw [List.countP_eq_zero.2 fun c member => by simpa using (solid c member).2]
    exact Nat.zero_le _

/-- An escape with a quote in it is the escape of a quote. -/
theorem of_quote (escapes : Escapes spelling cooked) {front beyond : List Char}
    (spelled : spelling = front ++ '"' :: beyond) :
    front = [] ∧ beyond = [] ∧ cooked = ['"'] := by
  rcases escapes.shape with ⟨c, single, quote, _⟩ | ⟨_, solid⟩
  · rw [single] at spelled
    cases front with
    | nil =>
        obtain ⟨rfl, rfl⟩ := List.cons.inj spelled
        exact ⟨rfl, rfl, quote rfl⟩
    | cons d front => simp at spelled
  · exact absurd rfl (solid '"' (by rw [spelled]; simp)).2

end Escapes

@[simp] theorem blanked_nil : blanked [] = [] := rfl

@[simp] theorem blanked_char (c : Char) (parts : List LiteralPart) :
    blanked (.char c :: parts) = c :: blanked parts := rfl

@[simp] theorem blanked_substitution (name : String) (parts : List LiteralPart) :
    blanked (.substitution name :: parts) = ' ' :: blanked parts := rfl

/-- Substitutions are blanked one by one. -/
theorem blanked_append (first second : List LiteralPart) :
    blanked (first ++ second) = blanked first ++ blanked second :=
  List.map_append

theorem blanked_chars (text : List Char) : blanked (text.map .char) = text := by
  induction text with
  | nil => rfl
  | cons c rest ih => rw [List.map_cons, blanked_char, ih]

namespace Cooks

variable {text : List Char} {parts : List LiteralPart}

/-- A literal becomes no heavier than its source. -/
theorem weight_le (cooks : Cooks text parts) :
    (blanked parts).countP isSolid ≤ weight text := by
  induction cooks with
  | nil => exact Nat.le_refl _
  | @raw c rest parts slash _ _ _ ih =>
      rw [blanked_char, List.countP_cons, weight]
      simp only [slash, false_and, not_false_eq_true, and_true]
      omega
  | @escaped spelling cooked rest parts escapes _ _ ih =>
      have own := escapes.weight_le rest
      rw [blanked_append, blanked_chars, List.countP_append]
      omega
  | @substituted spelling rest name parts _ _ ih =>
      have behind := weight_le_append ('$' :: spelling) rest
      rw [blanked_substitution, List.countP_cons_of_neg (by decide)]
      exact Nat.le_trans ih behind

/-- A literal has no more solid characters than its source. -/
theorem countP_le (cooks : Cooks text parts) :
    (blanked parts).countP isSolid ≤ text.countP isSolid := by
  induction cooks with
  | nil => exact Nat.le_refl _
  | raw _ _ _ _ ih =>
      rw [blanked_char, List.countP_cons, List.countP_cons]
      omega
  | escaped escapes _ _ ih =>
      have own := escapes.countP_le
      rw [blanked_append, blanked_chars, List.countP_append, List.countP_cons, List.countP_append]
      omega
  | substituted _ _ ih =>
      rw [blanked_substitution, List.countP_cons_of_neg (by decide), List.countP_cons,
        List.countP_append]
      omega

/-- An escape costs a character. -/
theorem countP_lt (cooks : Cooks text parts) (slash : '\\' ∈ text) :
    (blanked parts).countP isSolid < text.countP isSolid := by
  induction cooks with
  | nil => exact absurd slash List.not_mem_nil
  | raw noSlash _ _ _ ih =>
      have later := ih ((List.mem_cons.1 slash).resolve_left (Ne.symm noSlash))
      rw [blanked_char, List.countP_cons, List.countP_cons]
      omega
  | escaped escapes _ tail _ =>
      have own := escapes.countP_le
      have others := tail.countP_le
      rw [blanked_append, blanked_chars, List.countP_append,
        List.countP_cons_of_pos (by decide), List.countP_append]
      omega
  | substituted _ tail _ =>
      have others := tail.countP_le
      rw [blanked_substitution, List.countP_cons_of_neg (by decide),
        List.countP_cons_of_pos (by decide), List.countP_append]
      omega

/-- Quotes are kept. -/
theorem quotes_le (cooks : Cooks text parts) :
    text.countP (· = '"') ≤ (blanked parts).countP (· = '"') := by
  induction cooks with
  | nil => exact Nat.le_refl _
  | raw _ _ _ _ ih =>
      rw [blanked_char, List.countP_cons, List.countP_cons]
      omega
  | escaped escapes _ _ ih =>
      have own := escapes.quotes_le
      rw [blanked_append, blanked_chars, List.countP_append, List.countP_cons_of_neg (by decide),
        List.countP_append]
      omega
  | substituted quiet _ ih =>
      rw [blanked_substitution, List.countP_cons_of_neg (by decide),
        List.countP_cons_of_neg (by decide), List.countP_append,
        List.countP_eq_zero.2 fun c member => ?_, Nat.zero_add]
      · exact ih
      · intro same
        exact quiet (of_decide_eq_true same ▸ member)

/-- A quote splits a piece. -/
theorem at_quote {front rest : List Char} (cooks : Cooks (front ++ '"' :: rest) parts) :
    ∃ before after, parts = before ++ .char '"' :: after ∧
      Cooks (front ++ ['"']) (before ++ [.char '"']) ∧ Cooks rest after := by
  have quote : Cooks ['"'] [.char '"'] :=
    .raw (by decide) (by decide) (fun same => by cases same) .nil
  generalize whole : front ++ '"' :: rest = text at cooks
  induction cooks generalizing front with
  | nil => cases front <;> cases whole
  | @raw c others parts slash backtick dollar tail ih =>
      cases front with
      | nil =>
          obtain ⟨rfl, rfl⟩ := List.cons.inj whole
          exact ⟨[], parts, rfl, quote, tail⟩
      | cons d front =>
          obtain ⟨rfl, same⟩ := List.cons.inj whole
          obtain ⟨before, after, rfl, upTo, behind⟩ := ih same
          refine ⟨.char d :: before, after, rfl, .raw slash backtick (fun same brace => ?_) upTo,
            behind⟩
          subst others
          refine dollar same ?_
          cases front <;> exact brace
  | @escaped spelling cooked others parts escapes found tail ih =>
      cases front with
      | nil => cases (List.cons.inj whole).1
      | cons d front =>
          obtain ⟨rfl, inside⟩ := List.cons.inj whole
          rcases piece_of_append inside with ⟨more, rfl, same⟩ | ⟨beyond, spelled⟩
          · obtain ⟨before, after, rfl, upTo, behind⟩ := ih same.symm
            refine ⟨cooked.map .char ++ before, after, (List.append_assoc ..).symm, ?_, behind⟩
            rw [List.cons_append, List.append_assoc, List.append_assoc]
            refine .escaped escapes ?_ upTo
            obtain ⟨behind, found⟩ := found
            exact ⟨rest ++ behind, by simpa [same] using found⟩
          · obtain ⟨rfl, rfl, rfl⟩ := escapes.of_quote spelled
            subst spelled
            obtain rfl := (List.cons.inj inside).2
            obtain ⟨behind, found⟩ := found
            exact ⟨[], parts, rfl, .escaped escapes ⟨rest ++ behind, found⟩ .nil, tail⟩
  | @substituted spelling others name parts quiet tail ih =>
      cases front with
      | nil => cases (List.cons.inj whole).1
      | cons d front =>
          obtain ⟨rfl, inside⟩ := List.cons.inj whole
          rcases piece_of_append inside with ⟨more, rfl, same⟩ | ⟨beyond, spelled⟩
          · obtain ⟨before, after, rfl, upTo, behind⟩ := ih same.symm
            refine ⟨.substitution name :: before, after, rfl, ?_, behind⟩
            rw [List.cons_append, List.append_assoc]
            exact .substituted quiet upTo
          · exact absurd (by rw [spelled]; simp) quiet

/-- A character that starts neither an escape nor a substitution stands for itself. -/
theorem of_raw {c : Char} {rest : List Char} (cooks : Cooks (c :: rest) parts) (slash : c ≠ '\\')
    (unsubstituted : substitutions parts = []) :
    ∃ others, parts = .char c :: others ∧ Cooks rest others ∧ substitutions others = [] ∧
      c ≠ '`' ∧ (c = '$' → rest.head? ≠ some '{') := by
  cases cooks with
  | raw _ backtick dollar tail => exact ⟨_, rfl, tail, unsubstituted, backtick, dollar⟩
  | escaped => exact absurd rfl slash
  | substituted => cases unsubstituted

/-- A character that is spelled behind a backslash stands for itself too. -/
theorem of_spelled {c : Char} {spelled rest : List Char}
    (cooks : Cooks ('\\' :: (spelled ++ rest)) parts)
    (spells : ∀ behind, escape? (spelled ++ behind) = some ([c], spelled.length))
    (unsubstituted : substitutions parts = []) :
    ∃ others, parts = .char c :: others ∧ Cooks rest others ∧ substitutions others = [] := by
  generalize whole : spelled ++ rest = text at cooks
  generalize slashed : '\\' :: text = all at cooks
  cases cooks with
  | nil => cases slashed
  | raw slash => exact absurd (List.cons.inj slashed).1.symm slash
  | @escaped spelling cooked others parts escapes found tail =>
      obtain rfl := (List.cons.inj slashed).2
      obtain ⟨behind, found⟩ := found
      rw [← List.append_assoc, ← whole, List.append_assoc, spells] at found
      obtain ⟨rfl, length⟩ := Prod.mk.inj (Option.some.inj found)
      obtain ⟨rfl, rfl⟩ := List.append_inj whole length
      exact ⟨parts, rfl, tail, unsubstituted⟩
  | substituted => cases (List.cons.inj slashed).1

/-- Three quotes in a row are kept. -/
theorem at_triple {front rest : List Char}
    (cooks : Cooks (front ++ '"' :: '"' :: '"' :: rest) parts)
    (unsubstituted : substitutions parts = []) :
    ∃ before after, parts = before ++ ['"', '"', '"'].map .char ++ after ∧ Cooks rest after := by
  obtain ⟨before, after, rfl, _, second⟩ := cooks.at_quote
  rw [substitutions_append] at unsubstituted
  have free : substitutions after = [] := (List.append_eq_nil_iff.1 unsubstituted).2
  obtain ⟨others, rfl, third, free, _⟩ := second.of_raw (by decide) free
  obtain ⟨after, rfl, rest, _⟩ := third.of_raw (by decide) free
  exact ⟨before, after, by simp, rest⟩

/-- Without escapes and substitutions a piece is its own text, which holds no backtick and opens no
substitution. -/
theorem eq_chars (cooks : Cooks text parts) (slash : '\\' ∉ text)
    (unsubstituted : substitutions parts = []) :
    parts = text.map .char ∧ '`' ∉ text ∧ ¬['$', '{'] <:+: text := by
  induction cooks with
  | nil => exact ⟨rfl, List.not_mem_nil, by decide⟩
  | @raw c others parts _ backtick dollar tail ih =>
      obtain ⟨rfl, noBacktick, noSubstitution⟩ := ih
        (fun member => slash (List.mem_cons_of_mem _ member)) unsubstituted
      refine ⟨rfl, fun member => ?_, fun infix_ => ?_⟩
      · rcases List.mem_cons.1 member with same | member
        · exact backtick same.symm
        · exact noBacktick member
      · rcases List.infix_cons_iff.1 infix_ with ⟨after, same⟩ | inner
        · obtain ⟨rfl, rfl⟩ := List.cons.inj same
          exact dollar rfl rfl
        · exact noSubstitution inner
  | escaped => exact absurd List.mem_cons_self slash
  | substituted => cases unsubstituted

end Cooks

end TypedClient.Template.Literal

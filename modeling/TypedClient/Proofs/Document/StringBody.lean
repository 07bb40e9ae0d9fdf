import TypedClient.Proofs.Document.Escape
import TypedClient.Proofs.Document.Lexeme

/-! # Strings between single quotes

A string is read back from its escaped form, and from its bare text if that needs no escapes. The
converse is `bare_of_stringBody`: a text that is read as its own value, up to the first quote of
what follows, needs no escapes. For if the reader went over an escape it would have to go beyond the
first quote, and could only do so by putting a quote into the value earlier than the text has one.
-/

namespace TypedClient.Document.Lexer

open Text

/-! ## Escapes -/

/-- An escape in braces is spelled in solid characters. -/
theorem spelling_of_bracedEscape {left : Nat} {read : List Char} {code width : Nat}
    {text : List Char} {c : Char} (found : bracedEscape left read code text = .ok (c, width)) :
    ∃ spelling rest, text = spelling ++ rest ∧ read.length + spelling.length + 2 = width ∧
      AllSolid spelling := by
  induction text generalizing left read code with
  | nil => rw [bracedEscape] at found; cases found
  | cons d rest ih =>
      cases left with
      | zero => cases found
      | succ left =>
          rw [bracedEscape] at found
          split at found
          · next closing =>
            split at found
            · obtain ⟨rfl, rfl⟩ := found
              subst closing
              exact ⟨['}'], rest, rfl, rfl, .cons (by decide) fun _ member =>
                absurd member List.not_mem_nil⟩
            · cases found
          · split at found
            · next digit isDigit =>
              obtain ⟨spelling, after, rfl, length, solid⟩ := ih found
              refine ⟨d :: spelling, after, rfl, ?_, .cons (solid_of_digit ?_) solid⟩
              · rw [List.length_cons] at length ⊢
                omega
              · exact Option.isSome_iff_exists.2 ⟨digit, isDigit⟩
            · cases found

/-- An escape of four digits is spelled in solid characters. -/
theorem spelling_of_fixedEscape {width : Nat} {text : List Char} {c : Char}
    (found : fixedEscape text = .ok (c, width)) :
    ∃ spelling rest, text = spelling ++ rest ∧ spelling.length + 1 = width ∧
      AllSolid spelling := by
  unfold fixedEscape at found
  simp only [] at found
  split at found
  · cases found
  next high hexed =>
  obtain ⟨spelling, after, split, length, solid⟩ := spelling_of_numberInFront hexed
  split at found
  · cases found
    exact ⟨spelling, after, split, by rw [length], solid⟩
  split at found
  · rw [split, ← length, List.drop_left] at found
    split at found
    · next second =>
      split at found
      · next low lowHexed =>
        obtain ⟨lowSpelling, rest, rfl, lowLength, lowSolid⟩ := spelling_of_numberInFront lowHexed
        split at found
        · obtain rfl := (Prod.mk.inj (Except.ok.inj found)).2
          refine ⟨spelling ++ '\\' :: 'u' :: lowSpelling, rest, by rw [split]; simp, ?_,
            solid.append (.cons (by decide) (.cons (by decide) lowSolid))⟩
          simp [length, lowLength]
        · cases found
      · cases found
    · cases found
  · cases found

/-- An escape is a quote or consists of solid characters that are no quotes. -/
theorem spelling_of_escape {width : Nat} {text : List Char} {c : Char}
    (found : escape text = .ok (c, width)) :
    ∃ spelling rest, text = spelling ++ rest ∧ spelling.length = width ∧ spelling ≠ [] ∧
      (spelling = ['"'] ∧ c = '"' ∨ AllSolid spelling) := by
  have single {mark : Char} {rest : List Char} (solid : isSolid mark = true ∧ mark ≠ '"') :
      ∃ spelling after, mark :: rest = spelling ++ after ∧ spelling.length = 1 ∧ spelling ≠ [] ∧
        (spelling = ['"'] ∧ c = '"' ∨ AllSolid spelling) :=
    ⟨[mark], rest, rfl, rfl, List.cons_ne_nil _ _, .inr
      (.cons solid fun _ member => absurd member List.not_mem_nil)⟩
  unfold escape at found
  split at found
  · obtain ⟨spelling, after, rfl, length, solid⟩ := spelling_of_bracedEscape found
    refine ⟨'u' :: '{' :: spelling, after, rfl, ?_, List.cons_ne_nil _ _, .inr
      (.cons (by decide) (.cons (by decide) solid))⟩
    simp at length ⊢
    exact length
  · obtain ⟨spelling, after, rfl, length, solid⟩ := spelling_of_fixedEscape found
    exact ⟨'u' :: spelling, after, rfl, length, List.cons_ne_nil _ _, .inr
      (.cons (by decide) solid)⟩
  · next rest =>
    cases found
    exact ⟨['"'], rest, rfl, rfl, List.cons_ne_nil _ _, .inl ⟨rfl, rfl⟩⟩
  · cases found; exact single (by decide)
  · cases found; exact single (by decide)
  · cases found; exact single (by decide)
  · cases found; exact single (by decide)
  · cases found; exact single (by decide)
  · cases found; exact single (by decide)
  · cases found; exact single (by decide)
  · cases found

/-! ## Reading back -/

/-- A spelling that has been read is passed over. -/
theorem stringBody_skip (spelled rest : List Char) :
    stringBody spelled.length (spelled ++ rest) =
      (stringBody 0 rest).map fun (value, count) => (value, count + spelled.length) := by
  induction spelled with
  | nil =>
      rw [List.nil_append]
      cases stringBody 0 rest <;> rfl
  | cons c spelled ih =>
      rw [List.length_cons, List.cons_append, stringBody, ih]
      cases stringBody 0 rest <;> rfl

/-- The character stands for itself in a string. -/
def IsBare (c : Char) : Prop :=
  c ≠ '"' ∧ c ≠ '\\' ∧ isLineEnd c = false

theorem stringBody_raw {c : Char} (bare : IsBare c) (rest : List Char) :
    stringBody 0 (c :: rest) =
      (stringBody 0 rest).map fun (value, count) => (c :: value, count + 1) := by
  obtain ⟨quote, slash, ends⟩ := bare
  rw [stringBody, if_neg quote, if_neg (by rw [ends]; exact Bool.false_ne_true), if_neg slash]
  cases stringBody 0 rest <;> rfl

theorem isBare_of_isEscaped {c : Char} (raw : isEscaped c = false) : IsBare c := by
  simp only [isEscaped, Bool.or_eq_false_iff, decide_eq_false_iff_not] at raw
  obtain ⟨⟨⟨quote, slash⟩, low⟩, _⟩ := raw
  refine ⟨quote, slash, ?_⟩
  simp only [isLineEnd, Bool.or_eq_false_iff, decide_eq_false_iff_not]
  constructor <;> (rintro rfl; exact low (by decide))

/-- A text that needs no escapes is read as it stands. -/
theorem stringBody_bare {text : List Char} (bare : ∀ c ∈ text, IsBare c) (rest : List Char) :
    stringBody 0 (text ++ '"' :: rest) = .ok (text, text.length + 1) := by
  induction text with
  | nil => rfl
  | cons c text ih =>
      rw [List.cons_append, stringBody_raw (bare c List.mem_cons_self),
        ih fun d member => bare d (List.mem_cons_of_mem _ member)]
      rfl

/-- The escaped form of a text is read as the text. -/
theorem stringBody_escaped (text rest : List Char) :
    stringBody 0 (text.flatMap escapeChar ++ '"' :: rest) =
      .ok (text, (text.flatMap escapeChar).length + 1) := by
  induction text with
  | nil => rfl
  | cons c text ih =>
      cases kind : isEscaped c with
      | true =>
          obtain ⟨spelled, written, spells⟩ := escapeChar_spelled kind
          rw [List.flatMap_cons, written, List.cons_append, List.cons_append, List.append_assoc,
            stringBody, if_neg (by decide), if_neg (by decide), if_pos rfl, spells.document]
          change (stringBody spelled.length _ >>= _) = _
          rw [stringBody_skip, ih]
          change Except.ok (c :: text, _) = Except.ok (c :: text, _)
          rw [List.length_cons, List.length_append]
          congr 2
          omega
      | false =>
          rw [List.flatMap_cons, escapeChar_raw kind, List.append_assoc, List.singleton_append,
            stringBody_raw (isBare_of_isEscaped kind), ih]
          rfl

/-! ## Values that are their own text -/

/-- What a value can be if `front` stands in front of the first quote of the text that it is read
from: it is what stands there, or it has fewer characters, or it holds a quote within as many
characters. -/
def IsUpTo (front value : List Char) : Prop :=
  value.length < front.length ∨ value = front ∧ (∀ c ∈ front, IsBare c) ∨
    '"' ∈ value.take front.length

namespace IsUpTo

variable {front value : List Char}

/-- A bare character stands for itself. -/
theorem bare {c : Char} (isBare : IsBare c) (upTo : IsUpTo front value) :
    IsUpTo (c :: front) (c :: value) := by
  rcases upTo with fewer | ⟨rfl, others⟩ | member
  · exact .inl (Nat.succ_lt_succ fewer)
  · exact .inr (.inl ⟨rfl, List.forall_mem_cons.2 ⟨isBare, others⟩⟩)
  · exact .inr (.inr (List.mem_cons_of_mem _ member))

/-- An escape is longer than the character that it stands for. -/
theorem escaped {spelling : List Char} (filled : 0 < spelling.length) (slash escaped : Char)
    (upTo : IsUpTo front value) : IsUpTo (slash :: (spelling ++ front)) (escaped :: value) := by
  unfold IsUpTo
  rw [List.length_cons, List.length_cons, List.length_append]
  rcases upTo with fewer | ⟨rfl, _⟩ | member
  · exact .inl (by omega)
  · exact .inl (by omega)
  · have within : front.length ≤ spelling.length + front.length := Nat.le_add_left _ _
    exact .inr (.inr (List.mem_cons_of_mem _ (List.take_subset_take_left _ within member)))

/-- A value that starts like the text ends where that does. -/
theorem of_append {more : List Char} (upTo : IsUpTo front (front ++ more)) (quiet : '"' ∉ front) :
    more = [] ∧ ∀ c ∈ front, IsBare c := by
  rcases upTo with fewer | ⟨same, bare⟩ | inside
  · rw [List.length_append] at fewer
    omega
  · exact ⟨List.append_right_eq_self.1 same, bare⟩
  · rw [List.take_left] at inside
    exact absurd inside quiet

end IsUpTo

/-- What a reader finds up to the first quote. A line feed in front of it is refused. -/
theorem stringBody_upTo {last : Char} (ends : last = '"' ∨ last = '\n')
    {front rest value : List Char} {count : Nat} (quiet : '"' ∉ front)
    (found : stringBody 0 (front ++ last :: rest) = .ok (value, count)) :
    last = '"' ∧ IsUpTo front value := by
  induction length : front.length using Nat.strongRecOn generalizing front value count with
  | ind size ih =>
      subst length
      cases front with
      | nil =>
          rcases ends with rfl | rfl
          · cases found
            exact ⟨rfl, .inr (.inl ⟨rfl, fun _ member => absurd member List.not_mem_nil⟩)⟩
          · cases found
      | cons c front =>
          have quote : c ≠ '"' := fun same => quiet (same ▸ List.mem_cons_self)
          have quietRest : '"' ∉ front := fun member => quiet (List.mem_cons_of_mem _ member)
          rw [List.cons_append, stringBody, if_neg quote] at found
          split at found
          · cases found
          next noEnd =>
          split at found
          · next slash =>
            obtain ⟨⟨escaped, width⟩, isEscape, found⟩ := bind_eq_ok.1 found
            obtain ⟨⟨more, further⟩, others, same⟩ := bind_eq_ok.1 found
            cases same
            obtain ⟨spelling, after, split, rfl, filled, shape⟩ := spelling_of_escape isEscape
            have width := List.length_pos_iff.2 filled
            rcases piece_of_append split with ⟨inner, rfl, rfl⟩ | ⟨beyond, spelled⟩
            · rw [List.append_assoc, stringBody_skip] at others
              cases inside : stringBody 0 (inner ++ last :: rest) with
              | error fault => rw [inside] at others; cases others
              | ok found =>
                  rw [inside] at others
                  cases others
                  have quietInner : '"' ∉ inner := fun member =>
                    quietRest (List.mem_append_right _ member)
                  obtain ⟨isQuote, upTo⟩ := ih inner.length
                    (by rw [List.length_cons, List.length_append]; omega) quietInner inside rfl
                  exact ⟨isQuote, upTo.escaped width c escaped⟩
            · -- The escape takes the character behind the text, so it is an escaped quote.
              rcases shape with ⟨single, rfl⟩ | solid
              · have member : last ∈ spelling := by rw [spelled]; simp
                rw [single] at member
                exact ⟨List.mem_singleton.1 member, .inr (.inr List.mem_cons_self)⟩
              · have quiet := solid last (by rw [spelled]; simp)
                rcases ends with rfl | rfl
                · exact absurd rfl quiet.2
                · exact absurd quiet.1 (by decide)
          · next slash =>
            obtain ⟨⟨more, further⟩, others, same⟩ := bind_eq_ok.1 found
            cases same
            obtain ⟨isQuote, upTo⟩ := ih front.length (Nat.lt_succ_self _) quietRest others rfl
            exact ⟨isQuote, upTo.bare ⟨quote, slash, Bool.eq_false_iff.2 noEnd⟩⟩

/-- **Own texts.** A value that is read from a text which starts like it, up to a quote or a line
feed, is the text up to there, and needs no escapes. -/
theorem bare_of_stringBody {last : Char} (ends : last = '"' ∨ last = '\n')
    {front more rest : List Char} {count : Nat}
    (found : stringBody 0 (front ++ last :: rest) = .ok (front ++ more, count)) :
    last = '"' ∧ more = [] ∧ ∀ c ∈ front, IsBare c := by
  by_cases member : '"' ∈ front
  · obtain ⟨before, after, rfl, quiet⟩ := List.eq_append_cons_of_mem member
    rw [List.append_assoc, List.append_assoc, List.cons_append, List.cons_append] at found
    obtain ⟨_, upTo⟩ := stringBody_upTo (.inl rfl) quiet found
    cases (upTo.of_append quiet).1
  · obtain ⟨isQuote, upTo⟩ := stringBody_upTo ends member found
    exact ⟨isQuote, upTo.of_append member⟩

end TypedClient.Document.Lexer

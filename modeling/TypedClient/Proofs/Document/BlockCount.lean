import TypedClient.Proofs.Document.BlockBody

/-! # What a block string can hold

A value holds no more than what it is read from. Of the characters besides blanks it holds no more
than stand in front of the closing quotes, and fewer if the reader goes over three quotes in a row
there. Only if it goes beyond the closing quotes it holds more quotes (`blockBody_counts`).
-/

namespace TypedClient.Document

open Text

namespace BlockString

variable {holds : Char → Bool}

theorem countP_blank (blanks : ∀ c, isBlank c = true → holds c = false) {line : List Char}
    (blank : line.all isBlank = true) : line.countP holds = 0 := by
  refine List.countP_eq_zero.2 fun c member => ?_
  rw [blanks c (List.all_eq_true.1 blank c member)]
  exact Bool.false_ne_true

/-- Blank lines in front hold nothing that counts. -/
theorem countP_dropWhile (blanks : ∀ c, isBlank c = true → holds c = false)
    (lines : List (List Char)) :
    (lines.dropWhile (·.all isBlank)).flatten.countP holds = lines.flatten.countP holds := by
  induction lines with
  | nil => rfl
  | cons line lines ih =>
      rw [List.dropWhile_cons]
      split
      · next blank => rw [ih, List.flatten_cons, List.countP_append, countP_blank blanks blank,
          Nat.zero_add]
      · rfl

/-- The order of lines is of no account. -/
theorem countP_reverse (lines : List (List Char)) :
    lines.reverse.flatten.countP holds = lines.flatten.countP holds := by
  rw [List.countP_flatten, List.countP_flatten, List.map_reverse, List.sum_reverse]

/-- Blank lines at the ends hold nothing that counts. -/
theorem countP_trimBlankLines (blanks : ∀ c, isBlank c = true → holds c = false)
    (lines : List (List Char)) :
    (trimBlankLines lines).flatten.countP holds = lines.flatten.countP holds := by
  rw [trimBlankLines, countP_reverse, countP_dropWhile blanks, countP_reverse,
    countP_dropWhile blanks]

/-- A common margin holds nothing that counts. -/
theorem countP_drop_margin (blanks : ∀ c, isBlank c = true → holds c = false)
    {lines : List (List Char)} {count : Nat} (common : commonMargin? lines = some count)
    {line : List Char} (member : line ∈ lines) :
    (line.drop count).countP holds = line.countP holds := by
  have front : (line.take count).countP holds = 0 := by
    refine countP_blank blanks (List.all_eq_true.2 fun c inFront => ?_)
    by_cases blank : line.all isBlank = true
    · exact List.all_eq_true.1 blank c (List.mem_of_mem_take inFront)
    · have own : margin? line = some (line.takeWhile isBlank).length := by
        rw [margin?, if_neg blank]
      have least := (List.min?_eq_some_iff.1 common).2 _
        (List.mem_filterMap.2 ⟨line, member, own⟩)
      have inside := List.prefix_of_prefix_length_le (List.take_prefix count line)
        (List.takeWhile_prefix isBlank)
        (Nat.le_trans (List.length_take_le _ _) least)
      exact List.all_eq_true.1 List.all_takeWhile c (inside.subset inFront)
  have whole := congrArg (List.countP holds) (List.take_append_drop count line)
  rw [List.countP_append, front, Nat.zero_add] at whole
  exact whole

/-- A value has the characters of its lines but for blanks. -/
theorem countP_value (blanks : ∀ c, isBlank c = true → holds c = false)
    (lines : List (List Char)) :
    (value lines).flatten.countP holds = lines.flatten.countP holds := by
  cases lines with
  | nil => rfl
  | cons first others =>
      rw [value, countP_trimBlankLines blanks, List.flatten_cons, List.countP_append,
        List.flatten_cons, List.countP_append]
      congr 1
      cases common : commonMargin? others with
      | none => rfl
      | some count =>
          rw [List.countP_flatten, List.countP_flatten, List.map_map]
          congr 1
          exact List.map_congr_left fun line member => countP_drop_margin blanks common member

end BlockString

/-- The lines in one piece, with a character between them that does not count. -/
theorem countP_joined {holds : Char → Bool} (feed : holds '\n' = false)
    (lines : List (List Char)) :
    (lines.intersperse ['\n']).flatten.countP holds = lines.flatten.countP holds := by
  induction lines with
  | nil => rfl
  | cons first others ih =>
      cases others with
      | nil => rfl
      | cons second others =>
          rw [List.intersperse_cons_cons, List.flatten_cons, List.flatten_cons, List.countP_append,
            List.countP_append, ih, List.countP_singleton, feed, if_neg Bool.false_ne_true,
            Nat.zero_add, ← List.countP_append, ← List.flatten_cons]

namespace Lexer

/-- The number of quotes in a text. -/
def quotes (text : List Char) : Nat :=
  text.countP (· = '"')

theorem solid_pos_of_triple {text : List Char} (triple : tripleQuote <:+: text) :
    0 < text.countP isSolid :=
  List.countP_pos_iff.2 ⟨'"', triple.subset List.mem_cons_self, rfl⟩

/-- The lines hold no more than the text, and less if that has three quotes in a row; or they hold
more quotes. -/
def HoldsWithin (text : List Char) (lines : List (List Char)) : Prop :=
  (lines.flatten.countP isSolid ≤ text.countP isSolid ∧
    (tripleQuote <:+: text → lines.flatten.countP isSolid < text.countP isSolid)) ∨
  quotes text < quotes lines.flatten

/-- A step of the reader: `front` is taken off the text, and `added` comes in front of the lines. -/
theorem HoldsWithin.step {text : List Char} {lines extended : List (List Char)}
    (within : HoldsWithin text lines) (front added : List Char)
    (flat : extended.flatten = added ++ lines.flatten)
    (solid : added.countP isSolid ≤ front.countP isSolid) (quoted : quotes front ≤ quotes added)
    (triple : tripleQuote <:+: front ++ text →
      tripleQuote <:+: text ∨ added.countP isSolid < front.countP isSolid) :
    HoldsWithin (front ++ text) extended := by
  unfold HoldsWithin quotes at *
  rw [flat, List.countP_append, List.countP_append, List.countP_append, List.countP_append]
  rcases within with ⟨fewer, less⟩ | more
  · refine .inl ⟨Nat.add_le_add solid fewer, fun found => ?_⟩
    rcases triple found with inside | lost
    · exact Nat.add_lt_add_of_le_of_lt solid (less inside)
    · exact Nat.add_lt_add_of_lt_of_le lost fewer
  · exact .inr (Nat.add_lt_add_of_le_of_lt quoted more)

/-- A character that does not start three quotes is added, or ends a line. -/
theorem HoldsWithin.char {c : Char} {text : List Char} {lines : List (List Char)}
    (within : HoldsWithin text lines) (noQuotes : ¬tripleQuote <+: c :: text) :
    HoldsWithin (c :: text) (if isLineEnd c then [] :: lines else extendFirst c lines) := by
  have triple (found : tripleQuote <:+: c :: text) : tripleQuote <:+: text :=
    (List.infix_cons_iff.1 found).resolve_left noQuotes
  cases ends : isLineEnd c with
  | true =>
      have noQuote : quotes [c] = 0 := by
        refine List.countP_eq_zero.2 fun d member quote => ?_
        rw [← List.mem_singleton.1 member, of_decide_eq_true quote] at ends
        cases ends
      rw [if_pos rfl]
      exact within.step [c] [] rfl (Nat.zero_le _) noQuote.le fun found => .inl (triple found)
  | false =>
      rw [if_neg Bool.false_ne_true]
      exact within.step [c] [c] (extendFirst_flatten c lines) le_rfl le_rfl
        fun found => .inl (triple found)

/-- Text that ends among the three quotes behind a backslash has fewer quotes than they are. -/
theorem quotes_lt_of_short {text : List Char} (short : text.length < 3) (others : List Char) :
    quotes ('\\' :: text) < quotes (tripleQuote ++ others) := by
  have own : quotes ('\\' :: text) = quotes text := rfl
  have few : quotes text ≤ text.length := List.countP_le_length
  have three : quotes tripleQuote = 3 := rfl
  rw [own]
  unfold quotes at few three ⊢
  rw [List.countP_append, three]
  omega

/-- **What a block string can hold.** Either the reader ends at the three quotes behind the text or
earlier, and the lines hold no more than the text, and less if that has three quotes in a row; or it
goes beyond, and the lines hold more quotes. -/
theorem blockBody_counts {text rest : List Char} {lines : List (List Char)} {count : Nat}
    (found : blockBody? (text ++ tripleQuote ++ rest) = some (lines, count)) :
    HoldsWithin text lines := by
  generalize whole : text ++ tripleQuote ++ rest = all at found
  induction all using blockBody?.induct generalizing text lines count with
  | case1 => cases found
  | case2 after =>
      cases found
      exact .inl ⟨Nat.zero_le _, solid_pos_of_triple⟩
  | case3 after ih =>
      simp only [blockBody?, Option.bind_eq_bind, Option.bind_eq_some_iff] at found
      obtain ⟨⟨others, further⟩, behind, ⟨⟩⟩ := found
      have flat : (extendFirst '"' (extendFirst '"' (extendFirst '"' others))).flatten =
          tripleQuote ++ others.flatten := by
        rw [extendFirst_flatten, extendFirst_flatten, extendFirst_flatten]
        rfl
      cases text with
      | nil => cases (List.cons.inj whole).1
      | cons c text =>
          obtain ⟨rfl, inner⟩ := List.cons.inj whole
          by_cases short : text.length < 3
          · refine .inr ?_
            rw [flat]
            exact quotes_lt_of_short short _
          · have escaped : tripleQuote <+: text ++ tripleQuote ++ rest := ⟨after, inner.symm⟩
            have own : text <+: text ++ tripleQuote ++ rest :=
              ⟨tripleQuote ++ rest, (List.append_assoc _ _ _).symm⟩
            have opened : tripleQuote <+: text :=
              List.prefix_of_prefix_length_le escaped own (Nat.le_of_not_lt short)
            obtain ⟨inside, rfl⟩ := opened
            have same : inside ++ tripleQuote ++ rest = after := by
              simpa [tripleQuote] using inner
            exact (ih same behind).step ('\\' :: tripleQuote) tripleQuote flat (by decide) le_rfl
              fun _ => .inr (by decide)
  | case4 after ih =>
      simp only [blockBody?, Option.bind_eq_bind, Option.bind_eq_some_iff] at found
      obtain ⟨⟨others, further⟩, behind, ⟨⟩⟩ := found
      cases text with
      | nil => cases (List.cons.inj whole).1
      | cons c text =>
          obtain ⟨rfl, inner⟩ := List.cons.inj whole
          cases text with
          | nil => cases (List.cons.inj inner).1
          | cons d text =>
              obtain ⟨rfl, same⟩ := List.cons.inj inner
              exact (ih same behind).step ['\r', '\n'] [] rfl (by decide) le_rfl
                fun _ => .inr (by decide)
  | case5 c after noQuotes noEscape noPair ih =>
      rw [blockBody?.eq_5 c after noQuotes noEscape noPair] at found
      simp only [Option.bind_eq_bind, Option.bind_eq_some_iff] at found
      obtain ⟨⟨others, further⟩, behind, ⟨⟩⟩ := found
      cases text with
      | nil =>
          obtain ⟨rfl, rfl⟩ := List.cons.inj whole
          exact absurd rfl (noQuotes rest rfl)
      | cons d text =>
          obtain ⟨rfl, same⟩ := List.cons.inj whole
          refine (ih same behind).char ?_
          rintro ⟨more, start⟩
          obtain ⟨rfl, rfl⟩ := List.cons.inj start
          exact noQuotes _ rfl (by rw [← same]; rfl)

end Lexer

end TypedClient.Document

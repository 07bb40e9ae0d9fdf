import TypedClient.Text.Lines

/-! # Moving the lines of a text

`indent` cuts a text into lines and joins the moved lines. `moved` does the same in one pass over
the characters (`indent_toList`), so what it keeps is seen character by character: nothing between
two line ends changes, and every line boundary becomes a line feed.
-/

namespace TypedClient.Text

/-- The text with `margin` before its lines unless they are empty. A text that is not `fresh` does
not start a line, and nothing is put before its first one. -/
def moved (margin : List Char) : (fresh : Bool) → List Char → List Char
  | _, [] => []
  | _, '\r' :: '\n' :: rest => '\n' :: moved margin true rest
  | fresh, c :: rest =>
    if isLineBoundary c then '\n' :: moved margin true rest
    else (if fresh then margin else []) ++ c :: moved margin false rest

/-- The lines in one piece, moved like the lines of `moved`. -/
def laidOut (margin : List Char) (fresh : Bool) : List (List Char) → List Char
  | [] => []
  | first :: others =>
    (if fresh && !first.isEmpty then margin else []) ++ first ++
      others.flatMap fun line => '\n' :: ((if line.isEmpty then [] else margin) ++ line)

variable {margin : List Char}

/-- A line end is moved as a line feed, and a line starts behind it. -/
theorem moved_boundary {c : Char} (boundary : isLineBoundary c = true) (fresh : Bool)
    {rest : List Char} (single : c = '\r' → rest.head? ≠ some '\n') :
    moved margin fresh (c :: rest) = '\n' :: moved margin true rest := by
  rw [moved, if_pos boundary]
  rintro after carriage rfl
  exact single carriage rfl

/-- A character inside of a line is kept, behind the margin if the line is fresh. -/
theorem moved_inner {c : Char} (inner : isLineBoundary c = false) (fresh : Bool)
    (rest : List Char) :
    moved margin fresh (c :: rest) =
      (if fresh then margin else []) ++ c :: moved margin false rest := by
  rw [moved, if_neg (by rw [inner]; exact Bool.false_ne_true)]
  rintro after rfl
  exact absurd inner (by decide)

/-- An empty line has no margin. -/
theorem laidOut_nil_cons (fresh : Bool) {lines : List (List Char)} (filled : lines ≠ []) :
    laidOut margin fresh ([] :: lines) = '\n' :: laidOut margin true lines := by
  obtain ⟨first, others, rfl⟩ := List.exists_cons_of_ne_nil filled
  cases first <;> simp [laidOut]

/-- A character in front of the first line comes behind its margin. -/
theorem laidOut_extendFirst (fresh : Bool) (c : Char) {lines : List (List Char)}
    (filled : lines ≠ []) :
    laidOut margin fresh (extendFirst c lines) =
      (if fresh then margin else []) ++ c :: laidOut margin false lines := by
  obtain ⟨first, others, rfl⟩ := List.exists_cons_of_ne_nil filled
  cases fresh <;> simp [laidOut, extendFirst]

/-- The end of a text is the end of the longer one. -/
theorem getLast?_ne_of_cons {c last : Char} {rest : List Char}
    (ends : (c :: rest).getLast? ≠ some last) : rest.getLast? ≠ some last := by
  intro found
  rw [List.getLast?_cons, found] at ends
  exact ends rfl

/-- Behind a final line feed the lines of a text are the ones that `moved` goes over. A carriage
return at the end would make a pair with that line feed. -/
theorem laidOut_splitLines (text : List Char) (ends : text.getLast? ≠ some '\r') :
    splitLines (text ++ ['\n']) ≠ [] ∧ ∀ fresh,
      laidOut margin fresh (splitLines (text ++ ['\n'])) = moved margin fresh text := by
  fun_induction splitLines text with
  | case1 => exact ⟨by decide, fun fresh => by cases fresh <;> rfl⟩
  | case2 rest ih =>
      have later := ih (getLast?_ne_of_cons (getLast?_ne_of_cons ends))
      refine ⟨by simp [splitLines], fun fresh => ?_⟩
      rw [List.cons_append, List.cons_append, splitLines, moved, ← later.2 true,
        laidOut_nil_cons _ later.1]
  | case3 c rest pair boundary ih =>
      have later := ih (getLast?_ne_of_cons ends)
      have single : c = '\r' → rest.head? ≠ some '\n' := by
        rintro carriage first
        obtain ⟨after, rfl⟩ := List.head?_eq_some_iff.1 first
        exact pair after carriage rfl
      have cut : splitLines (c :: (rest ++ ['\n'])) = [] :: splitLines (rest ++ ['\n']) := by
        rw [splitLines, if_pos boundary]
        rintro after rfl follows
        cases rest with
        | nil => exact ends rfl
        | cons next rest => exact single rfl (by cases follows; rfl)
      refine ⟨by rw [List.cons_append, cut]; exact List.cons_ne_nil _ _, fun fresh => ?_⟩
      rw [List.cons_append, cut, laidOut_nil_cons _ later.1, later.2 true,
        moved_boundary boundary _ single]
  | case4 c rest pair inner ih =>
      have noBoundary : isLineBoundary c = false := Bool.eq_false_iff.2 inner
      have later := ih (getLast?_ne_of_cons ends)
      have cut : splitLines (c :: (rest ++ ['\n'])) =
          extendFirst c (splitLines (rest ++ ['\n'])) := by
        rw [splitLines, if_neg inner]
        rintro after rfl
        exact absurd noBoundary (by decide)
      refine ⟨?_, fun fresh => ?_⟩
      · rw [List.cons_append, cut]
        cases splitLines (rest ++ ['\n']) <;> exact List.cons_ne_nil _ _
      · rw [List.cons_append, cut, laidOut_extendFirst _ _ later.1, later.2 false,
          moved_inner noBoundary]

/-- Joined texts are the first one and the others behind separators. -/
theorem intercalate_cons (separator first : List Char) (others : List (List Char)) :
    separator.intercalate (first :: others) =
      first ++ others.flatMap fun text => separator ++ text := by
  induction others generalizing first with
  | nil => simp
  | cons next others ih => rw [List.intercalate_cons_cons, ih, List.flatMap_cons, List.append_assoc,
        List.append_assoc]

/-- **One pass.** Indenting a text puts the margin in front and moves its lines. -/
theorem indent_toList (margin text : String) (ends : text.toList.getLast? ≠ some '\r') :
    (indent margin text).toList = margin.toList ++ moved margin.toList false text.toList := by
  obtain ⟨filled, same⟩ := laidOut_splitLines text.toList ends
  obtain ⟨first, others, cut⟩ := List.exists_cons_of_ne_nil filled
  have line (line : List Char) :
      (if line.isEmpty then "" else margin ++ String.ofList line).toList =
        (if line.isEmpty then [] else margin.toList) ++ line := by
    cases line <;> simp
  rw [indent, ← same false, cut, laidOut]
  simp only []
  rw [String.toList_intercalate, List.map_cons, intercalate_cons, List.map_map, List.flatMap_map]
  simp only [Function.comp_apply, line]
  simp

/-! ## What moving keeps -/

/-- Inside of a line nothing is different. -/
theorem moved_line {front : List Char} (inner : ∀ c ∈ front, isLineBoundary c = false)
    (rest : List Char) : moved margin false (front ++ rest) = front ++ moved margin false rest := by
  induction front with
  | nil => rfl
  | cons c front ih =>
      rw [List.cons_append, moved_inner (inner c List.mem_cons_self),
        ih fun d member => inner d (List.mem_cons_of_mem _ member)]
      rfl

/-- At the start of a line there may be the margin, and nothing else is different. -/
theorem moved_fresh (text : List Char) :
    ∃ front, front ⊆ margin ∧ moved margin true text = front ++ moved margin false text := by
  cases text with
  | nil => exact ⟨[], List.nil_subset _, rfl⟩
  | cons c rest =>
      by_cases boundary : isLineBoundary c = true
      · refine ⟨[], List.nil_subset _, ?_⟩
        unfold moved
        split <;> simp_all
      · refine ⟨margin, List.Subset.refl _, ?_⟩
        rw [moved_inner (Bool.eq_false_iff.2 boundary), moved_inner (Bool.eq_false_iff.2 boundary)]
        rfl

/-- A text is moved up to a character inside of a line and then from it on. -/
theorem moved_append_inner {c : Char} (inner : isLineBoundary c = false) (fresh : Bool)
    (front : List Char) :
    ∃ start, ∀ rest, moved margin fresh (front ++ c :: rest) =
      start ++ c :: moved margin false rest := by
  have plain : c ≠ '\n' := by
    rintro rfl
    exact absurd inner (by decide)
  induction fresh, front using moved.induct with
  | case1 fresh =>
      exact ⟨if fresh then margin else [], fun rest => moved_inner inner fresh rest⟩
  | case2 fresh front ih =>
      obtain ⟨start, same⟩ := ih
      exact ⟨'\n' :: start, fun rest => by
        rw [List.cons_append, List.cons_append, moved, same]; rfl⟩
  | case3 fresh d front pair boundary ih =>
      obtain ⟨start, same⟩ := ih
      refine ⟨'\n' :: start, fun rest => ?_⟩
      rw [List.cons_append, moved_boundary boundary, same]
      · rfl
      · intro carriage first
        cases front with
        | nil => exact plain (Option.some.inj first)
        | cons next front => exact pair front carriage (by cases first; rfl)
  | case4 fresh d front pair other ih =>
      obtain ⟨start, same⟩ := ih
      refine ⟨(if fresh then margin else []) ++ d :: start, fun rest => ?_⟩
      rw [List.cons_append, moved_inner (Bool.eq_false_iff.2 other), same]
      simp

/-- Of the characters of a kind that neither the margin nor the line feed is of, moving keeps those
inside of lines. -/
theorem countP_moved {holds : Char → Bool} (margins : ∀ c ∈ margin, holds c = false)
    (feed : holds '\n' = false) (fresh : Bool) (text : List Char) :
    (moved margin fresh text).countP holds =
      text.countP fun c => holds c && !isLineBoundary c := by
  have start (fresh : Bool) : (if fresh then margin else []).countP holds = 0 := by
    refine List.countP_eq_zero.2 fun c member => ?_
    cases fresh with
    | false => exact absurd member List.not_mem_nil
    | true => rw [margins c member]; exact Bool.false_ne_true
  induction fresh, text using moved.induct with
  | case1 fresh => rfl
  | case2 fresh rest ih =>
      rw [moved, List.countP_cons_of_neg (by rw [feed]; exact Bool.false_ne_true),
        List.countP_cons_of_neg (by simp [isLineBoundary]),
        List.countP_cons_of_neg (by simp [isLineBoundary]), ih]
  | case3 fresh c rest pair boundary ih =>
      rw [moved, if_pos boundary,
        List.countP_cons_of_neg (by rw [feed]; exact Bool.false_ne_true),
        List.countP_cons_of_neg (by simp [boundary]), ih]
      exact fun after carriage => pair after carriage
  | case4 fresh c rest pair inner ih =>
      rw [moved_inner (Bool.eq_false_iff.2 inner), List.countP_append, start, List.countP_cons,
        List.countP_cons, ih]
      simp [Bool.eq_false_iff.2 inner]

/-- No line boundary is left but line feeds. -/
theorem not_mem_moved {c : Char} (boundary : isLineBoundary c = true) (feed : c ≠ '\n')
    (margins : c ∉ margin) (fresh : Bool) (text : List Char) : c ∉ moved margin fresh text := by
  have kept := @countP_moved margin (· = c)
    (fun d inside => decide_eq_false fun same => margins (same ▸ inside))
    (decide_eq_false (Ne.symm feed)) fresh text
  have clean : text.countP (fun d => decide (d = c) && !isLineBoundary d) = 0 := by
    rw [List.countP_eq_zero]
    intro d _ inner
    rw [Bool.and_eq_true, decide_eq_true_eq] at inner
    obtain ⟨rfl, inner⟩ := inner
    rw [boundary] at inner
    cases inner
  intro member
  exact List.countP_eq_zero.1 (kept.trans clean) c member (decide_eq_true rfl)

/-! ## Neighbours -/

section Neighbours

variable {a b : Char}

/-- Two characters in a row of which the first is no blank do not begin in blanks. -/
theorem infix_of_blanks (blank : a ≠ ' ') {blanks text : List Char} (own : ∀ c ∈ blanks, c = ' ')
    (inside : [a, b] <:+: blanks ++ text) : [a, b] <:+: text := by
  induction blanks with
  | nil => exact inside
  | cons c blanks ih =>
      rcases List.infix_cons_iff.1 inside with ⟨after, start⟩ | inner
      · exact absurd ((List.cons.inj start).1.trans (own c List.mem_cons_self)) blank
      · exact ih (fun d member => own d (List.mem_cons_of_mem _ member)) inner

/-- Inside of a line the first character stays the same or becomes a line feed. -/
theorem exists_moved_cons (margin : List Char) (c : Char) (rest : List Char) :
    ∃ others, moved margin false (c :: rest) =
      (if isLineBoundary c then '\n' else c) :: others := by
  cases boundary : isLineBoundary c with
  | true =>
      by_cases pair : c = '\r' ∧ rest.head? = some '\n'
      · obtain ⟨rfl, next⟩ := pair
        obtain ⟨others, rfl⟩ := List.head?_eq_some_iff.1 next
        exact ⟨_, rfl⟩
      · exact ⟨_, moved_boundary boundary _ fun carriage next => pair ⟨carriage, next⟩⟩
  | false => exact ⟨_, moved_inner boundary false rest⟩

/-- Moving makes no neighbours but for blanks and line feeds. -/
theorem infix_of_moved (own : ∀ c ∈ margin, c = ' ') (blank : a ≠ ' ') (feed : a ≠ '\n')
    (second : b ≠ '\n') (fresh : Bool) {text : List Char}
    (inside : [a, b] <:+: moved margin fresh text) : [a, b] <:+: text := by
  have line {rest : List Char} (inner : [a, b] <:+: '\n' :: rest) : [a, b] <:+: rest :=
    (List.infix_cons_iff.1 inner).resolve_left fun ⟨_, start⟩ => feed (List.cons.inj start).1
  induction fresh, text using moved.induct with
  | case1 fresh => exact inside
  | case2 fresh rest ih =>
      rw [moved] at inside
      exact List.infix_cons (List.infix_cons (ih (line inside)))
  | case3 fresh c rest pair boundary ih =>
      rw [moved, if_pos boundary] at inside
      · exact List.infix_cons (ih (line inside))
      · exact fun after carriage => pair after carriage
  | case4 fresh c rest pair inner ih =>
      have front : ∀ d ∈ (if fresh then margin else []), d = ' ' := by
        cases fresh with
        | false => exact fun _ member => absurd member List.not_mem_nil
        | true => exact own
      rw [moved_inner (Bool.eq_false_iff.2 inner)] at inside
      rcases List.infix_cons_iff.1 (infix_of_blanks blank front inside) with
        ⟨after, start⟩ | inner
      · obtain ⟨rfl, next⟩ := List.cons.inj start
        cases rest with
        | nil => cases next
        | cons d rest =>
            obtain ⟨others, shape⟩ := exists_moved_cons margin d rest
            rw [shape] at next
            have same := (List.cons.inj next).1
            split at same
            · exact absurd same second
            · exact ⟨[], rest, by rw [same]; rfl⟩
      · exact List.infix_cons (ih inner)

/-- Two characters in a row are not brought together by a margin. -/
theorem infix_of_indentAfterNewlines (own : ∀ c ∈ margin, c = ' ') (blank : a ≠ ' ')
    (feed : a ≠ '\n') {text : List Char}
    (inside : [a, b] <:+: indentAfterNewlines margin text) : [a, b] <:+: text := by
  induction text with
  | nil => exact inside
  | cons c rest ih =>
      rw [indentAfterNewlines] at inside
      split at inside
      · next same =>
        rcases List.infix_cons_iff.1 inside with ⟨after, start⟩ | inner
        · exact absurd ((List.cons.inj start).1.trans same) feed
        · exact List.infix_cons (ih (infix_of_blanks blank own inner))
      · rcases List.infix_cons_iff.1 inside with ⟨after, start⟩ | inner
        · obtain ⟨rfl, next⟩ := List.cons.inj start
          cases rest with
          | nil => cases next
          | cons d rest =>
              rw [indentAfterNewlines] at next
              have same : b = d := by
                split at next
                · exact (List.cons.inj next).1
                · exact (List.cons.inj next).1
              exact ⟨[], rest, by rw [same]; rfl⟩
        · exact List.infix_cons (ih inner)

end Neighbours

end TypedClient.Text

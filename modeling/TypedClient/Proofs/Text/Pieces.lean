import TypedClient.Text.Basic

/-! # Pieces of a text

A text that is cut at a separator can be put together again (`intercalate_pieces`), so its pieces
say all about it. Pieces at the ends are empty where the text begins or ends with a separator.
-/

namespace TypedClient.Text

/-- A character in front of the first text is in front of all of them. -/
theorem intercalate_extendFirst (separator c : Char) {texts : List (List Char)}
    (filled : texts ≠ []) :
    [separator].intercalate (extendFirst c texts) = c :: [separator].intercalate texts := by
  cases texts with
  | nil => exact absurd rfl filled
  | cons first rest => cases rest <;> simp [extendFirst]

/-- The pieces of a text, joined again, are the text. -/
theorem intercalate_pieces (separator : Char) (text : List Char) :
    [separator].intercalate (pieces separator text) = text := by
  induction text with
  | nil => rfl
  | cons c rest ih =>
      rw [pieces]
      by_cases same : c = separator
      · rw [if_pos same, List.intercalate_cons_of_ne_nil (pieces_ne_nil _ _), ih, same]
        rfl
      · rw [if_neg same, intercalate_extendFirst separator c (pieces_ne_nil _ _), ih]

/-- The pieces consist of the characters between separators. -/
theorem mem_of_mem_pieces {separator : Char} {text piece : List Char}
    (member : piece ∈ pieces separator text) {c : Char} (inside : c ∈ piece) :
    c ∈ text ∧ c ≠ separator := by
  induction text generalizing piece with
  | nil =>
      rw [List.mem_singleton.1 member] at inside
      cases inside
  | cons d rest ih =>
      have later {piece : List Char} (member : piece ∈ pieces separator rest) (inside : c ∈ piece) :
          c ∈ d :: rest ∧ c ≠ separator :=
        (ih member inside).imp_left (List.mem_cons_of_mem d)
      rw [pieces] at member
      by_cases same : d = separator
      · rw [if_pos same] at member
        rcases List.mem_cons.1 member with rfl | member
        · cases inside
        · exact later member inside
      · rw [if_neg same] at member
        obtain ⟨first, others, split⟩ := List.exists_cons_of_ne_nil (pieces_ne_nil separator rest)
        rw [split, extendFirst] at member
        rcases List.mem_cons.1 member with rfl | member
        · rcases List.mem_cons.1 inside with rfl | inside
          · exact ⟨List.mem_cons_self, same⟩
          · exact later (split ▸ List.mem_cons_self) inside
        · exact later (split ▸ List.mem_cons_of_mem first member) inside

/-- A separator between two texts separates their pieces. -/
theorem pieces_append (separator : Char) (first second : List Char) :
    pieces separator (first ++ separator :: second) =
      pieces separator first ++ pieces separator second := by
  induction first with
  | nil => simp [pieces]
  | cons c rest ih =>
      rw [List.cons_append, pieces, pieces, ih]
      by_cases same : c = separator
      · rw [if_pos same, if_pos same, List.cons_append]
      · obtain ⟨piece, others, split⟩ :=
          List.exists_cons_of_ne_nil (pieces_ne_nil separator rest)
        rw [if_neg same, if_neg same, split, extendFirst, List.cons_append, List.cons_append,
          extendFirst]

/-- A text without the separator is one piece. -/
theorem pieces_of_not_mem {separator : Char} {text : List Char} (whole : separator ∉ text) :
    pieces separator text = [text] := by
  induction text with
  | nil => rfl
  | cons c rest ih =>
      obtain ⟨own, others⟩ := not_or.1 (mt List.mem_cons.2 whole)
      rw [pieces, if_neg (Ne.symm own), ih others, extendFirst]

/-- The first piece is empty if a separator stands in front. -/
theorem head?_pieces {separator : Char} {text : List Char} (filled : text ≠ []) :
    (pieces separator text).head? = some [] ↔ text.head? = some separator := by
  cases text with
  | nil => exact absurd rfl filled
  | cons c rest =>
      rw [pieces]
      by_cases same : c = separator
      · simp [same]
      · obtain ⟨piece, others, split⟩ :=
          List.exists_cons_of_ne_nil (pieces_ne_nil separator rest)
        simp [same, split, extendFirst]

/-- The last piece is empty only behind a separator at the end. -/
theorem getLast?_of_pieces {separator : Char} {text : List Char} (filled : text ≠ [])
    (last : (pieces separator text).getLast? = some []) : text.getLast? = some separator := by
  induction text with
  | nil => exact absurd rfl filled
  | cons c rest ih =>
      rw [pieces] at last
      cases rest with
      | nil => by_cases same : c = separator <;> simp_all [pieces, extendFirst]
      | cons d more =>
          rw [List.getLast?_cons_cons]
          apply ih (List.cons_ne_nil d more)
          obtain ⟨piece, others, split⟩ :=
            List.exists_cons_of_ne_nil (pieces_ne_nil separator (d :: more))
          rw [split] at last ⊢
          by_cases same : c = separator
          · rwa [if_pos same, List.getLast?_cons_cons] at last
          · rw [if_neg same, extendFirst] at last
            cases others with
            | nil => cases last
            | cons second others => exact last

end TypedClient.Text

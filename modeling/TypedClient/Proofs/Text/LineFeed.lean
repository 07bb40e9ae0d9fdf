import TypedClient.Proofs.Files.Spelling

/-! # Lines between line feeds

A generated text is put together from lines, and falls into them again. What is joined by line feeds
has the lines of its parts (`linesOf_intercalate`), so that lines that are joined come back
(`linesOf_joined`).
-/

namespace TypedClient

/-- The lines of a text. -/
def linesOf (text : String) : List String :=
  (Text.pieces '\n' text.toList).map String.ofList

/-- A line feed between texts keeps their lines apart. -/
theorem linesOf_append (first second : String) :
    linesOf (first ++ "\n" ++ second) = linesOf first ++ linesOf second := by
  unfold linesOf
  rw [String.toList_append, String.toList_append, List.append_assoc, ← List.map_append]
  exact congrArg _ (Text.pieces_append '\n' first.toList second.toList)

/-- A text without line feeds is a line. -/
theorem linesOf_of_not_mem {line : String} (single : '\n' ∉ line.toList) :
    linesOf line = [line] := by
  rw [linesOf, Text.pieces_of_not_mem single, List.map_singleton, String.ofList_toList]

/-- Texts that are joined by line feeds have the lines of each. -/
theorem linesOf_intercalate {texts : List String} (filled : texts ≠ []) :
    linesOf (String.intercalate "\n" texts) = texts.flatMap linesOf := by
  induction texts with
  | nil => exact absurd rfl filled
  | cons first rest ih =>
      cases rest with
      | nil => rw [String.intercalate_singleton, List.flatMap_singleton]
      | cons second rest =>
          rw [String.intercalate_cons_cons, linesOf_append, ih (List.cons_ne_nil _ _),
            ← List.flatMap_cons]

/-- Texts of one line each are their lines. -/
theorem flatMap_linesOf {lines : List String} (single : ∀ line ∈ lines, '\n' ∉ line.toList) :
    lines.flatMap linesOf = lines := by
  rw [List.flatMap_congr fun line member => linesOf_of_not_mem (single line member),
    List.flatMap_singleton']

/-- Lines that are joined come back. -/
theorem linesOf_joined {lines : List String} (filled : lines ≠ [])
    (single : ∀ line ∈ lines, '\n' ∉ line.toList) :
    linesOf (String.intercalate "\n" lines) = lines := by
  rw [linesOf_intercalate filled, flatMap_linesOf single]

/-- What stands in front of all separators belongs to the first piece. -/
theorem pieces_append_of_not_mem {separator : Char} {front : List Char}
    (whole : separator ∉ front) {rest piece : List Char} {others : List (List Char)}
    (split : Text.pieces separator rest = piece :: others) :
    Text.pieces separator (front ++ rest) = (front ++ piece) :: others := by
  induction front with
  | nil => exact split
  | cons c front ih =>
      obtain ⟨own, later⟩ := not_or.1 (List.mem_cons.not.1 whole)
      rw [List.cons_append, Text.pieces, if_neg (Ne.symm own), ih later, Text.extendFirst,
        List.cons_append]

theorem head?_linesOf_append {front : String} (single : '\n' ∉ front.toList) (rest : String) :
    ∃ line ∈ (linesOf (front ++ rest)).head?, front.toList <+: line.toList := by
  obtain ⟨piece, others, split⟩ :=
    List.exists_cons_of_ne_nil (Text.pieces_ne_nil '\n' rest.toList)
  rw [linesOf, String.toList_append, pieces_append_of_not_mem single split, List.map_cons]
  refine ⟨String.ofList (front.toList ++ piece), rfl, ?_⟩
  rw [String.toList_ofList]
  exact List.prefix_append _ _

end TypedClient

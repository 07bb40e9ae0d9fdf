import Mathlib.Data.List.DropRight

/-! # Marks in a text

What stands up to the first mark of a text, and what stands behind the last one. A text with a mark
in it falls apart at the last one (`exists_eq_append_of_mem`), and what is behind it is what is read
off from the end (`rtakeWhile_behind`).
-/

namespace TypedClient

section Mark

variable {α : Type} [DecidableEq α] {mark : α} {text : List α}

theorem forall_ne_of_not_mem (whole : mark ∉ text) : ∀ a ∈ text, decide (a ≠ mark) = true := by
  intro a member
  exact decide_eq_true fun same => whole (same ▸ member)

/-! ## The first mark -/

/-- What stands in front of the first mark. -/
theorem takeWhile_upTo (whole : mark ∉ text) (rest : List α) :
    (text ++ mark :: rest).takeWhile (· ≠ mark) = text := by
  rw [List.takeWhile_append_of_pos (forall_ne_of_not_mem whole), List.takeWhile_cons_of_neg,
    List.append_nil]
  simp

/-- What stands from the first mark on. -/
theorem dropWhile_upTo (whole : mark ∉ text) (rest : List α) :
    (text ++ mark :: rest).dropWhile (· ≠ mark) = mark :: rest := by
  rw [List.dropWhile_append_of_pos (forall_ne_of_not_mem whole), List.dropWhile_cons_of_neg]
  simp

/-! ## The last mark -/

/-- What stands behind the last mark. -/
theorem rtakeWhile_behind (front : List α) (whole : mark ∉ text) :
    (front ++ mark :: text).rtakeWhile (· ≠ mark) = text := by
  have backwards : (front ++ mark :: text).reverse = text.reverse ++ mark :: front.reverse := by
    rw [List.reverse_append, List.reverse_cons, List.append_assoc, List.singleton_append]
  rw [List.rtakeWhile, backwards, takeWhile_upTo (by rwa [List.mem_reverse]), List.reverse_reverse]

/-- A text without the mark is taken whole from its end. -/
theorem rtakeWhile_of_not_mem (whole : mark ∉ text) : text.rtakeWhile (· ≠ mark) = text :=
  List.rtakeWhile_eq_self_iff.2 (forall_ne_of_not_mem whole)

omit [DecidableEq α] in
/-- A text with a mark in it falls apart at the last one. -/
theorem exists_eq_append_of_mem (member : mark ∈ text) :
    ∃ front back, text = front ++ mark :: back ∧ mark ∉ back := by
  obtain ⟨back, front, split, whole⟩ := List.eq_append_cons_of_mem (List.mem_reverse.2 member)
  refine ⟨front.reverse, back.reverse, ?_, by rwa [List.mem_reverse]⟩
  rw [List.reverse_eq_iff.1 split, List.reverse_append, List.reverse_cons, List.append_assoc,
    List.singleton_append]

end Mark

end TypedClient

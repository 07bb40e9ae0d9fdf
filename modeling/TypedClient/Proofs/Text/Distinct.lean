import Mathlib.Data.List.Induction
import Mathlib.Data.List.Nodup
import Mathlib.Data.List.Sort
import Mathlib.Data.String.Basic
import TypedClient.Text.Basic

/-! # Lists without repetitions

A list without its repetitions holds each item once. A register of texts is such a list too: taking
in two rows of texts one after the other is taking in both at once (`registerAll_append`). A sorted
set of texts is in strictly ascending order (`Text.sortedSet_pairwise`).
-/

namespace TypedClient

section EraseDups

variable {α : Type} [BEq α] [LawfulBEq α]

/-- Only what is new is put at the end. -/
theorem eraseDups_concat (items : List α) (item : α) :
    (items ++ [item]).eraseDups =
      if items.contains item then items.eraseDups else items.eraseDups ++ [item] := by
  rw [List.eraseDups_append]
  by_cases known : item ∈ items <;> simp [List.removeAll, List.eraseDups_cons, known]

/-- Without repetitions, no item comes twice. -/
theorem nodup_eraseDups (items : List α) : items.eraseDups.Nodup := by
  induction items using List.reverseRecOn with
  | nil => exact List.nodup_nil
  | append_singleton items item ih =>
      rw [eraseDups_concat]
      by_cases known : items.contains item = true
      · rwa [if_pos known]
      · rw [if_neg known, ← List.concat_eq_append]
        apply List.Nodup.concat _ ih
        rwa [List.mem_eraseDups, ← List.contains_iff_mem]

end EraseDups

/-! ## Registering texts

A register takes texts in one by one and keeps the first occurrence of each. -/

/-- What is registered once the texts are. Each new text goes to the end, where it is registered
first. -/
def registerAll (registered texts : List String) : List String :=
  registered ++ (texts.removeAll registered).eraseDups

section Register

variable {registered texts : List String} {text : String}

@[simp] theorem registerAll_nil (registered : List String) :
    registerAll registered [] = registered := by
  simp [registerAll]

/-- A text is registered once. -/
theorem registerAll_singleton (registered : List String) (text : String) :
    registerAll registered [text] =
      if text ∈ registered then registered else registered ++ [text] := by
  by_cases known : text ∈ registered <;>
    simp [registerAll, List.removeAll, List.eraseDups_cons, known]

/-- Registering in two parts is registering once. -/
theorem registerAll_append (registered first second : List String) :
    registerAll registered (first ++ second) =
      registerAll (registerAll registered first) second := by
  have split : (first ++ second).removeAll registered =
      first.removeAll registered ++ second.removeAll registered := List.filter_append _ _
  have remaining : (second.removeAll registered).removeAll (first.removeAll registered) =
      second.removeAll (registered ++ (first.removeAll registered).eraseDups) := by
    unfold List.removeAll
    rw [List.filter_filter]
    refine List.filter_congr fun text _ => ?_
    by_cases old : text ∈ registered <;> by_cases new : text ∈ first <;> simp [old, new]
  rw [registerAll, split, List.eraseDups_append, remaining, ← List.append_assoc]
  rfl

/-- Texts are registered one after the other. -/
theorem registerAll_cons (registered : List String) (text : String) (rest : List String) :
    registerAll registered (text :: rest) =
      registerAll (registerAll registered [text]) rest :=
  registerAll_append registered [text] rest

/-- What is registered was so before, or is among the new texts. -/
theorem mem_registerAll :
    text ∈ registerAll registered texts ↔ text ∈ registered ∨ text ∈ texts := by
  by_cases old : text ∈ registered <;> simp [registerAll, List.removeAll, old]

/-- Texts that are registered already change nothing. -/
theorem registerAll_of_subset (known : texts ⊆ registered) :
    registerAll registered texts = registered := by
  have nothing : texts.removeAll registered = [] := by
    rw [List.removeAll, List.filter_eq_nil_iff]
    intro text member
    simpa using known member
  rw [registerAll, nothing, List.eraseDups_nil, List.append_nil]

/-- Registering keeps texts distinct. -/
theorem nodup_registerAll (unique : registered.Nodup) (texts : List String) :
    (registerAll registered texts).Nodup := by
  induction texts generalizing registered with
  | nil => rwa [registerAll_nil]
  | cons text rest ih =>
      rw [registerAll_cons]
      apply ih
      rw [registerAll_singleton]
      by_cases known : text ∈ registered
      · rwa [if_pos known]
      · rw [if_neg known, List.nodup_append]
        refine ⟨unique, List.pairwise_singleton _ _, ?_⟩
        rintro old member new last rfl
        exact known (List.mem_singleton.1 last ▸ member)

end Register

/-! ## Sorted sets -/

/-- Each text stands before all greater ones. -/
theorem Text.sortedSet_pairwise (texts : List String) :
    (sortedSet texts).Pairwise (· < ·) := by
  have different : (sortedSet texts).Pairwise (· ≠ ·) :=
    (List.mergeSort_perm _ _).nodup_iff.2 (nodup_eraseDups texts)
  exact ((sorted_pairwise _).and different).imp fun both => lt_of_le_of_ne both.1 both.2

/-- A set of texts in order is known by its members. -/
theorem Text.eq_sortedSet {ordered texts : List String} (increasing : ordered.Pairwise (· < ·))
    (same : ∀ text, text ∈ ordered ↔ text ∈ texts) : ordered = sortedSet texts := by
  apply increasing.eq_of_mem_iff (sortedSet_pairwise texts)
  intro text
  rw [same, mem_sortedSet]

/-- A sorted set only depends on its members. -/
theorem Text.sortedSet_congr {one other : List String}
    (same : ∀ text, text ∈ one ↔ text ∈ other) : sortedSet one = sortedSet other := by
  apply eq_sortedSet (sortedSet_pairwise one)
  intro text
  rw [mem_sortedSet, same]

end TypedClient

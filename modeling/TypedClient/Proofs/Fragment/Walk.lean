import Mathlib.Algebra.GroupWithZero.Nat
import Mathlib.Algebra.Order.BigOperators.Group.List
import Mathlib.Algebra.Order.Group.Nat
import Mathlib.Data.List.Nodup
import TypedClient.Fragment.Spread
import TypedClient.Proofs.Text.Distinct

/-! # The walk along fragment spreads

`followSpreads` is given a number of steps and stops when they are used up. `Walk` is the walk
without that number: a derivation of it ends only with an empty line of pending names. The number of
steps that `neededFragments` allows is never used up, so what it gives is the end of a walk
(`walk_neededFragments`), and more steps change nothing (`walk_followBound`, `Walk.unique`).

What every walk keeps is stated once for the relation: no name is found twice (`Walk.nodup`), what
is known among the pending names is found (`Walk.mem_of_pending`), the found names are closed under
spreading (`Walk.closed`), and nothing else is found (`Walk.sound`). Walks can be put one after
another (`Walk.append`) and cut anywhere (`Walk.split`), and later occurrences of a name in line
make no difference (`Walk.eraseDups`).
-/

namespace TypedClient

open Document

/-- A walk from the names in line, `pending`, with those in `reached` already found, ends with the
names `found`. -/
inductive Walk (fragments : List FragmentDescriptor) :
    (reached pending found : List String) → Prop where
  | done {reached : List String} : Walk fragments reached [] reached
  | seen {reached pending found : List String} {name : String} (member : name ∈ reached)
      (rest : Walk fragments reached pending found) :
      Walk fragments reached (name :: pending) found
  | unknown {reached pending found : List String} {name : String} (fresh : name ∉ reached)
      (absent : spreadsOf? fragments name = none) (rest : Walk fragments reached pending found) :
      Walk fragments reached (name :: pending) found
  | enter {reached pending found spreads : List String} {name : String} (fresh : name ∉ reached)
      (known : spreadsOf? fragments name = some spreads)
      (rest : Walk fragments (reached ++ [name]) (spreads ++ pending) found) :
      Walk fragments reached (name :: pending) found

variable {fragments : List FragmentDescriptor} {reached pending found : List String}

/-! ## The number of steps -/

/-- The descriptor goes by one of the names. -/
def isAmong (names : List String) (descriptor : FragmentDescriptor) : Bool :=
  names.any descriptor.isNamed

/-- The number of names that the descriptors not yet reached can put in line. -/
def spreadsLeft (fragments : List FragmentDescriptor) (reached : List String) : Nat :=
  ((fragments.filter fun descriptor => !isAmong reached descriptor).map fun descriptor =>
    (directSpreads descriptor.node.selections).length).sum

private theorem sum_filter_add_le {α : Type} (size : α → Nat) {before after : α → Bool}
    (kept : ∀ item, after item = true → before item = true) {dropped : α}
    (counted : before dropped = true) (lost : after dropped = false) :
    ∀ {items : List α}, dropped ∈ items →
      ((items.filter after).map size).sum + size dropped ≤ ((items.filter before).map size).sum
  | item :: rest, member => by
    have sublist : ((rest.filter after).map size).sum ≤ ((rest.filter before).map size).sum :=
      List.Sublist.sum_le_sum ((List.monotone_filter_right rest kept).map size) (by simp)
    rcases List.mem_cons.1 member with rfl | deeper
    · simp only [List.filter_cons, counted, lost, ↓reduceIte, Bool.false_eq_true, List.map_cons,
        List.sum_cons]
      omega
    · have tail := sum_filter_add_le size kept counted lost deeper
      by_cases stays : after item = true
      · simp only [List.filter_cons, stays, kept item stays, ↓reduceIte, List.map_cons,
          List.sum_cons]
        omega
      · by_cases was : before item = true <;>
          simp only [List.filter_cons, stays, was, ↓reduceIte, List.map_cons,
            List.sum_cons, Bool.false_eq_true] <;> omega

/-- Entering a fragment uses up what its descriptor could put in line. -/
theorem spreadsLeft_enter {spreads : List String} {name : String} (fresh : name ∉ reached)
    (known : spreadsOf? fragments name = some spreads) :
    spreadsLeft fragments (reached ++ [name]) + spreads.length ≤ spreadsLeft fragments reached := by
  obtain ⟨descriptor, first, rfl⟩ := Option.map_eq_some_iff.1 known
  have named := name_of_findFragment? first
  refine sum_filter_add_le (fun descriptor => (directSpreads descriptor.node.selections).length)
    ?_ ?_ ?_ (mem_of_findFragment? first)
  · intro other outside
    simp only [isAmong, List.any_append, Bool.not_or, Bool.and_eq_true] at outside ⊢
    exact outside.1
  · simp only [isAmong, Bool.not_eq_true', List.any_eq_false]
    intro other member same
    rw [FragmentDescriptor.isNamed_iff] at same
    have equal : name = other := Setting.text.inj (named.symm.trans same)
    exact fresh (equal ▸ member)
  · simp [isAmong, FragmentDescriptor.isNamed_iff, named]

/-- Enough steps lead to the end of a walk. -/
theorem walk_followSpreads {steps : Nat}
    (enough : pending.length + spreadsLeft fragments reached ≤ steps) :
    Walk fragments reached pending (followSpreads fragments steps reached pending) := by
  induction steps generalizing reached pending with
  | zero =>
      have empty : pending = [] := List.length_eq_zero_iff.1 (by omega)
      subst empty
      exact .done
  | succ steps ih =>
      cases pending with
      | nil => exact .done
      | cons name pending =>
          rw [List.length_cons] at enough
          rw [followSpreads]
          by_cases member : name ∈ reached
          · rw [if_pos member]
            exact .seen member (ih (by omega))
          · rw [if_neg member]
            cases known : spreadsOf? fragments name with
            | none => exact .unknown member known (ih (by omega))
            | some spreads =>
                have smaller := spreadsLeft_enter member known
                exact .enter member known (ih (by rw [List.length_append]; omega))

/-- A walk has one end. -/
theorem Walk.unique {other : List String} (walk : Walk fragments reached pending found)
    (second : Walk fragments reached pending other) : found = other := by
  induction walk with
  | done => cases second; rfl
  | seen member _ ih =>
      cases second with
      | seen _ rest => exact ih rest
      | unknown fresh => exact absurd member fresh
      | enter fresh => exact absurd member fresh
  | unknown fresh absent _ ih =>
      cases second with
      | seen member => exact absurd member fresh
      | unknown _ _ rest => exact ih rest
      | enter _ known => cases absent.symm.trans known
  | enter fresh known _ ih =>
      cases second with
      | seen member => exact absurd member fresh
      | unknown _ absent => cases absent.symm.trans known
      | enter _ again rest =>
          cases Option.some.inj (known.symm.trans again)
          exact ih rest

theorem spreadsLeft_nil :
    spreadsLeft fragments [] =
      (fragments.flatMap fun fragment => directSpreads fragment.node.selections).length := by
  have all : fragments.filter (fun descriptor => !isAmong [] descriptor) = fragments :=
    List.filter_eq_self.2 fun _ _ => rfl
  rw [spreadsLeft, all, List.length_flatMap]

/-- The steps that are allowed are enough. -/
theorem walk_followBound {start : List String} {steps : Nat}
    (enough : followBound fragments start ≤ steps) :
    Walk fragments [] start (followSpreads fragments steps [] start) := by
  apply walk_followSpreads
  rw [spreadsLeft_nil, ← List.length_append]
  exact enough

/-- What a selection set needs is the end of the walk from the names spread in it. -/
theorem walk_neededFragments (fragments : List FragmentDescriptor) (selections : List Selection) :
    Walk fragments [] (directSpreads selections) (neededFragments fragments selections) :=
  walk_followBound (Nat.le_refl _)

/-! ## What every walk keeps -/

namespace Walk

theorem nodup (walk : Walk fragments reached pending found) (distinct : reached.Nodup) :
    found.Nodup := by
  induction walk with
  | done => exact distinct
  | seen _ _ ih => exact ih distinct
  | unknown _ _ _ ih => exact ih distinct
  | enter fresh _ _ ih =>
      refine ih (List.nodup_append.2 ⟨distinct, List.nodup_singleton _, ?_⟩)
      intro old member new single same
      exact fresh (List.mem_singleton.1 single ▸ same ▸ member)

/-- Names once reached stay in front. -/
theorem reached_prefix (walk : Walk fragments reached pending found) : reached <+: found := by
  induction walk with
  | done => exact List.prefix_rfl
  | seen _ _ ih => exact ih
  | unknown _ _ _ ih => exact ih
  | enter _ _ _ ih => exact (List.prefix_append _ _).trans ih

theorem mem_of_reached (walk : Walk fragments reached pending found) {name : String}
    (member : name ∈ reached) : name ∈ found :=
  walk.reached_prefix.subset member

/-- Whatever is in line and known is found. -/
theorem mem_of_pending (walk : Walk fragments reached pending found) {name : String}
    (member : name ∈ pending) (known : (spreadsOf? fragments name).isSome) : name ∈ found := by
  induction walk with
  | done => cases member
  | seen old rest ih =>
      rcases List.mem_cons.1 member with rfl | later
      · exact rest.mem_of_reached old
      · exact ih later
  | unknown _ absent _ ih =>
      rcases List.mem_cons.1 member with rfl | later
      · rw [absent] at known
        cases known
      · exact ih later
  | enter _ _ rest ih =>
      rcases List.mem_cons.1 member with rfl | later
      · exact rest.mem_of_reached (List.mem_append_right _ (List.mem_singleton_self _))
      · exact ih (List.mem_append_right _ later)

/-- Every known name spread in a found fragment is found. The names of fragments that are entered
but not yet left are found or still in line. -/
theorem closed (walk : Walk fragments reached pending found)
    (partly : ∀ name ∈ reached, ∀ spreads, spreadsOf? fragments name = some spreads →
      ∀ next ∈ spreads, (spreadsOf? fragments next).isSome → next ∈ reached ∨ next ∈ pending) :
    ∀ name ∈ found, ∀ spreads, spreadsOf? fragments name = some spreads →
      ∀ next ∈ spreads, (spreadsOf? fragments next).isSome → next ∈ found := by
  induction walk with
  | done =>
      intro name member spreads known next spread held
      exact (partly name member spreads known next spread held).resolve_right List.not_mem_nil
  | seen old _ ih =>
      apply ih
      intro name member spreads known next spread held
      rcases partly name member spreads known next spread held with before | line
      · exact .inl before
      · rcases List.mem_cons.1 line with rfl | later
        · exact .inl old
        · exact .inr later
  | unknown _ absent _ ih =>
      apply ih
      intro name member spreads known next spread held
      rcases partly name member spreads known next spread held with before | line
      · exact .inl before
      · rcases List.mem_cons.1 line with rfl | later
        · rw [absent] at held
          cases held
        · exact .inr later
  | enter _ entered _ ih =>
      apply ih
      intro name member spreads known next spread held
      rcases List.mem_append.1 member with old | new
      · rcases partly name old spreads known next spread held with before | line
        · exact .inl (List.mem_append_left _ before)
        · rcases List.mem_cons.1 line with rfl | later
          · exact .inl (List.mem_append_right _ (List.mem_singleton_self _))
          · exact .inr (List.mem_append_right _ later)
      · cases List.mem_singleton.1 new
        cases Option.some.inj (known.symm.trans entered)
        exact .inr (List.mem_append_left _ spread)

/-- A property of the known names in line that passes on from a fragment to the known names spread
in it holds of all names found. -/
theorem sound (walk : Walk fragments reached pending found) (holds : String → Prop)
    (old : ∀ name ∈ reached, holds name)
    (line : ∀ name ∈ pending, (spreadsOf? fragments name).isSome → holds name)
    (passes : ∀ name spreads, holds name → spreadsOf? fragments name = some spreads →
      ∀ next ∈ spreads, (spreadsOf? fragments next).isSome → holds next) :
    ∀ name ∈ found, holds name := by
  induction walk with
  | done => exact old
  | seen _ _ ih => exact ih old fun name member => line name (List.mem_cons_of_mem _ member)
  | unknown _ _ _ ih => exact ih old fun name member => line name (List.mem_cons_of_mem _ member)
  | enter _ known _ ih =>
      have entered := line _ List.mem_cons_self (known ▸ rfl)
      apply ih
      · intro name member
        rcases List.mem_append.1 member with before | new
        · exact old name before
        · exact List.mem_singleton.1 new ▸ entered
      · intro name member held
        rcases List.mem_append.1 member with spread | later
        · exact passes _ _ entered known name spread held
        · exact line name (List.mem_cons_of_mem _ later) held

/-! ## One walk after another -/

variable {names middle : List String} {name : String}

/-- A walk along some names and a walk from there on along others are one walk. -/
theorem append (front : Walk fragments reached names middle)
    (back : Walk fragments middle pending found) :
    Walk fragments reached (names ++ pending) found := by
  induction front with
  | done => exact back
  | seen member _ ih => exact .seen member (ih back)
  | unknown fresh absent _ ih => exact .unknown fresh absent (ih back)
  | enter fresh known _ ih =>
      have line := ih back
      rw [List.append_assoc] at line
      exact .enter fresh known line

/-- From everywhere a walk leads somewhere. -/
theorem exists_found (fragments : List FragmentDescriptor) (reached pending : List String) :
    ∃ found, Walk fragments reached pending found :=
  ⟨_, walk_followSpreads (Nat.le_refl _)⟩

/-- Every walk is two walks, wherever the line is cut. -/
theorem split (walk : Walk fragments reached (names ++ pending) found) :
    ∃ middle, Walk fragments reached names middle ∧ Walk fragments middle pending found := by
  obtain ⟨middle, front⟩ := exists_found fragments reached names
  obtain ⟨other, back⟩ := exists_found fragments middle pending
  have same : found = other := walk.unique (front.append back)
  exact ⟨middle, front, same ▸ back⟩

/-- A name that is found already, or not known, changes nothing. -/
theorem idle (settled : (spreadsOf? fragments name).isSome → name ∈ reached) :
    Walk fragments reached [name] reached := by
  by_cases member : name ∈ reached
  · exact .seen member .done
  · exact .unknown member (Option.not_isSome_iff_eq_none.1 (mt settled member)) .done

/-- Only the first occurrence of a name in line counts. -/
theorem eraseDups (walk : Walk fragments reached names found) :
    Walk fragments reached names.eraseDups found := by
  induction names using List.reverseRecOn generalizing found with
  | nil => exact walk
  | append_singleton names name ih =>
      obtain ⟨middle, front, last⟩ := walk.split
      rw [eraseDups_concat]
      by_cases before : name ∈ names
      · have same : found = middle := last.unique (idle (front.mem_of_pending before))
        rw [if_pos (List.contains_iff_mem.2 before), same]
        exact ih front
      · rw [if_neg (mt List.contains_iff_mem.1 before)]
        exact (ih front).append last

end Walk

end TypedClient

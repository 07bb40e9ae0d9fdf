import Mathlib.Data.Set.Finite.Basic
import Mathlib.Logic.Relation
import Mathlib.Order.WellFoundedSet
import TypedClient.Proofs.Fragment.Reach

/-! # Expanding spreads

The plain way to list what a definition needs is to expand it: behind each known name that is spread
stands the whole expansion of its fragment, however often it was expanded before, and unknown names
are dropped (`Expands`). Without cycles among known names every definition has an expansion, and one
only. The walk leaves out what it has come to before. It still gives the names of the expansion in
the order of their first occurrences (`neededFragments_eq_expansion`): a fragment that it leaves out
is not being walked at that moment, as it would lead to itself, so all that it expands to is found
already.
-/

namespace TypedClient

open Document

variable {fragments : List FragmentDescriptor} {names expansion : List String} {name next : String}

/-! ## Expansions -/

/-- The names in a row expand to the names of the expansion. -/
inductive Expands (fragments : List FragmentDescriptor) :
    (names expansion : List String) → Prop where
  | done : Expands fragments [] []
  | unknown {name : String} {rest expansion : List String}
      (absent : findFragment? fragments name = none) (later : Expands fragments rest expansion) :
      Expands fragments (name :: rest) expansion
  | known {name : String} {rest inner expansion : List String} {descriptor : FragmentDescriptor}
      (first : findFragment? fragments name = some descriptor)
      (inside : Expands fragments (Selection.allSpreads descriptor.node.selections) inner)
      (later : Expands fragments rest expansion) :
      Expands fragments (name :: rest) (name :: inner ++ expansion)

/-- The second name is known and spread in the first descriptor of the first name. -/
def LeadsToKnown (fragments : List FragmentDescriptor) (name next : String) : Prop :=
  LeadsTo fragments name next ∧ IsKnown fragments next

/-- No known name leads back to itself. -/
def IsAcyclic (fragments : List FragmentDescriptor) : Prop :=
  ∀ name, ¬Relation.TransGen (LeadsToKnown fragments) name name

/-- A fragment that is found is known. -/
theorem isKnown_of_findFragment? {descriptor : FragmentDescriptor}
    (first : findFragment? fragments name = some descriptor) : IsKnown fragments name :=
  ⟨descriptor, mem_of_findFragment? first, name_of_findFragment? first⟩

theorem not_isKnown_of_findFragment? (absent : findFragment? fragments name = none) :
    ¬IsKnown fragments name := by
  rw [isKnown_iff, spreadsOf?, absent]
  exact Bool.false_ne_true

/-- A name leads to the names that are spread in its first descriptor. -/
theorem leadsTo_iff_mem_allSpreads {descriptor : FragmentDescriptor}
    (first : findFragment? fragments name = some descriptor) :
    LeadsTo fragments name next ↔ next ∈ Selection.allSpreads descriptor.node.selections := by
  rw [Selection.mem_allSpreads, LeadsTo]
  constructor
  · rintro ⟨other, found, spread⟩
    cases first.symm.trans found
    exact spread
  · exact fun spread => ⟨descriptor, first, spread⟩

/-- A fragment leads to each known fragment that it spreads at any depth. -/
theorem LeadsToKnown.of_mem_allSpreads {descriptor : FragmentDescriptor}
    (first : findFragment? fragments name = some descriptor)
    (spread : next ∈ Selection.allSpreads descriptor.node.selections)
    (known : IsKnown fragments next) : LeadsToKnown fragments name next :=
  ⟨(leadsTo_iff_mem_allSpreads first).2 spread, known⟩

/-! ## Every definition has one expansion -/

namespace Expands

/-- An expansion is unique. -/
theorem unique {other : List String} (expands : Expands fragments names expansion)
    (second : Expands fragments names other) : other = expansion := by
  induction expands generalizing other with
  | done => cases second; rfl
  | unknown absent _ ih =>
      cases second with
      | unknown _ later => exact ih later
      | known first => cases absent.symm.trans first
  | known first _ _ ihInside ihLater =>
      cases second with
      | unknown absent => cases absent.symm.trans first
      | known again inside later =>
          cases first.symm.trans again
          rw [ihInside inside, ihLater later]

end Expands

/-- There are finitely many known names. -/
theorem finite_isKnown (fragments : List FragmentDescriptor) :
    {name | IsKnown fragments name}.Finite :=
  (fragments.map (·.name)).finite_toSet.preimage
    (f := Setting.text) (fun _ _ _ _ same => Setting.text.inj same) |>.subset
      fun _ ⟨_, member, named⟩ => List.mem_map.2 ⟨_, member, named⟩

/-- Without cycles, going from name to name comes to an end. -/
theorem IsAcyclic.wellFounded (acyclic : IsAcyclic fragments) :
    WellFounded fun next name => LeadsToKnown fragments name next := by
  let Below (next name : String) : Prop := Relation.TransGen (LeadsToKnown fragments) name next
  have order : IsStrictOrder String Below :=
    { irrefl := acyclic, trans := fun _ _ _ late early => early.trans late }
  have below : {name | IsKnown fragments name}.WellFoundedOn Below :=
    (finite_isKnown fragments).wellFoundedOn
  refine Subrelation.wf ?_ (Set.wellFoundedOn_iff.1 below)
  intro next name leads
  obtain ⟨_, first, _⟩ := leads.1
  exact ⟨.single leads, leads.2, isKnown_of_findFragment? first⟩

/-- A row has an expansion if the fragments of its known names have. -/
theorem exists_expansion_of_each
    (each : ∀ name ∈ names, ∀ descriptor, findFragment? fragments name = some descriptor →
      ∃ inner, Expands fragments (Selection.allSpreads descriptor.node.selections) inner) :
    ∃ expansion, Expands fragments names expansion := by
  induction names with
  | nil => exact ⟨[], .done⟩
  | cons name rest ih =>
      obtain ⟨own, others⟩ := List.forall_mem_cons.1 each
      obtain ⟨expansion, later⟩ := ih others
      cases first : findFragment? fragments name with
      | none => exact ⟨expansion, .unknown first later⟩
      | some descriptor =>
          obtain ⟨inner, inside⟩ := own descriptor first
          exact ⟨name :: inner ++ expansion, .known first inside later⟩

/-- Without cycles, whatever stands in a row has an expansion. -/
theorem IsAcyclic.exists_expansion (acyclic : IsAcyclic fragments) (names : List String) :
    ∃ expansion, Expands fragments names expansion := by
  have each (name : String) : ∀ descriptor, findFragment? fragments name = some descriptor →
      ∃ inner, Expands fragments (Selection.allSpreads descriptor.node.selections) inner := by
    induction name using acyclic.wellFounded.induction with
    | _ name ih =>
        intro descriptor first
        refine exists_expansion_of_each fun next spread deeper found => ?_
        have known : IsKnown fragments next := isKnown_of_findFragment? found
        exact ih next (.of_mem_allSpreads first spread known) deeper found
  exact exists_expansion_of_each fun name _ => each name

/-! ## What an expansion holds -/

namespace Expands

/-- The known names of the row stand in its expansion. -/
theorem mem_of_mem_names (expands : Expands fragments names expansion) (member : name ∈ names)
    (isKnown : IsKnown fragments name) : name ∈ expansion := by
  induction expands with
  | done => cases member
  | unknown absent _ ih =>
      rcases List.mem_cons.1 member with rfl | later
      · exact absurd isKnown (not_isKnown_of_findFragment? absent)
      · exact ih later
  | known _ _ _ _ ihLater =>
      rcases List.mem_cons.1 member with rfl | later
      · exact List.mem_cons_self
      · exact List.mem_append_right _ (ihLater later)

/-- With a name, an expansion holds the known names that it leads to. -/
theorem closed (expands : Expands fragments names expansion) (member : name ∈ expansion)
    (leads : LeadsToKnown fragments name next) : next ∈ expansion := by
  induction expands with
  | done => cases member
  | unknown _ _ ih => exact ih member
  | known first inside _ ihInside ihLater =>
      rw [List.cons_append]
      rcases List.mem_cons.1 member with rfl | deeper
      · have spread := (leadsTo_iff_mem_allSpreads first).1 leads.1
        have inner := inside.mem_of_mem_names spread leads.2
        exact List.mem_cons_of_mem _ (List.mem_append_left _ inner)
      · rcases List.mem_append.1 deeper with inner | later
        · exact List.mem_cons_of_mem _ (List.mem_append_left _ (ihInside inner))
        · exact List.mem_cons_of_mem _ (List.mem_append_right _ (ihLater later))

/-- A property of the known names of the row that passes on to the known names that they lead to
holds throughout the expansion. -/
theorem sound (expands : Expands fragments names expansion) (holds : String → Prop)
    (line : ∀ name ∈ names, IsKnown fragments name → holds name)
    (passes : ∀ name ∈ expansion, holds name →
      ∀ next, LeadsToKnown fragments name next → holds next) :
    ∀ name ∈ expansion, holds name := by
  induction expands with
  | done => exact fun _ member => absurd member List.not_mem_nil
  | unknown _ _ ih => exact ih (fun name later => line name (List.mem_cons_of_mem _ later)) passes
  | @known name rest inner expansion descriptor first _ _ ihInside ihLater =>
      have own := line name List.mem_cons_self (isKnown_of_findFragment? first)
      have passesOwn := passes name (List.mem_append_left _ List.mem_cons_self) own
      have insideHolds := ihInside
        (fun next spread known => passesOwn next (.of_mem_allSpreads first spread known))
        (fun other inner => passes other (List.mem_append_left _ (List.mem_cons_of_mem _ inner)))
      have laterHolds := ihLater (fun name later => line name (List.mem_cons_of_mem _ later))
        (fun other later => passes other (List.mem_append_right _ later))
      intro other member
      rcases List.mem_append.1 member with front | later
      · rcases List.mem_cons.1 front with rfl | inner
        · exact own
        · exact insideHolds other inner
      · exact laterHolds other later

end Expands

/-! ## The walk along an expansion -/

/-- With each name that is reached, the known names that it leads to are reached. This is asked of
the names of the expansion only, as the fragments that are being walked are reached before the names
that they lead to are. -/
def SettledIn (fragments : List FragmentDescriptor) (expansion reached : List String) : Prop :=
  ∀ name ∈ reached, name ∈ expansion → ∀ next, LeadsToKnown fragments name next → next ∈ reached

/-- What is settled in an expansion is settled in its parts. -/
theorem SettledIn.mono {part reached : List String}
    (settled : SettledIn fragments expansion reached) (subset : part ⊆ expansion) :
    SettledIn fragments part reached :=
  fun name member inside => settled name member (subset inside)

section Known

variable {descriptor : FragmentDescriptor} {inner reached : List String}

/-- Without cycles, a name is not in the expansion of its fragment. -/
theorem IsAcyclic.not_mem_inside (acyclic : IsAcyclic fragments)
    (first : findFragment? fragments name = some descriptor)
    (inside : Expands fragments (Selection.allSpreads descriptor.node.selections) inner) :
    name ∉ inner := by
  intro loop
  have below := inside.sound (Relation.TransGen (LeadsToKnown fragments) name)
    (fun next spread known => .single (.of_mem_allSpreads first spread known))
    (fun _ _ onward _ leads => onward.tail leads)
  exact acyclic name (below name loop)

/-- If a name is reached, all that its fragment expands to is reached. -/
theorem SettledIn.inside_subset (settled : SettledIn fragments (name :: inner ++ expansion) reached)
    (first : findFragment? fragments name = some descriptor)
    (inside : Expands fragments (Selection.allSpreads descriptor.node.selections) inner)
    (member : name ∈ reached) : inner ⊆ reached := by
  refine inside.sound (· ∈ reached) ?_ ?_
  · intro next spread known
    exact settled name member List.mem_cons_self next (.of_mem_allSpreads first spread known)
  · intro other deeper old
    exact settled other old (List.mem_append_left _ (List.mem_cons_of_mem _ deeper))

/-- A name that is entered need not be settled while its fragment is walked. -/
theorem SettledIn.enter (settled : SettledIn fragments inner reached) (apart : name ∉ inner) :
    SettledIn fragments inner (reached ++ [name]) := by
  intro other old deeper next leads
  rcases List.mem_append.1 old with before | new
  · exact List.mem_append_left _ (settled other before deeper next leads)
  · exact absurd (List.mem_singleton.1 new ▸ deeper) apart

/-- When its fragment is walked, the name is settled and so is all that was found. -/
theorem SettledIn.leave (settled : SettledIn fragments expansion reached)
    (first : findFragment? fragments name = some descriptor)
    (inside : Expands fragments (Selection.allSpreads descriptor.node.selections) inner) :
    SettledIn fragments expansion (registerAll reached (name :: inner)) := by
  intro other old deeper next leads
  rw [mem_registerAll] at old ⊢
  rcases old with before | new
  · exact .inl (settled other before deeper next leads)
  · rcases List.mem_cons.1 new with rfl | inner
    · have spread := (leadsTo_iff_mem_allSpreads first).1 leads.1
      exact .inr (List.mem_cons_of_mem _ (inside.mem_of_mem_names spread leads.2))
    · exact .inr (List.mem_cons_of_mem _ (inside.closed inner leads))

end Known

/-- The names in a row find what they expand to, as far as it is new. -/
theorem Expands.walk (acyclic : IsAcyclic fragments) (expands : Expands fragments names expansion)
    {reached : List String} (settled : SettledIn fragments expansion reached) :
    Walk fragments reached names (registerAll reached expansion) := by
  induction expands generalizing reached with
  | done =>
      rw [registerAll_nil]
      exact .done
  | @unknown name _ _ absent _ ih =>
      by_cases member : name ∈ reached
      · exact .seen member (ih settled)
      · exact .unknown member (by rw [spreadsOf?, absent]; rfl) (ih settled)
  | @known name rest inner expansion descriptor first inside _ ihInside ihLater =>
      have settledLater := settled.mono (List.subset_append_right (name :: inner) expansion)
      rw [registerAll_append]
      by_cases member : name ∈ reached
      · -- The name is left out, with an expansion that is found already.
        have whole : name :: inner ⊆ reached :=
          List.cons_subset.2 ⟨member, settled.inside_subset first inside member⟩
        rw [registerAll_of_subset whole]
        exact .seen member (ihLater settledLater)
      · have settledInner : SettledIn fragments inner reached :=
          settled.mono fun _ deeper => List.mem_append_left _ (List.mem_cons_of_mem _ deeper)
        have innerWalk := ihInside (settledInner.enter (acyclic.not_mem_inside first inside))
        have laterWalk := ihLater (settledLater.leave first inside)
        rw [registerAll_cons, registerAll_singleton, if_neg member] at laterWalk ⊢
        exact .enter member (by rw [spreadsOf?, first]; rfl) (innerWalk.eraseDups.append laterWalk)

/-- **The order of what is needed.** Without cycles, every node has one expansion, and what it needs
are the names of the expansion in the order of their first occurrences. -/
theorem neededFragments_eq_expansion (acyclic : IsAcyclic fragments) (node : Node) :
    ∃ expansion,
      (∀ other, Expands fragments (Selection.allSpreads node.selections) other ↔
        other = expansion) ∧
      neededFragments fragments node.selections = expansion.eraseDups := by
  obtain ⟨expansion, expands⟩ := acyclic.exists_expansion (Selection.allSpreads node.selections)
  refine ⟨expansion, fun other => ⟨expands.unique, fun same => same ▸ expands⟩, ?_⟩
  have start : SettledIn fragments expansion [] := fun _ member => absurd member List.not_mem_nil
  have walk := (expands.walk acyclic start).eraseDups
  calc neededFragments fragments node.selections
      = registerAll [] expansion := (walk_neededFragments fragments node.selections).unique walk
    _ = expansion.eraseDups := by
        rw [registerAll, List.removeAll_nil, List.nil_append]

/-- Names that lead to names of lower rank only do not lead back. -/
theorem IsAcyclic.of_rank (rank : String → Nat)
    (lower : ∀ name next, LeadsToKnown fragments name next → rank next < rank name) :
    IsAcyclic fragments := by
  have descends {name last : String}
      (path : Relation.TransGen (LeadsToKnown fragments) name last) : rank last < rank name := by
    induction path with
    | single leads => exact lower _ _ leads
    | tail _ leads ih => exact (lower _ _ leads).trans ih
  exact fun name loop => Nat.lt_irrefl _ (descends loop)

/-- A fragment that spreads `B` twice and then `C`. -/
def braidStart : FragmentDescriptor :=
  .ofFragment ⟨none, "A", "T", [], [.spread "B" [], .inline none [] [.spread "B" []],
    .spread "C" []]⟩ false

/-- `B` spreads `C` and a name without a descriptor, and a second descriptor of `B` would close a
cycle. -/
def braidFragments : List FragmentDescriptor :=
  [braidStart,
    .ofFragment ⟨none, "B", "T", [], [.field none "x" [] [] [.spread "C" []], .spread "Gone" []]⟩
      false,
    .ofFragment ⟨none, "C", "T", [], [.field none "x" [] [] []]⟩ false,
    .ofFragment ⟨none, "B", "T", [], [.spread "A" []]⟩ true]

/-- A query that spreads `C` before and behind `A`. -/
def braidNode : Node :=
  .definition (.operation ⟨none, .query, none, [], [], [.spread "C" [], .spread "A" [],
    .spread "C" []]⟩)

theorem isAcyclic_braidFragments : IsAcyclic braidFragments := by
  let rank (name : String) : Nat := if name = "A" then 2 else if name = "B" then 1 else 0
  have lower : ∀ name ∈ ["A", "B", "C"], ∀ spreads ∈ spreadsOf? braidFragments name,
      ∀ next ∈ spreads, (spreadsOf? braidFragments next).isSome → rank next < rank name := by
    decide
  refine .of_rank rank fun name next leads => ?_
  obtain ⟨spreads, known, spread⟩ := leadsTo_iff.1 leads.1
  refine lower name ?_ spreads known next spread (isKnown_iff.1 leads.2)
  obtain ⟨descriptor, first, _⟩ := leads.1
  have member := mem_of_findFragment? first
  have named := name_of_findFragment? first
  simp only [braidFragments, List.mem_cons, List.not_mem_nil, or_false] at member
  rcases member with rfl | rfl | rfl | rfl <;> (cases named; decide)

/-- The expansion has each name as often as chains of spreads lead to it. -/
theorem braidNode_eq_expansion :
    IsAcyclic braidFragments ∧
      Expands braidFragments (Selection.allSpreads braidNode.selections)
        ["C", "A", "B", "C", "B", "C", "C", "C"] ∧
      neededFragments braidFragments braidNode.selections =
        ["C", "A", "B", "C", "B", "C", "C", "C"].eraseDups ∧
      neededFragments braidFragments braidNode.selections = ["C", "A", "B"] := by
  have c {rest expansion : List String} (later : Expands braidFragments rest expansion) :
      Expands braidFragments ("C" :: rest) ("C" :: [] ++ expansion) := .known rfl .done later
  have b {rest expansion : List String} (later : Expands braidFragments rest expansion) :
      Expands braidFragments ("B" :: rest) ("B" :: ["C"] ++ expansion) :=
    .known rfl (c (.unknown rfl .done)) later
  have expands : Expands braidFragments (Selection.allSpreads braidNode.selections)
      ["C", "A", "B", "C", "B", "C", "C", "C"] :=
    c (@Expands.known _ _ _ _ _ braidStart rfl (b (b (c .done))) (c .done))
  obtain ⟨expansion, only, needed⟩ :=
    neededFragments_eq_expansion isAcyclic_braidFragments braidNode
  exact ⟨isAcyclic_braidFragments, expands, (only _).1 expands ▸ needed, by decide⟩

end TypedClient

import TypedClient.Proofs.Fragment.Reach

/-! # Looking up fragments

A walk along spreads asks its descriptors one thing only: what the first one of a name spreads. It
asks that of the names that it comes to, those spread in the definition and in the fragments that it
reaches (`Meets`). So two lists that answer alike for these names lead to the same names in the same
order, cycles or not, and most of what distinguishes the lists does not matter: the order of
descriptors with different names, further descriptors of a name, and fragments that are not reached
(`neededFragments_dependsOnLookup`).
-/

namespace TypedClient

open Document

variable {fragments first second : List FragmentDescriptor} {node : Node}

/-! ## Names that are met -/

/-- The name is spread in the node or in a fragment that spreads lead to from it. The name itself
need not have a descriptor. -/
inductive Meets (fragments : List FragmentDescriptor) (node : Node) : String → Prop where
  | spread {name : String} (spread : node.Spreads name) : Meets fragments node name
  | further {name next : String} (met : Meets fragments node name)
      (leads : LeadsTo fragments name next) : Meets fragments node next

/-- Both lists have no descriptor of the name, or the first ones describe the same definition. -/
def AgreeOn (first second : List FragmentDescriptor) (name : String) : Prop :=
  (findFragment? first name).map (·.node) = (findFragment? second name).map (·.node)

/-- No descriptor goes by a name that is met. -/
def AreUnmet (fragments : List FragmentDescriptor) (node : Node)
    (descriptors : List FragmentDescriptor) : Prop :=
  ∀ descriptor ∈ descriptors, ∀ name, descriptor.name = .text name → ¬Meets fragments node name

/-- Lists that agree on a name have the same spreads for it. -/
theorem AgreeOn.spreadsOf?_eq {name : String} (agree : AgreeOn first second name) :
    spreadsOf? first name = spreadsOf? second name := by
  have spreads (list : List FragmentDescriptor) : spreadsOf? list name =
      ((findFragment? list name).map (·.node)).map (directSpreads ·.selections) := by
    rw [spreadsOf?, Option.map_map]
    rfl
  rw [spreads, spreads, agree]

/-- Lists that find the same fragment for a name agree on it. -/
theorem AgreeOn.of_findFragment?_eq {name : String}
    (same : findFragment? first name = findFragment? second name) : AgreeOn first second name :=
  congrArg (Option.map FragmentDescriptor.node) same

/-! ## Two walks -/

/-- A walk is a walk in another list that gives the names in line, and those that they lead to, the
same spreads. -/
theorem Walk.of_agree {reached pending found : List String}
    (walk : Walk first reached pending found) (met : String → Prop)
    (line : ∀ name ∈ pending, met name)
    (passes : ∀ name spreads, met name → spreadsOf? first name = some spreads →
      ∀ next ∈ spreads, met next)
    (agree : ∀ name, met name → spreadsOf? first name = spreadsOf? second name) :
    Walk second reached pending found := by
  induction walk with
  | done => exact .done
  | seen member _ ih =>
      exact .seen member (ih fun name later => line name (List.mem_cons_of_mem _ later))
  | @unknown _ _ _ name fresh absent _ ih =>
      have own := agree name (line name List.mem_cons_self)
      exact .unknown fresh (own ▸ absent)
        (ih fun name later => line name (List.mem_cons_of_mem _ later))
  | @enter _ _ _ spreads name fresh known _ ih =>
      have here := line name List.mem_cons_self
      refine .enter fresh (agree name here ▸ known) (ih fun next member => ?_)
      rcases List.mem_append.1 member with spread | later
      · exact passes name spreads here known next spread
      · exact line next (List.mem_cons_of_mem _ later)

/-- Lists that agree on the names that are met lead to the same names. -/
theorem neededFragments_eq_of_agree
    (agree : ∀ name, Meets first node name → AgreeOn first second name) :
    neededFragments first node.selections = neededFragments second node.selections := by
  have walk := walk_neededFragments first node.selections
  refine (walk.of_agree (Meets first node) ?_ ?_ ?_).unique
    (walk_neededFragments second node.selections)
  · exact fun name member => .spread (mem_directSpreads.1 member)
  · exact fun name spreads met known next spread =>
      met.further (leadsTo_iff.2 ⟨spreads, known, spread⟩)
  · exact fun name met => (agree name met).spreadsOf?_eq

/-! ## Lists that look up alike -/

/-- If no two descriptors share a name, the one found under a name is the one that has it. -/
theorem findFragment?_eq_some_iff (different : fragments.Pairwise fun one other =>
    one.name ≠ other.name) {name : String} {descriptor : FragmentDescriptor} :
    findFragment? fragments name = some descriptor ↔
      descriptor ∈ fragments ∧ descriptor.name = .text name := by
  refine ⟨fun found => ⟨mem_of_findFragment? found, name_of_findFragment? found⟩, ?_⟩
  rintro ⟨member, named⟩
  obtain ⟨before, after, rfl⟩ := List.append_of_mem member
  have own : descriptor.isNamed name = true := FragmentDescriptor.isNamed_iff.2 named
  rw [findFragment?, List.find?_eq_some_iff_append]
  refine ⟨own, before, after, rfl, fun earlier front => ?_⟩
  have apart := (List.pairwise_append.1 different).2.2 earlier front descriptor List.mem_cons_self
  rw [Bool.not_eq_true', Bool.eq_false_iff]
  exact fun same => apart ((FragmentDescriptor.isNamed_iff.1 same).trans named.symm)

/-- Neighbours of different names may change places. -/
theorem findFragment?_exchange (before after : List FragmentDescriptor)
    {one other : FragmentDescriptor} (different : one.name ≠ other.name) (name : String) :
    findFragment? (before ++ one :: other :: after) name =
      findFragment? (before ++ other :: one :: after) name := by
  have apart : ¬(one.isNamed name = true ∧ other.isNamed name = true) := by
    rw [FragmentDescriptor.isNamed_iff, FragmentDescriptor.isNamed_iff]
    exact fun both => different (both.1.trans both.2.symm)
  simp only [findFragment?, List.find?_append, List.find?_cons]
  cases ownOne : one.isNamed name <;> cases ownOther : other.isNamed name
  case true.true => exact absurd ⟨ownOne, ownOther⟩ apart
  all_goals rfl

/-- Descriptors whose names are found in front of them are not found. -/
theorem findFragment?_copies {before copies : List FragmentDescriptor}
    (after : List FragmentDescriptor)
    (named : ∀ copy ∈ copies, ∃ own ∈ before, own.name = copy.name) (name : String) :
    findFragment? (before ++ copies ++ after) name = findFragment? (before ++ after) name := by
  simp only [findFragment?, List.find?_append]
  cases front : before.find? (·.isNamed name) with
  | some descriptor => rfl
  | none =>
      have absent : copies.find? (·.isNamed name) = none := by
        rw [List.find?_eq_none] at front ⊢
        intro copy member same
        obtain ⟨own, inside, equal⟩ := named copy member
        rw [FragmentDescriptor.isNamed_iff, ← equal, ← FragmentDescriptor.isNamed_iff] at same
        exact front own inside same
      rw [absent]
      rfl

/-- Descriptors of other names are not found. -/
theorem findFragment?_others (before after : List FragmentDescriptor)
    {extra : List FragmentDescriptor} {name : String}
    (others : ∀ descriptor ∈ extra, descriptor.name ≠ .text name) :
    findFragment? (before ++ extra ++ after) name = findFragment? (before ++ after) name := by
  have absent : extra.find? (·.isNamed name) = none := by
    rw [List.find?_eq_none]
    exact fun descriptor member same =>
      others descriptor member (FragmentDescriptor.isNamed_iff.1 same)
  simp only [findFragment?, List.find?_append, absent, Option.or_none]

/-- Fragments that are not met can be left out. -/
theorem AreUnmet.findFragment?_eq {before extra after : List FragmentDescriptor}
    (unmet : AreUnmet fragments node extra) {name : String} (met : Meets fragments node name) :
    findFragment? (before ++ extra ++ after) name = findFragment? (before ++ after) name :=
  findFragment?_others before after fun descriptor member named =>
    unmet descriptor member name named met

/-! ## The main statement -/

/-- What a node needs depends on the descriptors only through looking up the names that are met. -/
structure DependsOnLookup (node : Node) : Prop where
  /-- Two lists that agree on the names that are met lead to the same names in the same order. -/
  agree : ∀ first second : List FragmentDescriptor,
    (∀ name, Meets first node name → AgreeOn first second name) →
      neededFragments first node.selections = neededFragments second node.selections
  /-- Neighbours of different names can change places. -/
  exchange : ∀ (before after : List FragmentDescriptor) (one other : FragmentDescriptor),
    one.name ≠ other.name →
      neededFragments (before ++ one :: other :: after) node.selections =
        neededFragments (before ++ other :: one :: after) node.selections
  /-- If no two descriptors share a name, their order does not matter. -/
  reorder : ∀ first second : List FragmentDescriptor,
    (first.Pairwise fun one other => one.name ≠ other.name) → first.Perm second →
      neededFragments first node.selections = neededFragments second node.selections
  /-- Descriptors of names that have descriptors in front do not matter. -/
  copies : ∀ before copies after : List FragmentDescriptor,
    (∀ copy ∈ copies, ∃ own ∈ before, own.name = copy.name) →
      neededFragments (before ++ copies ++ after) node.selections =
        neededFragments (before ++ after) node.selections
  /-- Descriptors can be left out if their names are not met. -/
  leaveOut : ∀ before extra after : List FragmentDescriptor,
    AreUnmet (before ++ extra ++ after) node extra →
      neededFragments (before ++ after) node.selections =
        neededFragments (before ++ extra ++ after) node.selections
  /-- Descriptors can be put in if their names are not met. -/
  putIn : ∀ before extra after : List FragmentDescriptor,
    AreUnmet (before ++ after) node extra →
      neededFragments (before ++ extra ++ after) node.selections =
        neededFragments (before ++ after) node.selections

/-- **Looking up decides.** For every node, what is needed and in which order depends on the list of
descriptors only through the first descriptors of the names that are met. -/
theorem neededFragments_dependsOnLookup (node : Node) : DependsOnLookup node where
  agree _ _ agree := neededFragments_eq_of_agree agree
  exchange before after _ _ different :=
    neededFragments_eq_of_agree fun name _ =>
      .of_findFragment?_eq (findFragment?_exchange before after different name)
  reorder first second different perm := by
    have differentToo : second.Pairwise fun one other => one.name ≠ other.name :=
      perm.pairwise different Ne.symm
    refine neededFragments_eq_of_agree fun name _ => .of_findFragment?_eq (Option.ext fun _ => ?_)
    rw [findFragment?_eq_some_iff different, findFragment?_eq_some_iff differentToo, perm.mem_iff]
  copies _ _ after named :=
    neededFragments_eq_of_agree fun name _ =>
      .of_findFragment?_eq (findFragment?_copies after named name)
  leaveOut _ _ _ unmet :=
    (neededFragments_eq_of_agree fun _ met =>
      .of_findFragment?_eq (unmet.findFragment?_eq met)).symm
  putIn _ _ _ unmet :=
    (neededFragments_eq_of_agree fun _ met =>
      .of_findFragment?_eq (unmet.findFragment?_eq met).symm).symm

/-- A node that spreads `A`. -/
def loopNode : Node :=
  .selectionSet [.field none "x" [] [] [.spread "A" []]]

/-- `A` and `B` spread each other, and `B` spreads a name without a descriptor. -/
def loopFragments : List FragmentDescriptor :=
  [.ofFragment ⟨none, "A", "T", [], [.spread "B" []]⟩ false,
    .ofFragment ⟨none, "B", "T", [], [.spread "Gone" [], .spread "A" []]⟩ false]

/-- The same two definitions in the other order, the first one declared elsewhere, with a fragment
that nothing spreads in front and a second descriptor of `B` behind. -/
def looseFragments : List FragmentDescriptor :=
  [.ofFragment ⟨none, "Unused", "T", [], [.spread "A" []]⟩ false,
    .ofFragment ⟨none, "B", "T", [], [.spread "Gone" [], .spread "A" []]⟩ true,
    .ofFragment ⟨none, "A", "T", [], [.spread "B" []]⟩ false,
    .ofFragment ⟨none, "B", "T", [], [.spread "Unused" []]⟩ true]

theorem looseFragments_lookUpAlike :
    (∀ name, Meets loopFragments loopNode name → AgreeOn loopFragments looseFragments name) ∧
      neededFragments loopFragments loopNode.selections =
        neededFragments looseFragments loopNode.selections ∧
      neededFragments looseFragments loopNode.selections = ["A", "B"] := by
  have closed : ∀ name ∈ ["A", "B", "Gone"], ∀ spreads ∈ spreadsOf? loopFragments name,
      ∀ next ∈ spreads, next ∈ ["A", "B", "Gone"] := by decide
  have met : ∀ name, Meets loopFragments loopNode name → name ∈ ["A", "B", "Gone"] := by
    intro name met
    induction met with
    | spread spread =>
        have start : ∀ name ∈ directSpreads loopNode.selections, name ∈ ["A", "B", "Gone"] := by
          decide
        exact start _ (mem_directSpreads.2 spread)
    | further _ leads ih =>
        obtain ⟨spreads, known, spread⟩ := leadsTo_iff.1 leads
        exact closed _ ih spreads known _ spread
  have agree : ∀ name, Meets loopFragments loopNode name →
      AgreeOn loopFragments looseFragments name := by
    intro name isMet
    have cases := met name isMet
    simp only [List.mem_cons, List.not_mem_nil, or_false] at cases
    rcases cases with rfl | rfl | rfl <;> rfl
  exact ⟨agree, (neededFragments_dependsOnLookup loopNode).agree _ _ agree, by decide⟩

end TypedClient

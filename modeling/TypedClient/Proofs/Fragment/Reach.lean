import Mathlib.Data.List.Chain
import TypedClient.Proofs.Fragment.Walk

/-! # What a definition needs

A definition needs a fragment if a chain of spreads leads to it: the first name is spread in the
definition, each further name in the first descriptor of the name before, and every name on the way
has a descriptor (`SpreadChain`). `neededFragments` gives exactly the names at the ends of chains,
each once, whatever cycles, duplicates or renamed fragments there are
(`neededFragments_exact`).
-/

namespace TypedClient

namespace Document

/-! ## Where names are spread -/

/-- The name is spread in the selection, at any depth of fields and inline fragments. -/
inductive Selection.Spreads (name : String) : Selection → Prop where
  | here {directives : List Directive} : Spreads name (.spread name directives)
  | inField {responseName : Option String} {fieldName : String} {arguments : List Argument}
      {directives : List Directive} {selections : List Selection} {selection : Selection}
      (member : selection ∈ selections) (deeper : Spreads name selection) :
      Spreads name (.field responseName fieldName arguments directives selections)
  | inInline {onType : Option String} {directives : List Directive}
      {selections : List Selection} {selection : Selection}
      (member : selection ∈ selections) (deeper : Spreads name selection) :
      Spreads name (.inline onType directives selections)

mutual

/-- `spreads` collects the names that are spread. -/
theorem Selection.mem_spreads {name : String} :
    ∀ selection : Selection, name ∈ selection.spreads ↔ selection.Spreads name
  | .field responseName fieldName arguments directives selections => by
      rw [Selection.spreads, Selection.mem_allSpreads selections]
      constructor
      · rintro ⟨selection, member, deeper⟩
        exact .inField member deeper
      · intro spread
        cases spread with
        | inField member deeper => exact ⟨_, member, deeper⟩
  | .spread other directives => by
      rw [Selection.spreads, List.mem_singleton]
      constructor
      · rintro rfl
        exact .here
      · intro spread
        cases spread
        rfl
  | .inline onType directives selections => by
      rw [Selection.spreads, Selection.mem_allSpreads selections]
      constructor
      · rintro ⟨selection, member, deeper⟩
        exact .inInline member deeper
      · intro spread
        cases spread with
        | inInline member deeper => exact ⟨_, member, deeper⟩

/-- All spreads of selections are those of each selection, at any depth. -/
theorem Selection.mem_allSpreads {name : String} :
    ∀ selections : List Selection, name ∈ Selection.allSpreads selections ↔
      ∃ selection ∈ selections, selection.Spreads name
  | [] => by simp [Selection.allSpreads]
  | selection :: rest => by
      rw [Selection.allSpreads, List.mem_append, Selection.mem_spreads selection,
        Selection.mem_allSpreads rest, List.exists_mem_cons_iff]

end

theorem mem_directSpreads {name : String} {selections : List Selection} :
    name ∈ directSpreads selections ↔ ∃ selection ∈ selections, selection.Spreads name := by
  rw [directSpreads, List.mem_eraseDups, Selection.mem_allSpreads]

/-- The selections of a definition. The definitions of a type system have none. -/
def Definition.selections : Definition → List Selection
  | operation body => body.selections
  | fragment body => body.selections
  | _ => []

/-- A node of a syntax tree, as far as names can be spread in it. -/
inductive Node where
  | document (document : Document)
  | definition (definition : Definition)
  | selectionSet (selections : List Selection)
  | selection (selection : Selection)
  /-- A name, a value, a type, an annotation or any other node that holds no selections. -/
  | leaf

namespace Node

/-- The outermost selections in a node. -/
def selections : Node → List Selection
  | document definitions => definitions.flatMap Definition.selections
  | definition body => body.selections
  | selectionSet members => members
  | selection single => [single]
  | leaf => []

/-- The name is spread somewhere in the node. -/
def Spreads (node : Node) (name : String) : Prop :=
  ∃ selection ∈ node.selections, selection.Spreads name

end Node

end Document

open Document

variable {fragments : List FragmentDescriptor}

/-! ## Chains of spreads -/

/-- The name belongs to a descriptor. -/
def IsKnown (fragments : List FragmentDescriptor) (name : String) : Prop :=
  ∃ descriptor ∈ fragments, descriptor.name = .text name

/-- The second name is spread in the first descriptor that goes by the first name. -/
def LeadsTo (fragments : List FragmentDescriptor) (name next : String) : Prop :=
  ∃ descriptor, findFragment? fragments name = some descriptor ∧
    ∃ selection ∈ descriptor.node.selections, selection.Spreads next

/-- A chain of spreads from a node through known names. -/
structure SpreadChain (fragments : List FragmentDescriptor) (node : Node)
    (chain : List String) : Prop where
  known : ∀ name ∈ chain, IsKnown fragments name
  starts : ∀ first ∈ chain.head?, node.Spreads first
  leads : chain.IsChain (LeadsTo fragments)

/-- A known name has spreads, and no other has. -/
theorem isKnown_iff {name : String} :
    IsKnown fragments name ↔ (spreadsOf? fragments name).isSome := by
  rw [spreadsOf?, Option.isSome_map, findFragment?, List.find?_isSome]
  simp only [IsKnown, FragmentDescriptor.isNamed_iff]

/-- A name leads on to what the fragment found for it spreads. -/
theorem leadsTo_iff {name next : String} :
    LeadsTo fragments name next ↔
      ∃ spreads, spreadsOf? fragments name = some spreads ∧ next ∈ spreads := by
  simp only [LeadsTo, spreadsOf?, Option.map_eq_some_iff, ← mem_directSpreads]
  constructor
  · rintro ⟨descriptor, first, spread⟩
    exact ⟨_, ⟨descriptor, first, rfl⟩, spread⟩
  · rintro ⟨_, ⟨descriptor, first, rfl⟩, spread⟩
    exact ⟨descriptor, first, spread⟩

/-- A chain goes on with any known name that its last name leads to. -/
theorem SpreadChain.snoc {node : Node} {chain : List String} {name next : String}
    (chained : SpreadChain fragments node chain) (last : chain.getLast? = some name)
    (leads : LeadsTo fragments name next) (known : IsKnown fragments next) :
    SpreadChain fragments node (chain ++ [next]) where
  known other member := by
    rcases List.mem_append.1 member with before | new
    · exact chained.known other before
    · exact List.mem_singleton.1 new ▸ known
  starts first head := by
    cases chain with
    | nil => cases last
    | cons name rest => exact chained.starts first head
  leads := by
    refine List.isChain_append.2 ⟨chained.leads, List.isChain_singleton _, ?_⟩
    intro end_ isLast other head
    cases Option.some.inj (last.symm.trans isLast)
    cases head
    exact leads

/-- A chain stays inside of a set that has its first name and all that is known and spread in a
member. -/
theorem SpreadChain.mem_of_closed {node : Node} {found : List String}
    (starts : ∀ name, node.Spreads name → IsKnown fragments name → name ∈ found)
    (closed : ∀ name ∈ found, ∀ next, LeadsTo fragments name next → IsKnown fragments next →
      next ∈ found) {chain : List String} (chained : SpreadChain fragments node chain) :
    ∀ name ∈ chain, name ∈ found := by
  obtain ⟨known, first, leads⟩ := chained
  cases chain with
  | nil => exact fun _ member => absurd member List.not_mem_nil
  | cons name rest =>
      have inside : name ∈ found := starts name (first name rfl) (known name List.mem_cons_self)
      clear first starts
      induction rest generalizing name with
      | nil => simpa using inside
      | cons next rest ih =>
          obtain ⟨step, leads⟩ := List.isChain_cons_cons.1 leads
          have reached : next ∈ found := closed name inside next step
            (known next (List.mem_cons_of_mem _ List.mem_cons_self))
          have deeper := ih next (fun other member => known other (List.mem_cons_of_mem _ member))
            leads reached
          intro other member
          rcases List.mem_cons.1 member with rfl | later
          · exact inside
          · exact deeper other later

/-- **Exactly what chains of spreads reach.** For every node and all descriptors, the walk comes to
its end, finds no name twice, and finds the names at the ends of chains. -/
theorem neededFragments_exact (fragments : List FragmentDescriptor) (node : Node) :
    (∀ steps, followBound fragments (directSpreads node.selections) ≤ steps →
      followSpreads fragments steps [] (directSpreads node.selections) =
        neededFragments fragments node.selections) ∧
    (neededFragments fragments node.selections).Nodup ∧
    ∀ name, name ∈ neededFragments fragments node.selections ↔
      ∃ chain, SpreadChain fragments node chain ∧ chain.getLast? = some name := by
  have walk := walk_neededFragments fragments node.selections
  refine ⟨fun steps enough => (walk_followBound enough).unique walk, walk.nodup List.nodup_nil, ?_⟩
  intro name
  constructor
  · intro member
    refine walk.sound (fun name => ∃ chain, SpreadChain fragments node chain ∧
      chain.getLast? = some name) (fun _ member => absurd member List.not_mem_nil) ?_ ?_ name member
    · intro first spread known
      refine ⟨[first], ⟨?_, ?_, List.isChain_singleton _⟩, rfl⟩
      · intro other single
        exact List.mem_singleton.1 single ▸ isKnown_iff.2 known
      · rintro _ ⟨⟩
        exact mem_directSpreads.1 spread
    · rintro name spreads ⟨chain, chained, last⟩ known next spread held
      exact ⟨chain ++ [next], chained.snoc last (leadsTo_iff.2 ⟨spreads, known, spread⟩)
        (isKnown_iff.2 held), by simp⟩
  · rintro ⟨chain, chained, last⟩
    refine chained.mem_of_closed ?_ ?_ name (List.mem_of_getLast? last)
    · intro first spread known
      exact walk.mem_of_pending (mem_directSpreads.2 spread) (isKnown_iff.1 known)
    · intro name found next leads known
      obtain ⟨spreads, held, spread⟩ := leadsTo_iff.1 leads
      exact walk.closed (fun _ member => absurd member List.not_mem_nil) name found spreads held
        next
        spread (isKnown_iff.1 known)

end TypedClient

import TypedClient.Fragment.Descriptor

/-! # Fragments that a definition needs

A definition needs the fragments spread in it and those spread in them, and so on. Of several
descriptors with a name the first counts, and names without a descriptor are passed over
(`neededFragments`). The names come in the order of a depth-first walk.
-/

namespace TypedClient

namespace Document

mutual

/-- The names spread in a selection, in order. -/
def Selection.spreads : Selection → List String
  | .field _ _ _ _ selections => Selection.allSpreads selections
  | .spread name _ => [name]
  | .inline _ _ selections => Selection.allSpreads selections

/-- The names spread in a selection set, in order. -/
def Selection.allSpreads : List Selection → List String
  | [] => []
  | selection :: rest => selection.spreads ++ Selection.allSpreads rest

end

/-- The different names spread in a selection set, in the order of their first spread. -/
def directSpreads (selections : List Selection) : List String :=
  (Selection.allSpreads selections).eraseDups

end Document

open Document

/-- The first descriptor with a name. -/
def findFragment? (fragments : List FragmentDescriptor) (name : String) :
    Option FragmentDescriptor :=
  fragments.find? (·.isNamed name)

theorem mem_of_findFragment? {fragments : List FragmentDescriptor} {name : String}
    {descriptor : FragmentDescriptor} (first : findFragment? fragments name = some descriptor) :
    descriptor ∈ fragments :=
  List.mem_of_find?_eq_some first

theorem name_of_findFragment? {fragments : List FragmentDescriptor} {name : String}
    {descriptor : FragmentDescriptor} (first : findFragment? fragments name = some descriptor) :
    descriptor.name = .text name := by
  unfold findFragment? at first
  have named := List.find?_some first
  exact FragmentDescriptor.isNamed_iff.1 named

/-- The names spread in the fragment that goes by a name, if one does. -/
def spreadsOf? (fragments : List FragmentDescriptor) (name : String) : Option (List String) :=
  (findFragment? fragments name).map fun descriptor => directSpreads descriptor.node.selections

/-- Follows the spreads of fragments in depth-first order. `reached` holds the names found so far
and `pending` the names still to look at, those next in turn in front. A name is looked at once for
each time it is put in line, which bounds the number of steps. -/
def followSpreads (fragments : List FragmentDescriptor) :
    (steps : Nat) → (reached pending : List String) → List String
  | 0, reached, _ => reached
  | _ + 1, reached, [] => reached
  | steps + 1, reached, name :: pending =>
    if name ∈ reached then followSpreads fragments steps reached pending
    else match spreadsOf? fragments name with
      | none => followSpreads fragments steps reached pending
      | some spreads => followSpreads fragments steps (reached ++ [name]) (spreads ++ pending)

/-- The number of names that can be put in line, given those at the start. -/
def followBound (fragments : List FragmentDescriptor) (start : List String) : Nat :=
  (start ++ fragments.flatMap fun fragment => directSpreads fragment.node.selections).length

/-- The names of the fragments that a selection set needs, each once, in the order in which a
depth-first walk comes to them. -/
def neededFragments (fragments : List FragmentDescriptor) (selections : List Selection) :
    List String :=
  let start := directSpreads selections
  followSpreads fragments (followBound fragments start) [] start

end TypedClient

import TypedClient.Files.Change
import TypedClient.Proofs.Files.Listing

/-! # The order of entries

A system lists the entries of a folder in some order. What is found in a tree does not depend on it:
trees in which the same stands at every location agree (`FileTree.Agree`), whatever the order of
their entries is (`FileTree.Reordered.agree`), and what agrees has the same files below it.
-/

namespace TypedClient

/-! ## What stands at a location -/

/-- The entries have different names, so looking one up is finding it. -/
theorem lookup_eq_some_iff_mem {entries : List (String × FileTree)}
    (distinct : (entries.map (·.1)).Nodup) {name : String} {tree : FileTree} :
    entries.lookup name = some tree ↔ (name, tree) ∈ entries := by
  constructor
  · intro found
    obtain ⟨front, back, rfl, -⟩ := List.lookup_eq_some_iff.1 found
    exact List.mem_append_right _ List.mem_cons_self
  · exact lookup_of_mem distinct

/-- The order of entries with distinct names is of no account. -/
theorem lookup_perm {one other : List (String × FileTree)} (moved : one.Perm other)
    (distinct : (one.map (·.1)).Nodup) (name : String) : one.lookup name = other.lookup name := by
  have distinctToo := (moved.map (·.1)).nodup_iff.1 distinct
  apply Option.ext
  intro tree
  rw [lookup_eq_some_iff_mem distinct, lookup_eq_some_iff_mem distinctToo, moved.mem_iff]

/-- A name is there exactly if something is found under it. -/
theorem mem_names_iff {entries : List (String × FileTree)} {name : String} :
    name ∈ entries.map (·.1) ↔ (entries.lookup name).isSome = true := by
  simp only [List.lookup_isSome_iff, List.mem_map, beq_iff_eq, @eq_comm _ name]

/-- Related options are there together or not at all. -/
theorem isSome_congr {α : Type} {relation : α → α → Prop} {one other : Option α}
    (related : Option.Rel relation one other) : one.isSome = other.isSome := by
  cases related <;> rfl

namespace FileTree

/-- What stands at a location of the tree, if anything does: a file with some content, or a
folder. -/
def shape (tree : FileTree) (location : List String) : Option (Option ByteArray) :=
  (tree.find? location).map content?

theorem find?_nil (tree : FileTree) : tree.find? [] = some tree := by
  cases tree <;> rfl

/-- The first name of a location is looked up, and the rest from there. -/
theorem find?_folder (entries : List (String × FileTree)) (name : String) (rest : List String) :
    (folder entries).find? (name :: rest) = (entries.lookup name).bind (·.find? rest) := by
  rw [FileTree.find?]

/-- A location can be cut anywhere. -/
theorem find?_append (tree : FileTree) (front rest : List String) :
    tree.find? (front ++ rest) = (tree.find? front).bind (·.find? rest) := by
  induction front generalizing tree with
  | nil => rw [List.nil_append, find?_nil, Option.bind_some]
  | cons name front ih =>
      cases tree with
      | file content => rfl
      | folder entries =>
          rw [List.cons_append, find?_folder, find?_folder, Option.bind_assoc]
          exact congrArg _ (funext fun inner => ih inner)

theorem shape_nil (tree : FileTree) : tree.shape [] = some tree.content? := by
  rw [shape, find?_nil, Option.map_some]

/-- The first name of a location is looked up, and the rest from there. -/
theorem shape_folder (entries : List (String × FileTree)) (name : String) (rest : List String) :
    (folder entries).shape (name :: rest) = (entries.lookup name).bind (·.shape rest) := by
  rw [shape, find?_folder, Option.map_bind]
  rfl

/-- A file stands where a content is. -/
theorem shape_eq_file {tree : FileTree} {location : List String} {content : ByteArray} :
    tree.shape location = some (some content) ↔ tree.find? location = some (.file content) := by
  rw [shape, Option.map_eq_some_iff]
  constructor
  · rintro ⟨inner, found, own⟩
    cases inner with
    | file bytes => rw [found, ← Option.some.inj own]
    | folder entries => cases own
  · exact fun found => ⟨_, found, rfl⟩

/-- What stands further on can be told from the way. -/
theorem shape_append {tree inner : FileTree} {front : List String}
    (found : tree.find? front = some inner) (rest : List String) :
    tree.shape (front ++ rest) = inner.shape rest := by
  rw [shape, find?_append, found, Option.bind_some, shape]

/-- The first name below a folder is that of an entry. -/
theorem shape_folder_eq_some {entries : List (String × FileTree)}
    (distinct : (entries.map (·.1)).Nodup) {name : String} {rest : List String}
    {kind : Option ByteArray} : (folder entries).shape (name :: rest) = some kind ↔
      ∃ tree, (name, tree) ∈ entries ∧ tree.shape rest = some kind := by
  simp only [shape_folder, Option.bind_eq_some_iff, lookup_eq_some_iff_mem distinct]

/-! ## Trees that agree -/

/-- The same stands at every location of the trees. -/
structure Agree (one other : FileTree) : Prop where
  first : one.WellFormed
  second : other.WellFormed
  shape : one.shape = other.shape

/-- Trees that agree have trees that agree at every location. -/
theorem Agree.find? {one other : FileTree} (agree : Agree one other) (location : List String) :
    Option.Rel Agree (one.find? location) (other.find? location) := by
  have same := congrFun agree.shape location
  cases found : one.find? location with
  | none =>
      rw [FileTree.shape, FileTree.shape, found, Option.map_none] at same
      rw [Option.map_eq_none_iff.1 same.symm]
      exact .none
  | some inner =>
      rw [FileTree.shape, FileTree.shape, found, Option.map_some] at same
      obtain ⟨otherInner, foundToo, -⟩ := Option.map_eq_some_iff.1 same.symm
      rw [foundToo]
      refine .some ⟨agree.first.find? found, agree.second.find? foundToo, funext fun rest => ?_⟩
      rw [← shape_append found, ← shape_append foundToo, agree.shape]

/-- Trees that agree are the same file, or folders with the same entries. -/
theorem Agree.cases {one other : FileTree} (agree : Agree one other) :
    (∃ content, one = .file content ∧ other = .file content) ∨
      ∃ entries others, one = .folder entries ∧ other = .folder others ∧
        ∀ name, Option.Rel Agree (entries.lookup name) (others.lookup name) := by
  have same := congrFun agree.shape []
  rw [shape_nil, shape_nil, Option.some.injEq] at same
  cases one with
  | file content =>
      cases other with
      | file otherContent => exact .inl ⟨content, rfl, congrArg _ (Option.some.inj same).symm⟩
      | folder others => cases same
  | folder entries =>
      cases other with
      | file content => cases same
      | folder others =>
          refine .inr ⟨entries, others, rfl, rfl, fun name => ?_⟩
          have entry (entries : List (String × FileTree)) :
              (folder entries).find? [name] = entries.lookup name := by
            rw [find?_folder]
            cases entries.lookup name with
            | none => rfl
            | some inner => exact find?_nil inner
          rw [← entry entries, ← entry others]
          exact agree.find? [name]

/-- The entries of folders, at any depth, stand in another order. -/
inductive Reordered : FileTree → FileTree → Prop
  | refl (tree : FileTree) : Reordered tree tree
  | entries {one other : List (String × FileTree)} (moved : one.Perm other) :
      Reordered (.folder one) (.folder other)
  | inside {one other : FileTree} (moved : Reordered one other) (name : String)
      (front back : List (String × FileTree)) :
      Reordered (.folder (front ++ (name, one) :: back)) (.folder (front ++ (name, other) :: back))
  | trans {one other last : FileTree} (first : Reordered one other)
      (second : Reordered other last) : Reordered one last

/-- What is found in a tree does not depend on the order of entries. -/
theorem Reordered.agree {one other : FileTree} (moved : one.Reordered other)
    (own : one.WellFormed) : Agree one other := by
  induction moved with
  | refl tree => exact ⟨own, own, rfl⟩
  | @entries one other moved =>
      cases own with
      | folder names distinct inside =>
          refine ⟨.folder names distinct inside, .folder ?_ ?_ ?_, funext fun location => ?_⟩
          · exact fun entry member => names entry (moved.mem_iff.2 member)
          · exact (moved.map (·.1)).nodup_iff.1 distinct
          · exact fun entry member => inside entry (moved.mem_iff.2 member)
          · cases location with
            | nil => rfl
            | cons name rest => rw [shape_folder, shape_folder, lookup_perm moved distinct]
  | @inside one other moved name front back ih =>
      have wellFormed := own
      cases own with
      | folder names distinct inside =>
          rw [List.forall_mem_append, List.forall_mem_cons] at names inside
          obtain ⟨-, later, shape⟩ := ih inside.2.1
          have distinctToo : ((front ++ (name, other) :: back).map (·.1)).Nodup := by
            rwa [List.map_append, List.map_cons] at distinct ⊢
          refine ⟨wellFormed, .folder ?_ distinctToo ?_, funext fun location => ?_⟩
          · rw [List.forall_mem_append, List.forall_mem_cons]
            exact ⟨names.1, names.2.1, names.2.2⟩
          · rw [List.forall_mem_append, List.forall_mem_cons]
            exact ⟨inside.1, later, inside.2.2⟩
          · cases location with
            | nil => rfl
            | cons first rest =>
                rw [shape_folder, shape_folder, List.lookup_append, List.lookup_append,
                  List.lookup_cons, List.lookup_cons]
                cases front.lookup first with
                | some inner => rfl
                | none =>
                    by_cases same : (first == name) = true
                    · simp only [same, Option.none_or, Option.bind_some, shape]
                    · simp only [same, Option.none_or]
  | trans first second ihFirst ihSecond =>
      have front := ihFirst own
      have back := ihSecond front.second
      exact ⟨front.first, back.second, front.shape.trans back.shape⟩

end FileTree

/-! ## Systems that agree -/

namespace FileSystem

/-- The trees of the systems agree, and the working folder is at the same location. -/
structure Agree (system other : FileSystem) : Prop where
  root : system.root.Agree other.root
  here : system.here = other.here

namespace Agree

variable {system other : FileSystem} (agree : system.Agree other)

include agree

/-- Names lead on alike where trees agree. -/
theorem followName : system.followName = other.followName := by
  funext location name
  unfold FileSystem.followName
  have there := agree.root.find? location
  generalize system.root.find? location = one, other.root.find? location = two at there ⊢
  cases there with
  | none => rfl
  | some inner =>
      rcases inner.cases with ⟨content, rfl, rfl⟩ | ⟨entries, others, rfl, rfl, same⟩
      · rfl
      · simp only [isSome_congr (same name)]

/-- Paths lead to the same locations where trees agree. -/
theorem locate : system.locate = other.locate := by
  funext path
  unfold FileSystem.locate
  rw [agree.followName, agree.here]

/-- At the end of a path there are trees that agree. -/
theorem at? (path : String) : Option.Rel FileTree.Agree (system.at? path) (other.at? path) := by
  unfold FileSystem.at?
  rw [agree.locate]
  cases other.locate path with
  | error fault => exact .none
  | ok location => exact agree.root.find? location

/-- Where trees agree the same paths are those of folders. -/
theorem isFolder (path : String) : system.isFolder path = other.isFolder path := by
  unfold FileSystem.isFolder
  have there := agree.at? path
  generalize system.at? path = one, other.at? path = two at there ⊢
  cases there with
  | none => rfl
  | some inner => rcases inner.cases with ⟨_, rfl, rfl⟩ | ⟨_, _, rfl, rfl, _⟩ <;> rfl

/-- Where trees agree the same paths are those of files. -/
theorem isFile (path : String) : system.isFile path = other.isFile path := by
  unfold FileSystem.isFile
  have there := agree.at? path
  generalize system.at? path = one, other.at? path = two at there ⊢
  cases there with
  | none => rfl
  | some inner => rcases inner.cases with ⟨_, rfl, rfl⟩ | ⟨_, _, rfl, rfl, _⟩ <;> rfl

/-- Where trees agree the same paths lead somewhere. -/
theorem has (path : String) : system.has path = other.has path :=
  isSome_congr (agree.at? path)

end Agree

end FileSystem

end TypedClient

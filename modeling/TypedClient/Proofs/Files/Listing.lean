import TypedClient.Proofs.Files.Spelling

/-! # Listing the files of a folder

The files below a folder are listed by paths that begin with the path of the folder and go on by
names of entries. Each of them leads to its file, unless it is longer than the system allows
(`FileSystem.isFile_of_mem_filesUnder`).
-/

namespace TypedClient

/-! ## Names in a tree -/

/-- A tree as a file system holds it: the entries of a folder have names that entries can have, and
no two of them have the same. -/
inductive FileTree.WellFormed : FileTree → Prop
  | file (content : ByteArray) : WellFormed (.file content)
  | folder {entries : List (String × FileTree)}
      (own : ∀ entry ∈ entries, Path.IsEntryName entry.1 ∧ Path.hasNull entry.1 = false)
      (distinct : (entries.map (·.1)).Nodup)
      (inside : ∀ entry ∈ entries, WellFormed entry.2) : WellFormed (.folder entries)

/-- Where names are distinct every entry is found under its own. -/
theorem lookup_of_mem {entries : List (String × FileTree)} (distinct : (entries.map (·.1)).Nodup)
    {entry : String × FileTree} (member : entry ∈ entries) :
    entries.lookup entry.1 = some entry.2 := by
  obtain ⟨front, back, rfl⟩ := List.append_of_mem member
  refine List.lookup_eq_some_iff.2 ⟨front, back, rfl, fun other before => ?_⟩
  rw [List.map_append, List.map_cons, List.nodup_append] at distinct
  exact bne_iff_ne.2 (distinct.2.2 _ (List.mem_map_of_mem before) _ List.mem_cons_self).symm

namespace FileTree

/-- What is found in a well-formed tree is well-formed. -/
theorem WellFormed.find? {tree found : FileTree} {location : List String}
    (own : tree.WellFormed) (there : tree.find? location = some found) : found.WellFormed := by
  induction location generalizing tree with
  | nil =>
      cases tree <;> cases there <;> exact own
  | cons name rest ih =>
      cases own with
      | file content => cases there
      | folder own distinct inside =>
          rw [FileTree.find?] at there
          obtain ⟨inner, held, further⟩ := Option.bind_eq_some_iff.1 there
          obtain ⟨front, back, rfl, -⟩ := List.lookup_eq_some_iff.1 held
          exact ih (inside (name, inner) (by simp)) further

/-- One name further on. -/
theorem find?_concat {tree : FileTree} {location : List String}
    {entries : List (String × FileTree)} (folder : tree.find? location = some (.folder entries))
    (name : String) : tree.find? (location ++ [name]) = entries.lookup name := by
  induction location generalizing tree with
  | nil =>
      rw [FileTree.find?] at folder
      cases folder
      rw [List.nil_append, FileTree.find?]
      cases entries.lookup name with
      | none => rfl
      | some inner => cases inner <;> rfl
  | cons first rest ih =>
      cases tree with
      | file content => cases folder
      | folder others =>
          rw [FileTree.find?] at folder
          obtain ⟨inner, held, further⟩ := Option.bind_eq_some_iff.1 folder
          rw [List.cons_append, FileTree.find?, held, Option.bind_some]
          exact ih further

/-! ## Paths of listed files -/

mutual

/-- The files of a tree have paths that continue its own. -/
theorem continues_of_mem_filesUnder {path file : String} : {tree : FileTree} → tree.WellFormed →
    file ∈ tree.filesUnder path → Path.Continues (Path.stem path) file
  | .file content, _, member => by
      rw [filesUnder, List.mem_singleton] at member
      rw [member]
      exact Path.continues_stem path
  | .folder entries, .folder own _ inside, member => by
      rw [filesUnder] at member
      split at member
      · cases member
      · exact continues_of_mem_filesUnderEntries (fun entry held => (own entry held).1) inside
          member

theorem continues_of_mem_filesUnderEntries {path file : String} :
    {entries : List (String × FileTree)} → (∀ entry ∈ entries, Path.IsEntryName entry.1) →
    (∀ entry ∈ entries, entry.2.WellFormed) → file ∈ filesUnderEntries path entries →
    Path.Continues (Path.stem path) file
  | [], _, _, member => by cases member
  | (name, tree) :: rest, own, inside, member => by
      obtain ⟨first, others⟩ := List.forall_mem_cons.1 own
      obtain ⟨firstInside, othersInside⟩ := List.forall_mem_cons.1 inside
      rw [filesUnderEntries, List.mem_append] at member
      rcases member with member | member
      · exact (Path.continues_join first path).trans
          (continues_of_mem_filesUnder firstInside member)
      · exact continues_of_mem_filesUnderEntries others othersInside member

end

end FileTree

/-! ## What the paths lead to -/

namespace FileSystem

variable {system : FileSystem}

/-- Following the path of a folder leads to it, with a slash at its end or without. -/
theorem foldlM_stem {path : String} {location : List String}
    (found : system.locate path = .ok location) :
    (Path.stem path).foldlM system.followName
      (if Path.isAbsolute path then [] else system.here) = .ok location := by
  obtain ⟨-, -, -, followed⟩ := locate_eq_ok.1 found
  rcases Path.components_eq_stem path with split | split
  · rwa [split] at followed
  · rw [split, List.foldlM_append, bind_eq_ok] at followed
    obtain ⟨way, followed, last⟩ := followed
    rw [List.foldlM_cons, bind_eq_ok] at last
    obtain ⟨next, step, ⟨⟩⟩ := last
    have stay : location = way := (followName_eq_ok step).1
    rwa [stay]

/-- The path leads to a tree, or it is longer than the system allows. -/
def LeadsTo (system : FileSystem) (path : String) (tree : FileTree) : Prop :=
  Path.isLong path = true ∨
    ∃ location, system.locate path = .ok location ∧ system.root.find? location = some tree

/-- From a folder, the name of an entry leads to the entry. -/
theorem leadsTo_join {path name : String} {location : List String}
    {entries : List (String × FileTree)} {tree : FileTree}
    (found : system.locate path = .ok location)
    (folder : system.root.find? location = some (.folder entries))
    (own : Path.IsEntryName name) (plain : Path.hasNull name = false)
    (held : entries.lookup name = some tree) : system.LeadsTo (Path.join path name) tree := by
  by_cases long : Path.isLong (Path.join path name) = true
  · exact .inl long
  obtain ⟨pathPlain, filled, -, -⟩ := locate_eq_ok.1 found
  refine .inr ⟨location ++ [name], locate_eq_ok.2 ⟨Path.hasNull_join pathPlain plain, ?_,
    Bool.eq_false_iff.2 long, ?_⟩, ?_⟩
  · intro empty
    obtain ⟨slash, -, split⟩ := Path.toList_join path name
    rw [empty] at split
    exact filled (String.toList_inj.1 (List.append_eq_nil_iff.1
      (List.append_eq_nil_iff.1 split.symm).1).1)
  · rw [Path.components_join, Path.components_of_not_mem own.whole, Path.isAbsolute_join filled,
      List.foldlM_append, foldlM_stem found]
    have step : system.followName location name = .ok (location ++ [name]) := by
      unfold followName
      rw [folder, ← own.follow]
      dsimp only
      rw [held, if_pos]
      exact .inr (.inr (.inr rfl))
    change [name].foldlM system.followName location = _
    rw [List.foldlM_cons, step]
    rfl
  · rw [FileTree.find?_concat folder, held]

mutual

/-- The paths of the files of a tree lead to files, if the path of the tree leads to it. -/
theorem isFile_of_mem_filesUnder {path file : String} : {tree : FileTree} → tree.WellFormed →
    system.LeadsTo path tree → file ∈ tree.filesUnder path →
    Path.isLong file = true ∨ system.isFile file = true
  | .file content, _, leads, member => by
      rw [FileTree.filesUnder, List.mem_singleton] at member
      subst member
      refine leads.imp_right fun there => ?_
      rw [isFile, at?_eq_some.2 there]
  | .folder entries, .folder own distinct inside, leads, member => by
      rw [FileTree.filesUnder] at member
      split at member
      · cases member
      · next short =>
          obtain ⟨location, found, there⟩ := leads.resolve_left short
          refine isFile_of_mem_filesUnderEntries (fun entry held => ?_) inside member
          exact leadsTo_join found there (own entry held).1 (own entry held).2
            (lookup_of_mem distinct held)

theorem isFile_of_mem_filesUnderEntries {path file : String} :
    {entries : List (String × FileTree)} →
    (∀ entry ∈ entries, system.LeadsTo (Path.join path entry.1) entry.2) →
    (∀ entry ∈ entries, entry.2.WellFormed) → file ∈ FileTree.filesUnderEntries path entries →
    Path.isLong file = true ∨ system.isFile file = true
  | [], _, _, member => by cases member
  | (name, tree) :: rest, leads, inside, member => by
      obtain ⟨first, others⟩ := List.forall_mem_cons.1 leads
      obtain ⟨firstInside, othersInside⟩ := List.forall_mem_cons.1 inside
      rw [FileTree.filesUnderEntries, List.mem_append] at member
      rcases member with member | member
      · exact isFile_of_mem_filesUnder firstInside first member
      · exact isFile_of_mem_filesUnderEntries others othersInside member

end

end FileSystem

end TypedClient

import TypedClient.Proofs.Files.Below
import TypedClient.Proofs.Source.Faults

/-! # What a pattern covers

A folder covers the files below it that have the name of a document
(`FileSystem.mem_expandPattern_folder`), a file covers itself, and a pattern with wild names covers
the files that match it. The order in which a system lists entries is not seen in it: in systems
that agree a pattern covers the same files (`FileSystem.mem_expandPattern_iff`).
-/

namespace TypedClient

namespace Glob

/-! ## Paths in systems that agree -/

section Agree

variable {system other : FileSystem} (agree : system.Agree other)

include agree

/-- A name extends a path by the same names: whether something is there, and which names the entries
have, is the same in both systems. -/
theorem mem_extend_iff (path : String) (name : Name) (file : String) :
    file ∈ extend system path name ↔ file ∈ extend other path name := by
  have there := agree.at? (if path = "" then "." else path)
  cases name with
  | plain text =>
      by_cases slash : text = ""
      · subst slash
        rw [extend, extend, treeAt, treeAt]
        generalize system.at? _ = one, other.at? _ = two at there ⊢
        cases there with
        | none => rfl
        | some inner => rcases inner.cases with ⟨_, rfl, rfl⟩ | ⟨_, _, rfl, rfl, _⟩ <;> rfl
      · rw [extend, extend, agree.has]
        · exact slash
        · exact slash
  | wild items =>
      rw [extend, extend, treeAt, treeAt]
      generalize system.at? _ = one, other.at? _ = two at there ⊢
      cases there with
      | none => rfl
      | some inner =>
          rcases inner.cases with ⟨_, rfl, rfl⟩ | ⟨entries, others, rfl, rfl, same⟩
          · rfl
          · have names (name : String) :
                name ∈ entries.map (·.1) ↔ name ∈ others.map (·.1) := by
              rw [mem_names_iff, mem_names_iff, isSome_congr (same name)]
            simp only [List.mem_map, List.mem_filter, ← names]
  | anyDepth =>
      rw [extend, extend, treeAt, treeAt, List.mem_cons, List.mem_cons]
      generalize system.at? _ = one, other.at? _ = two at there ⊢
      cases there with
      | none => rfl
      | some inner => exact or_congr_right (Agree.mem_visibleIn_iff inner)

/-- Name by name, the same paths are found. -/
theorem mem_foldl_extend_iff (names : List Name) {found others : List String}
    (same : ∀ path, path ∈ found ↔ path ∈ others) (file : String) :
    file ∈ names.foldl (fun found name => found.flatMap (extend system · name)) found ↔
      file ∈ names.foldl (fun found name => found.flatMap (extend other · name)) others := by
  induction names generalizing found others with
  | nil => exact same file
  | cons name rest ih =>
      rw [List.foldl_cons, List.foldl_cons]
      apply ih
      intro path
      simp only [List.mem_flatMap, same, mem_extend_iff agree]

/-- Trees that agree have the same paths for a pattern. -/
theorem mem_paths_iff (pattern file : String) :
    file ∈ paths system pattern ↔ file ∈ paths other pattern := by
  unfold paths
  split
  · rfl
  · exact mem_foldl_extend_iff agree _ (fun _ => Iff.rfl) file

end Agree

/-! ## Null characters -/

theorem dropSlashes_subset (text : String) : (dropSlashes text).toList ⊆ text.toList := by
  unfold dropSlashes
  dsimp only
  split
  · exact List.Subset.refl _
  · intro c inside
    rw [String.toList_ofList, List.mem_reverse] at inside
    exact List.mem_reverse.1 ((List.dropWhile_sublist _).subset inside)

/-- Names that are joined by slashes bring nothing but these. -/
theorem mem_join_slashes {names : List String} {c : Char}
    (inside : c ∈ (String.join (names.map (· ++ "/"))).toList) :
    c = '/' ∨ ∃ name ∈ names, c ∈ name.toList := by
  induction names with
  | nil => cases inside
  | cons name rest ih =>
      rw [List.map_cons, String.join_cons, String.toList_append, String.toList_append] at inside
      rcases List.mem_append.1 inside with own | later
      · rcases List.mem_append.1 own with own | slash
        · exact .inr ⟨name, List.mem_cons_self, own⟩
        · exact .inl (List.mem_singleton.1 slash)
      · refine (ih later).imp_right ?_
        rintro ⟨other, listed, own⟩
        exact ⟨other, List.mem_cons_of_mem name listed, own⟩

/-- Nothing but slashes is added to the fixed names of a pattern. -/
theorem mem_fixedPath {pattern : String} {c : Char} (inside : c ∈ (fixedPath pattern).toList) :
    c = '/' ∨ c ∈ pattern.toList := by
  refine (mem_join_slashes (dropSlashes_subset _ inside)).imp_right ?_
  rintro ⟨name, fixed, own⟩
  obtain ⟨piece, found, rfl⟩ := List.mem_map.1 ((List.takeWhile_prefix _).subset fixed)
  rw [String.toList_ofList] at own
  exact (Text.mem_of_mem_pieces found own).1

/-- A path without a null character is no pattern that ends a search. -/
theorem isUnlistable_of_plain {pattern : String} (plain : Path.hasNull pattern = false) :
    isUnlistable pattern = false := by
  have fixed : Path.hasNull (fixedPath pattern) = false := by
    rw [Path.hasNull_eq_false] at plain ⊢
    intro inside
    rcases mem_fixedPath inside with slash | member
    · exact absurd slash (by decide)
    · exact plain member
  rw [isUnlistable, fixed, Bool.and_false]

end Glob

namespace FileSystem

variable {system : FileSystem}

/-! ## What a pattern covers -/

/-- The pattern leads to no folder and no file, and matches no file. -/
def MatchesNothing (system : FileSystem) (pattern : String) : Prop :=
  system.isFolder pattern = false ∧ system.isFile pattern = false ∧
    ∀ file ∈ Glob.paths system pattern, system.isFile file = false

instance (pattern : String) : Decidable (system.MatchesNothing pattern) :=
  inferInstanceAs (Decidable (_ ∧ _ ∧ ∀ file ∈ _, _))

/-- A pattern is unmatched exactly if it matches nothing. -/
theorem isUnmatched_iff {pattern : String} :
    system.isUnmatched pattern = true ↔ system.MatchesNothing pattern := by
  unfold isUnmatched MatchesNothing expandPattern
  cases folder : system.isFolder pattern with
  | true => simp
  | false =>
      cases file : system.isFile pattern with
      | true => simp
      | false => simp [List.filter_eq_nil_iff]

/-- A file is no folder. -/
theorem not_isFolder_of_isFile {path : String} (file : system.isFile path = true) :
    system.isFolder path = false := by
  unfold isFile at file
  unfold isFolder
  split at file
  · next there => rw [there]
  · cases file

/-- The path of a file is a pattern for that file. -/
theorem expandPattern_file {path : String} (file : system.isFile path = true) :
    system.expandPattern path = [path] := by
  rw [expandPattern, not_isFolder_of_isFile file, if_neg Bool.false_ne_true, if_pos file]

theorem located_of_isFile {path : String} (file : system.isFile path = true) :
    Path.hasNull path = false ∧ Path.isLong path = false := by
  unfold isFile at file
  split at file
  · next there =>
      obtain ⟨location, found, -⟩ := at?_eq_some.1 there
      obtain ⟨plain, -, short, -⟩ := locate_eq_ok.1 found
      exact ⟨plain, short⟩
  · cases file

/-- A folder covers the files below it that have the name of a document, as far as the folders on
the way can be listed. -/
theorem mem_expandPattern_folder (own : system.root.WellFormed) {pattern file : String}
    {tree : FileTree} (there : system.at? pattern = some tree)
    (folder : system.isFolder pattern = true) : file ∈ system.expandPattern pattern ↔
      ∃ front name content, tree.find? (front ++ [name]) = some (.file content) ∧
        (∃ ending ∈ documentExtensions, Text.endsWith name ending = true) ∧
        Path.isLong (Path.below pattern front) = false ∧
        file = Path.below pattern (front ++ [name]) := by
  have wellFormed : tree.WellFormed := by
    obtain ⟨location, -, found⟩ := at?_eq_some.1 there
    exact own.find? found
  have shown (front : List String) (name : String) :
      documentExtensions.any (Text.endsWith (Path.below pattern (front ++ [name]))) = true ↔
        ∃ ending ∈ documentExtensions, Text.endsWith name ending = true := by
    have whole : ∀ ending ∈ documentExtensions, '/' ∉ ending.toList := by decide
    rw [List.any_eq_true, Path.below_concat]
    apply exists_congr
    intro ending
    apply and_congr_right
    intro listed
    rw [Path.endsWith_join (whole ending listed)]
  rw [expandPattern, if_pos folder, collectFiles, there, Text.mem_sorted, List.mem_filter,
    FileTree.mem_filesUnder wellFormed]
  constructor
  · rintro ⟨⟨names, content, held, listable, rfl⟩, ends⟩
    rcases List.eq_nil_or_concat names with rfl | ⟨front, name, rfl⟩
    · have single : system.isFile pattern = true := by
        have root := FileTree.shape_eq_file.1 held
        rw [FileTree.find?_nil, Option.some.injEq] at root
        rw [isFile, there, root]
      rw [not_isFolder_of_isFile single] at folder
      cases folder
    · rw [List.concat_eq_append] at held listable ends ⊢
      exact ⟨front, name, content, FileTree.shape_eq_file.1 held, (shown front name).1 ends,
        listable front name rfl, rfl⟩
  · rintro ⟨front, name, content, held, ends, listable, rfl⟩
    refine ⟨⟨_, content, FileTree.shape_eq_file.2 held, ?_, rfl⟩, (shown front name).2 ends⟩
    intro others last split
    rw [(List.append_inj_left' split rfl)] at listable
    exact listable

/-! ## In systems that agree -/

/-- In trees that agree a pattern covers the same files. -/
theorem mem_expandPattern_iff {other : FileSystem} (agree : system.Agree other)
    (pattern file : String) : file ∈ system.expandPattern pattern ↔
      file ∈ other.expandPattern pattern := by
  unfold expandPattern collectFiles
  rw [agree.isFolder, agree.isFile]
  split
  · have there := agree.at? pattern
    generalize system.at? pattern = one, other.at? pattern = two at there ⊢
    cases there with
    | none => rfl
    | some inner =>
        simp only [Text.mem_sorted, List.mem_filter, FileTree.Agree.mem_filesUnder_iff inner]
  · split
    · rfl
    · simp only [List.mem_filter, Glob.mem_paths_iff agree, agree.isFile]

/-- In trees that agree the same patterns are unmatched. -/
theorem isUnmatched_eq {other : FileSystem} (agree : system.Agree other) (pattern : String) :
    system.isUnmatched pattern = other.isUnmatched pattern := by
  unfold isUnmatched
  rw [agree.isFolder, Bool.eq_iff_iff]
  simp only [Bool.and_eq_true, List.isEmpty_iff, List.eq_nil_iff_forall_not_mem,
    mem_expandPattern_iff agree]

/-! ## Paths that are too long -/

/-- No path that is too long is covered by paths of files. -/
theorem short_of_mem_expandPattern {file other : String}
    (member : other ∈ system.expandPattern file) (apart : system.isFolder file = false) :
    Path.isLong other = false := by
  unfold expandPattern at member
  rw [apart, if_neg Bool.false_ne_true] at member
  split at member
  · next single =>
      rw [List.mem_singleton.1 member]
      exact (located_of_isFile single).2
  · exact (located_of_isFile (List.mem_filter.1 member).2).2

/-- A path that is too long leads to no folder. -/
theorem not_isFolder_of_isLong {path : String} (long : Path.isLong path = true) :
    system.isFolder path = false := by
  unfold isFolder
  split
  · next there =>
      obtain ⟨location, found, -⟩ := at?_eq_some.1 there
      rw [(locate_eq_ok.1 found).2.2.1] at long
      cases long
  · rfl

end FileSystem

end TypedClient

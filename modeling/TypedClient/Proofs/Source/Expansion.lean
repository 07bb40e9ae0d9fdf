import TypedClient.Proofs.Source.Coverage
import TypedClient.Proofs.Source.Patterns

/-! # The files that patterns cover

What patterns cover is a set of paths in order: it is put together from what each pattern covers
alone, and neither the order of the patterns nor that of the entries of folders is seen in it
(`FileSystem.expandPatterns_isSortedUnion`). Only paths that are longer than the system allows are
in the way. The files of a folder are listed up to one name behind what can be followed, so a file
can be listed under a path that leads to nothing.
-/

namespace TypedClient

namespace FileSystem

variable {system : FileSystem}

/-! ## What patterns cover together -/

/-- Systems that agree cover the same files. -/
theorem expandPatterns_eq {other : FileSystem} (agree : system.Agree other)
    (patterns : List String) : system.expandPatterns patterns = other.expandPatterns patterns := by
  have covered : Text.sortedSet (patterns.flatMap system.expandPattern) =
      Text.sortedSet (patterns.flatMap other.expandPattern) := by
    apply Text.sortedSet_congr
    intro file
    simp only [List.mem_flatMap, mem_expandPattern_iff agree]
  have unmatched : system.isUnmatched = other.isUnmatched := funext (isUnmatched_eq agree)
  unfold expandPatterns
  rw [covered, unmatched]

/-- If every pattern can be looked for, there is a warning for each that matches nothing. -/
theorem expandPatterns_of_listable {patterns : List String}
    (listable : ∀ pattern ∈ patterns, Glob.isUnlistable pattern = false) :
    system.expandPatterns patterns =
      ((patterns.filter fun pattern => system.MatchesNothing pattern).map .patternUnmatched,
        .ok (Text.sortedSet (patterns.flatMap system.expandPattern))) := by
  have searched : patterns.takeWhile (fun pattern => !Glob.isUnlistable pattern) = patterns := by
    rw [List.takeWhile_eq_self_iff]
    intro pattern given
    rw [listable pattern given]
    rfl
  have all : patterns.any Glob.isUnlistable = false :=
    List.any_eq_false.2 fun pattern given => Bool.eq_false_iff.1 (listable pattern given)
  have unmatched : system.isUnmatched = fun pattern => decide (system.MatchesNothing pattern) := by
    funext pattern
    rw [Bool.eq_iff_iff, isUnmatched_iff, decide_eq_true_iff]
  unfold expandPatterns
  dsimp only
  rw [searched, all, if_neg Bool.false_ne_true, unmatched]

/-- A pattern that cannot be looked for ends the search. -/
theorem expandPatterns_of_unlistable {patterns : List String}
    (ended : ∃ pattern ∈ patterns, Glob.isUnlistable pattern = true) :
    (system.expandPatterns patterns).2 = .error (.file .nullCharacter) := by
  unfold expandPatterns
  dsimp only
  rw [if_pos (List.any_eq_true.2 ended)]

/-- A single pattern covers what it is expanded to. -/
theorem expandPatterns_singleton {pattern : String}
    (listable : Glob.isUnlistable pattern = false) :
    (system.expandPatterns [pattern]).2 = .ok (Text.sortedSet (system.expandPattern pattern)) := by
  rw [expandPatterns_of_listable (List.forall_mem_singleton.2 listable), List.flatMap_singleton]

/-- Files whose paths are in order are covered by these paths. -/
theorem expandPatterns_files {files : List String} (increasing : files.Pairwise (· < ·))
    (each : ∀ file ∈ files, system.isFile file = true) :
    system.expandPatterns files = ([], .ok files) := by
  have listable : ∀ file ∈ files, Glob.isUnlistable file = false := fun file member =>
    Glob.isUnlistable_of_plain (located_of_isFile (each file member)).1
  have own : files.flatMap system.expandPattern = files := by
    rw [List.flatMap_congr fun file member => expandPattern_file (each file member),
      List.flatMap_singleton']
  have matched : files.filter (fun file => system.MatchesNothing file) = [] := by
    rw [List.filter_eq_nil_iff]
    intro file member nothing
    have missing := (of_decide_eq_true nothing).2.1
    rw [each file member] at missing
    cases missing
  rw [expandPatterns_of_listable listable, own, matched,
    ← Text.eq_sortedSet increasing fun _ => Iff.rfl]
  rfl

/-- What files some patterns cover together. -/
structure Expands (system : FileSystem) (patterns files : List String) : Prop where
  /-- There is a warning for each pattern that leads to no folder and no file and matches no file,
  in the order of the patterns. -/
  result : system.expandPatterns patterns =
    ((patterns.filter fun pattern => system.MatchesNothing pattern).map .patternUnmatched,
      .ok files)
  increasing : files.Pairwise (· < ·)
  /-- The files are those that the patterns cover alone. -/
  union : ∀ file, file ∈ files ↔ ∃ pattern ∈ patterns, ∃ part,
    (system.expandPatterns [pattern]).2 = .ok part ∧ file ∈ part
  /-- It does not matter in which order the patterns stand, and how often. -/
  anyOrder : ∀ others, (∀ pattern, pattern ∈ others ↔ pattern ∈ patterns) →
    (system.expandPatterns others).2 = .ok files
  /-- A folder gives the files at any depth below it whose names end as those of documents do, if
  the path of the folder that they are in is one that the system allows. -/
  folder : ∀ pattern ∈ patterns, ∀ tree, system.at? pattern = some tree →
    system.isFolder pattern = true → ∃ part, (system.expandPatterns [pattern]).2 = .ok part ∧
      ∀ file, file ∈ part ↔ ∃ front name content,
        tree.find? (front ++ [name]) = some (.file content) ∧
        (∃ ending ∈ documentExtensions, Text.endsWith name ending = true) ∧
        Path.isLong (Path.below pattern front) = false ∧
        file = Path.below pattern (front ++ [name])
  /-- The files are covered by their own paths, unless one of these is too long to lead to a file.
  -/
  again_iff : system.expandPatterns files = ([], .ok files) ↔
    ∀ file ∈ files, Path.isLong file = false

/-- What patterns cover is one sorted set. -/
theorem eq_of_expandPatterns {patterns files : List String}
    (found : (system.expandPatterns patterns).2 = .ok files) :
    files = Text.sortedSet (patterns.flatMap system.expandPattern) := by
  unfold expandPatterns at found
  dsimp only at found
  split at found
  · cases found
  · exact (Except.ok.inj found).symm

section Listable

variable {patterns : List String} (own : system.root.WellFormed)
  (listable : ∀ pattern ∈ patterns, Glob.isUnlistable pattern = false)

include own

/-- What is covered by paths of files are these files, so a path that leads to nothing is not. -/
theorem expandPatterns_again {files : List String} (increasing : files.Pairwise (· < ·))
    (found : ∀ file ∈ files, ∃ pattern, file ∈ system.expandPattern pattern) :
    system.expandPatterns files = ([], .ok files) ↔ ∀ file ∈ files, Path.isLong file = false := by
  have single : ∀ file ∈ files, Path.isLong file = true ∨ system.isFile file = true := by
    intro file member
    obtain ⟨pattern, covered⟩ := found file member
    exact isFile_of_mem_expandPattern own covered
  constructor
  · intro same file member
    rw [eq_of_expandPatterns (congrArg Prod.snd same), Text.mem_sortedSet,
      List.mem_flatMap] at member
    obtain ⟨other, listed, covered⟩ := member
    apply short_of_mem_expandPattern covered
    rcases single other listed with long | file
    · exact not_isFolder_of_isLong long
    · exact not_isFolder_of_isFile file
  · intro short
    apply expandPatterns_files increasing
    intro file member
    apply (single file member).resolve_left
    rw [short file member]
    exact Bool.false_ne_true

include listable

/-- There is always a set of files that patterns cover. -/
theorem expands : ∃ files, system.Expands patterns files := by
  have covered (file : String) :
      file ∈ Text.sortedSet (patterns.flatMap system.expandPattern) ↔
        ∃ pattern ∈ patterns, file ∈ system.expandPattern pattern := by
    rw [Text.mem_sortedSet, List.mem_flatMap]
  refine ⟨Text.sortedSet (patterns.flatMap system.expandPattern), ?_⟩
  constructor
  case result => exact expandPatterns_of_listable listable
  case increasing => exact Text.sortedSet_pairwise _
  case union =>
    intro file
    rw [covered]
    apply exists_congr
    intro pattern
    apply and_congr_right
    intro given
    rw [expandPatterns_singleton (listable pattern given)]
    simp only [Except.ok.injEq, exists_eq_left', Text.mem_sortedSet]
  case anyOrder =>
    intro others same
    have listableToo : ∀ pattern ∈ others, Glob.isUnlistable pattern = false :=
      fun pattern given => listable pattern ((same pattern).1 given)
    have covers : Text.sortedSet (others.flatMap system.expandPattern) =
        Text.sortedSet (patterns.flatMap system.expandPattern) := by
      apply Text.sortedSet_congr
      intro file
      simp only [List.mem_flatMap, same]
    rw [expandPatterns_of_listable listableToo, covers]
  case folder =>
    intro pattern given tree there folder
    refine ⟨_, expandPatterns_singleton (listable pattern given), fun file => ?_⟩
    rw [Text.mem_sortedSet, mem_expandPattern_folder own there folder]
  case again_iff =>
    apply expandPatterns_again own (Text.sortedSet_pairwise _)
    intro file member
    obtain ⟨pattern, -, inside⟩ := (covered file).1 member
    exact ⟨pattern, inside⟩

end Listable

/-- **Expansion.** The files that patterns cover do not depend on the order of the entries of
folders. They are a sorted union, unless a null character in a pattern ends the search. -/
theorem expandPatterns_isSortedUnion (own : system.root.WellFormed) (patterns : List String) :
    (∀ root, system.root.Reordered root →
      FileSystem.expandPatterns ⟨root, system.here⟩ patterns = system.expandPatterns patterns) ∧
    ((∃ pattern ∈ patterns, Glob.isUnlistable pattern = true) →
      (system.expandPatterns patterns).2 = .error (.file .nullCharacter)) ∧
    ((∀ pattern ∈ patterns, Glob.isUnlistable pattern = false) →
      ∃ files, system.Expands patterns files) := by
  refine ⟨fun root moved => ?_, expandPatterns_of_unlistable, expands own⟩
  have agree : system.Agree ⟨root, system.here⟩ := ⟨moved.agree own, rfl⟩
  exact (expandPatterns_eq agree patterns).symm

/-- A folder `docs` with two documents, and a document beside it. -/
def docsFolder : FileSystem where
  root := .folder [("docs", .folder [("b.gql", .file "".toUTF8), ("a.graphql", .file "".toUTF8)]),
    ("c.graphql", .file "".toUTF8)]
  here := []

/-- The same files, with other orders of entries. -/
def docsReordered : FileTree :=
  .folder [("c.graphql", .file "".toUTF8),
    ("docs", .folder [("a.graphql", .file "".toUTF8), ("b.gql", .file "".toUTF8)])]

theorem wellFormed_docsFolder : docsFolder.root.WellFormed := by
  have docs : FileTree.WellFormed
      (.folder [("b.gql", .file "".toUTF8), ("a.graphql", .file "".toUTF8)]) :=
    .folder (by decide) (by decide)
      (List.forall_mem_cons.2 ⟨.file _, List.forall_mem_singleton.2 (.file _)⟩)
  exact .folder (by decide) (by decide)
    (List.forall_mem_cons.2 ⟨docs, List.forall_mem_singleton.2 (.file _)⟩)

theorem reordered_docsFolder : docsFolder.root.Reordered docsReordered :=
  .trans (.inside (.entries (.swap _ _ [])) "docs" [] _) (.entries (.swap _ _ []))

/-- Patterns that overlap, and one that matches nothing. -/
def docsPatterns : List String := ["docs", "*.graphql", "docs/a.graphql", "missing"]

theorem expandPatterns_isSortedUnion_docs :
    FileSystem.expandPatterns ⟨docsReordered, []⟩ docsPatterns =
        docsFolder.expandPatterns docsPatterns ∧
      (docsFolder.expandPatterns ["docs", "\x00/*"]).2 = .error (.file .nullCharacter) ∧
      docsFolder.Expands docsPatterns ["c.graphql", "docs/a.graphql", "docs/b.gql"] := by
  obtain ⟨reordered, -, expands⟩ :=
    expandPatterns_isSortedUnion wellFormed_docsFolder docsPatterns
  obtain ⟨-, ended, -⟩ := expandPatterns_isSortedUnion wellFormed_docsFolder ["docs", "\x00/*"]
  refine ⟨reordered docsReordered reordered_docsFolder, ended (by decide +kernel), ?_⟩
  obtain ⟨files, expanded⟩ := expands (by decide +kernel)
  have folder : docsFolder.expandPattern "docs" = Text.sorted ["docs/b.gql", "docs/a.graphql"] := by
    rfl
  have others : ["*.graphql", "docs/a.graphql", "missing"].flatMap docsFolder.expandPattern =
      ["c.graphql", "docs/a.graphql"] := by decide +kernel
  have found : (docsFolder.expandPatterns docsPatterns).2 = .ok files := by
    rw [expanded.result]
  have inOrder : ["c.graphql", "docs/a.graphql", "docs/b.gql"] = files := by
    rw [eq_of_expandPatterns found]
    apply Text.eq_sortedSet (by decide)
    intro file
    rw [docsPatterns, List.flatMap_cons, folder, others, List.mem_append, Text.mem_sorted]
    simp only [List.mem_cons, List.not_mem_nil, or_false]
    grind
  rw [inOrder]
  exact expanded

/-! ## Paths that are too long -/

/-- A path of many steps that stay where they are. -/
def stepsHere (count : Nat) : String :=
  String.join ((List.replicate count ".").map (· ++ "/"))

/-- One more step makes a path longer by two characters. -/
theorem stepsHere_succ (count : Nat) : stepsHere (count + 1) = stepsHere count ++ "./" := by
  rw [stepsHere, List.replicate_succ', List.map_append, String.join_append]
  rfl

/-- Each step takes two bytes. -/
theorem utf8ByteSize_stepsHere (count : Nat) : (stepsHere count).utf8ByteSize = 2 * count := by
  induction count with
  | zero => rfl
  | succ count ih =>
      have step : "./".utf8ByteSize = 2 := rfl
      rw [stepsHere_succ, String.utf8ByteSize_append, ih, step]
      omega

theorem mem_stepsHere {count : Nat} {c : Char} (inside : c ∈ (stepsHere count).toList) :
    c = '.' ∨ c = '/' := by
  induction count with
  | zero => cases inside
  | succ count ih =>
      rw [stepsHere_succ, String.toList_append, List.mem_append] at inside
      rcases inside with inside | inside
      · exact ih inside
      · simpa using inside

/-- The names of such a path are steps, and the last one. -/
theorem components_stepsHere (count : Nat) {last : String} (whole : '/' ∉ last.toList) :
    Path.components (stepsHere count ++ last) = List.replicate count "." ++ [last] := by
  apply Glob.components_of_names _ whole
  intro name member
  rw [List.eq_of_mem_replicate member]
  decide

/-- A name is joined to steps without another slash. -/
theorem join_stepsHere (count : Nat) (name : String) :
    Path.join (stepsHere count) name = stepsHere count ++ name := by
  cases count with
  | zero => exact if_pos (.inl rfl)
  | succ count =>
      apply if_pos
      right
      rw [stepsHere_succ, String.toList_append, List.getLast?_append]
      rfl

theorem hasNull_stepsHere (count : Nat) : Path.hasNull (stepsHere count) = false := by
  rw [Path.hasNull_eq_false]
  intro inside
  exact (mem_stepsHere inside).elim (by decide) (by decide)

/-- Many steps make a path too long. -/
theorem isLong_stepsHere (count : Nat) (name : String) :
    Path.isLong (stepsHere count ++ name) = decide (4095 < 2 * count + name.utf8ByteSize) := by
  rw [Path.isLong, String.utf8ByteSize_append, utf8ByteSize_stepsHere]

/-- A name that leads nowhere else is followed to where one is. -/
theorem followName_stay {location : List String} {entries : List (String × FileTree)}
    (inFolder : system.root.find? location = some (.folder entries)) {name : String}
    (stays : name = "." ∨ name = "") : system.followName location name = .ok location := by
  unfold followName
  rw [inFolder]
  rcases stays with rfl | rfl <;> rfl

/-- Steps lead nowhere else. -/
theorem foldlM_stepsHere {location : List String} {entries : List (String × FileTree)}
    (inFolder : system.root.find? location = some (.folder entries)) (count : Nat) :
    (List.replicate count "." ++ [""]).foldlM system.followName location = .ok location := by
  induction count with
  | zero =>
      change [""].foldlM system.followName location = _
      rw [List.foldlM_cons, followName_stay inFolder (.inr rfl)]
      rfl
  | succ count ih =>
      rw [List.replicate_succ, List.cons_append, List.foldlM_cons,
        followName_stay inFolder (.inl rfl)]
      exact ih

/-- Many steps lead to the working folder, unless they are too many. -/
theorem at?_stepsHere {count : Nat} (moving : count ≠ 0)
    (short : Path.isLong (stepsHere count) = false) {entries : List (String × FileTree)}
    (inFolder : system.root.find? system.here = some (.folder entries)) :
    system.at? (stepsHere count) = some (.folder entries) := by
  have names := components_stepsHere count (by decide : '/' ∉ "".toList)
  rw [String.append_empty] at names
  have filled : stepsHere count ≠ "" := by
    intro empty
    have size := utf8ByteSize_stepsHere count
    rw [empty, String.utf8ByteSize_empty] at size
    omega
  have relative : Path.isAbsolute (stepsHere count) = false := by
    obtain ⟨count, rfl⟩ := Nat.exists_eq_succ_of_ne_zero moving
    rw [Bool.eq_false_iff, Ne, Path.isAbsolute_iff filled, names, List.replicate_succ,
      List.cons_append, List.head?_cons]
    decide
  refine at?_eq_some.2 ⟨system.here, locate_eq_ok.2 ⟨hasNull_stepsHere count, filled, short, ?_⟩,
    inFolder⟩
  rw [names, relative, if_neg Bool.false_ne_true]
  exact foldlM_stepsHere inFolder count

/-- What is too long to be followed is no file, and is no pattern either if there is nothing wild
in it. -/
theorem expandPatterns_of_isLong {count : Nat} {name : String} (own : Path.IsEntryName name)
    (plain : Path.hasNull name = false) (unwild : Glob.isWild name = false)
    (long : Path.isLong (stepsHere count ++ name) = true) :
    system.expandPatterns [stepsHere count ++ name] =
      ([.patternUnmatched (stepsHere count ++ name)], .ok []) := by
  have listable : Glob.isUnlistable (stepsHere count ++ name) = false := by
    apply Glob.isUnlistable_of_plain
    rw [← join_stepsHere]
    exact Path.hasNull_join (hasNull_stepsHere count) plain
  have noFile : system.isFile (stepsHere count ++ name) = false := by
    rw [Bool.eq_false_iff]
    intro single
    rw [(located_of_isFile single).2] at long
    cases long
  have noFolder : system.isFolder (stepsHere count ++ name) = false := not_isFolder_of_isLong long
  have names : Glob.wildNames (stepsHere count ++ name) = [] := by
    have fixed : ∀ part ∈ List.replicate count "." ++ [name], (!Glob.isWild part) = true := by
      intro part member
      rcases List.mem_append.1 member with step | last
      · rw [List.eq_of_mem_replicate step]
        decide
      · rw [List.mem_singleton.1 last, unwild]
        rfl
    rw [Glob.wildNames, Glob.drop_fixedNames, components_stepsHere count own.whole,
      List.dropWhile_eq_nil_iff.2 fixed]
    rfl
  have paths : Glob.paths system (stepsHere count ++ name) = [] := by
    rw [Glob.paths, names]
  have nothing : system.MatchesNothing (stepsHere count ++ name) :=
    ⟨noFolder, noFile, paths ▸ List.forall_mem_nil _⟩
  have covered : system.expandPattern (stepsHere count ++ name) = [] := by
    rw [expandPattern, noFolder, if_neg Bool.false_ne_true, noFile, if_neg Bool.false_ne_true,
      paths]
    rfl
  have unmatched : [stepsHere count ++ name].filter
      (fun pattern => system.MatchesNothing pattern) = [stepsHere count ++ name] :=
    List.filter_cons_of_pos (decide_eq_true nothing)
  rw [expandPatterns_of_listable (List.forall_mem_singleton.2 listable), unmatched,
    List.flatMap_singleton, covered, ← Text.eq_sortedSet List.Pairwise.nil fun _ => Iff.rfl]
  rfl

/-- A document, and another one in a folder. -/
def deepFiles : FileSystem where
  root := .folder [("a.graphql", .file "".toUTF8), ("dd", .folder [("b.graphql", .file "".toUTF8)])]
  here := []

/-- The files of a folder are covered as far as their own folders have paths that are not too long.
-/
theorem expandPatterns_deepFiles {count : Nat} (moving : count ≠ 0)
    (short : Path.isLong (stepsHere count) = false)
    (long : Path.isLong (stepsHere count ++ "dd") = true) :
    deepFiles.isFolder (stepsHere count) = true ∧
      deepFiles.expandPatterns [stepsHere count] = ([], .ok [stepsHere count ++ "a.graphql"]) := by
  have there : deepFiles.at? (stepsHere count) = some deepFiles.root :=
    at?_stepsHere moving short rfl
  have folder : deepFiles.isFolder (stepsHere count) = true := by
    rw [isFolder, there]
    rfl
  have listed : deepFiles.root.filesUnder (stepsHere count) = [stepsHere count ++ "a.graphql"] := by
    rw [deepFiles, FileTree.filesUnder, if_neg (Bool.eq_false_iff.1 short),
      FileTree.filesUnderEntries, FileTree.filesUnderEntries, FileTree.filesUnder,
      FileTree.filesUnder, join_stepsHere, join_stepsHere, if_pos long]
    rfl
  have kept : [stepsHere count ++ "a.graphql"].filter
      (fun file => documentExtensions.any (Text.endsWith file)) =
        [stepsHere count ++ "a.graphql"] := by
    refine List.filter_cons_of_pos (List.any_eq_true.2 ⟨".graphql", by decide, ?_⟩)
    rw [← join_stepsHere, Path.endsWith_join (by decide)]
    decide
  have covered : deepFiles.expandPattern (stepsHere count) = [stepsHere count ++ "a.graphql"] := by
    rw [expandPattern, if_pos folder, collectFiles, there]
    dsimp only
    rw [listed, kept, Text.sorted, List.mergeSort_singleton]
  have listable := Glob.isUnlistable_of_plain (hasNull_stepsHere count)
  have matched :
      [stepsHere count].filter (fun pattern => deepFiles.MatchesNothing pattern) = [] := by
    apply List.filter_cons_of_neg
    intro nothing
    rw [(of_decide_eq_true nothing).1] at folder
    cases folder
  refine ⟨folder, ?_⟩
  rw [expandPatterns_of_listable (List.forall_mem_singleton.2 listable), matched,
    List.flatMap_singleton, covered,
    ← Text.eq_sortedSet (List.pairwise_singleton _ _) fun _ => Iff.rfl]
  rfl

/-- A null character ends a search. A folder can be followed while the folder in it is too far away
to be listed, and a file in it is found whose path is too long to be followed again. -/
theorem expandPatterns_beyondLimits :
    (deepFiles.expandPatterns ["\x00/*"]).2 = .error (.file .nullCharacter) ∧
      deepFiles.root.find? ["dd", "b.graphql"] = some (.file "".toUTF8) ∧
      deepFiles.isFolder (stepsHere 2047) = true ∧
      deepFiles.expandPatterns [stepsHere 2047] = ([], .ok [stepsHere 2047 ++ "a.graphql"]) ∧
      deepFiles.expandPatterns [stepsHere 2047 ++ "a.graphql"] =
        ([.patternUnmatched (stepsHere 2047 ++ "a.graphql")], .ok []) := by
  have short : Path.isLong (stepsHere 2047) = false := by
    have size := isLong_stepsHere 2047 ""
    rwa [String.append_empty] at size
  obtain ⟨folder, covered⟩ :=
    expandPatterns_deepFiles (by decide) short (isLong_stepsHere 2047 "dd")
  have ended : Glob.isUnlistable "\x00/*" = true := by decide +kernel
  refine ⟨?_, rfl, folder, covered, ?_⟩
  · exact expandPatterns_of_unlistable ⟨_, List.mem_singleton_self _, ended⟩
  · exact expandPatterns_of_isLong (by decide) (by decide) (by decide)
      (isLong_stepsHere 2047 "a.graphql")

end FileSystem

end TypedClient

import Mathlib.Data.List.TakeWhile
import TypedClient.Proofs.Files.Listing
import TypedClient.Proofs.Source.Loading
import TypedClient.Proofs.Text.Distinct

/-! # Which files are loaded

Patterns can cover a file more than once. What they cover is told apart by the texts of the paths,
so a file is loaded once for each way in which it is spelled (`loadDocuments_covers`). If all
patterns begin alike and go on by names of entries only, every file has a single spelling.
-/

namespace TypedClient

/-! ## Paths that match a pattern -/

namespace Glob

mutual

/-- What is visible in a tree has paths that continue its own. -/
theorem continues_of_mem_visibleIn {path file : String} : {tree : FileTree} →
    tree.WellFormed → file ∈ visibleIn path tree → Path.Continues (Path.stem path) file
  | .file content, _, member => by cases member
  | .folder entries, .folder own _ inside, member => by
      rw [visibleIn] at member
      exact continues_of_mem_visibleEntries (fun entry held => (own entry held).1) inside member

theorem continues_of_mem_visibleEntries {path file : String} :
    {entries : List (String × FileTree)} → (∀ entry ∈ entries, Path.IsEntryName entry.1) →
    (∀ entry ∈ entries, entry.2.WellFormed) → file ∈ visibleEntries path entries →
    Path.Continues (Path.stem path) file
  | [], _, _, member => by cases member
  | (name, tree) :: rest, own, inside, member => by
      obtain ⟨first, others⟩ := List.forall_mem_cons.1 own
      obtain ⟨firstInside, othersInside⟩ := List.forall_mem_cons.1 inside
      rw [visibleEntries, List.mem_append] at member
      rcases member with member | member
      · by_cases hidden : isHidden name = true
        · rw [if_pos hidden] at member
          cases member
        · rw [if_neg hidden] at member
          rcases List.mem_cons.1 member with rfl | member
          · exact Path.continues_join first path
          · exact (Path.continues_join first path).trans
              (continues_of_mem_visibleIn firstInside member)
      · exact continues_of_mem_visibleEntries others othersInside member

end

/-- A name of a pattern that leads on: it is wild, or an entry can have it, or it stands for a slash
at the end. -/
def Name.LeadsOn : Name → Prop
  | plain text => text = "" ∨ Path.IsEntryName text
  | wild _ => True
  | anyDepth => True

/-- A name of an entry leads on, and so does the empty one. -/
theorem leadsOn_nameOf {text : String} (own : text = "" ∨ Path.IsEntryName text) :
    (nameOf text).LeadsOn := by
  unfold nameOf
  split
  · trivial
  · split
    · trivial
    · exact own

variable {system : FileSystem}

/-- What a path leads to in a well-formed tree is well-formed. -/
theorem wellFormed_of_treeAt (own : system.root.WellFormed) {path : String}
    {tree : FileTree} (there : treeAt system path = some tree) : tree.WellFormed := by
  obtain ⟨location, -, found⟩ := FileSystem.at?_eq_some.1 there
  exact own.find? found

/-- A name extends a path by names of entries. -/
theorem continues_of_mem_extend (own : system.root.WellFormed) {name : Name}
    (onward : name.LeadsOn) {path file : String} (member : file ∈ extend system path name) :
    Path.Continues (Path.stem path) file := by
  cases name with
  | plain text =>
      by_cases slash : text = ""
      · subst slash
        rw [extend] at member
        split at member
        · rw [List.mem_singleton.1 member]
          exact Path.continues_join_empty path
        · cases member
      · rw [extend] at member
        · split at member
          · rw [List.mem_singleton.1 member]
            exact Path.continues_join (onward.resolve_left slash) path
          · cases member
        · exact slash
  | wild items =>
      rw [extend] at member
      split at member
      · next entries there =>
          obtain ⟨name, found, rfl⟩ := List.mem_map.1 member
          obtain ⟨entry, inside, rfl⟩ := List.mem_map.1 (List.mem_of_mem_filter found)
          cases wellFormed_of_treeAt own there with
          | folder own _ _ => exact Path.continues_join (own entry inside).1 path
      · cases member
  | anyDepth =>
      rw [extend] at member
      rcases List.mem_cons.1 member with rfl | member
      · exact Path.continues_join_empty path
      · split at member
        · next tree there =>
            exact continues_of_mem_visibleIn (wellFormed_of_treeAt own there) member
        · cases member

/-- Names that lead on, one after the other, extend one of the paths at hand. -/
theorem continues_of_mem_foldl (own : system.root.WellFormed) {names : List Name}
    (onward : ∀ name ∈ names, name.LeadsOn) {found : List String} {file : String}
    (member : file ∈ names.foldl (fun found name => found.flatMap (extend system · name)) found) :
    ∃ path ∈ found, Path.Continues (Path.stem path) file := by
  induction names generalizing found with
  | nil => exact ⟨file, member, Path.continues_stem file⟩
  | cons name rest ih =>
      obtain ⟨first, others⟩ := List.forall_mem_cons.1 onward
      obtain ⟨way, reached, further⟩ := ih others member
      obtain ⟨path, start, step⟩ := List.mem_flatMap.1 reached
      exact ⟨path, start, (continues_of_mem_extend own first step).trans further⟩

/-! ### The fixed names of a pattern -/

/-- A slash that is put behind a text is taken off again. -/
theorem dropSlashes_of_last {text : String} {front : List Char} {last : Char}
    (split : text.toList = front ++ [last]) (other : last ≠ '/') :
    dropSlashes (text ++ "/") = text := by
  have reversed : ((text ++ "/").toList.reverse.dropWhile (· = '/')).reverse = text.toList := by
    rw [String.toList_append, split]
    simp [other]
  have filled : ((text ++ "/").toList.reverse.dropWhile (· = '/')).isEmpty = false := by
    rw [List.isEmpty_eq_false_iff, ← List.reverse_ne_nil_iff, reversed, split]
    exact List.append_ne_nil_of_right_ne_nil _ (List.cons_ne_nil _ _)
  unfold dropSlashes
  dsimp only
  rw [filled, if_neg Bool.false_ne_true, reversed, String.ofList_toList]

/-- Names with slashes behind them, and a last one. -/
theorem components_of_names {names : List String} {last : String}
    (whole : ∀ name ∈ names, '/' ∉ name.toList) (lastWhole : '/' ∉ last.toList) :
    Path.components (String.join (names.map (· ++ "/")) ++ last) = names ++ [last] := by
  induction names with
  | nil =>
      rw [List.map_nil, String.join_nil, String.empty_append,
        Path.components_of_not_mem lastWhole, List.nil_append]
  | cons name rest ih =>
      obtain ⟨first, others⟩ := List.forall_mem_cons.1 whole
      rw [List.map_cons, String.join_cons, String.append_assoc, Path.components_append, ih others,
        Path.components_of_not_mem first, List.singleton_append, List.cons_append]

/-- Without the slashes at its end, a path that is put together from names has just these names. -/
theorem stem_dropSlashes {names : List String} (whole : ∀ name ∈ names, '/' ∉ name.toList)
    (solid : ∀ name ∈ names.tail, name ≠ "") :
    Path.stem (dropSlashes (String.join (names.map (· ++ "/")))) = names := by
  rcases List.eq_nil_or_concat names with rfl | ⟨front, last, rfl⟩
  · decide
  · rw [List.concat_eq_append] at whole solid ⊢
    obtain ⟨frontWhole, lastWhole⟩ := List.forall_mem_append.1 whole
    have lastWhole := List.forall_mem_singleton.1 lastWhole
    by_cases empty : last = ""
    · -- Only the first name can be empty.
      cases front with
      | nil => rw [empty]; decide
      | cons first more => exact absurd empty (solid last (by simp))
    · have characters : last.toList ≠ [] := fun same => empty (String.toList_inj.1 same)
      obtain ⟨inner, character, ends⟩ :=
        (List.eq_nil_or_concat last.toList).resolve_left characters
      rw [List.concat_eq_append] at ends
      have other : character ≠ '/' := by
        rintro rfl
        exact lastWhole (ends ▸ List.mem_append_right inner (List.mem_singleton_self _))
      have split : (String.join (front.map (· ++ "/")) ++ last).toList =
          (String.join (front.map (· ++ "/"))).toList ++ inner ++ [character] := by
        rw [String.toList_append, ends, List.append_assoc]
      have joined : String.join ((front ++ [last]).map (· ++ "/")) =
          String.join (front.map (· ++ "/")) ++ last ++ "/" := by
        rw [List.map_append, String.join_append, List.map_singleton, String.join_cons,
          String.join_nil, String.append_empty, String.append_assoc]
      rw [joined, dropSlashes_of_last split other, Path.stem,
        components_of_names frontWhole lastWhole, List.getLast?_concat, if_neg]
      exact fun same => empty (Option.some.inj same)

/-- Empty names are all that is dropped. -/
theorem dropInnerEmpty_subset (names : List String) : dropInnerEmpty names ⊆ names := by
  fun_induction dropInnerEmpty names with
  | case1 => exact List.Subset.refl _
  | case2 last => exact List.Subset.refl _
  | case3 rest _ ih => exact List.Subset.trans ih (List.subset_cons_self _ _)
  | case4 name rest _ _ ih => exact List.cons_subset_cons name ih

/-- Behind the fixed names of a pattern its first wild one stands. -/
theorem drop_fixedNames (pattern : String) :
    (Path.components pattern).drop (fixedNames pattern).length =
      (Path.components pattern).dropWhile fun name => !isWild name := by
  have whole : fixedNames pattern ++
      (Path.components pattern).dropWhile (fun name => !isWild name) = Path.components pattern :=
    List.takeWhile_append_dropWhile
  have rest := congrArg (List.drop (fixedNames pattern).length) whole
  rw [List.drop_left] at rest
  exact rest.symm

section Along

variable {base names rest : List String} {pattern : String}
  (unwild : ∀ name ∈ base, isWild name = false) (solid : ∀ name ∈ base.tail, name ≠ "")
  (entryNames : ∀ name ∈ names, Path.IsEntryName name) (empty : ∀ name ∈ rest, name = "")
  (split : Path.components pattern = base ++ (names ++ rest))

include unwild split

/-- The fixed names of a pattern end where the first wild one stands. -/
theorem fixedNames_eq : fixedNames pattern =
    base ++ (names ++ rest).takeWhile fun name => !isWild name := by
  rw [fixedNames, split, List.takeWhile_append_of_pos]
  intro name inside
  rw [unwild name inside]
  rfl

/-- The wild names of a pattern begin where the first one stands. -/
theorem wildNames_eq : wildNames pattern =
    (dropInnerEmpty ((names ++ rest).dropWhile fun name => !isWild name)).map nameOf := by
  rw [wildNames, drop_fixedNames, split, List.dropWhile_append_of_pos]
  intro name inside
  rw [unwild name inside]
  rfl

include entryNames empty

/-- Every name behind the fixed ones leads on. -/
theorem leadsOn_of_mem_wildNames {name : Name} (member : name ∈ wildNames pattern) :
    name.LeadsOn := by
  rw [wildNames_eq unwild split] at member
  obtain ⟨text, found, rfl⟩ := List.mem_map.1 member
  apply leadsOn_nameOf
  have inside := (List.dropWhile_sublist _).subset (dropInnerEmpty_subset _ found)
  rcases List.mem_append.1 inside with inside | inside
  · exact .inr (entryNames text inside)
  · exact .inl (empty text inside)

include solid

/-- If there is a wild name, the folder in front of it is fixed. -/
theorem continues_fixedPath (wild : wildNames pattern ≠ []) :
    Path.Continues base (fixedPath pattern) := by
  -- The first wild name is one of `names`, so that nothing behind them is fixed.
  have reached : (names ++ rest).takeWhile (fun name => !isWild name) =
      names.takeWhile fun name => !isWild name := by
    rw [List.takeWhile_append, if_neg]
    intro all
    have namesFixed := List.takeWhile_eq_self_iff.1
      ((List.takeWhile_prefix fun name => !isWild name).eq_of_length all)
    apply wild
    rw [wildNames_eq unwild split, List.dropWhile_append_of_pos namesFixed,
      List.dropWhile_eq_nil_iff.2]
    · rfl
    · intro name inside
      rw [empty name inside]
      rfl
  have front := fixedNames_eq unwild split
  rw [reached] at front
  have own : ∀ name ∈ names.takeWhile (fun name => !isWild name), Path.IsEntryName name :=
    fun name inside => entryNames name ((List.takeWhile_prefix _).subset inside)
  refine ⟨_, own, front ▸ stem_dropSlashes ?_ ?_⟩
  · exact fun name inside =>
      Path.not_mem_of_mem_components ((List.takeWhile_prefix _).subset inside)
  · intro name inside
    rw [front] at inside
    cases base with
    | nil => exact (own name (List.mem_of_mem_tail inside)).filled
    | cons first more =>
        rcases List.mem_append.1 inside with inside | inside
        · exact solid name inside
        · exact (own name inside).filled

end Along

/-- The paths that match a pattern continue what the pattern continues. -/
theorem continues_of_mem_paths (own : system.root.WellFormed) {base : List String}
    (unwild : ∀ name ∈ base, isWild name = false) (solid : ∀ name ∈ base.tail, name ≠ "")
    {pattern file : String} (along : Path.Continues base pattern)
    (member : file ∈ paths system pattern) : Path.Continues base file := by
  obtain ⟨names, entryNames, stem⟩ := along
  obtain ⟨rest, empty, split⟩ : ∃ rest, (∀ name ∈ rest, name = "") ∧
      Path.components pattern = base ++ (names ++ rest) := by
    rcases Path.components_eq_stem pattern with split | split
    · exact ⟨[], fun _ member => (by cases member), by rw [split, stem, List.append_nil]⟩
    · exact ⟨[""], fun _ only => List.mem_singleton.1 only, by rw [split, stem, List.append_assoc]⟩
  unfold paths at member
  split at member
  · cases member
  · next wild =>
      obtain ⟨path, start, further⟩ := continues_of_mem_foldl own
        (fun _ => leadsOn_of_mem_wildNames unwild entryNames empty split) member
      rw [List.mem_singleton.1 start] at further
      exact (continues_fixedPath unwild solid entryNames empty split wild).trans further

end Glob

/-! ## Files that patterns cover -/

namespace FileSystem

variable {system : FileSystem} {patterns : List String} {documents : List DocumentFile}

/-- The patterns begin with the same names, none of them wild, and go on by names of entries. -/
structure StartAlike (base : List String) (patterns : List String) : Prop where
  unwild : ∀ name ∈ base, Glob.isWild name = false
  solid : ∀ name ∈ base.tail, name ≠ ""
  onward : ∀ pattern ∈ patterns, Path.Continues base pattern

/-- What such patterns cover begins alike too. -/
theorem continues_of_mem_expandPattern (own : system.root.WellFormed) {base : List String}
    (alike : StartAlike base patterns) {pattern file : String} (given : pattern ∈ patterns)
    (member : file ∈ system.expandPattern pattern) : Path.Continues base file := by
  have along := alike.onward pattern given
  unfold expandPattern at member
  split at member
  · unfold collectFiles at member
    have found := List.mem_of_mem_filter (Text.mem_sorted.1 member)
    split at found
    · next tree there =>
        obtain ⟨location, -, there⟩ := at?_eq_some.1 there
        exact along.trans (FileTree.continues_of_mem_filesUnder (own.find? there) found)
    · cases found
  · split at member
    · rwa [List.mem_singleton.1 member]
    · exact Glob.continues_of_mem_paths own alike.unwild alike.solid along
        (List.mem_of_mem_filter member)

/-! ## Loaded documents -/

/-- No two documents are from the same file of the tree. -/
def FromDifferentFiles (system : FileSystem) (documents : List DocumentFile) : Prop :=
  documents.Pairwise fun one other => system.locate one.location ≠ system.locate other.location

/-- What is loaded of the files that patterns cover. -/
structure Covers (system : FileSystem) (patterns : List String) (documents : List DocumentFile) :
    Prop where
  /-- Each path that is covered is loaded once, in order. -/
  paths : documents.map (·.location) = Text.sortedSet (patterns.flatMap system.expandPattern)
  /-- What a path leads to can be read off its text, and it is a file with the document. -/
  files : ∀ document ∈ documents,
    system.locate document.location = .ok (Path.normalize system.here document.location) ∧
      system.readDocument document.location = .ok document.document
  /-- If a file is loaded twice, all that is in it comes twice. -/
  same : ∀ one ∈ documents, ∀ other ∈ documents,
    system.locate one.location = system.locate other.location → one.document = other.document
  /-- A file is loaded twice exactly if it is covered under two spellings. -/
  differ_iff : system.FromDifferentFiles documents ↔
    ∀ one ∈ patterns.flatMap system.expandPattern, ∀ other ∈ patterns.flatMap system.expandPattern,
      Path.normalize system.here one = Path.normalize system.here other → one = other
  /-- Patterns that begin alike cover each file under one spelling. -/
  differ : system.root.WellFormed → ∀ base, StartAlike base patterns →
    system.FromDifferentFiles documents

/-- A file is read as a document at its path. -/
theorem readDocumentFile_eq_ok {path : String} {file : DocumentFile} :
    system.readDocumentFile path = .ok file ↔
      file.location = path ∧ system.readDocument path = .ok file.document := by
  unfold readDocumentFile
  cases system.readDocument path with
  | error fault => exact ⟨fun same => (by cases same), fun ⟨_, same⟩ => (by cases same)⟩
  | ok document =>
      constructor
      · rintro ⟨⟩
        exact ⟨rfl, rfl⟩
      · rintro ⟨rfl, ⟨⟩⟩
        rfl

/-- The documents are those in the covered files, one for each path. -/
theorem loadDocuments_eq_ok (loaded : (system.loadDocuments patterns).2 = .ok documents) :
    (Text.sortedSet (patterns.flatMap system.expandPattern)).mapM system.readDocumentFile =
      .ok documents := by
  rw [loadDocuments_snd, bind_eq_ok] at loaded
  obtain ⟨files, found, read⟩ := loaded
  unfold expandPatterns at found
  dsimp only at found
  split at found
  · cases found
  · cases found
    exact read

/-- The documents have the paths that they were read from. -/
theorem map_location {paths : List String}
    (read : paths.mapM system.readDocumentFile = .ok documents) :
    documents.map (·.location) = paths := by
  have pairs := mapM_eq_ok.1 read
  clear read
  induction pairs with
  | nil => rfl
  | cons own _ ih => rw [List.map_cons, (readDocumentFile_eq_ok.1 own).1, ih]

/-- Each document was read from its path. -/
theorem readDocument_of_mem {paths : List String}
    (read : paths.mapM system.readDocumentFile = .ok documents) {document : DocumentFile}
    (member : document ∈ documents) :
    system.readDocument document.location = .ok document.document := by
  obtain ⟨path, -, own⟩ := exists_item_of_mapM read member
  obtain ⟨same, held⟩ := readDocumentFile_eq_ok.1 own
  rwa [same]

/-- Only files have documents in them. -/
theorem located_of_readDocument {path : String} {document : Document}
    (read : system.readDocument path = .ok document) : Path.IsTrimmed path ∧
      system.locate path = .ok (Path.normalize system.here path) := by
  obtain ⟨text, readable, -⟩ := readDocument_eq_ok.1 read
  obtain ⟨location, content, written, found, file, -⟩ := readText_eq_ok.1 readable
  exact ⟨isTrimmed_of_file found file, locate_eq_normalize found ▸ found⟩

/-- Paths that lead to the same place lead to the same document. -/
theorem document_congr {one other : String} {first second : Document}
    (same : system.locate one = system.locate other) (read : system.readDocument one = .ok first)
    (further : system.readDocument other = .ok second) : first = second := by
  obtain ⟨text, readable, parsed⟩ := readDocument_eq_ok.1 read
  obtain ⟨otherText, otherReadable, otherParsed⟩ := readDocument_eq_ok.1 further
  rw [readText_congr same, otherReadable] at readable
  cases readable
  rw [parsed] at otherParsed
  exact Except.ok.inj otherParsed

/-- Where each path leads to the location that it denotes, files differ as these locations do. -/
theorem fromDifferentFiles_iff
    (located : ∀ document ∈ documents, system.locate document.location =
      .ok (Path.normalize system.here document.location))
    (distinct : (documents.map (·.location)).Nodup) : system.FromDifferentFiles documents ↔
      ∀ one ∈ documents.map (·.location), ∀ other ∈ documents.map (·.location),
        Path.normalize system.here one = Path.normalize system.here other → one = other := by
  rw [← List.nodup_map_iff_inj_on distinct, List.map_map]
  unfold FromDifferentFiles List.Nodup
  rw [List.pairwise_map]
  apply List.Pairwise.iff_of_mem
  intro one other inOne inOther
  rw [located one inOne, located other inOther, Ne, Except.ok.injEq]
  rfl

/-- **Covered files.** A file is loaded once for each spelling under which the patterns cover it. -/
theorem loadDocuments_covers (loaded : (system.loadDocuments patterns).2 = .ok documents) :
    system.Covers patterns documents := by
  have read := loadDocuments_eq_ok loaded
  have paths := map_location read
  have readable (document : DocumentFile) (member : document ∈ documents) :=
    readDocument_of_mem read member
  have located (document : DocumentFile) (member : document ∈ documents) :=
    located_of_readDocument (readable document member)
  have distinct : (documents.map (·.location)).Nodup :=
    paths ▸ (Text.sortedSet_pairwise _).imp fun before => before.ne
  have covered (path : String) : path ∈ documents.map (·.location) ↔
      path ∈ patterns.flatMap system.expandPattern := by
    rw [paths, Text.mem_sortedSet]
  have differ_iff := fromDifferentFiles_iff (fun document member => (located document member).2)
    distinct
  simp only [covered] at differ_iff
  constructor
  · exact paths
  · exact fun document member => ⟨(located document member).2, readable document member⟩
  · exact fun one inOne other inOther same =>
      document_congr same (readable one inOne) (readable other inOther)
  · exact differ_iff
  · intro own base alike
    apply differ_iff.2
    intro one inOne other inOther same
    have along {path : String} (member : path ∈ patterns.flatMap system.expandPattern) :
        Path.IsTrimmed path ∧ Path.Continues base path := by
      obtain ⟨document, loadedFrom, rfl⟩ := List.mem_map.1 ((covered path).2 member)
      obtain ⟨pattern, given, expanded⟩ := List.mem_flatMap.1 member
      exact ⟨(located document loadedFrom).1,
        continues_of_mem_expandPattern own alike given expanded⟩
    exact Path.eq_of_normalize_eq (along inOne).1 (along inOther).1 (along inOne).2
      (along inOther).2 same

/-- A folder with a single document. -/
def singleFile : FileSystem :=
  ⟨.folder [("a.graphql", .file "query A { x }".toUTF8)], []⟩

theorem loadDocuments_covers_once : ∃ documents,
    (singleFile.loadDocuments ["a.graphql", "*.graphql"]).2 = .ok documents ∧
      documents.map (·.location) = ["a.graphql"] ∧ singleFile.FromDifferentFiles documents := by
  have locations : (singleFile.loadDocuments ["a.graphql", "*.graphql"]).2.toOption.map
      (·.map (·.location)) = some ["a.graphql"] := by decide +kernel
  cases loaded : (singleFile.loadDocuments ["a.graphql", "*.graphql"]).2 with
  | error fault => rw [loaded] at locations; cases locations
  | ok documents =>
      rw [loaded] at locations
      refine ⟨documents, rfl, Option.some.inj locations,
        (loadDocuments_covers loaded).differ ?_ [] ?_⟩
      · have own : Path.IsEntryName "a.graphql" := by constructor <;> decide
        exact .folder (List.forall_mem_singleton.2 ⟨own, by decide⟩) (List.nodup_singleton _)
          (List.forall_mem_singleton.2 (.file _))
      · constructor
        · exact fun _ member => (by cases member)
        · exact fun _ member => (by cases member)
        · refine List.forall_mem_cons.2 ⟨⟨["a.graphql"], ?_, by decide⟩,
            List.forall_mem_singleton.2 ⟨["*.graphql"], ?_, by decide⟩⟩ <;>
            exact List.forall_mem_singleton.2 (by constructor <;> decide)

/-- With a step to where it starts, a path is another one for the same file. -/
theorem loadDocuments_twice : ∃ documents,
    (singleFile.loadDocuments ["a.graphql", "./a.graphql"]).2 = .ok documents ∧
      documents.map (·.location) = ["./a.graphql", "a.graphql"] ∧
        ¬singleFile.FromDifferentFiles documents := by
  have covered : ["a.graphql", "./a.graphql"].flatMap singleFile.expandPattern =
      ["a.graphql", "./a.graphql"] := by decide +kernel
  have inOrder : Text.sortedSet ["a.graphql", "./a.graphql"] = ["./a.graphql", "a.graphql"] := by
    simp [Text.sortedSet, Text.sorted, List.eraseDups_cons, List.mergeSort,
      List.MergeSort.Internal.splitInTwo]
  have found : (singleFile.expandPatterns ["a.graphql", "./a.graphql"]).2 =
      .ok ["./a.graphql", "a.graphql"] := by
    have listable : ["a.graphql", "./a.graphql"].any Glob.isUnlistable = false := by
      decide +kernel
    unfold expandPatterns
    rw [covered, inOrder, listable, if_neg Bool.false_ne_true]
  have locations : (["./a.graphql", "a.graphql"].mapM singleFile.readDocumentFile).toOption.map
      (·.map (·.location)) = some ["./a.graphql", "a.graphql"] := by decide +kernel
  cases read : ["./a.graphql", "a.graphql"].mapM singleFile.readDocumentFile with
  | error fault => rw [read] at locations; cases locations
  | ok documents =>
      rw [read] at locations
      have listed : documents.map (·.location) = ["./a.graphql", "a.graphql"] :=
        Option.some.inj locations
      refine ⟨documents, ?_, listed, fun apart => ?_⟩
      · rw [loadDocuments_snd]
        exact bind_eq_ok.2 ⟨_, found, read⟩
      · have differ : (documents.map (·.location)).Pairwise fun one other =>
            singleFile.locate one ≠ singleFile.locate other := List.pairwise_map.2 apart
        rw [listed] at differ
        exact (List.pairwise_cons.1 differ).1 _ (List.mem_singleton_self _) (by decide +kernel)

end FileSystem

end TypedClient

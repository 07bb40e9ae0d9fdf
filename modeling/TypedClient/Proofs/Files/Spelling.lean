import TypedClient.Files.Tree
import TypedClient.Proofs.Result
import TypedClient.Proofs.Text.Pieces

/-! # How paths are spelled

In a tree without links, what a path leads to can be read off its text
(`FileSystem.locate_eq_normalize`). The other way round a file has many paths, because names can
lead back or nowhere; once such names are behind, a file has a single one
(`Path.eq_of_normalize_eq`).
-/

namespace TypedClient

/-! ## Names of a path -/

namespace Path

/-- Paths with a slash between them have the names of both. -/
theorem components_append (first second : String) :
    components (first ++ "/" ++ second) = components first ++ components second := by
  unfold components
  rw [String.toList_append, String.toList_append, List.append_assoc, ← List.map_append]
  exact congrArg _ (Text.pieces_append '/' first.toList second.toList)

/-- A path without slashes is a name. -/
theorem components_of_not_mem {name : String} (whole : '/' ∉ name.toList) :
    components name = [name] := by
  rw [components, Text.pieces_of_not_mem whole, List.map_singleton, String.ofList_toList]

/-- A name of a path holds no slash. -/
theorem not_mem_of_mem_components {path name : String} (member : name ∈ components path) :
    '/' ∉ name.toList := by
  obtain ⟨piece, found, rfl⟩ := List.mem_map.1 member
  rw [String.toList_ofList]
  exact fun inside => (Text.mem_of_mem_pieces found inside).2 rfl

/-- The names decide the text of the path. -/
theorem components_injective {one other : String} (same : components one = components other) :
    one = other := by
  have pieces : Text.pieces '/' one.toList = Text.pieces '/' other.toList :=
    List.map_injective_iff.2 (fun _ _ => String.ofList_inj.1) same
  rw [← String.toList_inj, ← Text.intercalate_pieces '/' one.toList, pieces,
    Text.intercalate_pieces]

/-- A path from the root has an empty name in front. -/
theorem isAbsolute_iff {path : String} (filled : path ≠ "") :
    isAbsolute path = true ↔ (components path).head? = some "" := by
  have characters : path.toList ≠ [] := fun empty => filled (String.toList_inj.1 empty)
  rw [isAbsolute, beq_iff_eq, ← Text.head?_pieces characters, components, List.head?_map]
  cases (Text.pieces '/' path.toList).head? with
  | none => simp
  | some piece => simp [← String.toList_inj]

theorem components_empty : components "" = [""] := rfl

/-- The names of a path, without the empty one behind a slash at its end. -/
def stem (path : String) : List String :=
  if (components path).getLast? = some "" then (components path).dropLast else components path

/-- A slash at the end leaves the names as they are. -/
theorem stem_of_slash (front : String) : stem (front ++ "/") = components front := by
  have split := components_append front ""
  rw [String.append_empty, components_empty] at split
  rw [stem, split, List.getLast?_concat, if_pos rfl, List.dropLast_concat]

theorem stem_empty : stem "" = [] := rfl

/-- A path has its names, and perhaps an empty one at the end. -/
theorem components_eq_stem (path : String) :
    components path = stem path ∨ components path = stem path ++ [""] := by
  unfold stem
  by_cases last : (components path).getLast? = some ""
  · rw [if_pos last]
    exact .inr (List.dropLast_append_getLast? _ last).symm
  · rw [if_neg last]
    exact .inl rfl

/-- Only the empty path and paths with a slash at their end have an empty name there. -/
theorem stem_of_no_slash {path : String} (filled : path ≠ "")
    (other : path.toList.getLast? ≠ some '/') : stem path = components path := by
  refine if_neg fun last => other ?_
  apply Text.getLast?_of_pieces fun empty => filled (String.toList_inj.1 empty)
  rw [components, List.getLast?_map] at last
  obtain ⟨piece, found, same⟩ := Option.map_eq_some_iff.1 last
  have empty := congrArg String.toList same
  rw [String.toList_ofList] at empty
  rw [found, empty]
  rfl

/-- Joining a name to a path puts its names behind those of the path. -/
theorem components_join (folder name : String) :
    components (join folder name) = stem folder ++ components name := by
  unfold join
  by_cases empty : folder = ""
  · rw [if_pos (.inl empty), empty, String.empty_append, stem_empty, List.nil_append]
  · by_cases slash : folder.toList.getLast? = some '/'
    · rw [if_pos (.inr slash)]
      obtain ⟨front, split⟩ := List.getLast?_eq_some_iff.1 slash
      have folderSplit : folder = String.ofList front ++ "/" := by
        rw [← String.toList_inj, split, String.toList_append, String.toList_ofList]
        rfl
      rw [folderSplit, components_append, stem_of_slash]
    · rw [if_neg (not_or.2 ⟨empty, slash⟩), components_append, stem_of_no_slash empty slash]

/-! ## Names of entries -/

/-- A name that an entry of a folder can have. -/
structure IsEntryName (name : String) : Prop where
  filled : name ≠ ""
  notHere : name ≠ "."
  notBack : name ≠ ".."
  whole : '/' ∉ name.toList

instance (name : String) : Decidable (IsEntryName name) :=
  decidable_of_iff (name ≠ "" ∧ name ≠ "." ∧ name ≠ ".." ∧ '/' ∉ name.toList)
    ⟨fun ⟨filled, notHere, notBack, whole⟩ => ⟨filled, notHere, notBack, whole⟩,
      fun own => ⟨own.filled, own.notHere, own.notBack, own.whole⟩⟩

/-- The name of an entry leads into it. -/
theorem IsEntryName.follow {name : String} (own : IsEntryName name) (location : List String) :
    follow location name = location ++ [name] := by
  unfold Path.follow
  rw [if_neg (not_or.2 ⟨own.filled, own.notHere⟩), if_neg own.notBack]

/-- The name of an entry is no path from the root. -/
theorem IsEntryName.relative {name : String} (own : IsEntryName name) :
    isAbsolute name = false := by
  rw [Bool.eq_false_iff]
  intro absolute
  have start := (isAbsolute_iff own.filled).1 absolute
  rw [components_of_not_mem own.whole] at start
  exact own.filled (Option.some.inj start)

/-- Names of entries lead on. -/
theorem foldl_follow {names : List String} (own : ∀ name ∈ names, IsEntryName name)
    (location : List String) : names.foldl follow location = location ++ names := by
  induction names generalizing location with
  | nil => rw [List.foldl_nil, List.append_nil]
  | cons name rest ih =>
      obtain ⟨first, others⟩ := List.forall_mem_cons.1 own
      rw [List.foldl_cons, first.follow, ih others, List.append_assoc, List.singleton_append]

/-- The path begins with some names and goes on by names of entries. -/
def Continues (base : List String) (path : String) : Prop :=
  ∃ names, (∀ name ∈ names, IsEntryName name) ∧ stem path = base ++ names

theorem continues_stem (path : String) : Continues (stem path) path :=
  ⟨[], fun _ member => (by cases member), (List.append_nil _).symm⟩

theorem Continues.trans {base : List String} {way path : String} (first : Continues base way)
    (second : Continues (stem way) path) : Continues base path := by
  obtain ⟨names, own, split⟩ := first
  obtain ⟨more, further, joined⟩ := second
  refine ⟨names ++ more, List.forall_mem_append.2 ⟨own, further⟩, ?_⟩
  rw [joined, split, List.append_assoc]

theorem continues_join {name : String} (own : IsEntryName name) (folder : String) :
    Continues (stem folder) (join folder name) := by
  refine ⟨[name], List.forall_mem_singleton.2 own, ?_⟩
  rw [stem, components_join, components_of_not_mem own.whole, if_neg]
  rw [List.getLast?_concat]
  exact fun same => own.filled (Option.some.inj same)

/-- A slash at the end adds no name. -/
theorem continues_join_empty (folder : String) : Continues (stem folder) (join folder "") := by
  refine ⟨[], fun _ member => (by cases member), ?_⟩
  rw [stem, components_join, components_empty, List.getLast?_concat, if_pos rfl,
    List.dropLast_concat, List.append_nil]

/-- A path that has no slash at its end. -/
structure IsTrimmed (path : String) : Prop where
  filled : path ≠ ""
  trimmed : components path = stem path

/-- Two paths that begin alike and go on by names of entries are the same if they lead to the same
place. -/
theorem eq_of_normalize_eq {here base : List String} {one other : String}
    (oneEnd : IsTrimmed one) (otherEnd : IsTrimmed other)
    (first : Continues base one) (second : Continues base other)
    (same : normalize here one = normalize here other) : one = other := by
  obtain ⟨names, own, split⟩ := first
  obtain ⟨others, otherOwn, otherSplit⟩ := second
  rw [← oneEnd.trimmed] at split
  rw [← otherEnd.trimmed] at otherSplit
  have start : isAbsolute one = isAbsolute other := by
    rw [Bool.eq_iff_iff, isAbsolute_iff oneEnd.filled, isAbsolute_iff otherEnd.filled, split,
      otherSplit]
    cases base with
    | cons first rest => rfl
    | nil =>
        have relative {names : List String} (own : ∀ name ∈ names, IsEntryName name) :
            names.head? ≠ some "" :=
          fun first => (own "" (List.mem_of_mem_head? first)).filled rfl
        exact iff_of_false (relative own) (relative otherOwn)
  apply components_injective
  unfold normalize at same
  rw [start, split, otherSplit, List.foldl_append, List.foldl_append, foldl_follow own,
    foldl_follow otherOwn] at same
  rw [split, otherSplit, List.append_cancel_left same]

/-- Joining puts at most a slash between. -/
theorem toList_join (folder name : String) : ∃ slash, (∀ c ∈ slash, c = '/') ∧
    (join folder name).toList = folder.toList ++ slash ++ name.toList := by
  unfold join
  split
  · exact ⟨[], fun _ member => (by cases member), by rw [String.toList_append, List.append_nil]⟩
  · exact ⟨['/'], fun _ only => List.mem_singleton.1 only, by
      rw [String.toList_append, String.toList_append]; rfl⟩

/-- A path that is joined to another begins like that one. -/
theorem isAbsolute_join {folder : String} (filled : folder ≠ "") (name : String) :
    isAbsolute (join folder name) = isAbsolute folder := by
  obtain ⟨slash, -, split⟩ := toList_join folder name
  have characters : folder.toList ≠ [] := fun empty => filled (String.toList_inj.1 empty)
  obtain ⟨first, rest, start⟩ := List.exists_cons_of_ne_nil characters
  rw [isAbsolute, isAbsolute, split, start]
  rfl

theorem hasNull_eq_false {path : String} :
    hasNull path = false ↔ Char.ofNat 0 ∉ path.toList := by
  rw [hasNull, ← Bool.not_eq_true, List.contains_iff_mem]

/-- Joining brings no null character. -/
theorem hasNull_join {folder name : String} (plain : hasNull folder = false)
    (other : hasNull name = false) : hasNull (join folder name) = false := by
  obtain ⟨slash, only, split⟩ := toList_join folder name
  rw [hasNull_eq_false] at plain other ⊢
  rw [split, List.mem_append, List.mem_append]
  rintro ((inside | inside) | inside)
  · exact plain inside
  · exact absurd (only _ inside) (by decide)
  · exact other inside

/-! ## Simple paths -/

/-- The names of a path that lead elsewhere. -/
def ownNames (path : String) : List String :=
  (components path).filter fun name => name ≠ "" ∧ name ≠ "."

/-- A simplified path has the slashes in front and the names that lead elsewhere. -/
theorem simplify_eq (path : String) : simplify path =
    let text := rootOf path ++ String.intercalate "/" (ownNames path)
    if text = "" then "." else text := rfl

/-- A path that does not start at the root has nothing in front. -/
theorem rootOf_relative {path : String} (relative : isAbsolute path = false) :
    rootOf path = "" := by
  unfold isAbsolute at relative
  unfold rootOf
  cases characters : path.toList with
  | nil => rfl
  | cons c rest =>
      rw [characters, List.head?_cons, beq_eq_false_iff_ne, ne_eq, Option.some.injEq] at relative
      rw [List.takeWhile_cons_of_neg (by simpa using relative)]
      rfl

/-- The name of an entry is as simple as a path can be. -/
theorem simplify_of_isEntryName {name : String} (own : IsEntryName name) :
    simplify name = name := by
  have kept : ownNames name = [name] := by
    rw [ownNames, components_of_not_mem own.whole]
    exact List.filter_eq_self.2 (List.forall_mem_singleton.2
      (decide_eq_true ⟨own.filled, own.notHere⟩))
  rw [simplify_eq, rootOf_relative own.relative, kept, String.empty_append,
    String.intercalate_singleton]
  exact if_neg own.filled

end Path

/-! ## What a path leads to -/

namespace FileSystem

variable {system : FileSystem}

/-- A name is followed only in a folder, and then it leads on or back. -/
theorem followName_eq_ok {location next : List String} {name : String}
    (followed : system.followName location name = .ok next) :
    next = Path.follow location name ∧
      ∃ entries, system.root.find? location = some (.folder entries) := by
  unfold followName at followed
  split at followed
  · next entries found =>
      refine ⟨?_, entries, found⟩
      split at followed
      · exact (Except.ok.inj followed).symm
      · split at followed <;> cases followed
  · cases followed
  · cases followed

/-- Names that can be followed lead to where their texts say. -/
theorem foldlM_followName {names location : List String} {next : List String}
    (followed : names.foldlM system.followName location = .ok next) :
    next = names.foldl Path.follow location := by
  induction names generalizing location with
  | nil => exact (Except.ok.inj followed).symm
  | cons name rest ih =>
      rw [List.foldlM_cons, bind_eq_ok] at followed
      obtain ⟨way, first, others⟩ := followed
      rw [List.foldl_cons, ← (followName_eq_ok first).1]
      exact ih others

/-- A path has a location exactly if it can be looked up and each of its names can be followed. -/
theorem locate_eq_ok {path : String} {location : List String} :
    system.locate path = .ok location ↔
      Path.hasNull path = false ∧ path ≠ "" ∧ Path.isLong path = false ∧
        (Path.components path).foldlM system.followName
          (if Path.isAbsolute path then [] else system.here) = .ok location := by
  unfold locate
  by_cases null : Path.hasNull path = true
  · simp [null]
  · by_cases empty : path = ""
    · subst empty
      simp [null]
    · by_cases long : Path.isLong path = true <;> simp [null, empty, long]

/-- A name that is too long for an entry cannot be looked up. -/
theorem locate_of_isLongName {name : String} {entries : List (String × FileTree)}
    (own : Path.IsEntryName name) (plain : Path.hasNull name = false)
    (short : Path.isLong name = false)
    (inFolder : system.root.find? system.here = some (.folder entries))
    (new : entries.lookup name = none) (long : Path.isLongName name = true) :
    system.locate name = .error .tooLong := by
  have follow : system.followName system.here name = .error .tooLong := by
    simp only [followName, inFolder, own.filled, own.notHere, own.notBack, new, long,
      Option.isSome_none, Bool.false_eq_true, or_self, ↓reduceIte]
  simp only [locate, plain, own.filled, short, own.relative, Path.components_of_not_mem own.whole,
    List.foldlM_cons, follow, Bool.false_eq_true, ↓reduceIte]
  rfl

/-- What is at a path is at the location that the path leads to. -/
theorem at?_eq_some {path : String} {tree : FileTree} : system.at? path = some tree ↔
    ∃ location, system.locate path = .ok location ∧ system.root.find? location = some tree := by
  unfold at?
  cases system.locate path with
  | error fault => exact ⟨fun same => (by cases same), fun ⟨_, same, _⟩ => (by cases same)⟩
  | ok location =>
      constructor
      · exact fun there => ⟨location, rfl, there⟩
      · rintro ⟨_, ⟨⟩, there⟩
        exact there

/-- What a path leads to can be read off its text. -/
theorem locate_eq_normalize {path : String} {location : List String}
    (found : system.locate path = .ok location) : location = Path.normalize system.here path :=
  foldlM_followName (locate_eq_ok.1 found).2.2.2

/-- The path of a file has no slash at its end. -/
theorem isTrimmed_of_file {path : String} {location : List String} {content : ByteArray}
    (found : system.locate path = .ok location)
    (file : system.root.find? location = some (.file content)) : Path.IsTrimmed path := by
  obtain ⟨-, filled, -, followed⟩ := locate_eq_ok.1 found
  refine ⟨filled, Eq.symm (if_neg fun last => ?_)⟩
  obtain ⟨front, split⟩ := List.getLast?_eq_some_iff.1 last
  rw [split, List.foldlM_append, bind_eq_ok] at followed
  obtain ⟨way, -, final⟩ := followed
  rw [List.foldlM_cons, bind_eq_ok] at final
  obtain ⟨next, step, same⟩ := final
  cases same
  obtain ⟨stay, entries, folder⟩ := followName_eq_ok step
  have same : location = way := stay
  rw [same, folder] at file
  cases file

end FileSystem

end TypedClient

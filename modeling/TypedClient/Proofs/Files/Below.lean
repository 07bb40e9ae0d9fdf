import TypedClient.Files.Glob
import TypedClient.Proofs.Files.Reordered
import TypedClient.Text.Basic

/-! # What lies below a path

The files below a folder, and all that is visible in it, are listed by a recursion over the entries.
It lists what stands at the locations below the folder, each under the path of the folder with the
names behind it (`FileTree.mem_filesUnder`, `Glob.mem_visibleIn`). So trees that agree list the same
paths, in whatever order.
-/

namespace TypedClient

namespace Path

/-! ## Names behind a path -/

/-- The path of what names lead to from a folder. -/
def below (folder : String) (names : List String) : String :=
  names.foldl join folder

/-- One more name is joined to what lies below. -/
theorem below_concat (folder : String) (names : List String) (name : String) :
    below folder (names ++ [name]) = join (below folder names) name := by
  rw [below, List.foldl_append]
  rfl

/-- A joined path is the name alone, or it has a slash in front of the name. -/
theorem join_cases (folder name : String) :
    join folder name = name ∨ ∃ front, join folder name = front ++ ("/" ++ name) := by
  unfold join
  by_cases empty : folder = ""
  · left
    rw [if_pos (.inl empty), empty, String.empty_append]
  · right
    by_cases slash : folder.toList.getLast? = some '/'
    · obtain ⟨front, split⟩ := List.getLast?_eq_some_iff.1 slash
      refine ⟨String.ofList front, ?_⟩
      rw [if_pos (.inr slash), ← String.toList_inj]
      simp [split]
    · exact ⟨folder, by rw [if_neg (not_or.2 ⟨empty, slash⟩), String.append_assoc]⟩

/-- An ending without a slash is one of the last name. -/
theorem endsWith_join {ending : String} (whole : '/' ∉ ending.toList) (folder name : String) :
    Text.endsWith (join folder name) ending = Text.endsWith name ending := by
  rcases join_cases folder name with same | ⟨front, split⟩
  · rw [same]
  · rw [split, Bool.eq_iff_iff, Text.endsWith, Text.endsWith, List.isSuffixOf_iff_suffix,
      List.isSuffixOf_iff_suffix, String.toList_append, String.toList_append]
    have slash : "/".toList ++ name.toList = '/' :: name.toList := rfl
    have behind : name.toList <:+ front.toList ++ ("/".toList ++ name.toList) :=
      (List.suffix_append _ _).trans (List.suffix_append _ _)
    constructor
    · intro suffix
      rcases List.suffix_or_suffix_of_suffix suffix (List.suffix_append front.toList _) with
        inside | longer
      · rw [slash, List.suffix_cons_iff] at inside
        rcases inside with same | inside
        · rw [same] at whole
          exact absurd List.mem_cons_self whole
        · exact inside
      · exact absurd (longer.subset (List.mem_append_left _ (List.mem_singleton_self '/'))) whole
    · exact fun suffix => suffix.trans behind

/-- A joined path is no shorter than its parts. -/
theorem utf8ByteSize_join (folder name : String) :
    folder.utf8ByteSize + name.utf8ByteSize ≤ (join folder name).utf8ByteSize := by
  unfold join
  split
  · exact Nat.le_of_eq (String.utf8ByteSize_append ..).symm
  · rw [String.utf8ByteSize_append, String.utf8ByteSize_append]
    omega

/-- A path is no longer than those behind it. -/
theorem isLong_of_below {folder : String} {names : List String}
    (short : isLong (below folder names) = false) : isLong folder = false := by
  induction names generalizing folder with
  | nil => exact short
  | cons name rest ih =>
      have behind := ih short
      have size := utf8ByteSize_join folder name
      simp only [isLong, decide_eq_false_iff_not, Nat.not_lt] at behind ⊢
      omega

end Path

/-! ## Files -/

namespace FileTree

/-- The files under the entries are those under each entry. -/
theorem filesUnderEntries_eq (path : String) (entries : List (String × FileTree)) :
    filesUnderEntries path entries =
      entries.flatMap fun entry => entry.2.filesUnder (Path.join path entry.1) := by
  induction entries with
  | nil => rfl
  | cons entry rest ih => rw [filesUnderEntries, ih, List.flatMap_cons]

/-- The files of a tree stand at the locations below its path, as far as their folders can be
listed. -/
theorem mem_filesUnder {path file : String} {tree : FileTree} (own : tree.WellFormed) :
    file ∈ tree.filesUnder path ↔ ∃ names content, tree.shape names = some (some content) ∧
      (∀ front name, names = front ++ [name] → Path.isLong (Path.below path front) = false) ∧
        file = Path.below path names := by
  induction own generalizing path with
  | file content =>
      rw [filesUnder, List.mem_singleton]
      constructor
      · rintro rfl
        refine ⟨[], content, rfl, fun front name split => ?_, rfl⟩
        exact absurd split.symm (List.concat_ne_nil _ _)
      · rintro ⟨names, held, there, -, rfl⟩
        cases names with
        | nil => rfl
        | cons name rest => cases there
  | @folder entries own distinct inside ih =>
      rw [filesUnder]
      constructor
      · intro member
        split at member
        · cases member
        · next short =>
            rw [filesUnderEntries_eq, List.mem_flatMap] at member
            obtain ⟨entry, held, member⟩ := member
            obtain ⟨names, content, there, listable, rfl⟩ := (ih entry held).1 member
            refine ⟨entry.1 :: names, content, ?_, fun front name split => ?_, rfl⟩
            · exact (shape_folder_eq_some distinct).2 ⟨entry.2, held, there⟩
            · cases front with
              | nil => exact Bool.eq_false_iff.2 short
              | cons first front =>
                  rw [List.cons_append, List.cons.injEq] at split
                  rw [← split.1]
                  exact listable front name split.2
      · rintro ⟨names, content, there, listable, rfl⟩
        cases names with
        | nil => cases there
        | cons name rest =>
            obtain ⟨tree, held, there⟩ := (shape_folder_eq_some distinct).1 there
            obtain ⟨front, last, split⟩ : ∃ front last, name :: rest = front ++ [last] :=
              ⟨_, _, (List.dropLast_append_getLast (List.cons_ne_nil name rest)).symm⟩
            have short := Path.isLong_of_below (listable front last split)
            rw [if_neg (Bool.eq_false_iff.1 short), filesUnderEntries_eq, List.mem_flatMap]
            refine ⟨(name, tree), held, (ih _ held).2 ⟨rest, content, there, ?_, rfl⟩⟩
            intro front last split
            exact listable (name :: front) last (by rw [split, List.cons_append])

/-- Trees that agree have the same files at any depth. -/
theorem Agree.mem_filesUnder_iff {one other : FileTree} (agree : one.Agree other)
    {path file : String} : file ∈ one.filesUnder path ↔ file ∈ other.filesUnder path := by
  rw [mem_filesUnder agree.first, mem_filesUnder agree.second, agree.shape]

end FileTree

/-! ## What is visible -/

namespace Glob

open FileTree

/-- What is visible under the entries is what is visible under each. -/
theorem visibleEntries_eq (path : String) (entries : List (String × FileTree)) :
    visibleEntries path entries = entries.flatMap fun entry =>
      if isHidden entry.1 then []
      else Path.join path entry.1 :: visibleIn (Path.join path entry.1) entry.2 := by
  induction entries with
  | nil => rfl
  | cons entry rest ih => rw [visibleEntries, ih, List.flatMap_cons]

/-- All that is not in a hidden place below a path is visible. -/
theorem mem_visibleIn {path file : String} {tree : FileTree} (own : tree.WellFormed) :
    file ∈ visibleIn path tree ↔ ∃ names kind, names ≠ [] ∧ tree.shape names = some kind ∧
      (∀ name ∈ names, isHidden name = false) ∧ file = Path.below path names := by
  induction own generalizing path with
  | file content =>
      rw [visibleIn]
      refine iff_of_false List.not_mem_nil ?_
      rintro ⟨names, kind, filled, there, -⟩
      cases names with
      | nil => exact filled rfl
      | cons name rest => cases there
  | @folder entries own distinct inside ih =>
      rw [visibleIn, visibleEntries_eq, List.mem_flatMap]
      constructor
      · rintro ⟨entry, held, member⟩
        by_cases hidden : isHidden entry.1 = true
        · rw [if_pos hidden] at member
          cases member
        · have shown := Bool.eq_false_iff.2 hidden
          rw [if_neg hidden] at member
          rcases List.mem_cons.1 member with rfl | member
          · refine ⟨[entry.1], entry.2.content?, List.cons_ne_nil _ _, ?_, ?_, rfl⟩
            · exact (shape_folder_eq_some distinct).2 ⟨entry.2, held, shape_nil _⟩
            · exact List.forall_mem_singleton.2 shown
          · obtain ⟨names, kind, -, there, visible, rfl⟩ := (ih entry held).1 member
            refine ⟨entry.1 :: names, kind, List.cons_ne_nil _ _, ?_, ?_, rfl⟩
            · exact (shape_folder_eq_some distinct).2 ⟨entry.2, held, there⟩
            · exact List.forall_mem_cons.2 ⟨shown, visible⟩
      · rintro ⟨names, kind, filled, there, visible, rfl⟩
        cases names with
        | nil => exact absurd rfl filled
        | cons name rest =>
            obtain ⟨tree, held, there⟩ := (shape_folder_eq_some distinct).1 there
            obtain ⟨shown, visible⟩ := List.forall_mem_cons.1 visible
            refine ⟨(name, tree), held, ?_⟩
            rw [if_neg (Bool.eq_false_iff.1 shown)]
            by_cases last : rest = []
            · rw [last]
              exact List.mem_cons_self
            · exact List.mem_cons_of_mem _ ((ih _ held).2 ⟨rest, kind, last, there, visible, rfl⟩)

/-- In trees that agree the same is visible. -/
theorem Agree.mem_visibleIn_iff {one other : FileTree} (agree : one.Agree other)
    {path file : String} : file ∈ visibleIn path one ↔ file ∈ visibleIn path other := by
  rw [mem_visibleIn agree.first, mem_visibleIn agree.second, agree.shape]

end Glob

end TypedClient

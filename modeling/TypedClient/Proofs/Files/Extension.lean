import TypedClient.Output
import TypedClient.Proofs.Text.Mark

/-! # The extension of a path

The extension of a path goes from the last point of its last name to the end, as long as something
else than points is in front of it (`Path.extension_eq_iff`). So the check of the output file
accepts the paths whose last name is a stem with one of the extensions of a module, and refuses all
others (`Config.checkOutput_onlyModules`).
-/

namespace TypedClient

namespace Path

/-! ## The last name -/

/-- The name is what stands behind the last slash of the path, all of it if there is none. -/
def IsLastName (path name : String) : Prop :=
  '/' ∉ name.toList ∧ (path = name ∨ ∃ folder, path = folder ++ "/" ++ name)

/-- The name behind the last slash is what is taken from the end. -/
theorem isLastName_iff {path name : String} :
    IsLastName path name ↔ lastName path.toList = name.toList := by
  constructor
  · rintro ⟨whole, rfl | ⟨folder, rfl⟩⟩
    · exact rtakeWhile_of_not_mem whole
    · rw [String.toList_append, String.toList_append, List.append_assoc]
      exact rtakeWhile_behind folder.toList whole
  · intro last
    by_cases slash : '/' ∈ path.toList
    · obtain ⟨folder, back, split, whole⟩ := exists_eq_append_of_mem slash
      have same : back = name.toList := by
        rw [← last, split]
        exact (rtakeWhile_behind folder whole).symm
      refine ⟨same ▸ whole, .inr ⟨String.ofList folder, ?_⟩⟩
      rw [← String.toList_inj, split, same, String.toList_append, String.toList_append,
        String.toList_ofList, List.append_assoc]
      rfl
    · have same : path = name := String.toList_inj.1 ((rtakeWhile_of_not_mem slash).symm.trans last)
      exact ⟨same ▸ slash, .inl same⟩

/-! ## The extension -/

/-- The last name of the path is a stem and the ending, and in the stem is something else than
points. -/
def HasExtension (path ending : String) : Prop :=
  ∃ stem, IsLastName path (stem ++ ending) ∧ ∃ c ∈ stem.toList, c ≠ '.'

variable {path : String}

/-- Without a point in its last name a path has no extension. -/
theorem extension_of_no_point (unpointed : '.' ∉ lastName path.toList) : extension path = "" :=
  if_neg fun pointed => unpointed pointed.1

/-- Behind the last point of the last name is the extension, unless only points are in front. -/
theorem extension_of_point {stem letters : List Char}
    (split : lastName path.toList = stem ++ '.' :: letters) (plain : '.' ∉ letters) :
    extension path = if stem.any (· ≠ '.') then String.ofList ('.' :: letters) else "" := by
  have ending : ((stem ++ '.' :: letters).reverse.takeWhile (· ≠ '.')).reverse = letters :=
    rtakeWhile_behind stem plain
  have length : (stem ++ '.' :: letters).length - letters.length - 1 = stem.length := by
    rw [List.length_append, List.length_cons]
    omega
  unfold extension
  dsimp only
  rw [split, ending, length, List.take_left]
  simp

/-- An extension is what the last name has behind a stem. -/
theorem extension_eq_iff (letters : String) (plain : '.' ∉ letters.toList) :
    extension path = "." ++ letters ↔ HasExtension path ("." ++ letters) := by
  have characters : ("." ++ letters).toList = '.' :: letters.toList := String.toList_append
  constructor
  · intro same
    have filled : extension path ≠ "" := by
      rw [same, ← String.toList_inj.ne, characters]
      exact List.cons_ne_nil _ _
    by_cases pointed : '.' ∈ lastName path.toList
    · obtain ⟨stem, back, split, whole⟩ := exists_eq_append_of_mem pointed
      rw [extension_of_point split whole] at same filled
      by_cases other : stem.any (· ≠ '.') = true
      · rw [if_pos other, ← String.toList_inj, String.toList_ofList, characters] at same
        refine ⟨String.ofList stem, isLastName_iff.2 ?_, by simpa using other⟩
        rw [split, same, String.toList_append, String.toList_ofList, characters]
      · exact absurd (if_neg other) filled
    · exact absurd (extension_of_no_point pointed) filled
  · rintro ⟨stem, last, other⟩
    have split : lastName path.toList = stem.toList ++ '.' :: letters.toList := by
      rw [isLastName_iff.1 last, String.toList_append, characters]
    have mixed : stem.toList.any (· ≠ '.') = true := by simpa using other
    rw [extension_of_point split plain, if_pos mixed, ← String.toList_inj, String.toList_ofList,
      characters]

end Path

/-! ## The check of the output file -/

/-- The path is that of a file for a module. -/
def Path.IsModuleFile (path : String) : Prop :=
  HasExtension path ".ts" ∨ HasExtension path ".tsx"

/-- A path has an extension for modules exactly if it is the path of a module file. -/
theorem extension_mem_outputExtensions_iff {path : String} :
    Path.extension path ∈ outputExtensions ↔ Path.IsModuleFile path := by
  have plain : Path.extension path = ".ts" ↔ Path.HasExtension path ".ts" :=
    Path.extension_eq_iff "ts" (by decide)
  have marked : Path.extension path = ".tsx" ↔ Path.HasExtension path ".tsx" :=
    Path.extension_eq_iff "tsx" (by decide)
  rw [Path.IsModuleFile, ← plain, ← marked]
  exact List.mem_pair

/-- **Module files only.** Unless checks are disabled, a path is accepted if its last name is a stem
and one of the extensions `.ts` and `.tsx`. All other paths are refused for their extension. -/
theorem Config.checkOutput_onlyModules (config : Config) (path : String) :
    (config.checkOutput (some path) = .ok () ↔
      config.disableChecks = true ∨ Path.IsModuleFile path) ∧
    (config.checkOutput (some path) = .error .wrongExtension ↔
      config.disableChecks = false ∧ ¬ Path.IsModuleFile path) := by
  rw [← extension_mem_outputExtensions_iff]
  unfold checkOutput
  dsimp only
  cases config.disableChecks with
  | true => simp
  | false =>
      by_cases accepted : Path.extension path ∈ outputExtensions
      · simp [accepted]
      · simp [accepted]

example : ({} : Config).checkOutput (some "../src.d/..client..ts") = .ok () := by decide

example : ({} : Config).checkOutput (some "src/...tsx") = .error .wrongExtension := by decide

end TypedClient

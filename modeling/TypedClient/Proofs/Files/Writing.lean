import TypedClient.Files.Tree

/-! # What writing a file changes

Writing a file below folders that are made for it changes a tree in two ways only: the file is there
afterwards, and so are the folders on the way to it (`FileTree.Gains`). Everything that does not lie
on the way is left as it was. The file can be written exactly if nothing but folders is on the way
and no folder is in its place (`FileTree.HasRoom`), names that are too long for the system apart.
-/

namespace TypedClient.FileTree

/-! ## Looking up -/

/-- The tree is a folder. -/
def IsFolder : FileTree → Prop
  | file _ => False
  | folder _ => True

/-- Other names are looked up as before. -/
theorem lookup_putEntry_of_ne {name other : String} (apart : other ≠ name) (tree : FileTree)
    (entries : List (String × FileTree)) :
    (putEntry name tree entries).lookup other = entries.lookup other := by
  induction entries with
  | nil => rw [putEntry, List.lookup_cons, beq_false_of_ne apart]
  | cons entry rest ih =>
      obtain ⟨own, old⟩ := entry
      by_cases same : own = name
      · rw [putEntry, if_pos same, List.lookup_cons, List.lookup_cons, same,
          beq_false_of_ne apart]
      · rw [putEntry, if_neg same, List.lookup_cons, List.lookup_cons, ih]

/-- Below the new entry there is what the entry holds. -/
theorem find?_putEntry (name : String) (rest : List String) (tree : FileTree)
    (entries : List (String × FileTree)) :
    (folder (putEntry name tree entries)).find? (name :: rest) = tree.find? rest := by
  rw [find?, lookup_putEntry, Option.bind_some]

/-- Beside the new entry there is what was there. -/
theorem find?_putEntry_of_ne {name other : String} (apart : other ≠ name) (rest : List String)
    (tree : FileTree) (entries : List (String × FileTree)) :
    (folder (putEntry name tree entries)).find? (other :: rest) =
      (folder entries).find? (other :: rest) := by
  rw [find?, find?, lookup_putEntry_of_ne apart]

/-- Nothing but folders is on the way to a location, and no folder is in its place. -/
structure HasRoom (tree : FileTree) (location : List String) : Prop where
  way : ∀ way, way <+: location → way ≠ location → ∀ found ∈ tree.find? way, found.IsFolder
  place : ∀ found ∈ tree.find? location, ¬found.IsFolder

/-- All that is new in the tree `after` is a file of the given content at a location, in the place
of a file or of nothing, and the folders on the way to it that were missing. -/
structure Gains (before after : FileTree) (location : List String) (content : ByteArray) :
    Prop where
  room : before.HasRoom location
  file : after.find? location = some (.file content)
  way : ∀ way, way <+: location → way ≠ location → ∃ found ∈ after.find? way, found.IsFolder
  aside : ∀ other, ¬other <+: location → after.find? other = before.find? other

/-- An empty folder holds nothing. -/
theorem find?_empty {location : List String} (inside : location ≠ []) :
    (folder []).find? location = none := by
  cases location with
  | nil => exact absurd rfl inside
  | cons name rest => rfl

/-- A location that is not on the way to another one leads elsewhere right away, or further down the
same entry. -/
theorem not_prefix_cons {name : String} {rest other : List String}
    (aside : ¬other <+: name :: rest) :
    ∃ first more, other = first :: more ∧ (first = name → ¬more <+: rest) := by
  cases other with
  | nil => exact absurd List.nil_prefix aside
  | cons first more =>
      refine ⟨first, more, rfl, fun same onTheWay => aside ?_⟩
      exact List.cons_prefix_cons.2 ⟨same, onTheWay⟩

/-! ## Making folders -/

/-- Folders are made step by step: below a name the making goes on in what is there, or in a new
folder. -/
theorem withFolders_step {name : String} {rest : List String} {entries : List (String × FileTree)}
    (made : folderFault? (name :: rest) (folder entries) = none) :
    ∃ below, folderFault? rest below = none ∧
      withFolders (name :: rest) (folder entries) =
        folder (putEntry name (withFolders rest below) entries) ∧
      (entries.lookup name = some below ∨ entries.lookup name = none ∧ below = folder []) := by
  cases found : entries.lookup name with
  | some inner =>
      simp only [folderFault?, found] at made
      refine ⟨inner, made, ?_, .inl rfl⟩
      rw [withFolders, found]
  | none =>
      by_cases long : Path.isLongName name = true
      · simp [folderFault?, found, long] at made
      · simp only [folderFault?, found, long] at made
        refine ⟨folder [], made, ?_, .inr ⟨rfl, rfl⟩⟩
        rw [withFolders, found]
        dsimp only
        rw [if_neg long]

/-- Where folders can be made, nothing but folders was on the way. -/
theorem isFolder_of_folderFault {folders : List String} {tree : FileTree}
    (made : folderFault? folders tree = none) {way : List String} (onTheWay : way <+: folders) :
    ∀ found ∈ tree.find? way, found.IsFolder := by
  induction folders generalizing tree way with
  | nil =>
      rw [List.prefix_nil.1 onTheWay]
      rintro _ ⟨⟩
      cases tree with
      | file content => cases made
      | folder entries => trivial
  | cons name rest ih =>
      cases tree with
      | file content => cases made
      | folder entries =>
          obtain ⟨below, inner, -, held⟩ := withFolders_step made
          rcases List.prefix_cons_iff.1 onTheWay with rfl | ⟨more, rfl, further⟩
          · rintro _ ⟨⟩
            trivial
          · rw [find?]
            rcases held with held | ⟨held, -⟩
            · rw [held, Option.bind_some]
              exact ih inner further
            · rw [held]
              rintro _ ⟨⟩

/-- The folders on the way are there afterwards. -/
theorem find?_withFolders {folders : List String} {tree : FileTree}
    (made : folderFault? folders tree = none) {way : List String} (onTheWay : way <+: folders) :
    ∃ found ∈ (withFolders folders tree).find? way, found.IsFolder := by
  induction folders generalizing tree way with
  | nil =>
      rw [List.prefix_nil.1 onTheWay]
      cases tree with
      | file content => cases made
      | folder entries => exact ⟨_, rfl, trivial⟩
  | cons name rest ih =>
      cases tree with
      | file content => cases made
      | folder entries =>
          obtain ⟨below, inner, same, -⟩ := withFolders_step made
          rw [same]
          rcases List.prefix_cons_iff.1 onTheWay with rfl | ⟨more, rfl, further⟩
          · exact ⟨_, rfl, trivial⟩
          · rw [find?_putEntry]
            exact ih inner further

/-- What does not lie on the way is as it was. -/
theorem find?_withFolders_aside {folders : List String} {tree : FileTree}
    (made : folderFault? folders tree = none) {other : List String}
    (aside : ¬other <+: folders) : (withFolders folders tree).find? other = tree.find? other := by
  induction folders generalizing tree other with
  | nil => cases tree <;> rfl
  | cons name rest ih =>
      cases tree with
      | file content => rfl
      | folder entries =>
          obtain ⟨below, inner, same, held⟩ := withFolders_step made
          obtain ⟨first, more, rfl, later⟩ := not_prefix_cons aside
          rw [same]
          by_cases own : first = name
          · subst own
            rw [find?_putEntry, ih inner (later rfl), find?]
            rcases held with held | ⟨held, rfl⟩
            · rw [held, Option.bind_some]
            · have inside : more ≠ [] := by
                rintro rfl
                exact later rfl List.nil_prefix
              rw [held, find?_empty inside]
              rfl
          · rw [find?_putEntry_of_ne own]

/-! ## Writing the file -/

/-- A file is written step by step too: in the place of what has the last name, or below a name in
what is there. -/
theorem writeFile_step {content : ByteArray} {name : String} {rest : List String}
    {entries : List (String × FileTree)} {after : FileTree}
    (written : writeFile content (name :: rest) (folder entries) = .ok after) :
    ∃ inner, after = folder (putEntry name inner entries) ∧
      ((∃ old, entries.lookup name = some old ∧ writeFile content rest old = .ok inner) ∨
        entries.lookup name = none ∧ rest = [] ∧ inner = file content) := by
  rw [writeFile] at written
  cases found : entries.lookup name with
  | some old =>
      rw [found] at written
      dsimp only at written
      cases below : writeFile content rest old with
      | error fault => rw [below] at written; cases written
      | ok inner =>
          rw [below] at written
          cases written
          exact ⟨inner, rfl, .inl ⟨old, rfl, below⟩⟩
  | none =>
      rw [found] at written
      dsimp only at written
      split at written
      · cases written
      · split at written
        · next last =>
            cases written
            exact ⟨file content, rfl, .inr ⟨rfl, List.isEmpty_iff.1 last, rfl⟩⟩
        · cases written

/-- What an entry of a folder gains, the folder gains below the name of the entry. -/
theorem Gains.nest {name : String} {rest : List String} {old inner : FileTree}
    {entries : List (String × FileTree)} {content : ByteArray}
    (held : entries.lookup name = some old) (gains : old.Gains inner rest content) :
    (folder entries).Gains (folder (putEntry name inner entries)) (name :: rest) content := by
  have below (more : List String) : (folder entries).find? (name :: more) = old.find? more := by
    rw [find?, held, Option.bind_some]
  constructor
  · constructor
    · intro way onTheWay strict
      rcases List.prefix_cons_iff.1 onTheWay with rfl | ⟨more, rfl, further⟩
      · rintro _ ⟨⟩
        trivial
      · rw [below]
        exact gains.room.way more further fun same => strict (congrArg _ same)
    · rw [below]
      exact gains.room.place
  · rw [find?_putEntry]
    exact gains.file
  · intro way onTheWay strict
    rcases List.prefix_cons_iff.1 onTheWay with rfl | ⟨more, rfl, further⟩
    · exact ⟨_, rfl, trivial⟩
    · rw [find?_putEntry]
      exact gains.way more further fun same => strict (congrArg _ same)
  · intro other aside
    obtain ⟨first, more, rfl, later⟩ := not_prefix_cons aside
    by_cases own : first = name
    · subst own
      rw [find?_putEntry, below]
      exact gains.aside more (later rfl)
    · exact find?_putEntry_of_ne own more inner entries

/-- A new file is a gain of its folder. -/
theorem gains_newFile {name : String} {entries : List (String × FileTree)}
    (missing : entries.lookup name = none) (content : ByteArray) :
    (folder entries).Gains (folder (putEntry name (file content) entries)) [name] content := by
  have nothing (more : List String) : (folder entries).find? (name :: more) = none := by
    rw [find?, missing, Option.bind_none]
  -- Only the folder itself is on the way to one of its entries.
  have outermost {way : List String} (onTheWay : way <+: [name]) (strict : way ≠ [name]) :
      way = [] := by
    rcases List.prefix_cons_iff.1 onTheWay with rfl | ⟨more, rfl, further⟩
    · rfl
    · exact absurd (congrArg _ (List.prefix_nil.1 further)) strict
  constructor
  · constructor
    · intro way onTheWay strict
      rw [outermost onTheWay strict]
      rintro _ ⟨⟩
      trivial
    · rw [nothing]
      rintro _ ⟨⟩
  · rw [find?_putEntry]
    rfl
  · intro way onTheWay strict
    rw [outermost onTheWay strict]
    exact ⟨_, rfl, trivial⟩
  · intro other aside
    obtain ⟨first, more, rfl, later⟩ := not_prefix_cons aside
    by_cases own : first = name
    · subst own
      rw [find?_putEntry, nothing]
      cases more with
      | nil => exact absurd List.nil_prefix (later rfl)
      | cons second more => rfl
    · exact find?_putEntry_of_ne own more (file content) entries

/-- Writing a file changes nothing but the file. -/
theorem gains_of_writeFile {location : List String} {content : ByteArray} {before after : FileTree}
    (written : writeFile content location before = .ok after) :
    before.Gains after location content := by
  induction location generalizing before after with
  | nil =>
      cases before with
      | folder entries => cases written
      | file old =>
          cases written
          constructor
          · constructor
            · exact fun way onTheWay strict => absurd (List.prefix_nil.1 onTheWay) strict
            · rintro _ ⟨⟩ ⟨⟩
          · rfl
          · exact fun way onTheWay strict => absurd (List.prefix_nil.1 onTheWay) strict
          · intro other aside
            cases other with
            | nil => exact absurd List.nil_prefix aside
            | cons name rest => rfl
  | cons name rest ih =>
      cases before with
      | file old => cases written
      | folder entries =>
          obtain ⟨inner, rfl, ⟨old, held, below⟩ | ⟨missing, rfl, rfl⟩⟩ := writeFile_step written
          · exact (ih below).nest held
          · exact gains_newFile missing content

/-- What lies on the way to an entry of some folders and is not the entry lies on the way to the
folders. -/
theorem prefix_folders_iff {folders way : List String} {name : String} :
    way <+: folders ↔ way <+: folders ++ [name] ∧ way ≠ folders ++ [name] := by
  rw [List.prefix_concat_iff]
  constructor
  · refine fun inside => ⟨.inr inside, ?_⟩
    rintro rfl
    have short := inside.length_le
    rw [List.length_append, List.length_singleton] at short
    omega
  · exact fun ⟨onTheWay, strict⟩ => onTheWay.resolve_left strict

/-- A file is not on the way to its folders. -/
theorem not_prefix_folders (folders : List String) (name : String) :
    ¬folders ++ [name] <+: folders :=
  fun inside => (prefix_folders_iff.1 inside).2 rfl

/-- The folders that are made for a file are a gain as well. -/
theorem Gains.withFolders {folders : List String} {name : String} {tree after : FileTree}
    {content : ByteArray} (made : folderFault? folders tree = none)
    (gains : (withFolders folders tree).Gains after (folders ++ [name]) content) :
    tree.Gains after (folders ++ [name]) content := by
  constructor
  · constructor
    · intro way onTheWay strict
      exact isFolder_of_folderFault made (prefix_folders_iff.2 ⟨onTheWay, strict⟩)
    · rw [← find?_withFolders_aside made (not_prefix_folders folders name)]
      exact gains.room.place
  · exact gains.file
  · exact gains.way
  · intro other aside
    rw [gains.aside other aside,
      find?_withFolders_aside made fun inside => aside (prefix_folders_iff.1 inside).1]

/-! ## When writing succeeds -/

/-- No name on the way is longer than the system allows. -/
def HasShortNames (location : List String) : Prop :=
  ∀ name ∈ location, Path.isLongName name = false

/-- Folders with short names do not fail for the length of their names. -/
theorem folderFault_ne_tooLong {folders : List String} (short : HasShortNames folders)
    (tree : FileTree) : folderFault? folders tree ≠ some .tooLong := by
  induction folders generalizing tree with
  | nil => cases tree <;> exact fun same => by cases same
  | cons name rest ih =>
      obtain ⟨own, others⟩ := List.forall_mem_cons.1 short
      cases tree with
      | file content => exact fun same => by cases same
      | folder entries =>
          rw [folderFault?]
          cases entries.lookup name with
          | some inner => exact ih others inner
          | none =>
              dsimp only
              rw [if_neg (Bool.eq_false_iff.1 own)]
              exact ih others (folder [])

/-- A file with a short path does not fail for the length of its names. -/
theorem writeFile_ne_tooLong {location : List String} (short : HasShortNames location)
    (content : ByteArray) (tree : FileTree) :
    writeFile content location tree ≠ .error .tooLong := by
  induction location generalizing tree with
  | nil => cases tree <;> exact fun same => by cases same
  | cons name rest ih =>
      obtain ⟨own, others⟩ := List.forall_mem_cons.1 short
      cases tree with
      | file content => exact fun same => by cases same
      | folder entries =>
          rw [writeFile]
          cases entries.lookup name with
          | some inner =>
              dsimp only
              intro failed
              cases below : writeFile content rest inner with
              | ok after => rw [below] at failed; cases failed
              | error fault =>
                  rw [below] at failed
                  cases failed
                  exact ih others inner below
          | none =>
              dsimp only
              rw [if_neg (Bool.eq_false_iff.1 own)]
              split <;> exact fun same => by cases same

/-- Folders can be made where nothing but folders is on the way. -/
theorem folderFault_eq_none {folders : List String} (short : HasShortNames folders)
    {tree : FileTree}
    (clear : ∀ way, way <+: folders → ∀ found ∈ tree.find? way, found.IsFolder) :
    folderFault? folders tree = none := by
  induction folders generalizing tree with
  | nil =>
      cases tree with
      | file content => exact (clear [] List.nil_prefix _ rfl).elim
      | folder entries => rfl
  | cons name rest ih =>
      obtain ⟨own, others⟩ := List.forall_mem_cons.1 short
      cases tree with
      | file content => exact (clear [] List.nil_prefix _ rfl).elim
      | folder entries =>
          rw [folderFault?]
          cases held : entries.lookup name with
          | some inner =>
              refine ih others fun way onTheWay found there => ?_
              refine clear (name :: way) (List.cons_prefix_cons.2 ⟨rfl, onTheWay⟩) found ?_
              rw [find?, held]
              exact there
          | none =>
              dsimp only
              rw [if_neg (Bool.eq_false_iff.1 own)]
              refine ih others fun way onTheWay found there => ?_
              cases way with
              | nil => cases there; trivial
              | cons first more => cases there

/-- A file can be written into folders that are there, unless a folder is in its place. -/
theorem exists_writeFile {location : List String} (short : HasShortNames location)
    (content : ByteArray) {tree : FileTree}
    (way : ∀ way, way <+: location → way ≠ location → ∃ found ∈ tree.find? way, found.IsFolder)
    (place : ∀ found ∈ tree.find? location, ¬found.IsFolder) :
    ∃ after, writeFile content location tree = .ok after := by
  induction location generalizing tree with
  | nil =>
      cases tree with
      | file old => exact ⟨_, rfl⟩
      | folder entries => exact absurd trivial (place _ rfl)
  | cons name rest ih =>
      obtain ⟨own, others⟩ := List.forall_mem_cons.1 short
      obtain ⟨_, ⟨⟩, outermost⟩ := way [] List.nil_prefix (List.cons_ne_nil name rest).symm
      cases tree with
      | file old => cases outermost
      | folder entries =>
          rw [writeFile]
          cases held : entries.lookup name with
          | some inner =>
              have below (more : List String) :
                  (folder entries).find? (name :: more) = inner.find? more := by
                rw [find?, held, Option.bind_some]
              have inside : ∃ after, writeFile content rest inner = .ok after := by
                apply ih others
                · intro more onTheWay strict
                  rw [← below]
                  exact way (name :: more) (List.cons_prefix_cons.2 ⟨rfl, onTheWay⟩)
                    fun same => strict (List.cons.inj same).2
                · rw [← below]
                  exact place
              obtain ⟨after, written⟩ := inside
              dsimp only
              rw [written]
              exact ⟨_, rfl⟩
          | none =>
              dsimp only
              rw [if_neg (Bool.eq_false_iff.1 own)]
              cases rest with
              | nil => exact ⟨_, rfl⟩
              | cons second more =>
                  -- The folder `name` would be on the way, and it is missing.
                  obtain ⟨found, there, -⟩ := way [name]
                    (List.cons_prefix_cons.2 ⟨rfl, List.nil_prefix⟩) (by simp)
                  rw [find?, held] at there
                  cases there

end TypedClient.FileTree

import TypedClient.Files.Path
import TypedClient.Text.Lines

/-! # File trees

The files and folders that a run can see, as a tree without links. The entries of a folder stand in
the order in which the system lists them. A path is followed name by name, from the root or from the
working folder; every name but the last has to lead to a folder (`FileSystem.locate`).

Making the folders on the way to a location goes as far as it can (`FileTree.withFolders`). Where a
file is in the way it changes nothing; only behind a name that is too long for the system are
folders left over (`withFolders_eq_of_folderFault`).
-/

namespace TypedClient

/-- A file or a folder. -/
inductive FileTree where
  | file (content : ByteArray)
  | folder (entries : List (String × FileTree))

/-- Why a file or a folder cannot be used. -/
inductive FileFault where
  | missing
  | present
  | isFolder
  | notFolder
  /-- The content of the file is not in the encoding of text files. -/
  | badEncoding
  /-- The path holds a null character, which no name can. -/
  | nullCharacter
  /-- The path, or a name in it, is longer than the system allows. -/
  | tooLong
  deriving DecidableEq, Repr

namespace FileTree

/-- The part of the tree at a location. -/
def find? : FileTree → List String → Option FileTree
  | tree, [] => some tree
  | .folder entries, name :: rest => (entries.lookup name).bind (·.find? rest)
  | .file _, _ :: _ => none

/-- Puts an entry in the place of the one with its name, or behind all others. -/
def putEntry (name : String) (tree : FileTree) : List (String × FileTree) → List (String × FileTree)
  | [] => [(name, tree)]
  | (other, old) :: rest =>
    if other = name then (name, tree) :: rest else (other, old) :: putEntry name tree rest

/-- The tree with the folders on the way to a location, as far as they can be made. -/
def withFolders : List String → FileTree → FileTree
  | name :: rest, .folder entries =>
    match entries.lookup name with
    | some inner => .folder (putEntry name (withFolders rest inner) entries)
    | none =>
      if Path.isLongName name then .folder entries
      else .folder (putEntry name (withFolders rest (.folder [])) entries)
  | _, tree => tree

/-- Why the folders on the way to a location cannot all be made. -/
def folderFault? : List String → FileTree → Option FileFault
  | [], .folder _ => none
  | [], .file _ => some .present
  | _ :: _, .file _ => some .notFolder
  | name :: rest, .folder entries =>
    match entries.lookup name with
    | some inner => folderFault? rest inner
    | none => if Path.isLongName name then some .tooLong else folderFault? rest (.folder [])

/-- The tree with folders all the way to a location. -/
def makeFolders (location : List String) (tree : FileTree) : Except FileFault FileTree :=
  match folderFault? location tree with
  | some fault => .error fault
  | none => .ok (withFolders location tree)

/-- The tree with a file of the given content at a location. -/
def writeFile (content : ByteArray) : List String → FileTree → Except FileFault FileTree
  | [], .file _ => .ok (.file content)
  | [], .folder _ => .error .isFolder
  | _ :: _, .file _ => .error .notFolder
  | name :: rest, .folder entries =>
    match entries.lookup name with
    | some inner => do return .folder (putEntry name (← writeFile content rest inner) entries)
    | none =>
      if Path.isLongName name then .error .tooLong
      else if rest.isEmpty then .ok (.folder (putEntry name (.file content) entries))
      else .error .missing

theorem putEntry_eq_of_lookup {name : String} {tree : FileTree} {entries : List (String × FileTree)}
    (found : entries.lookup name = some tree) : putEntry name tree entries = entries := by
  induction entries with
  | nil => simp at found
  | cons entry rest ih =>
    obtain ⟨other, old⟩ := entry
    by_cases same : other = name
    · subst same
      simp_all [putEntry]
    · have differ : (name == other) = false := by simpa using fun h => same h.symm
      simp_all [putEntry, List.lookup_cons]

/-- In a new folder, nothing but a long name keeps a folder from being made. -/
theorem folderFault?_empty {location : List String} {fault : FileFault}
    (failed : folderFault? location (.folder []) = some fault) : fault = .tooLong := by
  induction location with
  | nil => simp [folderFault?] at failed
  | cons name rest ih =>
    by_cases long : Path.isLongName name = true <;> simp_all [folderFault?]

/-- Where the folders cannot be made because of what is there, nothing is made. -/
theorem withFolders_eq_of_folderFault {location : List String} {tree : FileTree} {fault : FileFault}
    (failed : folderFault? location tree = some fault) (short : fault ≠ .tooLong) :
    withFolders location tree = tree := by
  induction location generalizing tree with
  | nil => cases tree <;> rfl
  | cons name rest ih =>
    cases tree with
    | file content => rfl
    | folder entries =>
      cases found : entries.lookup name with
      | some inner =>
        simp only [folderFault?, found] at failed
        simp [withFolders, found, ih failed, putEntry_eq_of_lookup found]
      | none =>
        simp only [folderFault?, found] at failed
        split at failed
        · simp_all
        · exact absurd (folderFault?_empty failed) short

theorem lookup_putEntry (name : String) (tree : FileTree) (entries : List (String × FileTree)) :
    (putEntry name tree entries).lookup name = some tree := by
  induction entries with
  | nil => simp [putEntry]
  | cons entry rest ih =>
    obtain ⟨other, old⟩ := entry
    by_cases same : other = name
    · simp [putEntry, same]
    · have differ : (name == other) = false := by simpa using fun h => same h.symm
      simp [putEntry, same, List.lookup_cons, differ, ih]

/-- Writing below an entry fails as writing in the entry does. -/
theorem writeFile_putEntry {content : ByteArray} {name : String} {rest : List String}
    {inner : FileTree} {entries : List (String × FileTree)} {fault : FileFault}
    (failed : writeFile content (name :: rest) (.folder (putEntry name inner entries)) =
      .error fault) : writeFile content rest inner = .error fault := by
  rw [writeFile, lookup_putEntry] at failed
  cases written : writeFile content rest inner with
  | ok tree => simp [written, bind, Except.bind, pure, Except.pure] at failed
  | error other => simpa [written, bind, Except.bind] using failed

/-- In new folders, nothing but a long name keeps a file from being written. -/
theorem writeFile_empty {folders : List String} {name : String} {content : ByteArray}
    {fault : FileFault} (made : folderFault? folders (.folder []) = none)
    (failed : writeFile content (folders ++ [name]) (withFolders folders (.folder [])) =
      .error fault) : fault = .tooLong := by
  induction folders with
  | nil =>
    by_cases long : Path.isLongName name = true <;>
      simp_all [withFolders, writeFile]
  | cons first rest ih =>
    by_cases long : Path.isLongName first = true
    · simp [folderFault?, long] at made
    · simp [folderFault?, long] at made
      simp [withFolders, long] at failed
      exact ih made (writeFile_putEntry failed)

/-- Where a file cannot be written because of what is there, its folders were there before. -/
theorem withFolders_eq_of_writeFile {folders : List String} {name : String} {tree : FileTree}
    {content : ByteArray} {fault : FileFault} (made : folderFault? folders tree = none)
    (failed : writeFile content (folders ++ [name]) (withFolders folders tree) = .error fault)
    (short : fault ≠ .tooLong) : withFolders folders tree = tree := by
  induction folders generalizing tree with
  | nil => cases tree <;> rfl
  | cons first rest ih =>
    cases tree with
    | file content => rfl
    | folder entries =>
      cases found : entries.lookup first with
      | some inner =>
        simp only [folderFault?, found] at made
        simp only [withFolders, found, List.cons_append] at failed
        simp [withFolders, found, ih made (writeFile_putEntry failed),
          putEntry_eq_of_lookup found]
      | none =>
        by_cases long : Path.isLongName first = true
        · simp [folderFault?, found, long] at made
        · simp [folderFault?, found, long] at made
          simp [withFolders, found, long] at failed
          exact absurd (writeFile_empty made (writeFile_putEntry failed)) short

mutual

/-- The paths of all files at any depth, given the path of the tree. A folder whose path is longer
than the system allows cannot be listed. -/
def filesUnder (path : String) : FileTree → List String
  | .file _ => [path]
  | .folder entries => if Path.isLong path then [] else filesUnderEntries path entries

/-- The paths of all files at any depth below some entries of a folder. -/
def filesUnderEntries (path : String) : List (String × FileTree) → List String
  | [] => []
  | (name, tree) :: rest => tree.filesUnder (Path.join path name) ++ filesUnderEntries path rest

end

end FileTree

/-- A file tree and the location of the working folder in it. -/
structure FileSystem where
  root : FileTree
  here : List String

namespace FileSystem

/-- Follows a name from a location. -/
def followName (system : FileSystem) (location : List String) (name : String) :
    Except FileFault (List String) :=
  match system.root.find? location with
  | some (.folder entries) =>
    if name = "" ∨ name = "." ∨ name = ".." ∨ (entries.lookup name).isSome then
      .ok (Path.follow location name)
    else if Path.isLongName name then .error .tooLong
    else .error .missing
  | some (.file _) => .error .notFolder
  | none => .error .missing

/-- The location that a path leads to. -/
def locate (system : FileSystem) (path : String) : Except FileFault (List String) :=
  if Path.hasNull path then .error .nullCharacter
  else if path = "" then .error .missing
  else if Path.isLong path then .error .tooLong
  else (Path.components path).foldlM system.followName
    (if Path.isAbsolute path then [] else system.here)

/-- The file or folder that a path leads to. -/
def at? (system : FileSystem) (path : String) : Option FileTree :=
  match system.locate path with
  | .ok location => system.root.find? location
  | .error _ => none

/-- The path leads somewhere. -/
def has (system : FileSystem) (path : String) : Bool :=
  (system.at? path).isSome

/-- The path leads to a file. -/
def isFile (system : FileSystem) (path : String) : Bool :=
  match system.at? path with
  | some (.file _) => true
  | _ => false

/-- The path leads to a folder. -/
def isFolder (system : FileSystem) (path : String) : Bool :=
  match system.at? path with
  | some (.folder _) => true
  | _ => false

/-- The content of a file. -/
def readBytes (system : FileSystem) (path : String) : Except FileFault ByteArray := do
  match system.root.find? (← system.locate path) with
  | some (.file content) => .ok content
  | some (.folder _) => .error .isFolder
  | none => .error .missing

/-- The content of a text file. Its line ends are line feeds. -/
def readText (system : FileSystem) (path : String) : Except FileFault String := do
  match String.fromUTF8? (← system.readBytes path) with
  | some text => .ok (String.ofList (Text.normalizeNewlines text.toList))
  | none => .error .badEncoding

end FileSystem

end TypedClient

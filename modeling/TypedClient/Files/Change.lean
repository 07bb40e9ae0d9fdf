import TypedClient.Files.Tree

/-! # Changes of a file tree

What has to be written to turn one file tree into another that has no fewer files: the files that
are new or have another content, and the new folders that hold nothing.
-/

namespace TypedClient

/-- Something new in a tree: a file with its content, or an empty folder. -/
structure Change where
  location : List String
  content : Option ByteArray

namespace FileTree

/-- The content, if the tree is a single file. -/
def content? : FileTree → Option ByteArray
  | file content => some content
  | folder _ => none

/-- The part of the tree under a name, if the tree is a folder. -/
def child? (tree : FileTree) (name : String) : Option FileTree :=
  tree.find? [name]

mutual

/-- What is new in a tree at a location, given what stood there before. -/
def changes (location : List String) (before : Option FileTree) : FileTree → List Change
  | .file content =>
    if before.bind content? = some content then [] else [⟨location, some content⟩]
  | .folder [] => if before.isNone then [⟨location, none⟩] else []
  | .folder entries => changesOfEntries location before entries

/-- What is new in the entries of a folder, given what stood in its place before. -/
def changesOfEntries (location : List String) (before : Option FileTree) :
    List (String × FileTree) → List Change
  | [] => []
  | (name, tree) :: rest =>
    changes (location ++ [name]) (before.bind (·.child? name)) tree ++
      changesOfEntries location before rest

end

end FileTree

end TypedClient

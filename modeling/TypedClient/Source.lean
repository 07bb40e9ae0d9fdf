import TypedClient.Document.Reader.TypeSystem
import TypedClient.Files.Glob
import TypedClient.Fragment.Descriptor
import TypedClient.Notice
import TypedClient.Schema.Build
import TypedClient.Text.Basic

/-! # Loading schemas and documents

Schemas and documents are read from the files of a file system. A schema is one file or all schema
files below a folder. Documents are given by patterns: a file, a folder or a wild path each; the
files that they cover are read in the order of their paths, each path once. Loading gives notices
besides its result, also where it fails.
-/

namespace TypedClient

/-- Why something could not be loaded. -/
inductive LoadFault where
  /-- The definitions in a file, or the files as a whole, are no good; the location says which. -/
  | document (reason location : String)
  /-- The file itself could not be read. -/
  | file (fault : FileFault)

namespace LoadFault

/-- The reason with the location in front, unless that is empty. -/
def documentMessage (reason location : String) : String :=
  if location = "" then reason else location ++ ": " ++ reason

end LoadFault

/-- A result, and the notices given on the way. -/
abbrev Loaded (α : Type) := List Notice × Except LoadFault α

/-- A document and the path of its file. -/
structure DocumentFile where
  location : String
  document : Document

/-- The endings of schema files. -/
def schemaExtensions : List String :=
  [".graphql", ".graphqls", ".gql"]

/-- The endings of document files. -/
def documentExtensions : List String :=
  [".graphql", ".gql"]

namespace FileSystem

variable (system : FileSystem)

/-- The files at a path or below it whose names have one of the endings, in the order of their
paths. -/
def collectFiles (path : String) (extensions : List String) : List String :=
  let found := match system.at? path with
    | some tree => tree.filesUnder path
    | none => []
  Text.sorted (found.filter fun file => extensions.any (Text.endsWith file))

/-- The definitions in a file. -/
def readDocument (path : String) : Except LoadFault Document :=
  match system.readText path with
  | .error fault => .error (.file fault)
  | .ok text => (Document.ofText text).mapError fun fault => .document fault.message path

/-- The schema in a file or below a folder. -/
def loadSchema (path : String) : Loaded Schema :=
  if Path.hasNull path then ([], .error (.file .nullCharacter))
  else match system.collectFiles path schemaExtensions with
  | [] => ([], .error (.document "No schema files found" path))
  | files =>
    let result := do
      let documents ← files.mapM system.readDocument
      (Schema.ofDocument documents.flatten).mapError fun faults =>
        .document ("Invalid schema: " ++ Schema.faultText faults) path
    ([.schemaLoading files.length], result)

/-- The files that a pattern covers. -/
def expandPattern (pattern : String) : List String :=
  if system.isFolder pattern then system.collectFiles pattern documentExtensions
  else if system.isFile pattern then [pattern]
  else (Glob.paths system pattern).filter system.isFile

/-- A pattern that is no path and covers no file. -/
def isUnmatched (pattern : String) : Bool :=
  !system.isFolder pattern && (system.expandPattern pattern).isEmpty

/-- The files that patterns cover, in the order of their paths, each once. A pattern that asks for
the entries of a folder whose path holds a null character ends the search. -/
def expandPatterns (patterns : List String) : Loaded (List String) :=
  let searched := patterns.takeWhile fun pattern => !Glob.isUnlistable pattern
  ((searched.filter system.isUnmatched).map .patternUnmatched,
    if patterns.any Glob.isUnlistable then .error (.file .nullCharacter)
    else .ok (Text.sortedSet (patterns.flatMap system.expandPattern)))

/-- The documents in the files that patterns cover. -/
def loadDocuments (patterns : List String) : Loaded (List DocumentFile) :=
  let (notices, files) := system.expandPatterns patterns
  let result := do
    (← files).mapM fun file => do
      return DocumentFile.mk file (← system.readDocument file)
  match result with
  | .ok documents => (notices ++ [.documentsLoaded documents.length], .ok documents)
  | .error fault => (notices, .error fault)

/-- The fragments in a file, as declared outside of the generated module. -/
def loadExternalFragments (path : String) : Except LoadFault (List FragmentDescriptor) :=
  (system.readDocument path).map Document.externalFragments

end FileSystem

end TypedClient

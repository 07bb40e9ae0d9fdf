import TypedClient.CommandLine.Run
import TypedClient.Files.Change
import TypedClient.Files.Glob

/-! # The program

The program reads the files that its arguments reach into a file tree, runs on that tree, and writes
what is new in it. It has to know no more of the files than what lies at or below `Reach.reads` and
along `Reach.writes`.
-/

namespace TypedClient

namespace CommandLine

/-- The paths that a run reads at and below, and those that it writes to. -/
structure Reach where
  reads : List String := []
  writes : List String := []
  deriving DecidableEq, Repr

/-- The paths that an option names. A wild path is read below its fixed beginning. -/
def Given.reach (given : Given) : Reach :=
  let path := given.value.shown
  match given.option with
  | .schema | .externalFragments | .templateDir => { reads := [path] }
  | .documents => { reads := [path, Path.join (Glob.fixedPath path) "."] }
  | .output => { writes := [path] }
  | _ => {}

/-- The paths that the arguments name. Arguments that cannot be read reach nothing. -/
def reach (arguments : List RawText) : Reach :=
  match readProgramOptions arguments with
  | .ok ([], _ :: rest) => match recognizeAll rest with
    | .ok (given, _) =>
      { reads := given.flatMap (·.reach.reads), writes := given.flatMap (·.reach.writes) }
    | .error _ => {}
  | _ => {}

end CommandLine

/-- The tree with what stands at a location of the real file system, and below it where `deep` is
set. -/
partial def readFiles (deep : Bool) (root : FileTree) (location : List String) : IO FileTree := do
  let path := (← IO.currentDir) / Path.ofLocation location
  let kept (changed : Except FileFault FileTree) : FileTree := changed.toOption.getD root
  if ← path.isDir then
    let folder := kept (root.makeFolders location)
    unless deep do return folder
    let entries ← path.readDir
    entries.foldlM (fun tree entry => readFiles deep tree (location ++ [entry.fileName])) folder
  else if ← path.pathExists then
    return kept (root.writeFile (← IO.FS.readBinFile path) location)
  else return root

/-- The tree with the folders on the way to a location. -/
def readAlong (root : FileTree) (location : List String) : IO FileTree :=
  let folders := (List.range (location.length + 1)).map location.take
  folders.foldlM (readFiles false) root

/-- The part of the real file system that a run reaches from the working folder. -/
def readReach (here : List String) (reach : CommandLine.Reach) : IO FileSystem := do
  let reads := reach.reads.map (Path.normalize here)
  let writes := reach.writes.map (Path.normalize here)
  let known ← (here :: reads ++ writes).foldlM readAlong (.folder [])
  return { root := ← reads.foldlM (readFiles true) known, here }

/-- Writes a change to the real file system. -/
def writeChange (change : Change) : IO Unit := do
  let path := (← IO.currentDir) / Path.ofLocation change.location
  match change.content with
  | some content => do
    if let some parent := path.parent then IO.FS.createDirAll parent
    IO.FS.writeBinFile path content
  | none => IO.FS.createDirAll path

/-- Runs the program on the real file system, from the working folder. -/
def runProgram (arguments : List RawText) : IO UInt32 := do
  let here := Path.normalize [] (toString (← IO.currentDir))
  let system ← readReach here (CommandLine.reach arguments)
  let result := CommandLine.run Template.plainEngine system arguments
  (result.tree.changes [] (some system.root)).forM writeChange
  IO.print result.output
  IO.eprint result.errors
  if let some fault := result.escaped then IO.eprintln (repr fault)
  return UInt32.ofNat result.exitCode

end TypedClient

/-- The program as the system starts it. -/
def main (arguments : List String) : IO UInt32 :=
  TypedClient.runProgram (arguments.map TypedClient.RawText.ofString)

import TypedClient.CommandLine.Usage
import TypedClient.Generation.Bundle
import TypedClient.Output
import TypedClient.Source
import TypedClient.Template.Folder

/-! # Running the program

A run reads the arguments, loads what they name, generates the module and writes it. It works on a
file system as a value and gives the file tree after it, so that what a run changes can be read off
its result. Template files are rendered by an engine that the run is given.

The module is generated as it is shown, with one character for all surrogates, and a second time
with strict templates. Only what the second gives is a text that can be encoded
(`Request.moduleText?`). That there is none comes out late, when the file of the module is open.
-/

namespace TypedClient.CommandLine

/-- A fault that the program does not word as a message of its own. -/
inductive EscapedFault where
  | file (fault : FileFault)
  | generation (fault : GenerationFault)
  /-- A text holds surrogates, which cannot be encoded. -/
  | encoding
  deriving DecidableEq, Repr

/-- How a run ends when it does not end well. -/
inductive Ending where
  | usage (fault : UsageFault)
  | failed (message : String)
  | escaped (fault : EscapedFault)
  deriving DecidableEq, Repr

/-- What a run says: lines about its progress, and notices. -/
structure Report where
  lines : List String := []
  notices : List Notice := []
  deriving DecidableEq, Repr

/-- A part of a run. It reports as it goes, and it can end the run. -/
abbrev Command := ExceptT Ending (StateM Report)

/-- Reports a line. -/
def say (line : String) : Command Unit :=
  modify fun report => { report with lines := report.lines ++ [line] }

/-- Reports notices. -/
def tell (notices : List Notice) : Command Unit :=
  modify fun report => { report with notices := report.notices ++ notices }

/-- How a run ends when something cannot be loaded. -/
def Ending.ofLoadFault : LoadFault → Ending
  | .document reason location => failed (LoadFault.documentMessage reason location)
  | .file fault => escaped (.file fault)

/-- Takes a result or ends the run. -/
def orEnd {ε α : Type} (ending : ε → Ending) (result : Except ε α) : Command α :=
  match result with
  | .ok value => return value
  | .error fault => throw (ending fault)

/-- Takes what was loaded, with its notices. -/
def load {α : Type} (loaded : Loaded α) : Command α := do
  tell loaded.1
  orEnd Ending.ofLoadFault loaded.2

/-- The configuration of a request, without external fragments. -/
def Request.config (request : Request) : Config where
  disableChecks := request.disableChecks
  importOperationTypesFrom := request.typesFrom
  mutationPolicy := request.mutationPolicy
  factoryName := request.factoryName

/-- The filters of a request. -/
def Request.filters (request : Request) : List OperationFilter :=
  match request.excludePrefix with
  | some start => if start = "" then [] else [{ excludedStart := some start }]
  | none => []

/-- The headers of a request. -/
def Request.headers (request : Request) : List RawText :=
  match request.header with
  | some header => if header.isEmpty then [] else [header]
  | none => []

/-- The fragments of a request that are declared outside of the generated module. -/
def loadFragments (system : FileSystem) (request : Request) :
    Command (List FragmentDescriptor) :=
  match request.externalFragments with
  | none => return []
  | some path => do
    say "Loading external fragments..."
    orEnd Ending.ofLoadFault (system.loadExternalFragments path)

/-- The text of the module for a request, unless a template or the header puts surrogates into
it. -/
def Request.moduleText? (request : Request) (config : Config) (documents : List DocumentFile)
    (templates : Templates) : Option String := do
  let headers ← request.headers.mapM (·.text?)
  let bundle ← (TypedClient.generate config (documents.map (·.document)) request.filters
    templates.strict).2.toOption
  return addHeaders bundle.render headers

/-- The module that a request asks for, before it is written. -/
structure Product where
  location : List String
  /-- The text of the module, unless it holds surrogates. -/
  text? : Option String
  records : Nat
  documents : Nat

section

variable (engine : Template.Engine) (system : FileSystem) (request : Request)

/-- The text of the module for a request, and its bundle. -/
def makeModule (config : Config) (documents : List DocumentFile) :
    Command (Option String × Bundle) := do
  let templates ← orEnd (.escaped ∘ .file) (system.templatesWith engine request.templateDir)
  let (session, outcome) := TypedClient.generate config (documents.map (·.document))
    request.filters templates
  tell session.notices
  let bundle ← orEnd (.escaped ∘ .generation) outcome
  return (request.moduleText? config documents templates, bundle)

/-- Makes what a request asks for. -/
def produce : Command Product := do
  let location := Path.normalize system.here request.output
  orEnd (fun fault => .failed fault.message)
    (request.config.checkOutput (some (Path.ofLocation location)))
  let config := { request.config with
    externalFragments := ← loadFragments system request }
  say "Loading schema..."
  discard (load (system.loadSchema request.schema))
  say "Loading documents..."
  let documents ← load (system.loadDocuments request.documents)
  if request.verbose then documents.forM fun file => say ("  " ++ file.location)
  say "Generating code..."
  let (text?, bundle) ← makeModule engine system request config documents
  return ⟨location, text?, bundle.records.length, documents.length⟩

end

/-- What comes of writing a module: the lines about it, the fault if it failed, and the file tree
after it. -/
structure Delivery where
  lines : List String
  fault : Option EscapedFault
  tree : FileTree

/-- What the file of the module holds in the end. Opening it empties it, and it stays empty if the
module cannot be encoded. -/
def Product.content (product : Product) : ByteArray :=
  (product.text?.getD "").toUTF8

/-- Writes a module into a file tree, after making the folders for it. -/
def Product.deliver (product : Product) (root : FileTree) : Delivery :=
  let folders := product.location.dropLast
  let prepared := root.withFolders folders
  match root.folderFault? folders with
  | some fault => ⟨[], some (.file fault), prepared⟩
  | none =>
    let start := "Writing to " ++ Path.ofLocation product.location ++ "..."
    match prepared.writeFile product.content product.location with
    | .error fault => ⟨[start], some (.file fault), prepared⟩
    | .ok written =>
      if product.text?.isNone then ⟨[start], some .encoding, written⟩
      else
        let done := "Done! Generated " ++ toString product.records ++ " operation(s) from " ++
          toString product.documents ++ " document(s)."
        ⟨[start, done], none, written⟩

/-- The result of a run. -/
structure RunResult where
  output : String
  errors : String
  exitCode : Nat
  escaped : Option EscapedFault
  /-- The file tree after the run. -/
  tree : FileTree

/-- The notices as the error output shows them: all of them in a verbose run, else the warnings. -/
def noticeText (verbose : Bool) (notices : List Notice) : String :=
  if verbose then String.join (notices.map (·.logLine ++ "\n"))
  else String.join ((notices.filter (·.isWarning)).map (·.message ++ "\n"))

/-- The lines as the output shows them. -/
def lineText (lines : List String) : String :=
  String.join (lines.map (· ++ "\n"))

/-- What a way of ending adds to the error output. -/
def Ending.text : Ending → String
  | usage fault => fault.report
  | failed message => "Error: " ++ message ++ "\n"
  | escaped _ => ""

/-- The exit code of a way of ending. -/
def Ending.exitCode : Ending → Nat
  | usage _ => 2
  | _ => 1

/-- The fault that escapes with a way of ending. -/
def Ending.escapedFault? : Ending → Option EscapedFault
  | escaped fault => some fault
  | _ => none

/-- The result of a run that ends without having written anything. -/
def endRun (verbose : Bool) (report : Report) (ending : Ending) (root : FileTree) : RunResult :=
  ⟨lineText report.lines, noticeText verbose report.notices ++ ending.text, ending.exitCode,
    ending.escapedFault?, root⟩

/-- The result of fulfilling a request. -/
def runRequest (engine : Template.Engine) (system : FileSystem) (request : Request) : RunResult :=
  match (produce engine system request).run {} with
  | (.error ending, report) => endRun request.verbose report ending system.root
  | (.ok product, report) =>
    let delivery := product.deliver system.root
    ⟨lineText (report.lines ++ delivery.lines), noticeText request.verbose report.notices,
      if delivery.fault.isSome then 1 else 0, delivery.fault, delivery.tree⟩

/-- How a run ends when its arguments make no request. -/
def Ending.ofArgumentFault : ArgumentFault → Ending
  | .usage fault => usage fault
  | .file fault => escaped (.file fault)
  | .notText => escaped .encoding

/-- Runs the program with some arguments. -/
def run (engine : Template.Engine) (system : FileSystem) (arguments : List RawText) : RunResult :=
  match readInvocation system arguments with
  | .error fault => endRun false {} (Ending.ofArgumentFault fault) system.root
  | .ok (.showPage page) => ⟨page.text, "", 0, none, system.root⟩
  | .ok (.generate request) => runRequest engine system request

end TypedClient.CommandLine

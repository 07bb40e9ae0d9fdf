import TypedClient.Proofs.CommandLine.Delivery
import TypedClient.Proofs.Source.Faults

/-! # Runs that cannot load their sources

A run that cannot load the fragments, the schema or the documents that it needs ends. Where the
definitions in a file are at fault, it ends with a message that names the file or the path of the
schema; where a file has no text, the fault of the file system escapes (`loadFaults`).
-/

namespace TypedClient.CommandLine

/-- What a request needs: fragments, a schema and documents, loaded in this order. -/
def Request.sources (system : FileSystem) (request : Request) :
    Except LoadFault (List FragmentDescriptor × List DocumentFile) := do
  let fragments ← request.fragments system
  let _ ← (system.loadSchema request.schema).2
  let documents ← (system.loadDocuments request.documents).2
  return (fragments, documents)

variable {engine : Template.Engine} {system : FileSystem} {request : Request}

/-- A request whose sources cannot be loaded has no product. -/
theorem Request.product_of_fault {fault : LoadFault}
    (output : request.config.checkOutput (some (Path.ofLocation (request.location system))) =
      .ok ())
    (failed : request.sources system = .error fault) :
    request.product engine system = .error (Ending.ofLoadFault fault) := by
  unfold Request.sources at failed
  unfold Request.product
  dsimp only
  rw [output]
  cases fragments : request.fragments system with
  | error other => rw [fragments] at failed; cases failed; rfl
  | ok found =>
      rw [fragments] at failed
      cases schema : (system.loadSchema request.schema).2 with
      | error other => rw [schema] at failed; cases failed; rfl
      | ok built =>
          rw [schema] at failed
          cases documents : (system.loadDocuments request.documents).2 with
          | error other => rw [documents] at failed; cases failed; rfl
          | ok read => rw [documents] at failed; cases failed

/-- The arguments make a request, and its output file is accepted. -/
structure Asks (system : FileSystem) (arguments : List RawText) (request : Request) : Prop where
  read : readInvocation system arguments = .ok (.generate request)
  output : request.config.checkOutput (some (Path.ofLocation (request.location system))) = .ok ()

/-- A run whose sources cannot be loaded ends with the fault of loading. -/
theorem run_of_fault {arguments : List RawText} {fault : LoadFault}
    (asks : Asks system arguments request) (failed : request.sources system = .error fault) :
    ∃ report, run engine system arguments =
      endRun request.verbose report (Ending.ofLoadFault fault) system.root := by
  unfold run
  rw [asks.read]
  exact runRequest_of_error (Request.product_of_fault asks.output failed)

/-- How loading can fail, and what becomes of a run then. -/
structure LoadFaults (system : FileSystem) : Prop where
  /-- A file of fragments is reported, unless it is no file or not in the encoding of text files. -/
  fragments : ∀ path, Reports (system.loadExternalFragments path)
    (fun reason location => path = location ∧ system.Misreads location reason)
    (¬system.HasText path)
  /-- A schema is reported by its path, and a file of it by its own path. -/
  schema : ∀ path, Reports (system.loadSchema path).2
    (fun reason location => Path.hasNull path = false ∧
      (path = location ∧
          system.LacksSchema (system.collectFiles path schemaExtensions) reason ∨
        system.ReadsUpTo (system.collectFiles path schemaExtensions) location ∧
          system.Misreads location reason))
    (Path.hasNull path = true ∨
      ∃ file, system.ReadsUpTo (system.collectFiles path schemaExtensions) file ∧
        ¬system.HasText file)
  /-- A document is reported by the path of its file. -/
  documents : ∀ patterns, Reports (system.loadDocuments patterns).2
    (fun reason location => patterns.any Glob.isUnlistable = false ∧
      system.ReadsUpTo (Text.sortedSet (patterns.flatMap system.expandPattern)) location ∧
      system.Misreads location reason)
    (patterns.any Glob.isUnlistable = true ∨
      ∃ file, system.ReadsUpTo (Text.sortedSet (patterns.flatMap system.expandPattern)) file ∧
        ¬system.HasText file)
  /-- Whatever is looked for is found as a file, so that only its encoding can be at fault, unless
  its path is too long for the system. -/
  found : system.root.WellFormed → ∀ file, Path.isLong file = false →
    ((∃ path extensions, file ∈ system.collectFiles path extensions) ∨
      ∃ pattern, file ∈ system.expandPattern pattern) →
    (¬system.HasText file ↔
      ∃ content, system.at? file = some (.file content) ∧ String.fromUTF8? content = none)
  /-- A report ends a run with a message, whatever renders the templates. -/
  reported : ∀ engine arguments request, Asks system arguments request → ∀ reason location,
    request.sources system = .error (.document reason location) →
      ∃ lines notices, run engine system arguments =
        ⟨lineText lines, noticeText request.verbose notices ++
          ("Error: " ++ LoadFault.documentMessage reason location ++ "\n"), 1, none, system.root⟩
  /-- A fault of the file system escapes from a run. -/
  escapes : ∀ engine arguments request, Asks system arguments request → ∀ fault,
    request.sources system = .error (.file fault) →
      (run engine system arguments).escaped = some (.file fault)

/-- **Faults of loading.** What is no document, and what makes no schema, is reported by its path;
only what is no text comes through as a fault of the file system. -/
theorem loadFaults (system : FileSystem) : LoadFaults system := by
  constructor
  · exact system.loadExternalFragments_reports
  · exact system.loadSchema_reports
  · exact system.loadDocuments_reports
  · intro own file short found
    apply FileSystem.not_hasText_of_isFile
    refine Or.resolve_left ?_ (Bool.eq_false_iff.1 short)
    rcases found with ⟨path, extensions, member⟩ | ⟨pattern, member⟩
    · exact FileSystem.isFile_of_mem_collectFiles own member
    · exact FileSystem.isFile_of_mem_expandPattern own member
  · intro engine arguments request asks reason location failed
    obtain ⟨report, ended⟩ := run_of_fault asks failed
    exact ⟨report.lines, report.notices, ended⟩
  · intro engine arguments request asks fault failed
    obtain ⟨report, ended⟩ := run_of_fault asks failed
    rw [ended]
    rfl

/-- A folder with a file that holds no text, and with another folder. -/
def binaryFile : FileSystem :=
  ⟨.folder [("a.graphql", .file ⟨#[255]⟩), ("d", .folder [])], []⟩

/-- What is there and cannot be loaded is not always reported. -/
theorem loading_escapes :
    (∃ fault, (binaryFile.loadDocuments ["a.graphql"]).2 = .error (.file fault)) ∧
      (binaryFile.has "a.graphql" = true ∧
        ∃ fault, (binaryFile.loadSchema "a.graphql").2 = .error (.file fault)) ∧
      binaryFile.has "d" = true ∧
        ∃ fault, binaryFile.loadExternalFragments "d" = .error (.file fault) := by
  have single : binaryFile.isFile "a.graphql" = true := by decide +kernel
  have noText : ¬binaryFile.HasText "a.graphql" :=
    (FileSystem.not_hasText_of_isFile single).2 ⟨_, rfl, by decide +kernel⟩
  have first : binaryFile.ReadsUpTo ["a.graphql"] "a.graphql" :=
    ⟨[], [], rfl, fun _ member => (by cases member)⟩
  have covered : Text.sortedSet (["a.graphql"].flatMap binaryFile.expandPattern) =
      ["a.graphql"] := by decide +kernel
  have collected : binaryFile.collectFiles "a.graphql" schemaExtensions = ["a.graphql"] := by
    decide +kernel
  refine ⟨?_, ⟨by decide +kernel, ?_⟩, by decide +kernel, ?_⟩
  · apply (binaryFile.loadDocuments_reports _).escapes_iff.2
    rw [covered]
    exact .inr ⟨"a.graphql", first, noText⟩
  · apply (binaryFile.loadSchema_reports _).escapes_iff.2
    rw [collected]
    exact .inr ⟨"a.graphql", first, noText⟩
  · apply (binaryFile.loadExternalFragments_reports _).escapes_iff.2
    rintro ⟨content, there, -⟩
    have folder : binaryFile.isFile "d" = false := by decide +kernel
    unfold FileSystem.isFile at folder
    rw [there] at folder
    cases folder

end TypedClient.CommandLine

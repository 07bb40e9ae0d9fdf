import TypedClient.Proofs.Result
import TypedClient.Source

/-! # Reading documents

What is wrong where a document cannot be read is either the file, whose text cannot be had, or the
definitions in it (`FileSystem.readDocument_eq_file`, `FileSystem.readDocument_eq_document`).
-/

namespace TypedClient

/-! ## Reading a file -/

namespace FileSystem

variable {system : FileSystem} {path : String}

/-- First the text of a file is read, then the definitions in it. -/
theorem readDocument_eq : system.readDocument path =
    (system.readText path).mapError .file >>= fun text =>
      (Document.ofText text).mapError fun fault => .document fault.message path := by
  unfold readDocument
  cases system.readText path <;> rfl

theorem readDocument_eq_ok {document : Document} : system.readDocument path = .ok document ↔
    ∃ text, system.readText path = .ok text ∧ Document.ofText text = .ok document := by
  simp only [readDocument_eq, bind_eq_ok, mapError_eq_ok]

/-- The file itself is at fault where it has no text. -/
theorem readDocument_eq_file {fault : FileFault} :
    system.readDocument path = .error (.file fault) ↔ system.readText path = .error fault := by
  simp [readDocument_eq, bind_eq_error, mapError_eq_error]

/-- The definitions are at fault where the text is no document. -/
theorem readDocument_eq_document {reason location : String} :
    system.readDocument path = .error (.document reason location) ↔ path = location ∧
      ∃ text fault, system.readText path = .ok text ∧ Document.ofText text = .error fault ∧
        fault.message = reason := by
  simp only [readDocument_eq, bind_eq_error, mapError_eq_error, mapError_eq_ok]
  constructor
  · rintro (⟨cause, -, ⟨⟩⟩ | ⟨text, read, fault, parsed, ⟨⟩⟩)
    exact ⟨rfl, text, fault, read, parsed, rfl⟩
  · rintro ⟨rfl, text, fault, read, parsed, rfl⟩
    exact .inr ⟨text, read, fault, parsed, rfl⟩

/-- There is text where there is a file, in the encoding of text files. -/
theorem readText_eq_ok {text : String} : system.readText path = .ok text ↔
    ∃ location content written, system.locate path = .ok location ∧
      system.root.find? location = some (.file content) ∧
      String.fromUTF8? content = some written ∧
      String.ofList (Text.normalizeNewlines written.toList) = text := by
  unfold readText readBytes
  simp only [bind_eq_ok]
  constructor
  · rintro ⟨bytes, ⟨location, found, taken⟩, decoded⟩
    split at taken
    · next content there =>
        cases taken
        split at decoded
        · next written encoded =>
            cases decoded
            exact ⟨location, bytes, written, found, there, encoded, rfl⟩
        · cases decoded
    · cases taken
    · cases taken
  · rintro ⟨location, content, written, found, there, encoded, rfl⟩
    refine ⟨content, ⟨location, found, ?_⟩, ?_⟩
    · rw [there]
    · rw [encoded]

/-- The same file has the same text. -/
theorem readText_congr {other : String} (same : system.locate path = system.locate other) :
    system.readText path = system.readText other := by
  unfold readText readBytes
  rw [same]

/-! ## Loading documents -/

/-- The document in a file, with the path of the file. -/
def readDocumentFile (system : FileSystem) (path : String) : Except LoadFault DocumentFile :=
  (system.readDocument path).map (DocumentFile.mk path)

/-- First the files are looked for, then the documents in them are read. -/
theorem loadDocuments_snd (patterns : List String) : (system.loadDocuments patterns).2 =
    (system.expandPatterns patterns).2 >>= fun files => files.mapM system.readDocumentFile := by
  unfold loadDocuments
  dsimp only
  have each : (fun file => do return DocumentFile.mk file (← system.readDocument file)) =
      system.readDocumentFile := by
    funext file
    unfold readDocumentFile
    cases system.readDocument file <;> rfl
  rw [each]
  generalize ((system.expandPatterns patterns).2 >>= fun files =>
    files.mapM system.readDocumentFile) = result
  cases result <;> rfl

end FileSystem

end TypedClient

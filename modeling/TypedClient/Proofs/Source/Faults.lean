import TypedClient.Proofs.Files.Listing
import TypedClient.Proofs.Source.Loading

/-! # What is wrong where loading fails

Loading fails at the first file without a document in it. If the file has text, it is reported with
the reason and the path; if it has none, a fault of the file system comes through
(`Reports`). The same holds of a file of fragments, of a schema and of the documents that patterns
cover.
-/

namespace TypedClient

/-- How loading fails: with reports on what is to blame, and with nothing else unless something is
unreadable. -/
structure Reports {α : Type} (result : Except LoadFault α) (blamed : String → String → Prop)
    (unreadable : Prop) : Prop where
  reported_iff : ∀ reason location,
    result = .error (.document reason location) ↔ blamed reason location
  escapes_iff : (∃ fault, result = .error (.file fault)) ↔ unreadable

section Rules

variable {α β : Type} {result : Except LoadFault α} {blamed others : String → String → Prop}
  {unreadable missing : Prop}

/-- What is reported may be told in other words. -/
theorem Reports.congr (reports : Reports result blamed unreadable)
    (same : ∀ reason location, blamed reason location ↔ others reason location)
    (alike : unreadable ↔ missing) : Reports result others missing :=
  ⟨fun reason location => (reports.reported_iff reason location).trans (same reason location),
    reports.escapes_iff.trans alike⟩

/-- A fault of the file system is no report. -/
theorem reports_file (fault : FileFault) :
    Reports (.error (.file fault) : Except LoadFault α) (fun _ _ => False) True :=
  ⟨fun _ _ => ⟨fun same => (by cases same), False.elim⟩, fun _ => trivial, fun _ => ⟨fault, rfl⟩⟩

/-- A fault in a document is a report. -/
theorem reports_document (reason location : String) :
    Reports (.error (.document reason location) : Except LoadFault α)
      (fun other place => other = reason ∧ place = location) False := by
  refine ⟨fun other place => ⟨fun same => (by cases same; exact ⟨rfl, rfl⟩), ?_⟩, ?_, False.elim⟩
  · rintro ⟨rfl, rfl⟩
    rfl
  · rintro ⟨fault, ⟨⟩⟩

/-- What is done with the result can add reports. -/
theorem Reports.bind (reports : Reports result blamed unreadable) {next : α → Except LoadFault β}
    (safe : ∀ value fault, next value ≠ .error (.file fault)) :
    Reports (result >>= next) (fun reason location => blamed reason location ∨
      ∃ value, result = .ok value ∧ next value = .error (.document reason location))
      unreadable := by
  constructor
  · intro reason location
    rw [bind_eq_error, reports.reported_iff]
  · rw [← reports.escapes_iff]
    apply exists_congr
    intro fault
    rw [bind_eq_error]
    exact or_iff_left fun ⟨value, _, failed⟩ => safe value fault failed

/-- What is made of the result does not change what is reported. -/
theorem Reports.map (reports : Reports result blamed unreadable) (change : α → β) :
    Reports (result.map change) blamed unreadable := by
  constructor
  · intro reason location
    rw [map_eq_error, reports.reported_iff]
  · rw [← reports.escapes_iff]
    exact exists_congr fun _ => map_eq_error

end Rules

namespace FileSystem

variable {system : FileSystem} {path : String}

/-! ## A single file -/

/-- The path leads to a file in the encoding of text files. -/
def HasText (system : FileSystem) (path : String) : Prop :=
  ∃ content, system.at? path = some (.file content) ∧ (String.fromUTF8? content).isSome

/-- The text of the file is no document, for a reason. -/
def Misreads (system : FileSystem) (path reason : String) : Prop :=
  ∃ text fault, system.readText path = .ok text ∧ Document.ofText text = .error fault ∧
    fault.message = reason

/-- A path has text exactly if it can be read. -/
theorem hasText_iff : system.HasText path ↔ ∃ text, system.readText path = .ok text := by
  constructor
  · rintro ⟨content, there, encoded⟩
    obtain ⟨written, encoded⟩ := Option.isSome_iff_exists.1 encoded
    obtain ⟨location, found, there⟩ := at?_eq_some.1 there
    exact ⟨_, readText_eq_ok.2 ⟨location, content, written, found, there, encoded, rfl⟩⟩
  · rintro ⟨text, read⟩
    obtain ⟨location, content, written, found, there, encoded, -⟩ := readText_eq_ok.1 read
    exact ⟨content, at?_eq_some.2 ⟨location, found, there⟩,
      Option.isSome_iff_exists.2 ⟨written, encoded⟩⟩

/-- A path has no text exactly if reading it is a fault. -/
theorem not_hasText_iff : ¬system.HasText path ↔ ∃ fault, system.readText path = .error fault := by
  rw [hasText_iff]
  cases system.readText path with
  | error fault => exact ⟨fun _ => ⟨fault, rfl⟩, fun _ ⟨_, same⟩ => (by cases same)⟩
  | ok text => exact ⟨fun unread => absurd ⟨text, rfl⟩ unread, fun ⟨_, same⟩ => (by cases same)⟩

/-- A file is reported exactly if it has text that is no document. -/
theorem readDocument_reports : Reports (system.readDocument path)
    (fun reason location => path = location ∧ system.Misreads location reason)
    (¬system.HasText path) := by
  constructor
  · intro reason location
    rw [readDocument_eq_document]
    apply and_congr_right
    rintro rfl
    exact Iff.rfl
  · simp only [readDocument_eq_file, not_hasText_iff]

/-! ## Several files -/

/-- All files in front of a file have documents in them. -/
def ReadsUpTo (system : FileSystem) (files : List String) (file : String) : Prop :=
  ∃ front back, files = front ++ file :: back ∧
    ∀ before ∈ front, ∃ document, system.readDocument before = .ok document

/-- The fault of several files is the fault of the first one without a document. -/
theorem mapM_readDocument_eq_error {α : Type} {files : List String} (wrap : String → Document → α)
    {fault : LoadFault} :
    files.mapM (fun file => (system.readDocument file).map (wrap file)) = .error fault ↔
      ∃ file, system.ReadsUpTo files file ∧ system.readDocument file = .error fault := by
  have held (file : String) : (∃ value, (system.readDocument file).map (wrap file) = .ok value) ↔
      ∃ document, system.readDocument file = .ok document := by
    cases system.readDocument file with
    | error other => exact ⟨fun ⟨_, same⟩ => (by cases same), fun ⟨_, same⟩ => (by cases same)⟩
    | ok document => exact ⟨fun _ => ⟨document, rfl⟩, fun _ => ⟨_, rfl⟩⟩
  simp only [mapM_eq_error, map_eq_error, held]
  constructor
  · rintro ⟨front, file, back, split, fine, failed⟩
    exact ⟨file, ⟨front, back, split, fine⟩, failed⟩
  · rintro ⟨file, ⟨front, back, split, fine⟩, failed⟩
    exact ⟨front, file, back, split, fine, failed⟩

/-- Of several files the first one that is no document is reported. -/
theorem mapM_readDocument_reports {α : Type} (files : List String)
    (wrap : String → Document → α) :
    Reports (files.mapM fun file => (system.readDocument file).map (wrap file))
      (fun reason location => system.ReadsUpTo files location ∧ system.Misreads location reason)
      (∃ file, system.ReadsUpTo files file ∧ ¬system.HasText file) := by
  constructor
  · intro reason location
    simp only [mapM_readDocument_eq_error, readDocument_reports.reported_iff]
    constructor
    · rintro ⟨file, first, rfl, misread⟩
      exact ⟨first, misread⟩
    · rintro ⟨first, misread⟩
      exact ⟨location, first, rfl, misread⟩
  · simp only [mapM_readDocument_eq_error, ← readDocument_reports.escapes_iff]
    constructor
    · rintro ⟨fault, file, first, failed⟩
      exact ⟨file, first, fault, failed⟩
    · rintro ⟨file, first, fault, failed⟩
      exact ⟨fault, file, first, failed⟩

/-! ## What is loaded -/

/-- A file of fragments is reported, unless there is no text. -/
theorem loadExternalFragments_reports (path : String) :
    Reports (system.loadExternalFragments path)
      (fun reason location => path = location ∧ system.Misreads location reason)
      (¬system.HasText path) :=
  readDocument_reports.map _

/-- Documents are reported by their files, up to the first one without text. -/
theorem loadDocuments_reports (patterns : List String) :
    Reports (system.loadDocuments patterns).2
      (fun reason location => patterns.any Glob.isUnlistable = false ∧
        system.ReadsUpTo (Text.sortedSet (patterns.flatMap system.expandPattern)) location ∧
        system.Misreads location reason)
      (patterns.any Glob.isUnlistable = true ∨
        ∃ file, system.ReadsUpTo (Text.sortedSet (patterns.flatMap system.expandPattern)) file ∧
          ¬system.HasText file) := by
  rw [loadDocuments_snd]
  unfold expandPatterns
  dsimp only
  cases patterns.any Glob.isUnlistable with
  | true =>
      refine (reports_file .nullCharacter).congr (fun _ _ => ?_) ?_
      · exact ⟨False.elim, fun ⟨same, _⟩ => (by cases same)⟩
      · exact ⟨fun _ => .inl rfl, fun _ => trivial⟩
  | false =>
      refine (mapM_readDocument_reports _ DocumentFile.mk).congr (fun _ _ => ?_) ?_
      · exact (and_iff_right rfl).symm
      · exact (or_iff_right Bool.false_ne_true).symm

/-- What makes no schema: no files, or definitions that do not go together. -/
def LacksSchema (system : FileSystem) (files : List String) (reason : String) : Prop :=
  files = [] ∧ reason = "No schema files found" ∨
    files ≠ [] ∧ ∃ documents faults, files.mapM system.readDocument = .ok documents ∧
      Schema.ofDocument documents.flatten = .error faults ∧
      reason = "Invalid schema: " ++ Schema.faultText faults

/-- A schema is reported by its path, and what is wrong with a file of it by the file, up to the
first one without text. -/
theorem loadSchema_reports (path : String) :
    Reports (system.loadSchema path).2
      (fun reason location => Path.hasNull path = false ∧
        (path = location ∧
            system.LacksSchema (system.collectFiles path schemaExtensions) reason ∨
          system.ReadsUpTo (system.collectFiles path schemaExtensions) location ∧
            system.Misreads location reason))
      (Path.hasNull path = true ∨
        ∃ file, system.ReadsUpTo (system.collectFiles path schemaExtensions) file ∧
          ¬system.HasText file) := by
  unfold loadSchema
  by_cases null : Path.hasNull path = true
  · rw [if_pos null, null]
    refine (reports_file .nullCharacter).congr (fun _ _ => ?_) ?_
    · exact ⟨False.elim, fun ⟨same, _⟩ => (by cases same)⟩
    · exact ⟨fun _ => .inl rfl, fun _ => trivial⟩
  · rw [if_neg null, Bool.eq_false_iff.2 null]
    cases files : system.collectFiles path schemaExtensions with
    | nil =>
        have nothing (file : String) : ¬system.ReadsUpTo [] file := by
          rintro ⟨front, back, split, -⟩
          cases front <;> cases split
        refine (reports_document "No schema files found" path).congr (fun reason location => ?_) ?_
        · constructor
          · rintro ⟨rfl, rfl⟩
            exact ⟨rfl, .inl ⟨rfl, .inl ⟨rfl, rfl⟩⟩⟩
          · rintro ⟨-, ⟨rfl, ⟨-, rfl⟩ | ⟨filled, -⟩⟩ | ⟨first, -⟩⟩
            · exact ⟨rfl, rfl⟩
            · exact absurd rfl filled
            · exact absurd first (nothing location)
        · refine ⟨False.elim, ?_⟩
          rintro (⟨⟨⟩⟩ | ⟨file, first, -⟩)
          exact nothing file first
    | cons first rest =>
        have plain : (fun file => (system.readDocument file).map fun document => document) =
            system.readDocument :=
          funext fun file => by cases system.readDocument file <;> rfl
        have read := system.mapM_readDocument_reports (first :: rest) fun _ document => document
        rw [plain] at read
        refine (read.bind fun documents fault failed => ?_).congr (fun reason location => ?_) ?_
        · obtain ⟨faults, -, ⟨⟩⟩ := mapError_eq_error.1 failed
        · simp only [mapError_eq_error]
          constructor
          · rintro (misread | ⟨documents, all, faults, wrong, ⟨⟩⟩)
            · exact ⟨trivial, .inr misread⟩
            · exact ⟨trivial, .inl ⟨rfl, .inr ⟨List.cons_ne_nil _ _, documents, faults, all, wrong,
                rfl⟩⟩⟩
          · rintro ⟨-, ⟨rfl, ⟨⟨⟩, -⟩ | ⟨-, documents, faults, all, wrong, rfl⟩⟩ | misread⟩
            · exact .inr ⟨documents, all, faults, wrong, rfl⟩
            · exact .inl misread
        · exact (or_iff_right Bool.false_ne_true).symm

/-! ## Files that are found -/

/-- What is collected below a path is a file, as far as its own path can be followed. -/
theorem isFile_of_mem_collectFiles (own : system.root.WellFormed) {extensions : List String}
    {file : String} (member : file ∈ system.collectFiles path extensions) :
    Path.isLong file = true ∨ system.isFile file = true := by
  unfold collectFiles at member
  have found := List.mem_of_mem_filter (Text.mem_sorted.1 member)
  cases there : system.at? path with
  | none => rw [there] at found; cases found
  | some tree =>
      rw [there] at found
      obtain ⟨location, located, there⟩ := at?_eq_some.1 there
      exact isFile_of_mem_filesUnder (own.find? there) (.inr ⟨location, located, there⟩) found

/-- What a pattern covers is a file, unless its path is too long. -/
theorem isFile_of_mem_expandPattern (own : system.root.WellFormed) {pattern file : String}
    (member : file ∈ system.expandPattern pattern) :
    Path.isLong file = true ∨ system.isFile file = true := by
  unfold expandPattern at member
  split at member
  · exact isFile_of_mem_collectFiles own member
  · split at member
    · next single =>
        rw [List.mem_singleton.1 member]
        exact .inr single
    · exact .inr (List.mem_filter.1 member).2

/-- A file has text unless it is in another encoding. -/
theorem not_hasText_of_isFile (single : system.isFile path = true) : ¬system.HasText path ↔
    ∃ content, system.at? path = some (.file content) ∧ String.fromUTF8? content = none := by
  unfold isFile at single
  unfold HasText
  split at single
  · next content there =>
      rw [there]
      constructor
      · intro textless
        refine ⟨content, rfl, Option.not_isSome_iff_eq_none.1 fun encoded => textless ?_⟩
        exact ⟨content, rfl, encoded⟩
      · rintro ⟨_, ⟨⟩, other⟩ ⟨_, ⟨⟩, encoded⟩
        rw [other] at encoded
        cases encoded
  · cases single

end FileSystem

end TypedClient

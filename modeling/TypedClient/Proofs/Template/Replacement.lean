import TypedClient.Proofs.Files.Spelling
import TypedClient.Proofs.Generation.Acceptance
import TypedClient.Proofs.Generation.Rendering
import TypedClient.Template.Folder

/-! # What a template folder can change

A template folder replaces templates one by one. Each text of a module depends on its own template
alone (`Generator.Renders.constants_eq` and its neighbours), and nothing else depends on any. So
whoever replaces a template changes the texts that it makes, and nothing else
(`generate_changesOwnTexts`). A path that leads to no folder replaces nothing, unless the system
refuses to follow it because it is too long (`FileSystem.templatesWith_eq_error`).
-/

namespace TypedClient

open Document

/-! ## Texts and their templates -/

/-- Items that are related to two lists agree on them wherever the two relations do. -/
theorem map_eq_of_forall₂ {α β γ δ : Type} {R : α → β → Prop} {S : α → γ → Prop} {f : β → δ}
    {g : γ → δ} (agree : ∀ item one other, R item one → S item other → f one = g other)
    {items : List α} {ones : List β} {others : List γ} (first : List.Forall₂ R items ones)
    (second : List.Forall₂ S items others) : ones.map f = others.map g := by
  induction first generalizing others with
  | nil =>
      cases second
      rfl
  | cons own _ ih =>
      cases second with
      | cons further rest => rw [List.map_cons, List.map_cons, agree _ _ _ own further, ih rest]

namespace Templates

variable {first second : Templates}

/-- A constant depends on the template for constants alone. -/
theorem renderDocument_congr (same : first.document = second.document) (name body : String)
    (references : List String) :
    first.renderDocument name body references = second.renderDocument name body references := by
  unfold renderDocument
  rw [same]

/-- A wrapper depends on the template for operations alone. -/
theorem renderOperation_congr (same : first.operation = second.operation) (spec : OperationSpec) :
    first.renderOperation spec = second.renderOperation spec := by
  unfold renderOperation
  rw [same]

/-- A factory depends on the template for factories alone. -/
theorem renderFactory_congr (same : first.factory = second.factory) (name : String)
    (queries mutations : List OperationRecord) :
    first.renderFactory name queries mutations = second.renderFactory name queries mutations := by
  unfold renderFactory
  rw [same]

end Templates

namespace Generator.Renders

variable {config : Config} {fragments : List FragmentDescriptor} {first second : Templates}
  {document : Document} {texts others : ModuleTexts}

/-- The constants depend on the template of documents alone. -/
theorem constants_eq (same : first.document = second.document)
    (own : Renders { config, fragments, templates := first } document texts)
    (further : Renders { config, fragments, templates := second } document others) :
    texts.fragments = others.fragments ∧
      texts.operations.map (·.constant) = others.operations.map (·.constant) := by
  constructor
  · rw [← List.map_id texts.fragments, ← List.map_id others.fragments]
    refine map_eq_of_forall₂ (fun descriptor one other => ?_) own.fragments further.fragments
    unfold RendersFragment
    rw [Templates.renderDocument_congr same]
    exact fun rendered again => Except.ok.inj (rendered.symm.trans again)
  · refine map_eq_of_forall₂ (fun operation one other => ?_) own.operations further.operations
    rintro ⟨rendered, -⟩ ⟨again, -⟩
    rw [Templates.renderDocument_congr same] at rendered
    exact Except.ok.inj (rendered.symm.trans again)

/-- The wrappers depend on the template of operations alone. -/
theorem wrappers_eq (same : first.operation = second.operation)
    (own : Renders { config, fragments, templates := first } document texts)
    (further : Renders { config, fragments, templates := second } document others) :
    texts.operations.map (·.wrapper) = others.operations.map (·.wrapper) := by
  refine map_eq_of_forall₂ (fun operation one other => ?_) own.operations further.operations
  rintro ⟨-, rendered⟩ ⟨-, again⟩
  rw [Templates.renderOperation_congr same] at rendered
  by_cases wrapped : operation.isWrapped config.mutationPolicy = true
  · rw [if_pos wrapped] at rendered again
    exact Except.ok.inj (rendered.symm.trans again)
  · rw [if_neg wrapped] at rendered again
    rw [rendered, again]

/-- The factory depends on its template alone. -/
theorem factory_eq (same : first.factory = second.factory)
    (own : Renders { config, fragments, templates := first } document texts)
    (further : Renders { config, fragments, templates := second } document others) :
    texts.factory = others.factory := by
  have rendered := own.factory
  rw [Templates.renderFactory_congr same] at rendered
  exact Except.ok.inj (rendered.symm.trans further.factory)

end Generator.Renders

/-! ## Folders -/

namespace FileSystem

variable (system : FileSystem) (folder : Option String)

/-- A path is given for the template folder, and it leads to a folder. -/
def HasTemplates : Prop :=
  ∃ path, folder = some path ∧ path ≠ "" ∧ system.isFolder (Path.simplify path) = true

/-- A path is given for the template folder, and it is too long to be followed, even without the
names in it that lead nowhere else. -/
def HasLongPath : Prop :=
  ∃ path, folder = some path ∧ path ≠ "" ∧ system.locate (Path.simplify path) = .error .tooLong

/-- The template folder holds a file of this name. -/
def Overrides (template : String) : Prop :=
  ∃ path, folder = some path ∧ path ≠ "" ∧ system.isFolder (Path.simplify path) = true ∧
    system.isFile (Path.join (Path.simplify path) template) = true

variable {system folder} {engine : Template.Engine}

/-- Where there is no file the packaged template is used. -/
theorem templateSource_of_not_isFile {path : String} (missing : system.isFile path = false) :
    system.templateSource engine path = .packaged :=
  if_neg (Bool.eq_false_iff.1 missing)

/-- A path that leads nowhere is no folder. -/
theorem isFolder_of_locate_error {path : String} {fault : FileFault}
    (lost : system.locate path = .error fault) : system.isFolder path = false := by
  unfold isFolder at?
  rw [lost]

/-- A path that leads nowhere has nothing at its end. -/
theorem has_of_locate_error {path : String} {fault : FileFault}
    (lost : system.locate path = .error fault) : system.has path = false := by
  unfold has at?
  rw [lost]
  rfl

/-- Templates are only refused for a path that is too long. -/
theorem templatesWith_eq_error {fault : FileFault} :
    system.templatesWith engine folder = .error fault ↔
      system.HasLongPath folder ∧ fault = .tooLong := by
  constructor
  · intro refused
    unfold templatesWith at refused
    split at refused
    · cases refused
    · next path =>
        split at refused
        · cases refused
        · next given =>
            dsimp only at refused
            split at refused
            · cases refused
            · split at refused
              · next long =>
                  cases refused
                  exact ⟨⟨path, rfl, given, long⟩, rfl⟩
              · cases refused
  · rintro ⟨⟨path, rfl, given, long⟩, rfl⟩
    simp only [templatesWith, if_neg given, isFolder_of_locate_error long, Bool.false_eq_true,
      ↓reduceIte, long]

/-- The templates of a folder are looked up one by one. -/
theorem templatesWith_of_isFolder {path : String} (given : path ≠ "")
    (inside : system.isFolder (Path.simplify path) = true) :
    let source (template : String) :=
      system.templateSource engine (Path.join (Path.simplify path) template)
    system.templatesWith engine (some path) =
      .ok { document := source "document.ts.j2"
            operation := source "operation.ts.j2"
            factory := source "factory.ts.j2" } := by
  simp only [templatesWith, if_neg given, inside, ↓reduceIte]

/-- A path that leads to no folder means the packaged templates. -/
theorem templatesWith_of_not (noFolder : ¬system.HasTemplates folder)
    (short : ¬system.HasLongPath folder) : system.templatesWith engine folder = .ok {} := by
  cases folder with
  | none => rfl
  | some path =>
      by_cases empty : path = ""
      · subst empty
        rfl
      · have elsewhere : system.isFolder (Path.simplify path) = false :=
          Bool.eq_false_iff.2 fun inside => noFolder ⟨path, rfl, empty, inside⟩
        simp only [templatesWith, if_neg empty, elsewhere, Bool.false_eq_true, ↓reduceIte]
        split
        · next long => exact absurd ⟨path, rfl, empty, long⟩ short
        · rfl

/-- A template that the folder has no file for is the packaged one. -/
theorem packaged_of_not_overrides {templates : Templates}
    (chosen : system.templatesWith engine folder = .ok templates) :
    (¬system.Overrides folder "document.ts.j2" → templates.document = .packaged) ∧
      (¬system.Overrides folder "operation.ts.j2" → templates.operation = .packaged) ∧
      (¬system.Overrides folder "factory.ts.j2" → templates.factory = .packaged) := by
  by_cases inside : system.HasTemplates folder
  · obtain ⟨path, rfl, given, isFolder⟩ := inside
    have source (template : String) (plain : ¬system.Overrides (some path) template) :
        system.templateSource engine (Path.join (Path.simplify path) template) = .packaged :=
      templateSource_of_not_isFile <| Bool.eq_false_iff.2 fun single =>
        plain ⟨path, rfl, given, isFolder, single⟩
    have sources := Except.ok.inj ((templatesWith_of_isFolder given isFolder).symm.trans chosen)
    rw [← sources]
    dsimp only
    exact ⟨source "document.ts.j2", source "operation.ts.j2", source "factory.ts.j2"⟩
  · have short : ¬system.HasLongPath folder := fun long => by
      rw [templatesWith_eq_error.2 ⟨long, rfl⟩] at chosen
      cases chosen
    rw [templatesWith_of_not inside short] at chosen
    cases chosen
    exact ⟨fun _ => rfl, fun _ => rfl, fun _ => rfl⟩

end FileSystem

/-! ## Modules -/

/-- The texts of two modules are the same, except for those whose templates are overridden. -/
structure ModuleTexts.AgreeUnless (overridden : String → Prop) (texts own : ModuleTexts) :
    Prop where
  constants : ¬overridden "document.ts.j2" → texts.fragments = own.fragments ∧
    texts.operations.map (·.constant) = own.operations.map (·.constant)
  wrappers : ¬overridden "operation.ts.j2" →
    texts.operations.map (·.wrapper) = own.operations.map (·.wrapper)
  factory : ¬overridden "factory.ts.j2" → texts.factory = own.factory

/-- A bundle that was generated with a template folder says what the packaged one says, in texts of
its own where the folder overrides their templates. -/
structure Rewords (overridden : String → Prop) (generator : Generator) (document : Document)
    (bundle packaged : Bundle) : Prop where
  preamble : bundle.preamble = packaged.preamble
  records : bundle.records = packaged.records
  /-- The contents are put together in one way from what the templates make of one document. -/
  content : ∃ texts own : ModuleTexts,
    generator.Renders document texts ∧ bundle.content = texts.content ∧
    { generator with templates := {} }.Renders document own ∧ packaged.content = own.content ∧
    texts.AgreeUnless overridden own

/-- **A template folder changes its own texts only.** If a module can be generated with a template
folder, the packaged templates give one too, with the same imports, records and notices, and with
the same texts where the folder holds no template for them. Where the path leads to no folder the
packaged templates are used; it is refused only if it is too long to be followed. -/
theorem generate_changesOwnTexts (system : FileSystem) (folder : Option String) :
    (∀ (templates : Templates) (config : Config) (documents : List Document)
        (filters : List OperationFilter) (bundle : Bundle),
      system.templates folder = .ok templates →
      (generate config documents filters templates).2 = .ok bundle →
      (generate config documents filters templates).1 = (generate config documents filters {}).1 ∧
        ∃ packaged, (generate config documents filters {}).2 = .ok packaged ∧
          let document := Document.applyFilters documents.flatten filters
          Rewords (system.Overrides folder)
            { config, fragments := document.resolveFragments config.externalFragments, templates }
            document bundle packaged) ∧
      (¬system.HasTemplates folder → ¬system.HasLongPath folder →
        system.templates folder = .ok {}) ∧
      ∀ fault, system.templates folder = .error fault ↔
        system.HasLongPath folder ∧ fault = .tooLong := by
  refine ⟨?_, FileSystem.templatesWith_of_not, fun fault => FileSystem.templatesWith_eq_error⟩
  intro templates config documents filters bundle chosen generated
  have module := generate_isModule generated
  let document := Document.applyFilters documents.flatten filters
  have names : Generator.NamesSuffice
      { config, fragments := document.resolveFragments config.externalFragments } document :=
    ⟨module.names.declared, module.names.operations⟩
  obtain ⟨packaged, generatedToo⟩ := generate_of_namesSuffice names
  have moduleToo := generate_isModule generatedToo
  obtain ⟨texts, rendered, content⟩ := module.content
  obtain ⟨own, renderedToo, contentToo⟩ := moduleToo.content
  obtain ⟨forDocuments, forOperations, forFactory⟩ := FileSystem.packaged_of_not_overrides chosen
  have agree : texts.AgreeUnless (system.Overrides folder) own :=
    ⟨fun plain => rendered.constants_eq (forDocuments plain) renderedToo,
      fun plain => rendered.wrappers_eq (forOperations plain) renderedToo,
      fun plain => rendered.factory_eq (forFactory plain) renderedToo⟩
  refine ⟨module.session.trans moduleToo.session.symm, packaged, generatedToo,
    module.preamble.trans moduleToo.preamble.symm, module.records.trans moduleToo.records.symm, ?_⟩
  exact ⟨texts, own, rendered, content, renderedToo, contentToo, agree⟩

/-- A template that shows the name of a document in a comment. -/
def noteTemplate : String := "// \x7b\x7bname\x7d\x7d\n"

/-- A folder with this template in the place of the one for documents. -/
def noteSystem : FileSystem where
  root := .folder [("tpl", .folder [("document.ts.j2", .file noteTemplate.toUTF8)])]
  here := []

/-- The templates that the folder makes up. -/
def noteTemplates : Templates where
  document := .custom (Template.renderSegments [.literal "// ", .output (.lookup "name")])

set_option maxRecDepth 20000 in

/-- The template is a comment with a name in it. -/
theorem segmentsOf?_noteTemplate : Template.segmentsOf? (Template.fileText noteTemplate) =
    some [.literal "// ", .output (.lookup "name")] := by
  have characters : Template.fileText noteTemplate =
      ['/', '/', ' ', '{', '{', 'n', 'a', 'm', 'e', '}', '}'] := rfl
  rw [characters]
  rfl

/-- A text can be read back from its bytes. -/
theorem fromUTF8?_toUTF8 (text : String) : String.fromUTF8? text.toUTF8 = some text :=
  dif_pos text.isValidUTF8

theorem renderFile_noteTemplate : Template.renderFile noteTemplate.toUTF8 =
    Template.renderSegments [.literal "// ", .output (.lookup "name")] := by
  unfold Template.renderFile
  rw [fromUTF8?_toUTF8]
  dsimp only
  rw [segmentsOf?_noteTemplate]
  rfl

theorem templates_noteSystem : noteSystem.templates (some "tpl/.") = .ok noteTemplates := by
  have simple : Path.simplify "tpl/." = "tpl" := by decide +kernel
  have isFolder : noteSystem.isFolder (Path.simplify "tpl/.") = true := by decide +kernel
  have document : noteSystem.templateSource Template.plainEngine
      (Path.join "tpl" "document.ts.j2") = noteTemplates.document := by
    have isFile : noteSystem.isFile (Path.join "tpl" "document.ts.j2") = true := by
      decide +kernel
    have location : noteSystem.locate (Path.join "tpl" "document.ts.j2") =
        .ok ["tpl", "document.ts.j2"] := by decide +kernel
    have found : noteSystem.root.find? ["tpl", "document.ts.j2"] =
        some (.file noteTemplate.toUTF8) := rfl
    rw [FileSystem.templateSource, if_pos isFile, Template.plainEngine,
      FileSystem.at?_eq_some.2 ⟨_, location, found⟩]
    exact congrArg Template.TemplateSource.custom renderFile_noteTemplate
  have others : ∀ template ∈ ["operation.ts.j2", "factory.ts.j2"],
      noteSystem.templateSource Template.plainEngine (Path.join "tpl" template) = .packaged := by
    refine fun template member => FileSystem.templateSource_of_not_isFile ?_
    revert template
    decide +kernel
  rw [FileSystem.templates, FileSystem.templatesWith_of_isFolder (by decide) isFolder, simple]
  dsimp only
  rw [document, others _ (by simp), others _ (by simp)]
  rfl

/-- There is no folder of this name, and its name is not too long. -/
theorem noteSystem_missing :
    ¬noteSystem.HasTemplates (some "x") ∧ ¬noteSystem.HasLongPath (some "x") := by
  constructor
  · rintro ⟨_, ⟨⟩, -, inside⟩
    have elsewhere : noteSystem.isFolder (Path.simplify "x") = false := by decide +kernel
    exact Bool.false_ne_true (elsewhere.symm.trans inside)
  · rintro ⟨_, ⟨⟩, -, long⟩
    have missing : noteSystem.locate (Path.simplify "x") = .error .missing := by decide +kernel
    cases missing.symm.trans long

theorem generate_changesOwnTexts_note :
    noteSystem.templates (some "tpl/.") = .ok noteTemplates ∧
      (∃ bundle packaged,
        (generate {} [spreadlessDocument] [] noteTemplates).2 = .ok bundle ∧
        (generate {} [spreadlessDocument] [] {}).2 = .ok packaged ∧
        Rewords (noteSystem.Overrides (some "tpl/.")) { templates := noteTemplates }
          spreadlessDocument bundle packaged) ∧
      noteSystem.templates (some "x") = .ok {} := by
  have elsewhere := (generate_changesOwnTexts noteSystem (some "x")).2.1
    noteSystem_missing.1 noteSystem_missing.2
  refine ⟨templates_noteSystem, ?_, elsewhere⟩
  cases generated : (generate {} [spreadlessDocument] [] noteTemplates).2 with
  | error fault =>
      have succeeds : (generate {} [spreadlessDocument] [] noteTemplates).2.isOk = true := rfl
      rw [generated] at succeeds
      cases succeeds
  | ok bundle =>
      obtain ⟨-, packaged, generatedToo, rewords⟩ :=
        (generate_changesOwnTexts noteSystem (some "tpl/.")).1 noteTemplates {}
          [spreadlessDocument] [] bundle templates_noteSystem generated
      exact ⟨bundle, packaged, rfl, generatedToo, rewords⟩

/-- A name of one letter, repeated. -/
def letters (count : Nat) : String := String.ofList (List.replicate count 'a')

/-- A name of one letter, many times over. -/
theorem toList_letters (count : Nat) : (letters count).toList = List.replicate count 'a' :=
  String.toList_ofList

/-- There is no other letter in it. -/
theorem not_mem_letters {c : Char} (other : c ≠ 'a') (count : Nat) :
    c ∉ (letters count).toList := by
  rw [toList_letters]
  exact fun member => other (List.eq_of_mem_replicate member)

theorem letters_ne {text : String} {count : Nat} (short : text.toList.length < count) :
    letters count ≠ text := by
  rintro rfl
  rw [toList_letters, List.length_replicate] at short
  exact lt_irrefl _ short

/-- It can be the name of an entry. -/
theorem isEntryName_letters {count : Nat} (long : 2 < count) : Path.IsEntryName (letters count) :=
  ⟨letters_ne (by simp; omega), letters_ne (by simp; omega), letters_ne (by simpa using long),
    not_mem_letters (by decide) count⟩

/-- A file tree with nothing in it. -/
def emptySystem : FileSystem where
  root := .folder []
  here := []

/-- A path that leads nowhere is refused if it is too long. -/
theorem emptySystem_refuses_letters : emptySystem.has (letters 256) = false ∧
    emptySystem.templates (some (letters 256)) = .error .tooLong := by
  have own : Path.IsEntryName (letters 256) := isEntryName_letters (by decide)
  have plain : Path.hasNull (letters 256) = false :=
    Path.hasNull_eq_false.2 (not_mem_letters (by decide) 256)
  have short : Path.isLong (letters 256) = false := by decide +kernel
  have tooLong : Path.isLongName (letters 256) = true := by decide +kernel
  have long : emptySystem.locate (letters 256) = .error .tooLong :=
    FileSystem.locate_of_isLongName own plain short rfl List.lookup_nil tooLong
  have refused : emptySystem.HasLongPath (some (letters 256)) :=
    ⟨letters 256, rfl, own.filled, (Path.simplify_of_isEntryName own).symm ▸ long⟩
  exact ⟨FileSystem.has_of_locate_error long, FileSystem.templatesWith_eq_error.2 ⟨refused, rfl⟩⟩

end TypedClient

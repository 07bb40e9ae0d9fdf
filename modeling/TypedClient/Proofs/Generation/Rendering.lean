import TypedClient.Proofs.Generation.Acceptance
import TypedClient.Proofs.Generation.Subsequence

/-! # What templates have to do with a module

Templates make the texts of a module, each from values that do not depend on any template
(`Generator.Renders`). They can fail, but all else about a generation that succeeds is settled
without them: its events, what it imports and what it records (`generate_isModule`).
-/

namespace TypedClient

open Document

/-- The texts of an operation: its constant and its wrapper, which is empty if it gets none. -/
structure OperationTexts where
  constant : String
  wrapper : String

/-- The body that the texts of an operation make up. -/
def OperationTexts.body (texts : OperationTexts) : String :=
  texts.constant ++ "\n" ++ texts.wrapper

/-- The texts of a module: the constants of its fragments, those of its operations, and the
factory. -/
structure ModuleTexts where
  fragments : List String
  operations : List OperationTexts
  factory : String

/-- The content that the texts of a module make up. Empty chunks are left out. -/
def ModuleTexts.content (texts : ModuleTexts) : String :=
  let chunks := String.intercalate "\n" texts.fragments ::
    texts.operations.map OperationTexts.body ++ [texts.factory]
  String.intercalate "\n" (chunks.filter (· ≠ ""))

/-- A trace is its events and its value. -/
theorem Trace.eq_of_ok {α : Type} {trace : Trace α} {events : List Event} {value : α}
    (own : trace.events = events) (done : trace.outcome = .ok value) :
    trace = ⟨events, .ok value⟩ := by
  rw [← own, ← done]

/-- A name that becomes the name of a constant is one that the convention can convert. -/
theorem Config.canConvert_of_ok {config : Config} {name : Setting} {constant : String}
    (named : config.fragmentVariableOf name = .ok constant) : config.CanConvert name := by
  unfold fragmentVariableOf at named
  split at named
  · exact .inr ⟨_, rfl⟩
  · split at named
    · next keep => exact .inl keep
    · split at named <;> cases named

namespace Generator

variable (generator : Generator)

/-! ## Texts -/

/-- The text is the constant of a fragment. -/
def RendersFragment (descriptor : FragmentDescriptor) (text : String) : Prop :=
  generator.templates.renderDocument (generator.config.fragmentVariable descriptor.name.inline)
    descriptor.node.print (generator.referenceNames descriptor.node.selections) = .ok text

/-- The texts are the constant of an operation, and its wrapper if it gets one. -/
structure RendersOperation (operation : Operation) (texts : OperationTexts) : Prop where
  constant : generator.templates.renderDocument
    (generator.config.documentVariable (operation.name.getD "")) operation.print
      (generator.referenceNames operation.selections) = .ok texts.constant
  wrapper : if operation.isWrapped generator.config.mutationPolicy then
      generator.templates.renderOperation (operation.spec generator.config) = .ok texts.wrapper
    else texts.wrapper = ""

/-- The texts are what the templates make of a document. -/
structure Renders (document : Document) (texts : ModuleTexts) : Prop where
  fragments : List.Forall₂ generator.RendersFragment generator.declaredFragments texts.fragments
  operations : List.Forall₂ generator.RendersOperation document.operations texts.operations
  factory : generator.templates.renderFactory generator.config.factoryName
    (generator.documentRecords document).queries
    (generator.documentRecords document).mutations = .ok texts.factory

/-- The names of the fragments do for all constants of a document. -/
structure NamesSuffice (document : Document) : Prop where
  declared : ∀ descriptor ∈ generator.declaredFragments,
    generator.config.CanConvert descriptor.name ∧ generator.HasKeys
  operations : ∀ operation ∈ document.operations, generator.HasKeys

variable {generator}

/-! ## Parts that succeed -/

/-- References that could be made are those to what is needed. -/
theorem references_of_ok {selections : List Selection} {names : List String}
    (done : generator.references selections = .ok names) :
    generator.HasKeys ∧ names = generator.referenceNames selections := by
  unfold references at done
  split at done
  · next keys => exact ⟨List.all_eq_true.1 keys, (Except.ok.inj done).symm⟩
  · cases done

/-- A constant that could be made was rendered with its references. -/
theorem constant_of_ok {name body text : String} {selections : List Selection}
    (done : (generator.constant name body selections).outcome = .ok text) :
    generator.HasKeys ∧ generator.templates.renderDocument name body
      (generator.referenceNames selections) = .ok text := by
  unfold constant at done
  obtain ⟨_, _, done⟩ := Trace.outcome_bind.1 done
  obtain ⟨names, found, rendered⟩ := Trace.outcome_bind.1 done
  obtain ⟨keys, rfl⟩ := references_of_ok found
  exact ⟨keys, mapError_eq_ok.1 rendered⟩

/-- The constant of a fragment that could be made has a name and was rendered. -/
theorem fragmentConstant_of_ok {descriptor : FragmentDescriptor} {text : String}
    (done : (generator.fragmentConstant descriptor).outcome = .ok text) :
    (generator.config.CanConvert descriptor.name ∧ generator.HasKeys) ∧
      generator.RendersFragment descriptor text := by
  unfold fragmentConstant at done
  obtain ⟨name, named, done⟩ := Trace.outcome_bind.1 done
  obtain ⟨keys, rendered⟩ := constant_of_ok done
  rw [Config.fragmentVariableOf_eq named] at rendered
  exact ⟨⟨Config.canConvert_of_ok named, keys⟩, rendered⟩

theorem fragmentConstant_events_of_ok {descriptor : FragmentDescriptor} {text : String}
    (done : (generator.fragmentConstant descriptor).outcome = .ok text) :
    (generator.fragmentConstant descriptor).events = [.require generator.config.tagImport] := by
  unfold fragmentConstant at done ⊢
  obtain ⟨name, named, _⟩ := Trace.outcome_bind.1 done
  rw [Trace.bind_eq, named]
  exact generator.constant_events _ _ _

/-- Of the constants of fragments that could be made, each was rendered. -/
theorem fragmentConstants_of_ok {text : String}
    (done : generator.fragmentConstants.outcome = .ok text) :
    generator.fragmentConstants =
        ⟨(generator.declaredFragments.map fun _ => .require generator.config.tagImport) ++
          [.renderFragments !generator.declaredFragments.isEmpty], .ok text⟩ ∧
      (∀ descriptor ∈ generator.declaredFragments,
        generator.config.CanConvert descriptor.name ∧ generator.HasKeys) ∧
      ∃ texts, List.Forall₂ generator.RendersFragment generator.declaredFragments texts ∧
        text = String.intercalate "\n" texts := by
  have parts : generator.fragmentConstants =
      generator.declaredFragments.mapM generator.fragmentConstant >>= fun texts =>
        ⟨[.renderFragments !texts.isEmpty], .ok (String.intercalate "\n" texts)⟩ := rfl
  rw [parts] at done ⊢
  obtain ⟨texts, rendered, last⟩ := Trace.outcome_bind.1 done
  cases last
  have own := Trace.events_mapM_of_ok (fun _ _ => fragmentConstant_events_of_ok) rendered
  have same : texts.isEmpty = generator.declaredFragments.isEmpty := by
    rw [Bool.eq_iff_iff, List.isEmpty_iff_length_eq_zero, List.isEmpty_iff_length_eq_zero,
      Trace.length_of_mapM rendered]
  refine ⟨?_, ?_⟩
  · rw [Trace.bind_eq, rendered, own, ← List.map_eq_flatMap]
    dsimp only
    rw [same]
  · rw [Trace.outcome_mapM, mapM_eq_ok] at rendered
    obtain ⟨names, each⟩ :=
      (List.forall₂_and_left _ _).1 (rendered.imp fun _ _ => fragmentConstant_of_ok)
    exact ⟨names, texts, each, rfl⟩

/-- An operation that could be emitted has its wrapper, if it is wrapped, and its record. -/
theorem emit_of_ok {operation : Operation} {emitted : Emitted}
    (done : (generator.emit operation).outcome = .ok emitted) :
    (if operation.isWrapped generator.config.mutationPolicy then
        generator.templates.renderOperation (operation.spec generator.config) = .ok emitted.wrapper
      else emitted.wrapper = "") ∧ emitted.record? = generator.record? operation := by
  rw [emit_eq] at done
  dsimp only at done
  split at done
  · next wrapped =>
      rw [if_pos wrapped]
      cases rendered : (generator.wrapper (operation.spec generator.config)).outcome with
      | error fault =>
          rw [rendered] at done
          cases done
      | ok wrapper =>
          rw [rendered] at done
          cases done
          exact ⟨mapError_eq_ok.1 rendered, rfl⟩
  · next bare =>
      rw [if_neg bare]
      cases done
      exact ⟨rfl, rfl⟩

/-- The part of an operation that could be made was rendered from its texts. -/
theorem operationPart_of_ok {operation : Operation} {part : String × Option GroupedRecord}
    (done : (generator.operationPart operation).outcome = .ok part) :
    generator.HasKeys ∧ ∃ texts, generator.RendersOperation operation texts ∧
      part = (texts.body, generator.record? operation) := by
  unfold operationPart documentConstant at done
  obtain ⟨constant, found, done⟩ := Trace.outcome_bind.1 done
  obtain ⟨_, _, found⟩ := Trace.outcome_bind.1 found
  obtain ⟨emitted, rendered, last⟩ := Trace.outcome_bind.1 done
  cases last
  obtain ⟨keys, own⟩ := constant_of_ok found
  obtain ⟨wrapper, record⟩ := emit_of_ok rendered
  exact ⟨keys, ⟨constant, emitted.wrapper⟩, ⟨own, wrapper⟩, congrArg (Prod.mk _) record⟩

/-- The parts of operations are their bodies and their records. -/
theorem exists_texts_of_parts {operations : List Operation}
    {parts : List (String × Option GroupedRecord)}
    (each : List.Forall₂ (fun operation part => ∃ texts,
      generator.RendersOperation operation texts ∧
        part = (texts.body, generator.record? operation)) operations parts) :
    ∃ texts, List.Forall₂ generator.RendersOperation operations texts ∧
      parts.map (·.1) = texts.map OperationTexts.body ∧
      parts.filterMap (·.2) = operations.filterMap generator.record? := by
  induction each with
  | nil => exact ⟨[], .nil, rfl, rfl⟩
  | cons own _ ih =>
      obtain ⟨texts, rendered, rfl⟩ := own
      obtain ⟨others, further, bodies, records⟩ := ih
      refine ⟨texts :: others, .cons rendered further, ?_, ?_⟩
      · rw [List.map_cons, List.map_cons, bodies]
      · rw [List.filterMap_cons, List.filterMap_cons, records]

/-- A document that could be traversed was rendered operation by operation. -/
theorem traverse_of_ok {document : Document} {emission : Emission}
    (done : (generator.traverse document).outcome = .ok emission) :
    (∀ operation ∈ document.operations, generator.HasKeys) ∧
      emission.records = generator.documentRecords document ∧
      ∃ texts, List.Forall₂ generator.RendersOperation document.operations texts ∧
        emission.bodies = texts.map OperationTexts.body := by
  rw [outcome_traverse] at done
  cases found : document.operations.mapM fun operation =>
      (generator.operationPart operation).outcome with
  | error fault =>
      rw [found] at done
      cases done
  | ok parts =>
      rw [found] at done
      cases done
      obtain ⟨keys, each⟩ :=
        (List.forall₂_and_left _ _).1 ((mapM_eq_ok.1 found).imp fun _ _ => operationPart_of_ok)
      obtain ⟨texts, rendered, bodies, records⟩ := exists_texts_of_parts each
      refine ⟨keys, ?_, texts, rendered, bodies⟩
      rw [Emission.ofParts, records, ofList_record?]

/-! ## Modules -/

/-- A factory that could be made was rendered, behind the notices about shared keys. -/
theorem renderFactory_of_ok {records : Records} {templates : Templates} {name text : String}
    (done : (records.renderFactory templates name).outcome = .ok text) :
    records.renderFactory templates name = ⟨records.collisionNotices.map .notice, .ok text⟩ ∧
      templates.renderFactory name records.queries records.mutations = .ok text := by
  have rendered := done
  unfold Records.renderFactory at rendered
  rw [Trace.forM_note, Trace.bind_ok] at rendered
  refine ⟨?_, mapError_eq_ok.1 rendered⟩
  rw [← done, ← Records.renderFactory_events records templates name]

/-- A module that could be made was rendered part by part. -/
theorem moduleTrace_of_ok {document : Document} {content : String} {records : Records}
    (done : (generator.moduleTrace document).outcome = .ok (content, records)) :
    (generator.moduleTrace document).events = generator.moduleEvents document ∧
      records = generator.documentRecords document ∧ generator.NamesSuffice document ∧
      ∃ texts, generator.Renders document texts ∧ content = texts.content := by
  unfold moduleTrace at done ⊢
  obtain ⟨_, _, done⟩ := Trace.outcome_bind.1 done
  obtain ⟨constants, rendered, done⟩ := Trace.outcome_bind.1 done
  obtain ⟨emission, traversed, done⟩ := Trace.outcome_bind.1 done
  obtain ⟨factory, made, last⟩ := Trace.outcome_bind.1 done
  cases last
  obtain ⟨fragments, declared, texts, own, rfl⟩ := fragmentConstants_of_ok rendered
  obtain ⟨keys, recorded, others, further, bodies⟩ := traverse_of_ok traversed
  have events := traverse_events_eq traversed
  rw [recorded] at made events
  obtain ⟨announced, rendered⟩ := renderFactory_of_ok made
  refine ⟨?_, recorded, ⟨declared, keys⟩, ⟨texts, others, factory⟩, ⟨own, further, rendered⟩, ?_⟩
  · rw [fragments, Trace.eq_of_ok events traversed]
    simp only [Trace.note, Trace.emit, Trace.bind_ok, Trace.pure_eq, List.append_nil, recorded,
      announced, moduleEvents, List.append_assoc, List.cons_append, List.nil_append]
  · rw [bodies]
    rfl

/-- What a generation gives that succeeds: all but the texts is settled without the templates. -/
structure IsModule (generator : Generator) (document : Document) (session : Session)
    (bundle : Bundle) : Prop where
  names : generator.NamesSuffice document
  session : session = generator.moduleSession document
  preamble : bundle.preamble = (generator.moduleSession document).preamble generator.config
  records : bundle.records = (generator.documentRecords document).all
  content : ∃ texts, generator.Renders document texts ∧ bundle.content = texts.content

end Generator

section Generate

variable {config : Config} {documents : List Document} {filters : List OperationFilter}

/-- What is generated is a module of its texts. -/
theorem generate_isModule {templates : Templates} {bundle : Bundle}
    (generated : (generate config documents filters templates).2 = .ok bundle) :
    let document := Document.applyFilters documents.flatten filters
    Generator.IsModule
      { config, fragments := document.resolveFragments config.externalFragments, templates }
      document (generate config documents filters templates).1 bundle := by
  intro document
  let generator : Generator :=
    { config, fragments := document.resolveFragments config.externalFragments, templates }
  unfold generate at generated ⊢
  change (generator.moduleTrace document).outcome.map _ = _ at generated
  cases outcome : (generator.moduleTrace document).outcome with
  | error fault =>
      rw [outcome] at generated
      cases generated
  | ok result =>
      obtain ⟨events, records, names, rendered⟩ := Generator.moduleTrace_of_ok outcome
      rw [outcome] at generated
      cases generated
      have played : Session.playAll {} (.notice (.fragmentsResolved document.fragments.length
          config.externalFragments.length) :: (generator.moduleTrace document).events) =
            generator.moduleSession document := by
        rw [events]
        rfl
      exact ⟨names, played, congrArg (Session.preamble · config) played,
        congrArg Records.all records, rendered⟩

/-- With the packaged templates nothing but names can fail. -/
theorem generate_of_namesSuffice
    (names : Generator.NamesSuffice
      { config
        fragments := (Document.applyFilters documents.flatten filters).resolveFragments
          config.externalFragments }
      (Document.applyFilters documents.flatten filters)) :
    ∃ bundle, (generate config documents filters {}).2 = .ok bundle := by
  obtain ⟨result, done⟩ := (Generator.moduleTrace_decided rfl _).succeeds_iff.2
    ⟨names.declared, names.operations⟩
  unfold generate
  dsimp only
  rw [done]
  exact ⟨_, rfl⟩

end Generate

end TypedClient

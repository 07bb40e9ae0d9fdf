import TypedClient.Proofs.Generation.Declaration
import TypedClient.Proofs.Generation.Event

/-! # The imports of a module

Imports are registered while the parts of a module are generated: each constant needs the document
tag, and each operation, with or without a wrapper, needs its types. Over a whole run the statements
that are registered come to the tag, if there is a constant, and the types, if they come from a
module and there is an operation (`imports_moduleSession`). So a module imports what it uses and
nothing else (`generate_importsUses`).
-/

namespace TypedClient

open Document

/-! ## The statements -/

/-- The statement that imports the types of a module as a namespace. -/
def importNamespace (name module : String) : String :=
  "import * as " ++ name ++ " from '" ++ module ++ "';"

/-- No import of a namespace is empty. -/
theorem importNamespace_ne_empty (name module : String) : importNamespace name module ≠ "" := by
  unfold importNamespace
  simp [String.append_eq_empty_iff]

/-- The tag and the types are imported by different statements: their eighth letters differ. -/
theorem Config.importNamespace_ne_tagImport (config : Config) (name module : String) :
    importNamespace name module ≠ config.tagImport := by
  intro same
  have letters := congrArg (·.toList[7]?) same
  unfold importNamespace Config.tagImport TypedClient.tagImport importNames at letters
  dsimp only at letters
  split at letters
  · simp at letters
  · split at letters <;> simp at letters

namespace Config

variable (config : Config)

/-- The import of the operation types, as a list: none unless they come from a module. -/
def typesImports : List String :=
  match config.importOperationTypesFrom with
  | none => []
  | some module => if module = "" then [] else [importNamespace config.namespacedImportName module]

/-- The import of the types is there or not. -/
theorem toList_typesImport? : config.typesImport?.toList = config.typesImports := by
  have named : config.typesImport? =
      (config.importOperationTypesFrom.filter (· != "")).map
        (importNamespace config.namespacedImportName) := rfl
  rw [named, typesImports]
  cases config.importOperationTypesFrom with
  | none => rfl
  | some module => by_cases empty : module = "" <;> simp [empty]

/-- There is one import of the operation types at most. -/
theorem typesImports_cases :
    config.typesImports = [] ∨
      ∃ module, config.typesImports = [importNamespace config.namespacedImportName module] := by
  unfold typesImports
  split
  · exact .inl rfl
  · next module _ =>
      split
      · exact .inl rfl
      · exact .inr ⟨module, rfl⟩

end Config

/-! ## What a run registers -/

namespace Generator

variable (generator : Generator)

/-- What is registered for the types is their import. -/
theorem registrations_typeEvents :
    registrations generator.typeEvents = generator.config.typesImports := by
  have events : generator.typeEvents = generator.config.typesImports.map .require := by
    rw [← Config.toList_typesImport?, typeEvents, Option.toList_map]
  rw [events]
  rcases generator.config.typesImports_cases with empty | ⟨module, one⟩
  · rw [empty]
    rfl
  · rw [one, List.map_singleton, registrations_require _ (importNamespace_ne_empty _ _),
      registrations_nil]

/-- An operation registers the tag and, twice, its types. -/
theorem registrations_operationEvents (operation : Operation) :
    registrations (generator.operationEvents operation) =
      generator.config.tagImport ::
        (generator.config.typesImports ++ generator.config.typesImports) := by
  rw [operationEvents, emissionEvents, List.cons_append, List.singleton_append,
    registrations_collect, registrations_require _ generator.config.tagImport_ne_empty,
    registrations_append, registrations_append, registrations_typeEvents, registrations_notices,
    List.append_nil]

/-- A run registers the tag for each fragment that it declares, and then what its operations
register. -/
theorem registrations_moduleEvents (document : Document) :
    registrations (generator.moduleEvents document) =
      (generator.declaredFragments.map fun _ => generator.config.tagImport) ++
        document.operations.flatMap fun _ => generator.config.tagImport ::
          (generator.config.typesImports ++ generator.config.typesImports) := by
  have own (descriptors : List FragmentDescriptor) :
      registrations (descriptors.map fun _ => .require generator.config.tagImport) =
        descriptors.map fun _ => generator.config.tagImport := by
    induction descriptors with
    | nil => rfl
    | cons descriptor rest ih =>
        rw [List.map_cons, registrations_require _ generator.config.tagImport_ne_empty, ih,
          List.map_cons]
  have operations : registrations (document.operations.flatMap generator.operationEvents) =
      document.operations.flatMap fun _ => generator.config.tagImport ::
        (generator.config.typesImports ++ generator.config.typesImports) := by
    rw [registrations, List.filterMap_flatMap]
    exact List.flatMap_congr fun operation _ => generator.registrations_operationEvents operation
  rw [moduleEvents, List.cons_append, List.cons_append, registrations_notice]
  simp only [registrations_append, registrations_renderFragments, registrations_notice,
    registrations_notices, registrations_nil, own, operations, List.append_nil]

theorem requires_aside (descriptors : List FragmentDescriptor) (statement : String) :
    ∀ event ∈ descriptors.map fun _ => Event.require statement, event.isAside = true := by
  intro event member
  obtain ⟨_, _, rfl⟩ := List.mem_map.1 member
  rfl

/-- The fragments are rendered once. -/
theorem renderings_moduleEvents (document : Document) :
    renderings (generator.moduleEvents document) = [!generator.declaredFragments.isEmpty] := by
  have operations : renderings (document.operations.flatMap generator.operationEvents) = [] := by
    rw [renderings, List.filterMap_flatMap, List.flatMap_eq_nil_iff]
    intro operation _
    change renderings (generator.emissionEvents operation) = []
    exact renderings_of_aside (generator.emissionEvents_aside operation)
  rw [moduleEvents, List.cons_append, List.cons_append, renderings_notice]
  simp only [renderings_append, renderings_renderFragments, renderings_notice, renderings_nil,
    renderings_of_aside (requires_aside _ _), renderings_of_aside (notices_aside _), operations,
    List.nil_append, List.append_nil]

/-- Each operation is collected once. -/
theorem count_collect_moduleEvents (document : Document) :
    (generator.moduleEvents document).count .collect = document.operations.length := by
  have operations : (document.operations.flatMap generator.operationEvents).count .collect =
      document.operations.length := by
    induction document.operations with
    | nil => rfl
    | cons operation rest ih =>
        rw [List.flatMap_cons, List.count_append, ih, operationEvents, List.count_append,
          count_collect_of_aside (generator.emissionEvents_aside operation), List.length_cons]
        exact Nat.add_comm 1 _
  rw [moduleEvents, List.cons_append, List.cons_append]
  simp only [List.count_append, List.count_cons, List.count_nil, operations,
    count_collect_of_aside (requires_aside _ _), count_collect_of_aside (notices_aside _)]
  simp

/-- After any constant the tag is registered, and nothing else as long as no operation came. -/
theorem registerAll_tags (descriptors : List FragmentDescriptor) (tag : String) :
    registerAll [] (descriptors.map fun _ => tag) = if descriptors.isEmpty then [] else [tag] := by
  cases descriptors with
  | nil => rfl
  | cons descriptor rest =>
      rw [List.map_cons, registerAll_cons, registerAll_singleton, if_neg List.not_mem_nil]
      refine registerAll_of_subset fun statement member => ?_
      obtain ⟨_, _, rfl⟩ := List.mem_map.1 member
      exact List.mem_singleton_self tag

/-- Operations register the tag, unless a fragment did, and then the types. -/
theorem registerAll_operations {first : List String}
    (few : first = [] ∨ first = [generator.config.tagImport]) {operations : List Operation}
    (filled : operations ≠ []) :
    registerAll first (operations.flatMap fun _ => generator.config.tagImport ::
        (generator.config.typesImports ++ generator.config.typesImports)) =
      generator.config.tagImport :: generator.config.typesImports := by
  obtain ⟨operation, rest, rfl⟩ := List.exists_cons_of_ne_nil filled
  have tag : registerAll first [generator.config.tagImport] = [generator.config.tagImport] := by
    rw [registerAll_singleton]
    rcases few with rfl | rfl
    · exact if_neg List.not_mem_nil
    · exact if_pos (List.mem_singleton_self _)
  have types : registerAll [generator.config.tagImport]
      (generator.config.typesImports ++ generator.config.typesImports) =
        generator.config.tagImport :: generator.config.typesImports := by
    rcases generator.config.typesImports_cases with empty | ⟨module, one⟩
    · rw [empty]
      exact registerAll_nil _
    · have new : importNamespace generator.config.namespacedImportName module ∉
          [generator.config.tagImport] := fun member =>
        generator.config.importNamespace_ne_tagImport _ _ (List.mem_singleton.1 member)
      have once : registerAll [generator.config.tagImport]
          [importNamespace generator.config.namespacedImportName module] =
            [generator.config.tagImport] ++
              [importNamespace generator.config.namespacedImportName module] := by
        rw [registerAll_singleton, if_neg new]
      rw [one, registerAll_append, once]
      exact registerAll_of_subset (List.subset_append_right _ _)
  rw [List.flatMap_cons, registerAll_append, registerAll_cons, tag, types]
  refine registerAll_of_subset fun statement member => ?_
  obtain ⟨_, _, own⟩ := List.mem_flatMap.1 member
  simpa using own

/-- A module without declared fragments and without operations has no constants. -/
theorem moduleConstants_isEmpty (document : Document) :
    (generator.moduleConstants document).isEmpty =
      (generator.declaredFragments.isEmpty && document.operations.isEmpty) := by
  rw [moduleConstants, Bool.eq_iff_iff]
  simp [List.isEmpty_iff]

/-- Over a whole run the tag is registered for the constants, and the types for the operations. -/
theorem imports_moduleSession (document : Document) :
    (generator.moduleSession document).imports =
      (if (generator.moduleConstants document).isEmpty then [] else [generator.config.tagImport]) ++
        (if document.operations.isEmpty then [] else generator.config.typesImports) := by
  rw [moduleSession, Session.imports_playAll, registrations_notice, registrations_moduleEvents,
    registerAll_append, registerAll_tags, moduleConstants_isEmpty]
  cases operations : document.operations with
  | nil => simp
  | cons operation rest =>
      have few : (if generator.declaredFragments.isEmpty then [] else
          [generator.config.tagImport]) = [] ∨
          (if generator.declaredFragments.isEmpty then [] else [generator.config.tagImport]) =
            [generator.config.tagImport] := by
        split
        · exact .inl rfl
        · exact .inr rfl
      rw [generator.registerAll_operations few (List.cons_ne_nil operation rest)]
      simp

/-- The preamble is the import of the client with what was registered. -/
theorem preamble_moduleSession (document : Document) :
    (generator.moduleSession document).preamble generator.config =
      generator.config.baselineImport ::
        ((if (generator.moduleConstants document).isEmpty then []
            else [generator.config.tagImport]) ++
          (if document.operations.isEmpty then [] else generator.config.typesImports)) := by
  have collected : (generator.moduleSession document).collected = document.operations.length := by
    rw [moduleSession, Session.collected_playAll, List.count_cons_of_ne (by simp),
      count_collect_moduleEvents]
    exact Nat.zero_add _
  have rendered : (generator.moduleSession document).fragmentsRendered =
      !generator.declaredFragments.isEmpty := by
    rw [moduleSession, Session.fragmentsRendered_playAll, renderings_notice,
      renderings_moduleEvents]
    rfl
  rw [Session.preamble, imports_moduleSession, collected, rendered, moduleConstants_isEmpty]
  cases document.operations with
  | nil => cases generator.declaredFragments <;> simp
  | cons operation rest => simp

end Generator

/-! ## The main statement -/

/-- The module of a document imports what it uses. -/
structure ImportsUses (generator : Generator) (document : Document) (bundle : Bundle) : Prop where
  /-- The client types; then the tag, if there is a constant; then the operation types, if they come
  from a module and there is an operation. -/
  preamble : bundle.preamble = generator.config.baselineImport ::
    ((if (generator.moduleConstants document).isEmpty then []
        else [tagImport generator.config.gqlImport]) ++
      (if document.operations.isEmpty then [] else generator.config.typesImports))
  /-- The tag and the types are imported once. -/
  once : bundle.preamble.tail.Nodup
  /-- The content consists of the constants, each with its trailer, and the factory. -/
  content : bundle.content = String.intercalate "\n"
    ((generator.moduleConstants document).map (fun constant =>
      constant.text generator ++ constant.trailer generator) ++ [generator.factoryText document])
  /-- There is a constant for each operation and for each fragment that is not external. -/
  constants : generator.moduleConstants document ≠ [] ↔
    document.operations ≠ [] ∨ ∃ descriptor ∈ generator.fragments, descriptor.isDeclared = true
  /-- Each constant uses the tag, which is imported. -/
  tag : ∀ constant ∈ generator.moduleConstants document,
    (∃ name literal, constant.text generator = "export const " ++ name ++ " = gql`" ++ literal) ∧
      tagImport generator.config.gqlImport ∈ bundle.preamble
  /-- The types that the wrapper and the record of an operation mention stand in the namespace that
  is imported, or they come from no module and stand for themselves. -/
  types : ∀ operation ∈ document.operations,
    ∀ type ∈ [(operation.spec generator.config).resultType,
      (operation.spec generator.config).variablesType], ∃ ending,
      let name := generator.config.operationTypeName (operation.name.getD "") ending
      (type = name ∧ generator.config.typesImports = []) ∨
        ∃ module, generator.config.importOperationTypesFrom = some module ∧ module ≠ "" ∧
          type = generator.config.namespacedImportName ++ "." ++ name ∧
          importNamespace generator.config.namespacedImportName module ∈ bundle.preamble

/-- Each constant uses the tag. -/
theorem ModuleConstant.exists_text (generator : Generator) (constant : ModuleConstant) :
    ∃ name literal, constant.text generator = "export const " ++ name ++ " = gql`" ++ literal := by
  cases constant with
  | ofFragment descriptor => exact ⟨_, Template.renderDocument_eq_tagged _ _ _⟩
  | ofOperation operation => exact ⟨_, Template.renderDocument_eq_tagged _ _ _⟩

/-- There are constants exactly if there are operations or declared fragments. -/
theorem Generator.moduleConstants_ne_nil_iff {generator : Generator} {document : Document} :
    generator.moduleConstants document ≠ [] ↔
      document.operations ≠ [] ∨
        ∃ descriptor ∈ generator.fragments, descriptor.isDeclared = true := by
  have declared : generator.declaredFragments ≠ [] ↔
      ∃ descriptor ∈ generator.fragments, descriptor.isDeclared = true := by
    rw [declaredFragments, Ne, List.filter_eq_nil_iff]
    push Not
    rfl
  rw [← declared, moduleConstants, Ne, List.append_eq_nil_iff, List.map_eq_nil_iff,
    List.map_eq_nil_iff, not_and_or, or_comm]

/-- The name of an operation type stands for itself, or in the namespace of the module that the
types come from. -/
theorem Config.operationType_cases (config : Config) (name ending : String) :
    (config.operationType name ending = config.operationTypeName name ending ∧
        config.typesImports = []) ∨
      ∃ module, config.importOperationTypesFrom = some module ∧ module ≠ "" ∧
        config.operationType name ending =
          config.namespacedImportName ++ "." ++ config.operationTypeName name ending := by
  unfold operationType operationTypesModule? typesImports
  cases config.importOperationTypesFrom with
  | none => exact .inl ⟨rfl, rfl⟩
  | some module =>
      by_cases empty : module = ""
      · subst empty
        exact .inl ⟨rfl, rfl⟩
      · have kept : Option.filter (· != "") (some module) = some module := by simp [empty]
        rw [kept]
        exact .inr ⟨module, rfl, empty, rfl⟩

/-- The tag and the types of a generator are imported once. -/
theorem Generator.nodup_imports (generator : Generator) (document : Document) :
    ((if (generator.moduleConstants document).isEmpty then [] else [generator.config.tagImport]) ++
      (if document.operations.isEmpty then [] else generator.config.typesImports)).Nodup := by
  rw [← generator.imports_moduleSession, moduleSession, Session.imports_playAll]
  exact nodup_registerAll List.nodup_nil _

/-- The parts of a module use what its session imports. -/
theorem Generator.moduleSession_importsUses (generator : Generator) (document : Document)
    (records : List OperationRecord) :
    ImportsUses generator document
      { preamble := (generator.moduleSession document).preamble generator.config
        content := String.intercalate "\n" (generator.contentParts document)
        records } := by
  have imported := generator.preamble_moduleSession document
  refine ⟨imported, ?_, ?_, moduleConstants_ne_nil_iff, ?_, ?_⟩
  · rw [imported, List.tail_cons]
    exact generator.nodup_imports document
  · exact congrArg (String.intercalate "\n") (generator.contentParts_eq document)
  · intro constant member
    have filled : (generator.moduleConstants document).isEmpty = false := by
      simpa using List.ne_nil_of_mem member
    refine ⟨constant.exists_text generator, ?_⟩
    rw [imported, filled]
    exact List.mem_cons_of_mem _ (List.mem_append_left _ (List.mem_singleton_self _))
  · intro operation member type mentioned
    have filled : document.operations.isEmpty = false := by
      simpa using List.ne_nil_of_mem member
    have ending : ∃ ending, type =
        generator.config.operationType (operation.name.getD "") ending := by
      rcases List.mem_cons.1 mentioned with rfl | last
      · exact ⟨_, rfl⟩
      · exact ⟨_, List.mem_singleton.1 last⟩
    obtain ⟨ending, rfl⟩ := ending
    refine ⟨ending, ?_⟩
    rcases generator.config.operationType_cases (operation.name.getD "") ending with
      bare | ⟨module, configured, some, qualified⟩
    · exact .inl bare
    · refine .inr ⟨module, configured, some, qualified, ?_⟩
      have types : generator.config.typesImports =
          [importNamespace generator.config.namespacedImportName module] := by
        rw [Config.typesImports, configured]
        exact if_neg some
      rw [imported, filled, types]
      exact List.mem_cons_of_mem _ (List.mem_append_right _ (List.mem_singleton_self _))

/-- **The imports of a module.** A module imports the client types, the tag if it has a constant,
and the operation types if they come from a module and it has an operation. -/
theorem generate_importsUses (config : Config) (documents : List Document)
    (filters : List OperationFilter) (named : HasTextNames config.externalFragments) :
    let document := Document.applyFilters documents.flatten filters
    ∃ bundle, (generate config documents filters {}).2 = .ok bundle ∧
      ImportsUses { config, fragments := document.resolveFragments config.externalFragments }
        document bundle := by
  intro document
  have generated := congrArg Prod.snd (generate_packaged config documents filters named)
  exact ⟨_, generated, Generator.moduleSession_importsUses _ document _⟩

/-- The operation types come from a module, the tag is the export of another, and a fragment `User`
is given that the module declares. -/
def sharedConfig : Config where
  externalFragments := [⟨idFragment, .text "User", .text "User", .flag false⟩]
  gqlImport := "@apollo/client#gql"
  importOperationTypesFrom := some "./types"

/-- A mutation and a subscription. -/
def newsDocument : Document :=
  [.operation ⟨none, .mutation, some "save", [], [], [.field none "save" [] [] []]⟩,
    .operation ⟨none, .subscription, some "news", [], [], [.spread "User" []]⟩]

/-- The subscription that a filter leaves has no wrapper, and yet its types are imported. -/
theorem generate_importsUses_news :
    HasTextNames sharedConfig.externalFragments ∧
      ∃ bundle, (generate sharedConfig [newsDocument] [{ excludedStart := some "sa" }] {}).2 =
          .ok bundle ∧
        ImportsUses
          { config := sharedConfig
            fragments := (Document.applyFilters [newsDocument].flatten
              [{ excludedStart := some "sa" }]).resolveFragments sharedConfig.externalFragments }
          (Document.applyFilters [newsDocument].flatten [{ excludedStart := some "sa" }]) bundle :=
  have named : HasTextNames sharedConfig.externalFragments :=
    fun _ member => ⟨"User", by rw [List.mem_singleton.1 member]⟩
  ⟨named, generate_importsUses sharedConfig [newsDocument] [{ excludedStart := some "sa" }] named⟩

end TypedClient

import TypedClient.Generation.Session

/-! # What a document emits

With the packaged templates and fragments whose names are texts, no part of a generation can fail,
and each part has its events and its text in closed form: the constant of a document
(`constant_packaged`), the wrapper and the record of an operation (`emit_packaged`), and the whole
traversal of a document (`traverse_packaged`).

The main statement, `traverse_emits`, says what a document emits, what it records and what it warns
about. Every operation has its constant; the policy on mutations decides which have a wrapper and
which a record, and the two differ only for mutations that are recorded without a wrapper. Each of
those is announced by one warning.
-/

namespace TypedClient

open Document

/-! ## Runs that cannot fail -/

namespace Trace

variable {α β : Type}

/-- Parts that all succeed give their events and their values in order. -/
theorem mapM_ok {part : α → Trace β} {events : α → List Event} {value : α → β} {items : List α}
    (succeeds : ∀ item ∈ items, part item = ⟨events item, .ok (value item)⟩) :
    items.mapM part = ⟨items.flatMap events, .ok (items.map value)⟩ := by
  induction items with
  | nil => rfl
  | cons item rest ih =>
      rw [List.mapM_cons, succeeds item List.mem_cons_self, bind_ok,
        ih fun other member => succeeds other (List.mem_cons_of_mem _ member)]
      simp

end Trace

/-- Every descriptor of the list goes by a text. -/
def HasTextNames (fragments : List FragmentDescriptor) : Prop :=
  ∀ descriptor ∈ fragments, ∃ name, descriptor.name = .text name

/-- The operation gets a wrapper: it is a query, or a mutation where the policy asks for wrappers of
mutations. -/
def Document.Operation.isWrapped (policy : MutationPolicy) (operation : Operation) : Bool :=
  match operation.kind with
  | .query => true
  | .mutation => policy == .emit
  | .subscription => false

/-- The operation has a record: it is a query, or a mutation that is not left out. -/
def Document.Operation.isRecorded (policy : MutationPolicy) (operation : Operation) : Bool :=
  match operation.kind with
  | .query => true
  | .mutation => policy != .exclude
  | .subscription => false

/-- The record of an operation. -/
def Document.Operation.record (config : Config) (operation : Operation) : OperationRecord :=
  .ofSpec (operation.spec config)

/-- The record in the group that the operation belongs to. -/
def Document.Operation.groupedRecord (config : Config) (operation : Operation) : GroupedRecord :=
  match operation.kind with
  | .mutation => .mutation (operation.record config)
  | _ => .query (operation.record config)

/-- The warnings among events. -/
def warnings (events : List Event) : List Notice :=
  events.filterMap fun
    | .notice notice => if notice.isWarning then some notice else none
    | _ => none

@[simp] theorem warnings_nil : warnings [] = [] := rfl

/-- Warnings come in the order of the events. -/
theorem warnings_append (first second : List Event) :
    warnings (first ++ second) = warnings first ++ warnings second :=
  List.filterMap_append

/-- Warnings about several items are those about each. -/
theorem warnings_flatMap {α : Type} (events : α → List Event) (items : List α) :
    warnings (items.flatMap events) = items.flatMap fun item => warnings (events item) :=
  List.filterMap_flatMap

namespace Generator

variable (generator : Generator)

/-- The references that the constant of a selection set ends with. -/
def referenceNames (selections : List Selection) : List String :=
  (neededFragments generator.fragments selections).map generator.config.fragmentVariable

/-- The constant of an operation in the packaged form. -/
def documentText (operation : Operation) : String :=
  Template.renderDocument (generator.config.documentVariable (operation.name.getD ""))
    operation.print (generator.referenceNames operation.selections)

/-- The wrapper of an operation in the packaged form, empty if it gets none. -/
def wrapperText (operation : Operation) : String :=
  if operation.isWrapped generator.config.mutationPolicy then
    Template.renderOperation (operation.spec generator.config)
  else ""

/-- The constant of an operation above its wrapper. -/
def bodyText (operation : Operation) : String :=
  generator.documentText operation ++ "\n" ++ generator.wrapperText operation

/-- The events of looking up a type. -/
def typeEvents : List Event :=
  (generator.config.typesImport?.map Event.require).toList

/-- What is said about an operation without a wrapper. -/
def emissionNotices (operation : Operation) : List Notice :=
  let spec := operation.spec generator.config
  match operation.kind, generator.config.mutationPolicy with
  | .subscription, _ => [.operationSkipped spec.name]
  | .mutation, .exclude => [.mutationExcluded spec.name]
  | .mutation, .recordOnly => [.mutationUnwrapped spec.name spec.functionName]
  | _, _ => []

/-- The events of the wrapper and the record of an operation. -/
def emissionEvents (operation : Operation) : List Event :=
  generator.typeEvents ++ generator.typeEvents ++
    (generator.emissionNotices operation).map Event.notice

/-- The events of an operation. -/
def operationEvents (operation : Operation) : List Event :=
  [.collect, .require generator.config.tagImport] ++ generator.emissionEvents operation

/-- The record that an operation leaves behind. -/
def record? (operation : Operation) : Option GroupedRecord :=
  if operation.isRecorded generator.config.mutationPolicy then
    some (operation.groupedRecord generator.config)
  else none

/-- The records of a document. -/
def documentRecords (document : Document) : Records where
  queries := (document.operations.filter (·.kind = .query)).map (·.record generator.config)
  mutations := if generator.config.mutationPolicy = .exclude then []
    else (document.operations.filter (·.kind = .mutation)).map (·.record generator.config)

variable {generator}

/-! ## Constants -/

/-- With names that are texts, references are found. -/
theorem references_ok (named : HasTextNames generator.fragments) (selections : List Selection) :
    generator.references selections = .ok (generator.referenceNames selections) := by
  have keys : generator.fragments.all (·.name.isKey) = true := by
    rw [List.all_eq_true]
    intro descriptor member
    obtain ⟨name, isText⟩ := named descriptor member
    rw [isText]
    rfl
  rw [references, if_pos keys, referenceNames]

/-- A constant requires the tag and has the packaged form. -/
theorem constant_packaged (packaged : generator.templates = {})
    (named : HasTextNames generator.fragments) (name body : String)
    (selections : List Selection) :
    generator.constant name body selections =
      ⟨[.require generator.config.tagImport],
        .ok (Template.renderDocument name body (generator.referenceNames selections))⟩ := by
  rw [constant, references_ok named, packaged]
  rfl

/-! ## Wrappers and records -/

/-- The types of a run are required as one or not at all. -/
theorem requireTypes_eq : generator.requireTypes = ⟨generator.typeEvents, .ok ()⟩ := by
  unfold requireTypes typeEvents
  cases generator.config.typesImport? <;> rfl

theorem wrapper_packaged (packaged : generator.templates = {}) (spec : OperationSpec) :
    generator.wrapper spec = ⟨[], .ok (Template.renderOperation spec)⟩ := by
  rw [wrapper, packaged]
  rfl

/-- The specification of an operation requires the types of its result and of its variables. -/
theorem spec_eq (operation : Operation) : generator.spec operation =
    ⟨generator.typeEvents ++ generator.typeEvents, .ok (operation.spec generator.config)⟩ := by
  simp only [spec, requireTypes_eq, Trace.bind_ok, Trace.pure_eq, List.append_nil]

/-- The events of an emission and its record do not depend on the templates. Only the text of a
wrapper does, and it can fail. -/
theorem emit_eq (operation : Operation) :
    generator.emit operation =
      ⟨generator.emissionEvents operation,
        (if operation.isWrapped generator.config.mutationPolicy then
          (generator.wrapper (operation.spec generator.config)).outcome
        else .ok "").map fun wrapper => ⟨wrapper, generator.record? operation⟩⟩ := by
  rw [emit, spec_eq, Trace.bind_ok]
  unfold emitSpec emissionEvents emissionNotices record? Operation.isWrapped Operation.isRecorded
    Operation.groupedRecord Operation.record wrapper Trace.lift
  generalize (generator.templates.renderOperation (operation.spec generator.config)).mapError
    GenerationFault.template = rendered
  cases kind : operation.kind with
  | query => cases rendered <;> simp [Except.map]
  | subscription => simp [Trace.note, Trace.emit, Except.map]
  | mutation =>
      cases policy : generator.config.mutationPolicy with
      | emit => cases rendered <;> simp [Except.map]
      | exclude => simp [Trace.note, Trace.emit, Except.map]
      | recordOnly => simp [Trace.note, Trace.emit, Except.map]

/-- An operation is emitted with its wrapper and its record. -/
theorem emit_packaged (packaged : generator.templates = {}) (operation : Operation) :
    generator.emit operation =
      ⟨generator.emissionEvents operation,
        .ok ⟨generator.wrapperText operation, generator.record? operation⟩⟩ := by
  rw [emit_eq, wrapper_packaged packaged, wrapperText]
  split <;> rfl

/-- The part of an operation is its body, with its record. -/
theorem operationPart_packaged (packaged : generator.templates = {})
    (named : HasTextNames generator.fragments) (operation : Operation) :
    generator.operationPart operation =
      ⟨generator.operationEvents operation,
        .ok (generator.bodyText operation, generator.record? operation)⟩ := by
  rw [operationPart, documentConstant, constant_packaged packaged named, emit_packaged packaged]
  simp [Trace.emit, operationEvents, bodyText, documentText]

/-! ## Documents -/

end Generator

/-- Records are kept by kind, each kind in the order of the entries. -/
theorem Records.foldl_add (entries : List GroupedRecord) (records : Records) :
    entries.foldl Records.add records =
      { queries := records.queries ++ entries.filterMap fun
          | .query record => some record
          | .mutation _ => none
        mutations := records.mutations ++ entries.filterMap fun
          | .query _ => none
          | .mutation record => some record } := by
  induction entries generalizing records with
  | nil => simp
  | cons entry rest ih =>
      rw [List.foldl_cons, ih]
      cases entry <;> simp [Records.add]

namespace Generator

variable {generator : Generator}

/-- The records of the operations one by one are the records of the document. -/
theorem ofList_record? (document : Document) :
    Records.ofList (document.operations.filterMap generator.record?) =
      generator.documentRecords document := by
  rw [Records.ofList, Records.foldl_add, documentRecords, Records.mk.injEq]
  simp only [List.nil_append, List.filterMap_filterMap]
  constructor
  · rw [← List.filterMap_eq_map, List.filterMap_filter]
    congr 1
    funext operation
    unfold record? Operation.isRecorded Operation.groupedRecord
    cases operation.kind <;> simp
  · by_cases excluded : generator.config.mutationPolicy = .exclude
    · rw [if_pos excluded, List.filterMap_eq_nil_iff]
      intro operation _
      unfold record? Operation.isRecorded Operation.groupedRecord
      cases operation.kind <;> simp [excluded]
    · rw [if_neg excluded, ← List.filterMap_eq_map, List.filterMap_filter]
      congr 1
      funext operation
      unfold record? Operation.isRecorded Operation.groupedRecord
      cases operation.kind <;> simp [excluded]

/-- A document is traversed operation by operation, with a notice at the end. -/
theorem traverse_packaged (packaged : generator.templates = {})
    (named : HasTextNames generator.fragments) (document : Document) :
    generator.traverse document =
      ⟨document.operations.flatMap generator.operationEvents ++
          [.notice (.recordsEmitted (generator.documentRecords document).queries.length
            (generator.documentRecords document).mutations.length)],
        .ok ⟨document.operations.map generator.bodyText, generator.documentRecords document⟩⟩ := by
  rw [traverse, Trace.mapM_ok fun operation _ => operationPart_packaged packaged named operation,
    Trace.bind_ok]
  have records : (document.operations.map fun operation =>
      (generator.bodyText operation, generator.record? operation)).filterMap (·.2) =
        document.operations.filterMap generator.record? := by
    rw [List.filterMap_map]
    rfl
  rw [records, ofList_record?, List.map_map]
  simp only [Trace.note, Trace.emit, Trace.bind_ok, Trace.pure_eq, List.append_nil]
  rfl

/-- The warnings of an operation are those among its notices. -/
theorem warnings_operationEvents (operation : Operation) :
    warnings (generator.operationEvents operation) =
      (generator.emissionNotices operation).filter Notice.isWarning := by
  have silent : warnings generator.typeEvents = [] := by
    unfold typeEvents
    cases generator.config.typesImport? <;> rfl
  rw [operationEvents, emissionEvents, warnings_append, warnings_append, warnings_append, silent]
  simp only [warnings, List.filterMap_map, List.filterMap_cons, List.filterMap_nil,
    List.nil_append]
  rw [← List.filterMap_eq_filter]
  rfl

/-- A traversal warns about the mutations that are recorded without a wrapper, once each. -/
theorem warnings_traverse (packaged : generator.templates = {})
    (named : HasTextNames generator.fragments) (document : Document) :
    warnings (generator.traverse document).events =
      if generator.config.mutationPolicy = .recordOnly then
        (document.operations.filter (·.kind = .mutation)).map fun operation =>
          .mutationUnwrapped (operation.spec generator.config).name
            (operation.spec generator.config).functionName
      else [] := by
  rw [traverse_packaged packaged named, warnings_append, warnings_flatMap]
  have last (queries mutations : Nat) :
      warnings [.notice (.recordsEmitted queries mutations)] = [] := rfl
  simp only [last, List.append_nil, warnings_operationEvents]
  by_cases policy : generator.config.mutationPolicy = .recordOnly
  · rw [if_pos policy]
    induction document.operations with
    | nil => rfl
    | cons operation rest ih =>
        rw [List.flatMap_cons, ih]
        unfold emissionNotices
        cases kind : operation.kind <;> simp [kind, policy, Notice.isWarning, List.filter_cons]
  · rw [if_neg policy, List.flatMap_eq_nil_iff]
    intro operation _
    unfold emissionNotices
    cases operation.kind <;> cases rule : generator.config.mutationPolicy <;>
      simp_all [Notice.isWarning]

end Generator

/-! ## The main statement -/

/-- What a document emits, records and warns about under a configuration. -/
structure Emits (config : Config) (fragments : List FragmentDescriptor) (document : Document)
    (emission : Emission) (announced : List Notice) : Prop where
  /-- One body for each operation, in order: its constant, and its wrapper if it is a query, or a
  mutation where mutations are emitted. -/
  bodies : emission.bodies = document.operations.map fun operation =>
    ({ config, fragments } : Generator).documentText operation ++ "\n" ++
      if operation.kind = .query ∨ operation.kind = .mutation ∧ config.mutationPolicy = .emit then
        Template.renderOperation (operation.spec config)
      else ""
  queries : emission.records.queries =
    (document.operations.filter (·.kind = .query)).map (·.record config)
  mutations : emission.records.mutations =
    if config.mutationPolicy = .exclude then []
    else (document.operations.filter (·.kind = .mutation)).map (·.record config)
  /-- Each mutation that is recorded without a wrapper is announced once, and nothing else is. -/
  announced : announced =
    if config.mutationPolicy = .recordOnly then
      (document.operations.filter (·.kind = .mutation)).map fun operation =>
        .mutationUnwrapped (operation.spec config).name (operation.spec config).functionName
    else []
  /-- The functions that the factory calls and no body declares are those of the announced
  mutations. -/
  undeclared : ∀ function,
    (function ∈ emission.records.all.map (·.functionName) ∧
      ¬ ∃ operation ∈ document.operations, operation.isWrapped config.mutationPolicy ∧
        (operation.spec config).functionName = function) ↔
    config.mutationPolicy = .recordOnly ∧
      ∃ operation ∈ document.operations, operation.kind = .mutation ∧
        (operation.spec config).functionName = function

/-- No query and mutation have one function. -/
theorem functionName_ne {config : Config} {query mutation : Operation}
    (isQuery : query.kind = .query) (isMutation : mutation.kind = .mutation) :
    (query.spec config).functionName ≠ (mutation.spec config).functionName := by
  intro same
  have heads := congrArg (·.toList.head?) same
  simp [OperationSpec.functionName, Operation.spec, Config.operationSpec, isQuery, isMutation,
    OperationKind.action] at heads

/-- A function is called by the factory if it belongs to a recorded operation. -/
theorem Generator.mem_functionName_documentRecords {generator : Generator} {document : Document}
    {function : String} :
    function ∈ (generator.documentRecords document).all.map (·.functionName) ↔
      ∃ operation ∈ document.operations,
        operation.isRecorded generator.config.mutationPolicy ∧
          (operation.spec generator.config).functionName = function := by
  rw [List.mem_map]
  constructor
  · rintro ⟨record, member, same⟩
    rcases List.mem_append.1 member with isQuery | isMutation
    · obtain ⟨operation, found, rfl⟩ := List.mem_map.1 isQuery
      obtain ⟨inside, kind⟩ := List.mem_filter.1 found
      exact ⟨operation, inside, by simp_all [Operation.isRecorded], same⟩
    · unfold documentRecords at isMutation
      split at isMutation
      · cases isMutation
      · obtain ⟨operation, found, rfl⟩ := List.mem_map.1 isMutation
        obtain ⟨inside, kind⟩ := List.mem_filter.1 found
        exact ⟨operation, inside, by simp_all [Operation.isRecorded], same⟩
  · rintro ⟨operation, inside, isRecorded, same⟩
    refine ⟨operation.record generator.config, List.mem_append.2 ?_, same⟩
    unfold Operation.isRecorded at isRecorded
    cases kind : operation.kind with
    | query => exact .inl (List.mem_map_of_mem (List.mem_filter.2 ⟨inside, by rw [kind]; rfl⟩))
    | subscription =>
        rw [kind] at isRecorded
        cases isRecorded
    | mutation =>
        rw [kind] at isRecorded
        unfold documentRecords
        rw [if_neg (by simpa using isRecorded)]
        exact .inr (List.mem_map_of_mem (List.mem_filter.2 ⟨inside, by rw [kind]; rfl⟩))

/-- **What is emitted, recorded and warned about.** With the packaged templates and fragments whose
names are texts, a document of any operations emits, records and announces just that. -/
theorem traverse_emits (config : Config) (fragments : List FragmentDescriptor)
    (named : HasTextNames fragments) (document : Document) :
    ∃ emission, (({ config, fragments } : Generator).traverse document).outcome = .ok emission ∧
      Emits config fragments document emission
        (warnings (({ config, fragments } : Generator).traverse document).events) := by
  have traversed : ({ config, fragments } : Generator).traverse document = _ :=
    Generator.traverse_packaged rfl named document
  refine ⟨_, congrArg Trace.outcome traversed, ⟨?_, rfl, rfl, ?_, ?_⟩⟩
  · refine List.map_congr_left fun operation _ => ?_
    unfold Generator.bodyText Generator.wrapperText Operation.isWrapped
    cases operation.kind <;> simp
  · exact Generator.warnings_traverse rfl named document
  · intro function
    rw [Generator.mem_functionName_documentRecords]
    constructor
    · rintro ⟨⟨operation, inside, isRecorded, same⟩, undeclared⟩
      have unwrapped : ¬ operation.isWrapped config.mutationPolicy = true :=
        fun wrapped => undeclared ⟨operation, inside, wrapped, same⟩
      unfold Operation.isRecorded at isRecorded
      unfold Operation.isWrapped at unwrapped
      cases kind : operation.kind <;> rw [kind] at isRecorded unwrapped
      · exact absurd rfl unwrapped
      · refine ⟨?_, operation, inside, kind, same⟩
        cases policy : config.mutationPolicy <;> simp_all
      · cases isRecorded
    · rintro ⟨policy, mutation, inside, isMutation, same⟩
      refine ⟨⟨mutation, inside, by simp [Operation.isRecorded, isMutation, policy], same⟩, ?_⟩
      rintro ⟨operation, _, wrapped, again⟩
      unfold Operation.isWrapped at wrapped
      cases kind : operation.kind with
      | query => exact functionName_ne kind isMutation (again.trans same.symm)
      | mutation => simp [kind, policy] at wrapped
      | subscription => simp [kind] at wrapped

/-- A fragment `F` on `User` with the field `id`. -/
def idFragment : Fragment :=
  ⟨none, "F", "User", [], [.field none "id" [] [] []]⟩

/-- An anonymous query that spreads `F`, the mutation `save` with a required variable, twice, the
fragment itself, and a subscription. -/
def mixedDocument : Document :=
  let save : Operation := ⟨none, .mutation, some "save",
    [⟨none, "id", .nonNull (.named "ID"), none, []⟩], [], [.field none "save" [] [] []]⟩
  [.operation ⟨none, .query, none, [], [], [.spread "F" []]⟩, .operation save,
    .fragment idFragment, .operation save,
    .operation ⟨none, .subscription, some "news", [], [], [.field none "news" [] [] []]⟩]

theorem traverse_emits_mixed :
    HasTextNames [.ofFragment idFragment false] ∧
      ∃ emission, (({ fragments := [.ofFragment idFragment false] } : Generator).traverse
          mixedDocument).outcome = .ok emission ∧
        Emits {} [.ofFragment idFragment false] mixedDocument emission
          (warnings (({ fragments := [.ofFragment idFragment false] } : Generator).traverse
            mixedDocument).events) :=
  have named : HasTextNames [.ofFragment idFragment false] :=
    fun _ member => ⟨"F", by rw [List.mem_singleton.1 member]; rfl⟩
  ⟨named, traverse_emits {} [.ofFragment idFragment false] named mixedDocument⟩

end TypedClient

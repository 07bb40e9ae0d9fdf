import TypedClient.Proofs.Generation.Event

/-! # Operations and fragments in order

A module depends on the operations of its documents and on the fragments, each in order. How the two
are mixed with each other and with other definitions is no matter, nor is where one document ends
and the next begins (`generate_eq_of_sameParts`). A traversal looks at one operation after the other
and carries nothing on: the traversal of two documents in a row emits what those of the two emit,
whatever was gathered before (`Generator.outcome_traverse_append`).
-/

namespace TypedClient

open Document

/-! ## What a module depends on -/

/-- The documents have the same operations and the same fragments, each in the same order. -/
structure Document.SameParts (first second : Document) : Prop where
  operations : first.operations = second.operations
  fragments : first.fragments = second.fragments

namespace Document

/-- The operations of two documents are those of each. -/
theorem operations_append (first second : Document) :
    Document.operations (first ++ second) = first.operations ++ second.operations :=
  List.filterMap_append

/-- A filter looks at operations one by one. -/
theorem operations_filterOperations (document : Document) (filter : OperationFilter) :
    (document.filterOperations filter).operations =
      document.operations.filter fun operation => operation.name.all filter.keepsName := by
  unfold filterOperations operations
  rw [List.filterMap_filter, List.filter_filterMap]
  congr 1
  funext definition
  cases definition <;> rfl

/-- A filter leaves fragments alone. -/
theorem fragments_filterOperations (document : Document) (filter : OperationFilter) :
    (document.filterOperations filter).fragments = document.fragments := by
  unfold filterOperations fragments
  rw [List.filterMap_filter]
  congr 1
  funext definition
  cases definition with
  | operation operation => exact ite_self _
  | _ => rfl

namespace SameParts

variable {first second : Document}

/-- A filter keeps the same parts of documents with the same parts. -/
theorem filterOperations (same : SameParts first second) (filter : OperationFilter) :
    SameParts (first.filterOperations filter) (second.filterOperations filter) where
  operations := by
    rw [operations_filterOperations, operations_filterOperations, same.operations]
  fragments := by
    rw [fragments_filterOperations, fragments_filterOperations, same.fragments]

/-- Filters keep the same parts of documents with the same parts. -/
theorem applyFilters (same : SameParts first second) (filters : List OperationFilter) :
    SameParts (first.applyFilters filters) (second.applyFilters filters) := by
  induction filters generalizing first second with
  | nil => exact same
  | cons filter rest ih => exact ih (same.filterOperations filter)

/-- The index only looks at operations. -/
theorem index (same : SameParts first second) : first.index = second.index := by
  simp only [Document.index, operationNames, same.operations, same.fragments]

/-- Fragments are resolved from the fragments alone. -/
theorem resolveFragments (same : SameParts first second) (external : List FragmentDescriptor) :
    first.resolveFragments external = second.resolveFragments external := by
  simp only [Document.resolveFragments, same.fragments]

/-- Only operations are traversed. -/
theorem traverse (same : SameParts first second) (generator : Generator) :
    generator.traverse first = generator.traverse second := by
  simp only [Generator.traverse, same.operations]

/-- A module only depends on the operations and on the fragments. -/
theorem moduleTrace (same : SameParts first second) (generator : Generator) :
    generator.moduleTrace first = generator.moduleTrace second := by
  simp only [Generator.moduleTrace, same.index, same.traverse]

end SameParts

end Document

/-- Documents with the same operations and the same fragments have one module: the same session with
all imports and notices, and the same bundle or the same fault. -/
theorem generate_eq_of_sameParts {first second : List Document}
    (same : Document.SameParts first.flatten second.flatten) (config : Config)
    (filters : List OperationFilter) (templates : Templates) :
    generate config first filters templates = generate config second filters templates := by
  have kept := same.applyFilters filters
  simp only [generate, kept.fragments, kept.resolveFragments, kept.moduleTrace]

/-! ## Traversals in a row -/

namespace Trace

variable {α β : Type}

/-- The outcomes of parts follow one another like the parts. -/
theorem outcome_mapM (part : α → Trace β) (items : List α) :
    (items.mapM part).outcome = items.mapM fun item => (part item).outcome := by
  induction items with
  | nil => rfl
  | cons item rest ih =>
      rw [List.mapM_cons, List.mapM_cons, outcome_bind_eq]
      simp only [outcome_bind_eq, ih]
      rfl

end Trace

/-- One emission after another. -/
def Emission.append (front back : Emission) : Emission where
  bodies := front.bodies ++ back.bodies
  records :=
    { queries := front.records.queries ++ back.records.queries
      mutations := front.records.mutations ++ back.records.mutations }

/-- The emission that parts make up. -/
def Emission.ofParts (parts : List (String × Option GroupedRecord)) : Emission where
  bodies := parts.map (·.1)
  records := Records.ofList (parts.filterMap (·.2))

/-- The parts of two documents are emitted one behind the other. -/
theorem Emission.ofParts_append (front back : List (String × Option GroupedRecord)) :
    ofParts (front ++ back) = (ofParts front).append (ofParts back) := by
  simp only [ofParts, append, Records.ofList, Records.foldl_add, List.map_append,
    List.filterMap_append, List.nil_append]

/-- A traversal of a document in a session, with records of its own: the session after it, and the
emission. -/
def Session.traverse (session : Session) (generator : Generator) (document : Document) :
    Session × Except GenerationFault Emission :=
  let trace := generator.traverse document
  (session.playAll trace.events, trace.outcome)

/-- A step that traverses a document answers with the bodies of the emission. -/
theorem Session.step_traverse (session : Session) (generator : Generator) (document : Document) :
    session.step generator (.traverse document) =
      ((session.traverse generator document).1,
        (session.traverse generator document).2.map fun emission => .texts emission.bodies) := by
  have parts : (Step.traverse document).trace generator session =
      generator.traverse document >>= fun emission => pure (.texts emission.bodies, none) := rfl
  unfold Session.step Session.traverse
  dsimp only
  rw [parts, Trace.events_bind_pure, Trace.outcome_bind_eq]
  cases (generator.traverse document).outcome <;> rfl

/-- Events that register the same, collect as often and render the same are alike to a session,
whatever notices are among them. -/
structure GatherAlike (first second : List Event) : Prop where
  registrations : registrations first = registrations second
  collected : first.count .collect = second.count .collect
  renderings : renderings first = renderings second

/-- What a session has gathered, apart from the notices. -/
structure Session.SameGathered (first second : Session) : Prop where
  imports : first.imports = second.imports
  collected : first.collected = second.collected
  fragmentsRendered : first.fragmentsRendered = second.fragmentsRendered
  records : first.records = second.records

/-- Events that gather alike leave sessions that have gathered the same. -/
theorem GatherAlike.playAll {first second : List Event} (alike : GatherAlike first second)
    (session : Session) : (session.playAll first).SameGathered (session.playAll second) where
  imports := by rw [Session.imports_playAll, Session.imports_playAll, alike.registrations]
  collected := by rw [Session.collected_playAll, Session.collected_playAll, alike.collected]
  fragmentsRendered := by
    rw [Session.fragmentsRendered_playAll, Session.fragmentsRendered_playAll, alike.renderings]
  records := by rw [Session.records_playAll, Session.records_playAll]

theorem gatherAlike_notices (front back : List Event) (first second joined : Notice) :
    GatherAlike (front ++ back ++ [.notice joined])
      (front ++ [.notice first] ++ (back ++ [.notice second])) where
  registrations := by simp [registrations_append]
  collected := by simp
  renderings := by simp [renderings_append]

namespace Generator

variable (generator : Generator)

/-- What comes of a document are the parts of its operations. -/
theorem outcome_traverse (document : Document) :
    (generator.traverse document).outcome =
      (document.operations.mapM fun operation => (generator.operationPart operation).outcome).map
        Emission.ofParts := by
  rw [traverse, Trace.outcome_bind_eq, Trace.outcome_mapM]
  rfl

/-- Two documents in a row emit what the first emits and then what the second emits. The first
fault, if there is one, is the fault of both. -/
theorem outcome_traverse_append (first second : Document) :
    (generator.traverse (first ++ second)).outcome = do
      let front ← (generator.traverse first).outcome
      let back ← (generator.traverse second).outcome
      return front.append back := by
  rw [outcome_traverse, outcome_traverse, outcome_traverse, operations_append, List.mapM_append]
  generalize (first.operations.mapM fun operation =>
    (generator.operationPart operation).outcome) = front
  generalize (second.operations.mapM fun operation =>
    (generator.operationPart operation).outcome) = back
  cases front with
  | error fault => rfl
  | ok front =>
      cases back with
      | error fault => rfl
      | ok back => exact congrArg Except.ok (Emission.ofParts_append front back)

variable {generator}

/-- An operation that succeeds causes all of its events, whatever the templates are. -/
theorem operationPart_events_of_ok {operation : Operation} {part : String × Option GroupedRecord}
    (done : (generator.operationPart operation).outcome = .ok part) :
    (generator.operationPart operation).events = generator.operationEvents operation := by
  unfold operationPart at done ⊢
  obtain ⟨text, rendered, _⟩ := Trace.outcome_bind.1 done
  rw [Trace.bind_eq, rendered]
  dsimp only
  rw [Trace.events_bind_pure, documentConstant_events, emit_eq, operationEvents]

/-- A traversal that succeeds causes all events of its operations, and one notice of what it has
emitted. -/
theorem traverse_events_eq {document : Document} {emission : Emission}
    (done : (generator.traverse document).outcome = .ok emission) :
    (generator.traverse document).events = document.operations.flatMap generator.operationEvents ++
      [.notice (.recordsEmitted emission.records.queries.length
        emission.records.mutations.length)] := by
  unfold traverse at done ⊢
  obtain ⟨parts, rendered, last⟩ := Trace.outcome_bind.1 done
  cases last
  have own := Trace.events_mapM_of_ok (fun _ _ => operationPart_events_of_ok) rendered
  rw [Trace.bind_eq, rendered]
  dsimp only
  rw [own, Trace.events_bind_pure]
  rfl

/-- The events of a document are those of its operations and a notice. -/
theorem traverse_events_of_ok {document : Document} {emission : Emission}
    (done : (generator.traverse document).outcome = .ok emission) :
    ∃ notice, (generator.traverse document).events =
      document.operations.flatMap generator.operationEvents ++ [.notice notice] :=
  ⟨_, traverse_events_eq done⟩

/-- If two documents in a row succeed, each does by itself. -/
theorem succeed_of_traverse_append {first second : Document} {emission : Emission}
    (done : (generator.traverse (first ++ second)).outcome = .ok emission) :
    (∃ front, (generator.traverse first).outcome = .ok front) ∧
      ∃ back, (generator.traverse second).outcome = .ok back := by
  rw [outcome_traverse_append] at done
  cases front : (generator.traverse first).outcome with
  | error fault =>
      rw [front] at done
      cases done
  | ok emitted =>
      cases back : (generator.traverse second).outcome with
      | error fault =>
          rw [front, back] at done
          cases done
      | ok rest => exact ⟨⟨emitted, rfl⟩, rest, rfl⟩

/-- A session gathers the same from two documents in a row as from one after the other. -/
theorem sameGathered_traverse_append {first second : Document} {emission : Emission}
    (done : (generator.traverse (first ++ second)).outcome = .ok emission) (session : Session) :
    (session.traverse generator (first ++ second)).1.SameGathered
      ((session.traverse generator first).1.traverse generator second).1 := by
  obtain ⟨joined, own⟩ := traverse_events_of_ok done
  obtain ⟨⟨front, rendered⟩, back, renderedToo⟩ := succeed_of_traverse_append done
  obtain ⟨before, events⟩ := traverse_events_of_ok rendered
  obtain ⟨after, eventsToo⟩ := traverse_events_of_ok renderedToo
  have parts : ((session.traverse generator first).1.traverse generator second).1 =
      session.playAll ((generator.traverse first).events ++ (generator.traverse second).events) :=
    (List.foldl_append).symm
  rw [parts, events, eventsToo]
  change (session.playAll (generator.traverse (first ++ second)).events).SameGathered _
  rw [own, operations_append, List.flatMap_append]
  -- Only the notices at the ends of the traversals differ.
  exact (gatherAlike_notices _ _ before after joined).playAll session

end Generator

/-- How a generator traverses two documents in a row. -/
structure TraversesInOrder (generator : Generator) (first second : Document) : Prop where
  /-- The bodies, the queries and the mutations of both are those of the first and then those of the
  second, whatever had been gathered before each of the three traversals. -/
  emission : ∀ session before between : Session,
    (session.traverse generator (first ++ second)).2 = do
      let front ← (before.traverse generator first).2
      let back ← (between.traverse generator second).2
      return {
        bodies := front.bodies ++ back.bodies
        records := {
          queries := front.records.queries ++ back.records.queries
          mutations := front.records.mutations ++ back.records.mutations } }
  /-- With the packaged templates and texts as names there is such an emission. -/
  succeeds : generator.templates = {} → HasTextNames generator.fragments →
    ∃ emission, ∀ session : Session,
      (session.traverse generator (first ++ second)).2 = .ok emission
  /-- A session gathers the same from both as from one after the other, unless one fails. -/
  gathered : ∀ session : Session, ∀ emission,
    (session.traverse generator (first ++ second)).2 = .ok emission →
      (session.traverse generator (first ++ second)).1.SameGathered
        ((session.traverse generator first).1.traverse generator second).1

/-- Two documents in a row are traversed one after the other. -/
theorem Generator.traversesInOrder (generator : Generator) (first second : Document) :
    TraversesInOrder generator first second where
  emission _ _ _ := generator.outcome_traverse_append first second
  succeeds packaged named :=
    ⟨_, fun _ => congrArg Trace.outcome (traverse_packaged packaged named (first ++ second))⟩
  gathered session _ done := sameGathered_traverse_append done session

/-- **Order is all that matters.** Documents with the same operations and the same fragments, each
in the same order, have one module: one session with all imports, records and notices, and one
bundle or one fault. And no operation leaves a trace in the next one: two documents in a row emit
what one emits and then what the other emits, in any session. -/
theorem generate_eq_and_traverse_append {first second : List Document}
    (same : Document.SameParts first.flatten second.flatten) (config : Config)
    (filters : List OperationFilter) (templates : Templates) :
    generate config first filters templates = generate config second filters templates ∧
      ∀ (fragments : List FragmentDescriptor) (front back : Document),
        TraversesInOrder { config, fragments, templates } front back :=
  ⟨generate_eq_of_sameParts same config filters templates,
    fun _ front back => Generator.traversesInOrder _ front back⟩

/-- A fragment that needs no other. -/
def leafFragment : Fragment :=
  ⟨none, "A", "T", [], [.field none "x" [] [] []]⟩

/-- Two operations with a fragment and a type among them, in one document. -/
def mixedDocuments : List Document :=
  [[.operation ⟨none, .query, some "One", [], [], [.spread "A" []]⟩, .fragment leafFragment,
    .type ⟨"T", [], .scalar⟩,
    .operation ⟨none, .mutation, some "Two", [], [], [.field none "x" [] [] []]⟩]]

/-- The same operations and the same fragment, the fragment first, in documents of their own. -/
def sortedDocuments : List Document :=
  [[], [.fragment leafFragment],
    [.operation ⟨none, .query, some "One", [], [], [.spread "A" []]⟩], [],
    [.operation ⟨none, .mutation, some "Two", [], [], [.field none "x" [] [] []]⟩]]

theorem sortedDocuments_eq_and_traverse_append :
    Document.SameParts mixedDocuments.flatten sortedDocuments.flatten ∧
      generate {} mixedDocuments [] {} = generate {} sortedDocuments [] {} ∧
      TraversesInOrder { fragments := [.ofFragment leafFragment false] }
        mixedDocuments.flatten sortedDocuments.flatten := by
  have same : Document.SameParts mixedDocuments.flatten sortedDocuments.flatten := ⟨rfl, rfl⟩
  have ordered := generate_eq_and_traverse_append same {} [] {}
  exact ⟨same, ordered.1, ordered.2 [.ofFragment leafFragment false] _ _⟩

end TypedClient

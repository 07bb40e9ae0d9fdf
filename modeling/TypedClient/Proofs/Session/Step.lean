import TypedClient.Proofs.Generation.Event
import TypedClient.Proofs.Session.Play

/-! # What a step does to a session

The events of a step count whatever its outcome is (`Step.trace_events`), and a successful emission
adds a record (`Step.exists_of_recorded?`). Nothing else changes a session: after a step it is the
session before with the events and the record taken in (`Session.step_eq`).
-/

namespace TypedClient

open Document

namespace Trace

variable {α β : Type}

/-- To convert the value of a trace does not change how it comes out. -/
theorem outcome_bind_pure (first : Trace α) (convert : α → β) :
    (first >>= fun value => pure (convert value)).outcome = first.outcome.map convert := by
  rw [bind_eq]
  cases first.outcome <;> rfl

end Trace

namespace Step

/-- The events of a step. Only the announcements of the factory depend on the session. -/
def events (generator : Generator) (session : Session) : Step → List Event
  | requireImport statement => [.require (statement.getD "")]
  | documentVariable _ => []
  | fragmentVariable _ => []
  | resultType _ => generator.typeEvents
  | variablesType _ => generator.typeEvents
  | renderDocument _ => [.collect, .require generator.config.tagImport]
  | renderFragments => generator.fragmentConstants.events
  | .spec _ => generator.typeEvents ++ generator.typeEvents
  | emit operation => generator.emissionEvents operation
  | traverse document => (generator.traverse document).events
  | buildImports => []
  | createFactory => session.records.collisionNotices.map .notice

/-- The record that a step adds: that of a successful emission. -/
def recorded? (generator : Generator) : Step → Option GroupedRecord
  | emit operation => (generator.emit operation).outcome.toOption.bind (·.record?)
  | _ => none

/-- The step puts the document of an operation into the module. -/
def collects : Step → Bool
  | renderDocument _ => true
  | traverse document => !document.operations.isEmpty
  | _ => false

/-- What a step says about rendered fragments: whether there are any, if it renders them. -/
def rendering? (generator : Generator) : Step → Option Bool
  | renderFragments => generator.rendering?
  | _ => none

/-- The events of a step are those of its trace. -/
theorem trace_events (generator : Generator) (session : Session) (step : Step) :
    (step.trace generator session).events = step.events generator session := by
  cases step with
  | requireImport statement => rfl
  | documentVariable operation => rfl
  | buildImports => rfl
  | fragmentVariable name => exact Trace.events_bind_pure _ _
  | resultType operation =>
      exact (Trace.events_bind_pure _ _).trans (generator.resultType_events operation)
  | variablesType operation =>
      exact (Trace.events_bind_pure _ _).trans (generator.variablesType_events operation)
  | renderDocument operation =>
      exact (Trace.events_bind_pure _ _).trans (generator.documentConstant_events operation)
  | renderFragments => exact Trace.events_bind_pure _ _
  | spec operation =>
      exact (Trace.events_bind_pure _ _).trans (congrArg Trace.events (Generator.spec_eq operation))
  | emit operation =>
      exact (Trace.events_bind_pure _ _).trans (congrArg Trace.events (Generator.emit_eq operation))
  | traverse document => exact Trace.events_bind_pure _ _
  | createFactory => exact (Trace.events_bind_pure _ _).trans (Records.renderFactory_events _ _ _)

/-- A record stands beside the answer to an emission only, and only if that succeeds. -/
theorem trace_record (generator : Generator) (session : Session) (step : Step) :
    (step.trace generator session).outcome.toOption.bind (·.2) = step.recorded? generator := by
  have plain {α : Type} (first : Trace α) (convert : α → Answer) :
      (first >>= fun value =>
          pure (convert value, (none : Option GroupedRecord))).outcome.toOption.bind (·.2) =
        none := by
    rw [Trace.outcome_bind_pure]
    cases first.outcome <;> rfl
  cases step with
  | emit operation =>
      change (generator.emit operation >>= fun emitted =>
        pure (Answer.text emitted.wrapper, emitted.record?)).outcome.toOption.bind (·.2) = _
      rw [Trace.outcome_bind_pure, recorded?]
      cases (generator.emit operation).outcome <;> rfl
  | requireImport statement => rfl
  | documentVariable operation => rfl
  | buildImports => rfl
  | fragmentVariable name => exact plain _ _
  | resultType operation => exact plain _ _
  | variablesType operation => exact plain _ _
  | renderDocument operation => exact plain _ _
  | renderFragments => exact plain _ _
  | spec operation => exact plain _ _
  | traverse document => exact plain _ _
  | createFactory => exact plain _ _

end Step

namespace Session

/-- **One step.** The events of a step are played, whether it has an answer or a fault, and the
record of a successful emission is added. -/
theorem step_eq (generator : Generator) (session : Session) (step : Step) :
    session.step generator step =
      ({ session.playAll (step.events generator session) with
          records := (step.recorded? generator).elim session.records session.records.add },
        (step.trace generator session).outcome.map (·.1)) := by
  have kept := records_playAll session (step.events generator session)
  unfold Session.step
  dsimp only
  rw [← Step.trace_record generator session, Step.trace_events]
  generalize session.playAll (step.events generator session) = played at kept ⊢
  obtain ⟨imports, collected, fragmentsRendered, records, notices⟩ := played
  cases kept
  cases (step.trace generator session).outcome with
  | error fault => rfl
  | ok result =>
      obtain ⟨answer, record?⟩ := result
      cases record? with
      | none => rfl
      | some record => rfl

variable (generator : Generator) (session : Session) (step : Step)

/-- A step registers what its events do. -/
theorem imports_step : (session.step generator step).1.imports =
    registerAll session.imports (registrations (step.events generator session)) := by
  rw [step_eq]
  exact imports_playAll _ _

/-- A step collects as often as its events do. -/
theorem collected_step : (session.step generator step).1.collected =
    session.collected + (step.events generator session).count .collect := by
  rw [step_eq]
  exact collected_playAll _ _

/-- The last rendering of a step decides. -/
theorem fragmentsRendered_step : (session.step generator step).1.fragmentsRendered =
    (renderings (step.events generator session)).getLast?.getD session.fragmentsRendered := by
  rw [step_eq]
  exact fragmentsRendered_playAll _ _

/-- Only a successful emission adds a record. -/
theorem records_step : (session.step generator step).1.records =
    (step.recorded? generator).elim session.records session.records.add := by
  rw [step_eq]

end Session

/-! ## The events of a step -/

namespace Step

variable {generator : Generator} {session : Session} {step : Step}

/-- Records are added by successful emissions only, and each is the record of its operation. -/
theorem exists_of_recorded? {record : GroupedRecord}
    (recorded : step.recorded? generator = some record) :
    ∃ operation wrapper, step = .emit operation ∧
      (generator.emit operation).outcome = .ok ⟨wrapper, some record⟩ ∧
      generator.record? operation = some record := by
  cases step with
  | emit operation =>
      obtain ⟨emitted, done, own⟩ := Option.bind_eq_some_iff.1 recorded
      have outcome : (generator.emit operation).outcome = .ok emitted := by
        cases found : (generator.emit operation).outcome with
        | ok other =>
            rw [found] at done
            exact congrArg Except.ok (Option.some.inj done)
        | error fault =>
            rw [found] at done
            cases done
      have described : emitted.record? = generator.record? operation := by
        rw [Generator.emit_eq] at outcome
        dsimp only at outcome
        cases found : (if operation.isWrapped generator.config.mutationPolicy then
            (generator.wrapper (operation.spec generator.config)).outcome else .ok "") with
        | ok wrapper =>
            rw [found] at outcome
            cases outcome
            rfl
        | error fault =>
            rw [found] at outcome
            cases outcome
      refine ⟨operation, emitted.wrapper, rfl, ?_, described ▸ own⟩
      rw [outcome, ← own]
  | _ => cases recorded

/-- Most steps cause nothing but asides. -/
theorem events_cases (generator : Generator) (session : Session) (step : Step) :
    (∀ event ∈ step.events generator session, event.isAside = true) ∧ step.collects = false ∧
        step.rendering? generator = none ∨
      (∃ operation, step = .renderDocument operation) ∨ step = .renderFragments ∨
        ∃ document, step = .traverse document := by
  have types := generator.typeEvents_aside
  cases step with
  | renderDocument operation => exact .inr (.inl ⟨operation, rfl⟩)
  | renderFragments => exact .inr (.inr (.inl rfl))
  | traverse document => exact .inr (.inr (.inr ⟨document, rfl⟩))
  | requireImport statement => exact .inl ⟨by simp [events, Event.isAside], rfl, rfl⟩
  | documentVariable operation => exact .inl ⟨by simp [events], rfl, rfl⟩
  | fragmentVariable name => exact .inl ⟨by simp [events], rfl, rfl⟩
  | buildImports => exact .inl ⟨by simp [events], rfl, rfl⟩
  | resultType operation => exact .inl ⟨types, rfl, rfl⟩
  | variablesType operation => exact .inl ⟨types, rfl, rfl⟩
  | spec operation =>
      refine .inl ⟨fun event member => ?_, rfl, rfl⟩
      exact (List.mem_append.1 member).elim (types event) (types event)
  | emit operation => exact .inl ⟨generator.emissionEvents_aside operation, rfl, rfl⟩
  | createFactory => exact .inl ⟨notices_aside _, rfl, rfl⟩

/-- Whether a step collects can be told without playing it. -/
theorem collect_mem_events : .collect ∈ step.events generator session ↔ step.collects = true := by
  rcases events_cases generator session step with
    ⟨aside, plain, _⟩ | ⟨operation, rfl⟩ | rfl | ⟨document, rfl⟩
  · rw [plain]
    exact iff_of_false (fun member => by cases aside _ member) Bool.false_ne_true
  · exact iff_of_true List.mem_cons_self rfl
  · exact iff_of_false generator.collect_not_mem_fragmentConstants Bool.false_ne_true
  · rw [events, generator.collect_mem_traverse, collects]
    simp

/-- A step renders fragments at most once. -/
theorem renderings_events (generator : Generator) (session : Session) (step : Step) :
    renderings (step.events generator session) = (step.rendering? generator).toList := by
  rcases events_cases generator session step with
    ⟨aside, _, plain⟩ | ⟨operation, rfl⟩ | rfl | ⟨document, rfl⟩
  · rw [plain]
    exact renderings_of_aside aside
  · rfl
  · exact generator.renderings_fragmentConstants
  · exact generator.renderings_traverse document

/-- A step that collects an operation or renders fragments requires the tag. -/
theorem tag_mem_events
    (needed : step.collects = true ∨ step.rendering? generator = some true) :
    .require generator.config.tagImport ∈ step.events generator session := by
  rcases events_cases generator session step with
    ⟨_, plain, none⟩ | ⟨operation, rfl⟩ | rfl | ⟨document, rfl⟩
  · rw [plain, none] at needed
    rcases needed with differs | differs <;> cases differs
  · exact List.mem_cons_of_mem _ (List.mem_singleton_self _)
  · obtain ⟨own, split, _, tagged⟩ := generator.fragmentConstants_events
    rcases needed with differs | rendered
    · cases differs
    · rw [events, split]
      exact List.mem_append_left _ (tagged rendered)
  · rcases needed with collected | differs
    · have filled : document.operations ≠ [] := by simpa [collects] using collected
      exact (generator.traverse_events_prefix filled).mem
        (List.mem_cons_of_mem _ (List.mem_singleton_self _))
    · cases differs

end Step

end TypedClient

import TypedClient.Proofs.Session.Invariant

/-! # What the history of a session decides

A session remembers little of the steps before: the statements in the order in which they were
first registered, whether an operation was collected, what the last rendering of the fragments
found, and the records of the emissions (`imports_run`, `collected_run`, `fragmentsRendered_run`,
`records_run`). The answer to a step looks at part of that at most (`Step.SeesSame`), so two
histories that agree there have the same answer to it, or the same fault (`run_answer_eq`).
-/

namespace TypedClient

open Document

/-! ## Histories -/

namespace Step

/-- The statements that a step registers. -/
def registers (generator : Generator) (step : Step) : List String :=
  registrations (step.events generator {})

/-- The step emits an operation. -/
def isEmission : Step → Bool
  | emit _ => true
  | _ => false

/-- Which statements a step registers is no matter of the session. -/
theorem registrations_events (generator : Generator) (session : Session) (step : Step) :
    registrations (step.events generator session) = step.registers generator := by
  cases step with
  | createFactory => exact (registrations_notices _).trans (registrations_notices _).symm
  | _ => rfl

end Step

section History

variable (generator : Generator) (history : List Step)

/-- The statements that a history registers, in the order of their first registration. -/
def firstRegistrations : List String :=
  (history.flatMap (Step.registers generator)).eraseDups

/-- The last rendering of the fragments that succeeded found some. -/
def lastRendering : Bool :=
  (history.filterMap (Step.rendering? generator)).getLast?.getD false

/-- The records of the emissions that succeeded, in order. -/
def historyRecords : Records :=
  Records.ofList (history.filterMap (Step.recorded? generator))

end History

/-- Two histories agree in all that the answer to a step looks at. The factory looks at the
emissions, the imports at three marks, and every other step at nothing. -/
def Step.SeesSame (generator : Generator) (first second : List Step) : Step → Prop
  | createFactory => first.filter isEmission = second.filter isEmission
  | buildImports =>
    first.any collects = second.any collects ∧
      lastRendering generator first = lastRendering generator second ∧
      firstRegistrations generator first = firstRegistrations generator second
  | _ => True

/-! ## What a session remembers -/

namespace Session

variable {generator : Generator}

/-- After a run the imports are those before it with what its steps register. -/
theorem imports_run (session : Session) (steps : List Step) :
    (session.run generator steps).1.imports =
      registerAll session.imports (steps.flatMap (Step.registers generator)) := by
  induction steps generalizing session with
  | nil => exact (registerAll_nil _).symm
  | cons step rest ih =>
      rw [List.flatMap_cons, registerAll_append, ← step.registrations_events generator session,
        ← imports_step]
      exact ih _

/-- Something is collected after a run if it was before, or if a step collects. -/
theorem collected_run (session : Session) (steps : List Step) :
    (session.run generator steps).1.collected ≠ 0 ↔
      session.collected ≠ 0 ∨ steps.any Step.collects = true := by
  induction steps generalizing session with
  | nil => simp [run]
  | cons step rest ih =>
      have here : (session.step generator step).1.collected ≠ 0 ↔
          session.collected ≠ 0 ∨ step.collects = true := by
        have events : step.collects = true ↔ 0 < (step.events generator session).count .collect :=
          Step.collect_mem_events.symm.trans List.count_pos_iff.symm
        rw [collected_step, events]
        omega
      rw [List.any_cons, Bool.or_eq_true, ← or_assoc, ← here]
      exact ih _

/-- The last step that renders fragments decides whether there are any in the module. -/
theorem fragmentsRendered_run (session : Session) (steps : List Step) :
    (session.run generator steps).1.fragmentsRendered =
      (steps.filterMap (Step.rendering? generator)).getLast?.getD session.fragmentsRendered := by
  induction steps generalizing session with
  | nil => rfl
  | cons step rest ih =>
      refine (ih _).trans ?_
      rw [fragmentsRendered_step, Step.renderings_events, List.filterMap_cons]
      cases step.rendering? generator with
      | none => rfl
      | some any => simp [List.getLast?_cons]

/-- The records after a run are those before it with what its emissions add. -/
theorem records_run (session : Session) (steps : List Step) :
    (session.run generator steps).1.records =
      (steps.filterMap (Step.recorded? generator)).foldl Records.add session.records := by
  induction steps generalizing session with
  | nil => rfl
  | cons step rest ih =>
      refine (ih _).trans ?_
      rw [records_step, List.filterMap_cons]
      cases step.recorded? generator <;> rfl

end Session

/-! ## What answers look at -/

/-- Only emissions leave records. -/
theorem historyRecords_filter (generator : Generator) (history : List Step) :
    historyRecords generator (history.filter Step.isEmission) =
      historyRecords generator history := by
  have others (step : Step) : (if step.isEmission = true then step.recorded? generator else none) =
      step.recorded? generator := by
    cases step <;> rfl
  rw [historyRecords, List.filterMap_filter, funext others, historyRecords]

section Answer

variable (generator : Generator) (history : List Step)

/-- The imports after a history follow from three marks of it. -/
theorem answer_buildImports :
    ((Session.run generator {} history).1.step generator .buildImports).2 =
      .ok (.texts (generator.config.baselineImport ::
        (if history.any Step.collects then firstRegistrations generator history
          else if lastRendering generator history then [generator.config.tagImport]
          else []))) := by
  have imports : (Session.run generator {} history).1.imports =
      firstRegistrations generator history := by
    rw [Session.imports_run, registerAll, List.nil_append, firstRegistrations]
    congr 1
    exact List.filter_eq_self.2 fun _ _ => rfl
  have rendered : (Session.run generator {} history).1.fragmentsRendered =
      lastRendering generator history := Session.fragmentsRendered_run {} history
  have collected : (Session.run generator {} history).1.collected ≠ 0 ↔
      history.any Step.collects = true :=
    (Session.collected_run {} history).trans (or_iff_right fun differs => differs rfl)
  have answer (session : Session) : (session.step generator .buildImports).2 =
      .ok (.texts (session.preamble generator.config)) := rfl
  rw [answer, Session.preamble, imports, rendered]
  simp only [collected]

/-- The factory after a history is that of its records. -/
theorem answer_createFactory :
    ((Session.run generator {} history).1.step generator .createFactory).2 =
      ((historyRecords generator history).renderFactory generator.templates
        generator.config.factoryName).outcome.map .text := by
  have records : (Session.run generator {} history).1.records = historyRecords generator history :=
    Session.records_run {} history
  have answer (session : Session) : (session.step generator .createFactory).2 =
      (session.records.renderFactory generator.templates
        generator.config.factoryName).outcome.map .text := by
    rw [Session.step_eq]
    unfold Step.trace
    rw [Trace.outcome_bind_pure]
    cases (session.records.renderFactory generator.templates
      generator.config.factoryName).outcome <;> rfl
  rw [answer, records]

end Answer

/-- The other steps do not look at the session. -/
theorem answer_of_blind {generator : Generator} {step : Step} (imports : step ≠ .buildImports)
    (factory : step ≠ .createFactory) (first second : Session) :
    (first.step generator step).2 = (second.step generator step).2 := by
  rw [Session.step_eq, Session.step_eq]
  have same : step.trace generator first = step.trace generator second := by
    cases step with
    | buildImports => exact absurd rfl imports
    | createFactory => exact absurd rfl factory
    | _ => rfl
  rw [same]

/-! ## The main statement -/

/-- **What history decides.** In any two runs, a step has the same answer or the same fault if the
steps before it agree in what its answer looks at: in nothing for most steps, in the emissions for
the factory, and in three marks for the imports. -/
theorem run_answer_eq (generator : Generator) {first second : List Step} {step : Step}
    (same : step.SeesSame generator first second) (firstRest secondRest : List Step) :
    ∃ answer,
      (Session.run generator {} (first ++ step :: firstRest)).2[first.length]?.map (·.2) =
        some answer ∧
      (Session.run generator {} (second ++ step :: secondRest)).2[second.length]?.map (·.2) =
        some answer := by
  rw [Session.getElem?_run, Session.getElem?_run]
  refine ⟨_, rfl, congrArg some ?_⟩
  dsimp only
  cases step with
  | buildImports =>
      obtain ⟨collected, rendered, registered⟩ := same
      rw [answer_buildImports, answer_buildImports, collected, rendered, registered]
  | createFactory =>
      have emissions : first.filter Step.isEmission = second.filter Step.isEmission := same
      rw [answer_createFactory, answer_createFactory, ← historyRecords_filter generator first,
        emissions, historyRecords_filter]
  | _ =>
      exact answer_of_blind (fun differs => by cases differs) (fun differs => by cases differs) _ _

/-- A generator whose operation types come from a module. -/
def typedGenerator : Generator where
  config := { importOperationTypesFrom := some "./types" }

/-- A mutation. -/
def saveOperation : Operation :=
  ⟨none, .mutation, some "save", [], [], [.field none "save" [] [] []]⟩

/-- The operation is emitted, and then its document is rendered. -/
def emitFirst : List Step :=
  [.emit saveOperation, .renderDocument saveOperation]

/-- The types are required by hand, and the operation is emitted at the end. -/
def emitLast : List Step :=
  [.requireImport typedGenerator.config.typesImport?, .renderDocument saveOperation,
    .requireImport none, .emit saveOperation]

/-- Both orders leave the same imports and the same factory behind. -/
theorem run_answer_eq_orders :
    (Step.buildImports.SeesSame typedGenerator emitFirst emitLast ∧ ∃ answer,
      (Session.run typedGenerator {} (emitFirst ++ [.buildImports])).2[2]?.map (·.2) = some answer ∧
      (Session.run typedGenerator {} (emitLast ++ [.buildImports])).2[4]?.map (·.2) =
        some answer) ∧
    (Step.createFactory.SeesSame typedGenerator emitFirst emitLast ∧ ∃ answer,
      (Session.run typedGenerator {} (emitFirst ++ [.createFactory])).2[2]?.map (·.2) =
        some answer ∧
      (Session.run typedGenerator {} (emitLast ++ [.createFactory])).2[4]?.map (·.2) =
        some answer) :=
  have imports : Step.buildImports.SeesSame typedGenerator emitFirst emitLast :=
    ⟨rfl, rfl, by decide +kernel⟩
  have factory : Step.createFactory.SeesSame typedGenerator emitFirst emitLast := rfl
  ⟨⟨imports, run_answer_eq _ imports [] []⟩, factory, run_answer_eq _ factory [] []⟩

end TypedClient

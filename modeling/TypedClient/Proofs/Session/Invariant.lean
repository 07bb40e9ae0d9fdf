import TypedClient.Proofs.Session.Step

/-! # What every session keeps

A session is driven by steps in any order, and each of them may fail. Whatever the steps were, the
session is coherent (`Session.IsCoherent`): its imports are different statements, its records are in
the groups that they belong to, and the tag is registered if the module has a constant. One more
step only adds to the session, and a record only if it is an emission that succeeds
(`Session.Advances`). The main statement, `run_advances`, says both of every step of every run.
-/

namespace TypedClient

open Document

/-- The records are those before with one more, in one of the groups. -/
def Records.Extend (before after : Records) (record : OperationRecord) : Prop :=
  (after.queries = before.queries ++ [record] ∧ after.mutations = before.mutations) ∨
    (after.queries = before.queries ∧ after.mutations = before.mutations ++ [record])

namespace Session

/-- What holds of a session at any time. -/
structure IsCoherent (generator : Generator) (session : Session) : Prop where
  unique : session.imports.Nodup
  filled : "" ∉ session.imports
  queries : ∀ record ∈ session.records.queries, record.action = "query"
  mutations : ∀ record ∈ session.records.mutations, record.action = "mutate"
  excluded : generator.config.mutationPolicy = .exclude → session.records.mutations = []
  /-- Once an operation is collected, the tag is registered and the module has all imports. -/
  collected : session.collected ≠ 0 →
    generator.config.tagImport ∈ session.imports ∧
      session.preamble generator.config = generator.config.baselineImport :: session.imports
  /-- Without one, the module has the tag at most, and that only if it is registered. -/
  uncollected : session.collected = 0 → session.preamble generator.config =
    generator.config.baselineImport ::
      if session.fragmentsRendered then [generator.config.tagImport] else []
  rendered : session.fragmentsRendered = true → generator.config.tagImport ∈ session.imports

/-- What a step makes of a session, whether it has an answer or a fault. -/
structure Advances (before : Session) (step : Step) (after : Session)
    (outcome : Except GenerationFault Answer) : Prop where
  imports : before.imports <+: after.imports
  /-- Only an emission that succeeds adds a record, and it adds one. -/
  records : after.records = before.records ∨ ∃ operation wrapper record,
    step = .emit operation ∧ outcome = .ok (.text wrapper) ∧
      before.records.Extend after.records record
  /-- Operations are collected, never dropped, where a constant is rendered and where a document is
  traversed. -/
  collected : before.collected ≤ after.collected ∧
    (before.collected < after.collected ↔ step.collects = true)
  /-- Only a rendering of the fragments that succeeds marks whether there are any. -/
  rendered : after.fragmentsRendered = before.fragmentsRendered ∨
    step = .renderFragments ∧ ∃ text, outcome = .ok (.text text)

variable {generator : Generator} {session : Session}

/-- Nothing holds more of the first session than of an empty one. -/
theorem isCoherent_empty : IsCoherent generator {} where
  unique := List.nodup_nil
  filled := List.not_mem_nil
  queries _ none := absurd none List.not_mem_nil
  mutations _ none := absurd none List.not_mem_nil
  excluded _ := rfl
  collected some := absurd rfl some
  uncollected _ := rfl
  rendered some := by cases some

end Session

/-! ## Records -/

/-- The record of an operation is in the group of its action, and under a policy that leaves
mutations out there is none of a mutation. -/
theorem Generator.action_of_record? {generator : Generator} {operation : Operation}
    {entry : GroupedRecord} (recorded : generator.record? operation = some entry) :
    match entry with
    | .query record => record.action = "query"
    | .mutation record =>
        record.action = "mutate" ∧ generator.config.mutationPolicy ≠ .exclude := by
  unfold record? Operation.isRecorded Operation.groupedRecord at recorded
  cases kind : operation.kind with
  | query =>
      rw [kind] at recorded
      cases recorded
      simp [Operation.record, OperationRecord.ofSpec, Operation.spec, Config.operationSpec, kind,
        OperationKind.action]
  | mutation =>
      rw [kind] at recorded
      by_cases policy : generator.config.mutationPolicy = .exclude
      · simp [policy] at recorded
      · simp only [bne_iff_ne, ne_eq, policy, not_false_eq_true, ↓reduceIte,
          Option.some.injEq] at recorded
        cases recorded
        exact ⟨by simp [Operation.record, OperationRecord.ofSpec, Operation.spec,
          Config.operationSpec, kind, OperationKind.action], policy⟩
  | subscription =>
      rw [kind] at recorded
      cases recorded

/-- An entry puts a record behind those of its kind. -/
theorem Records.extend_add (records : Records) (entry : GroupedRecord) :
    ∃ record, records.Extend (records.add entry) record := by
  cases entry with
  | query record => exact ⟨record, .inl ⟨rfl, rfl⟩⟩
  | mutation record => exact ⟨record, .inr ⟨rfl, rfl⟩⟩

/-- A record is among the queries if it was before, or if it is added as one. -/
theorem Records.mem_queries_add {records : Records} {entry : GroupedRecord}
    {record : OperationRecord} :
    record ∈ (records.add entry).queries ↔ record ∈ records.queries ∨ entry = .query record := by
  cases entry <;> simp [add, eq_comm]

/-- A record is among the mutations if it was before, or if it is added as one. -/
theorem Records.mem_mutations_add {records : Records} {entry : GroupedRecord}
    {record : OperationRecord} :
    record ∈ (records.add entry).mutations ↔
      record ∈ records.mutations ∨ entry = .mutation record := by
  cases entry <;> simp [add, eq_comm]

namespace Session

variable {generator : Generator} {session : Session}

/-! ## One step -/

/-- The tag stays registered, and a step that needs it registers it. -/
theorem tag_mem_imports_step
    (kept : session.collected ≠ 0 ∨ session.fragmentsRendered = true →
      generator.config.tagImport ∈ session.imports) (step : Step)
    (needed : (session.step generator step).1.collected ≠ 0 ∨
      (session.step generator step).1.fragmentsRendered = true) :
    generator.config.tagImport ∈ (session.step generator step).1.imports := by
  have source : (session.collected ≠ 0 ∨ session.fragmentsRendered = true) ∨
      step.collects = true ∨ step.rendering? generator = some true := by
    rcases needed with collected | rendered
    · rw [collected_step] at collected
      by_cases before : session.collected = 0
      · have here : 0 < (step.events generator session).count .collect := by omega
        exact .inr (.inl (Step.collect_mem_events.1 (List.count_pos_iff.1 here)))
      · exact .inl (.inl before)
    · rw [fragmentsRendered_step, Step.renderings_events] at rendered
      cases said : step.rendering? generator with
      | none =>
          rw [said] at rendered
          exact .inl (.inr rendered)
      | some any =>
          rw [said] at rendered
          exact .inr (.inr (congrArg some rendered))
  rw [imports_step, mem_registerAll]
  rcases source with before | here
  · exact .inl (kept before)
  · exact .inr (mem_registrations.2
      ⟨Step.tag_mem_events here, generator.config.tagImport_ne_empty⟩)

/-- A step keeps the parts of a session in agreement, whether it fails or not. -/
theorem IsCoherent.step (coherent : session.IsCoherent generator) (step : Step) :
    (session.step generator step).1.IsCoherent generator := by
  have tagged := tag_mem_imports_step
    (fun needed => needed.elim (fun filled => (coherent.collected filled).1) coherent.rendered) step
  have entry : (session.step generator step).1.records = session.records ∨
      ∃ operation entry, generator.record? operation = some entry ∧
        (session.step generator step).1.records = session.records.add entry := by
    rw [records_step]
    cases recorded : step.recorded? generator with
    | none => exact .inl rfl
    | some entry =>
        obtain ⟨operation, _, _, _, own⟩ := Step.exists_of_recorded? recorded
        exact .inr ⟨operation, entry, own, rfl⟩
  refine ⟨?_, ?_, ?_, ?_, ?_, ?_, ?_, fun rendered => tagged (.inr rendered)⟩
  · rw [imports_step]
    exact nodup_registerAll coherent.unique _
  · rw [imports_step, mem_registerAll, not_or]
    exact ⟨coherent.filled, fun member => (mem_registrations.1 member).2 rfl⟩
  · intro record member
    rcases entry with same | ⟨operation, entry, own, added⟩
    · exact coherent.queries record (same ▸ member)
    · rw [added, Records.mem_queries_add] at member
      rcases member with old | rfl
      · exact coherent.queries record old
      · exact Generator.action_of_record? own
  · intro record member
    rcases entry with same | ⟨operation, entry, own, added⟩
    · exact coherent.mutations record (same ▸ member)
    · rw [added, Records.mem_mutations_add] at member
      rcases member with old | rfl
      · exact coherent.mutations record old
      · exact (Generator.action_of_record? own).1
  · intro policy
    rw [List.eq_nil_iff_forall_not_mem]
    intro record member
    have empty := coherent.excluded policy
    rcases entry with same | ⟨operation, entry, own, added⟩
    · rw [same, empty] at member
      cases member
    · rw [added, Records.mem_mutations_add, empty] at member
      rcases member with old | rfl
      · cases old
      · exact (Generator.action_of_record? own).2 policy
  · exact fun filled => ⟨tagged (.inl filled), by rw [preamble, if_pos filled]⟩
  · intro empty
    rw [preamble, if_neg fun filled => filled empty]

/-- A step takes nothing back. -/
theorem advances_step (generator : Generator) (session : Session) (step : Step) :
    session.Advances step (session.step generator step).1 (session.step generator step).2 := by
  refine ⟨?_, ?_, ?_, ?_⟩
  · rw [imports_step]
    exact List.prefix_append _ _
  · rw [records_step]
    cases recorded : step.recorded? generator with
    | none => exact .inl rfl
    | some entry =>
        obtain ⟨operation, wrapper, rfl, done, _⟩ := Step.exists_of_recorded? recorded
        obtain ⟨record, extended⟩ := session.records.extend_add entry
        have answered : ((Step.emit operation).trace generator session).outcome =
            .ok (.text wrapper, some entry) := Trace.outcome_bind.2 ⟨_, done, rfl⟩
        refine .inr ⟨operation, wrapper, record, rfl, ?_, extended⟩
        rw [step_eq, answered]
        rfl
  · rw [collected_step]
    have here : 0 < (step.events generator session).count .collect ↔ step.collects = true :=
      List.count_pos_iff.trans Step.collect_mem_events
    rw [← here]
    omega
  · rw [fragmentsRendered_step, Step.renderings_events]
    cases step with
    | renderFragments =>
        rw [Step.rendering?, Generator.rendering?]
        cases rendered : generator.fragmentConstants.outcome with
        | error fault => exact .inl rfl
        | ok text =>
            have answered : (Step.renderFragments.trace generator session).outcome =
                .ok (.text text, none) := Trace.outcome_bind.2 ⟨_, rendered, rfl⟩
            refine .inr ⟨rfl, text, ?_⟩
            rw [step_eq, answered]
            rfl
    | _ => exact .inl rfl

/-! ## Runs -/

/-- A run can be cut in two anywhere. -/
theorem run_append (generator : Generator) (session : Session) (front back : List Step) :
    session.run generator (front ++ back) =
      (((session.run generator front).1.run generator back).1,
        (session.run generator front).2 ++
          ((session.run generator front).1.run generator back).2) := by
  induction front generalizing session with
  | nil => rfl
  | cons step rest ih => simp only [List.cons_append, run, ih]

/-- Every step of a run has an answer. -/
theorem length_run (generator : Generator) (session : Session) (steps : List Step) :
    (session.run generator steps).2.length = steps.length := by
  induction steps generalizing session with
  | nil => rfl
  | cons step rest ih => exact congrArg Nat.succ (ih _)

/-- What a run says of a step: the session that the step leads to, and its answer. -/
theorem getElem?_run (generator : Generator) (session : Session) (front : List Step) (step : Step)
    (back : List Step) :
    (session.run generator (front ++ step :: back)).2[front.length]? =
      some ((session.run generator front).1.step generator step) := by
  rw [run_append]
  dsimp only
  rw [List.getElem?_append_right (Nat.le_of_eq (length_run _ _ _)), length_run, Nat.sub_self]
  rfl

/-- A coherent session stays so however many steps are taken. -/
theorem IsCoherent.run (coherent : session.IsCoherent generator) (steps : List Step) :
    (session.run generator steps).1.IsCoherent generator := by
  induction steps generalizing session with
  | nil => exact coherent
  | cons step rest ih => exact ih (coherent.step step)

end Session

/-- **What every session keeps.** However a session is driven and whatever fails on the way, each
step leads from a coherent session to a coherent one and only adds to it. -/
theorem run_advances (generator : Generator) (front : List Step) (step : Step)
    (back : List Step) :
    ∃ before after answer,
      before = (Session.run generator {} front).1 ∧
      (Session.run generator {} (front ++ step :: back)).2[front.length]? = some (after, answer) ∧
      before.IsCoherent generator ∧ after.IsCoherent generator ∧
      before.Advances step after answer := by
  have coherent : (Session.run generator {} front).1.IsCoherent generator :=
    Session.isCoherent_empty.run front
  exact ⟨_, _, _, rfl, Session.getElem?_run generator {} front step back, coherent,
    coherent.step step, Session.advances_step generator _ step⟩

end TypedClient

import TypedClient.Generation.Session
import TypedClient.Proofs.Text.Distinct

/-! # What events leave in a session

Events are played to a session one by one. What it holds afterwards depends on few of them: the
imports on the statements that they register (`imports_playAll`), the number of collected operations
on how often one is collected (`collected_playAll`), and the mark of rendered fragments on the last
rendering (`fragmentsRendered_playAll`). Records are never touched (`records_playAll`).
-/

namespace TypedClient

/-! ## Playing events -/

/-- The statements that events register, in order. An empty statement registers nothing. -/
def registrations (events : List Event) : List String :=
  events.filterMap fun
    | .require statement => if statement = "" then none else some statement
    | _ => none

/-- What the renderings of fragments among events say, in order. -/
def renderings (events : List Event) : List Bool :=
  events.filterMap fun
    | .renderFragments any => some any
    | _ => none

section Events

variable (events : List Event)

/-- A statement that is not empty is registered. -/
theorem registrations_require {statement : String} (filled : statement ≠ "") :
    registrations (.require statement :: events) = statement :: registrations events := by
  simp [registrations, filled]

@[simp] theorem registrations_collect :
    registrations (.collect :: events) = registrations events := rfl

@[simp] theorem registrations_renderFragments (any : Bool) :
    registrations (.renderFragments any :: events) = registrations events := rfl

@[simp] theorem registrations_notice (notice : Notice) :
    registrations (.notice notice :: events) = registrations events := rfl

@[simp] theorem renderings_collect : renderings (.collect :: events) = renderings events := rfl

@[simp] theorem renderings_require (statement : String) :
    renderings (.require statement :: events) = renderings events := rfl

/-- Fragments are rendered with word of whether there are any. -/
@[simp] theorem renderings_renderFragments (any : Bool) :
    renderings (.renderFragments any :: events) = any :: renderings events := rfl

@[simp] theorem renderings_notice (notice : Notice) :
    renderings (.notice notice :: events) = renderings events := rfl

end Events

@[simp] theorem registrations_nil : registrations [] = [] := rfl

@[simp] theorem renderings_nil : renderings [] = [] := rfl

/-- What two lists of events register follows one another. -/
theorem registrations_append (first second : List Event) :
    registrations (first ++ second) = registrations first ++ registrations second :=
  List.filterMap_append

/-- What two lists of events render follows one another. -/
theorem renderings_append (first second : List Event) :
    renderings (first ++ second) = renderings first ++ renderings second :=
  List.filterMap_append

/-- Notices register nothing. -/
theorem registrations_notices (notices : List Notice) :
    registrations (notices.map Event.notice) = [] := by
  rw [registrations, List.filterMap_map]
  exact List.filterMap_eq_nil_iff.2 fun _ _ => rfl

/-- A statement is registered exactly if an event requires it and it is not empty. -/
theorem mem_registrations {events : List Event} {statement : String} :
    statement ∈ registrations events ↔ .require statement ∈ events ∧ statement ≠ "" := by
  rw [registrations, List.mem_filterMap]
  constructor
  · rintro ⟨event, member, found⟩
    cases event with
    | require other =>
        by_cases empty : other = ""
        · simp [empty] at found
        · simp only [empty, ↓reduceIte, Option.some.injEq] at found
          exact ⟨found ▸ member, found ▸ empty⟩
    | collect => cases found
    | renderFragments any => cases found
    | notice notice => cases found
  · rintro ⟨member, filled⟩
    exact ⟨.require statement, member, if_neg filled⟩

/-- A rendering is noted exactly if an event is about it. -/
theorem mem_renderings {events : List Event} {any : Bool} :
    any ∈ renderings events ↔ .renderFragments any ∈ events := by
  rw [renderings, List.mem_filterMap]
  constructor
  · rintro ⟨event, member, found⟩
    cases event with
    | renderFragments other => exact Option.some.inj found ▸ member
    | require statement => cases found
    | collect => cases found
    | notice notice => cases found
  · intro member
    exact ⟨.renderFragments any, member, rfl⟩

namespace Session

/-- One event registers at most one statement. -/
theorem imports_play (session : Session) (event : Event) :
    (session.play event).imports = registerAll session.imports (registrations [event]) := by
  cases event with
  | require statement =>
      by_cases empty : statement = ""
      · simp [play, require, registrations, empty]
      · by_cases known : statement ∈ session.imports <;>
          simp [play, require, registrations, registerAll_singleton, empty, known]
  | collect => exact (registerAll_nil _).symm
  | renderFragments any => exact (registerAll_nil _).symm
  | notice notice => exact (registerAll_nil _).symm

/-- The imports of a session only depend on what the events register, in order. -/
theorem imports_playAll (session : Session) (events : List Event) :
    (session.playAll events).imports = registerAll session.imports (registrations events) := by
  induction events generalizing session with
  | nil => exact (registerAll_nil _).symm
  | cons event rest ih =>
      have split : registrations (event :: rest) = registrations [event] ++ registrations rest :=
        registrations_append [event] rest
      rw [split, registerAll_append, ← imports_play]
      exact ih (session.play event)

/-- Each event that collects counts once. -/
theorem collected_playAll (session : Session) (events : List Event) :
    (session.playAll events).collected = session.collected + events.count .collect := by
  induction events generalizing session with
  | nil => rfl
  | cons event rest ih =>
      refine (ih (session.play event)).trans ?_
      cases event with
      | collect => simp only [play, List.count_cons_self]; omega
      | require statement =>
          have same : (session.require statement).collected = session.collected := by
            unfold require
            split <;> rfl
          simp [play, same]
      | renderFragments any => simp [play]
      | notice notice => simp [play]

/-- The last rendering decides, and without one the session has the last word. -/
theorem fragmentsRendered_playAll (session : Session) (events : List Event) :
    (session.playAll events).fragmentsRendered =
      (renderings events).getLast?.getD session.fragmentsRendered := by
  induction events generalizing session with
  | nil => rfl
  | cons event rest ih =>
      refine (ih (session.play event)).trans ?_
      cases event with
      | renderFragments any =>
          simp [play, renderings, List.getLast?_cons]
      | require statement =>
          have same :
              (session.require statement).fragmentsRendered = session.fragmentsRendered := by
            unfold require
            split <;> rfl
          simp [play, renderings, same]
      | collect => rfl
      | notice notice => rfl

/-- Events add no records. -/
theorem records_playAll (session : Session) (events : List Event) :
    (session.playAll events).records = session.records := by
  induction events generalizing session with
  | nil => rfl
  | cons event rest ih =>
      refine (ih (session.play event)).trans ?_
      cases event with
      | require statement =>
          unfold play require
          dsimp only
          split <;> rfl
      | collect => rfl
      | renderFragments any => rfl
      | notice notice => rfl

end Session

end TypedClient

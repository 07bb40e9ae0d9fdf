import TypedClient.Notice
import TypedClient.Template.Custom

/-! # Traces

The parts of a run do not change a shared state. Each gives a trace: the events that it causes, in
order, and its outcome, which no earlier event can influence. Whoever runs the parts plays the
events to a session. A part that fails still leaves the events before the fault.
-/

namespace TypedClient

/-- Why a part of a run has no result. The first three come from the name that a configuration gives
to a fragment. -/
inductive GenerationFault where
  /-- The name has no underscores to split it at. -/
  | nameNotSplit
  /-- The name has no characters to find words in. -/
  | nameWithoutWords
  /-- The name cannot serve as a key. -/
  | nameNotKey
  | template (fault : Template.TemplateFault)
  deriving DecidableEq, Repr

/-- What a part of a run does besides giving its result. -/
inductive Event where
  /-- The generated module needs an import. -/
  | require (statement : String)
  /-- The document of an operation goes into the module. -/
  | collect
  /-- The fragments are rendered; `any` tells whether there are any. -/
  | renderFragments (any : Bool)
  | notice (notice : Notice)
  deriving DecidableEq, Repr

/-- The events of a part of a run and its outcome. -/
structure Trace (α : Type) where
  events : List Event
  outcome : Except GenerationFault α

namespace Trace

variable {α β γ : Type}

/-- No events and a result. -/
protected def pure (value : α) : Trace α :=
  ⟨[], .ok value⟩

/-- One part after another. A fault ends the run. -/
protected def bind (first : Trace α) (next : α → Trace β) : Trace β :=
  match first.outcome with
  | .ok value => ⟨first.events ++ (next value).events, (next value).outcome⟩
  | .error fault => ⟨first.events, .error fault⟩

instance : Monad Trace where
  pure := Trace.pure
  bind := Trace.bind

/-- A single event. -/
def emit (event : Event) : Trace Unit :=
  ⟨[event], .ok ()⟩

/-- A notice. -/
def note (notice : Notice) : Trace Unit :=
  emit (.notice notice)

/-- An outcome without events. -/
def lift (outcome : Except GenerationFault α) : Trace α :=
  ⟨[], outcome⟩

@[simp] theorem pure_eq (value : α) : (pure value : Trace α) = ⟨[], .ok value⟩ := rfl

theorem bind_eq (first : Trace α) (next : α → Trace β) :
    first >>= next = match first.outcome with
      | .ok value => ⟨first.events ++ (next value).events, (next value).outcome⟩
      | .error fault => ⟨first.events, .error fault⟩ := rfl

@[simp] theorem bind_ok (events : List Event) (value : α) (next : α → Trace β) :
    ((⟨events, .ok value⟩ : Trace α) >>= next) =
      ⟨events ++ (next value).events, (next value).outcome⟩ := rfl

@[simp] theorem bind_error (events : List Event) (fault : GenerationFault) (next : α → Trace β) :
    ((⟨events, .error fault⟩ : Trace α) >>= next) = ⟨events, .error fault⟩ := rfl

theorem map_id_eq (trace : Trace α) : id <$> trace = trace := by
  obtain ⟨events, outcome⟩ := trace
  cases outcome <;> simp [Functor.map, Trace.bind, Trace.pure]

theorem pure_then (value : α) (next : α → Trace β) : pure value >>= next = next value := by
  rw [pure_eq, bind_ok, List.nil_append]

/-- How three parts are grouped makes no difference. -/
theorem then_assoc (first : Trace α) (next : α → Trace β) (last : β → Trace γ) :
    first >>= next >>= last = first >>= fun value => next value >>= last := by
  obtain ⟨events, outcome⟩ := first
  cases outcome with
  | error fault => rfl
  | ok value =>
    rw [bind_ok, bind_ok]
    generalize next value = middle
    obtain ⟨more, outcome⟩ := middle
    cases outcome with
    | error fault => rfl
    | ok value => simp [List.append_assoc]

instance : LawfulMonad Trace :=
  LawfulMonad.mk' Trace map_id_eq pure_then then_assoc

end Trace

end TypedClient

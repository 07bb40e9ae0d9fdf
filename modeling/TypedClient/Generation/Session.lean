import TypedClient.Generation.Generator

/-! # Sessions

A session holds what a run has gathered so far: the imports, whether an operation or a fragment went
into the module, the records and the notices. Events are played to it one by one. A session can also
be driven by steps, in any order; each step has an answer or a fault, and its events count either
way.
-/

namespace TypedClient

/-- What a run has gathered. -/
structure Session where
  imports : List String := []
  collected : Nat := 0
  fragmentsRendered : Bool := false
  records : Records := {}
  notices : List Notice := []
  deriving DecidableEq, Repr

namespace Session

/-- Keeps an import, unless it is there already. -/
def require (session : Session) (statement : String) : Session :=
  if statement = "" ∨ statement ∈ session.imports then session
  else { session with
    imports := session.imports ++ [statement]
    notices := session.notices ++ [.importRequired statement] }

/-- Plays an event. -/
def play (session : Session) : Event → Session
  | .require statement => session.require statement
  | .collect => { session with collected := session.collected + 1 }
  | .renderFragments any => { session with fragmentsRendered := any }
  | .notice notice => { session with notices := session.notices ++ [notice] }

/-- Plays events in order. -/
def playAll (session : Session) (events : List Event) : Session :=
  events.foldl play session

/-- The import statements of the module. Without an operation only the fragments need an import. -/
def preamble (session : Session) (config : Config) : List String :=
  config.baselineImport ::
    (if session.collected ≠ 0 then session.imports
      else if session.fragmentsRendered then [config.tagImport]
      else [])

end Session

/-- A step of a session that is driven from outside. -/
inductive Step where
  | requireImport (statement : Option String)
  | documentVariable (operation : Document.Operation)
  | fragmentVariable (name : Setting)
  | resultType (operation : Document.Operation)
  | variablesType (operation : Document.Operation)
  | renderDocument (operation : Document.Operation)
  | renderFragments
  | spec (operation : Document.Operation)
  | emit (operation : Document.Operation)
  | traverse (document : Document)
  | buildImports
  | createFactory

/-- The answer to a step. -/
inductive Answer where
  | nothing
  | text (text : String)
  | texts (texts : List String)
  | spec (spec : OperationSpec)
  deriving DecidableEq, Repr

/-- The events of a step, its answer and the record that it adds. Only the imports and the factory
depend on the session. -/
def Step.trace (generator : Generator) (session : Session) :
    Step → Trace (Answer × Option GroupedRecord)
  | requireImport statement => do
    Trace.emit (.require (statement.getD ""))
    return (.nothing, none)
  | documentVariable operation =>
    return (.text (generator.config.documentVariable (operation.name.getD "")), none)
  | fragmentVariable name => do
    return (.text (← Trace.lift (generator.config.fragmentVariableOf name)), none)
  | resultType operation => do return (.text (← generator.resultType operation), none)
  | variablesType operation => do return (.text (← generator.variablesType operation), none)
  | renderDocument operation => do
    return (.text (← generator.documentConstant operation), none)
  | renderFragments => do return (.text (← generator.fragmentConstants), none)
  | .spec operation => do return (.spec (← generator.spec operation), none)
  | emit operation => do
    let emitted ← generator.emit operation
    return (.text emitted.wrapper, emitted.record?)
  | traverse document => do return (.texts (← generator.traverse document).bodies, none)
  | buildImports => return (.texts (session.preamble generator.config), none)
  | createFactory => do
    let factory ← session.records.renderFactory generator.templates generator.config.factoryName
    return (.text factory, none)

/-- Takes a step: the session after it and the answer or the fault. -/
def Session.step (generator : Generator) (session : Session) (step : Step) :
    Session × Except GenerationFault Answer :=
  let trace := step.trace generator session
  let played := session.playAll trace.events
  match trace.outcome with
  | .error fault => (played, .error fault)
  | .ok (answer, none) => (played, .ok answer)
  | .ok (answer, some record) => ({ played with records := played.records.add record }, .ok answer)

/-- Takes steps one after the other: the session at the end, and each answer with the session right
after its step. -/
def Session.run (generator : Generator) (session : Session) :
    List Step → Session × List (Session × Except GenerationFault Answer)
  | [] => (session, [])
  | step :: steps =>
    let taken := session.step generator step
    let (last, answers) := taken.1.run generator steps
    (last, taken :: answers)

end TypedClient

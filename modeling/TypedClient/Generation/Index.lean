import TypedClient.Document.Syntax

/-! # Index of definitions

The names of the operations and fragments of a document by kind, each name once.
-/

namespace TypedClient

/-- The names of definitions by kind, in the order of their first definition. -/
structure DefinitionIndex where
  queries : List String
  mutations : List String
  subscriptions : List String
  fragments : List String
  deriving DecidableEq, Repr

/-- The name of an operation. An anonymous one has none, and an empty name does not count. -/
def Document.Operation.givenName? (operation : Document.Operation) : Option String :=
  operation.name.filter (· ≠ "")

/-- The different names of the operations of a kind. -/
def Document.operationNames (document : Document) (kind : Document.OperationKind) : List String :=
  ((document.operations.filter (·.kind == kind)).filterMap (·.givenName?)).eraseDups

/-- The index of a document. -/
def Document.index (document : Document) : DefinitionIndex where
  queries := document.operationNames .query
  mutations := document.operationNames .mutation
  subscriptions := document.operationNames .subscription
  fragments := (document.fragments.map (·.name)).eraseDups

namespace DefinitionIndex

/-- The names of a kind. -/
def names? (index : DefinitionIndex) : String → Option (List String)
  | "query" => some index.queries
  | "mutation" => some index.mutations
  | "subscription" => some index.subscriptions
  | "fragment" => some index.fragments
  | _ => none

/-- A definition of the kind has the name. There is no answer for words that name no kind. -/
def has? (index : DefinitionIndex) (kind name : String) : Option Bool :=
  (index.names? kind).map fun names => decide (name ∈ names)

/-- The number of different named operations. -/
def count (index : DefinitionIndex) : Nat :=
  index.queries.length + index.mutations.length + index.subscriptions.length

end DefinitionIndex

end TypedClient

import TypedClient.Generation.Trace

/-! # The factory

The factory groups the recorded operations into queries and mutations, each under its key. Several
records of a group can have the same key; all of them are written and the last one wins, so each
such key is announced with the names that share it.
-/

namespace TypedClient

/-- Puts a name under a key, behind the names that are there; a new key goes to the end. -/
def addUnderKey (key name : String) : List (String × List String) → List (String × List String)
  | [] => [(key, [name])]
  | (other, names) :: rest =>
    if other = key then (other, names ++ [name]) :: rest
    else (other, names) :: addUnderKey key name rest

/-- The names of records by their keys, in the order in which the keys first occur. -/
def namesByKey (records : List OperationRecord) : List (String × List String) :=
  records.foldl (fun groups record => addUnderKey (factoryKey record.name) record.name groups) []

/-- The keys that several records share, and their names. -/
def keyCollisions (records : List OperationRecord) : List (String × List String) :=
  (namesByKey records).filter fun group => 1 < group.2.length

/-- The records of a run. -/
structure Records where
  queries : List OperationRecord := []
  mutations : List OperationRecord := []
  deriving DecidableEq, Repr

namespace Records

/-- All records, queries first. -/
def all (records : Records) : List OperationRecord :=
  records.queries ++ records.mutations

/-- The announcements of the keys that are shared within a group. -/
def collisionNotices (records : Records) : List Notice :=
  let announce (group : String) (members : List OperationRecord) :=
    (keyCollisions members).map fun collision => Notice.keyShared group collision.1 collision.2
  announce "query" records.queries ++ announce "mutate" records.mutations

/-- The text of the factory, after the announcements. -/
def renderFactory (records : Records) (templates : Templates) (name : String) : Trace String := do
  records.collisionNotices.forM Trace.note
  Trace.lift ((templates.renderFactory name records.queries records.mutations).mapError .template)

end Records

end TypedClient

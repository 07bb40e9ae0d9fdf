/-! # Notices

What a run says about its progress. Most notices are for whoever follows the run in detail; a
warning is for everyone. Each notice belongs to one part of the program, which has a channel of its
own.
-/

namespace TypedClient

/-- Something worth saying about a run. -/
inductive Notice where
  | schemaLoading (files : Nat)
  | patternUnmatched (pattern : String)
  | documentsLoaded (count : Nat)
  | fragmentsResolved (own external : Nat)
  | definitionsFound (queries mutations subscriptions fragments : Nat)
  | importRequired (statement : String)
  | operationSkipped (name : String)
  | mutationExcluded (name : String)
  | mutationUnwrapped (name functionName : String)
  | recordsEmitted (queries mutations : Nat)
  | keyShared (group key : String) (names : List String)
  deriving DecidableEq, Repr

namespace Notice

/-- The notice is a warning. -/
def isWarning : Notice → Bool
  | patternUnmatched _ => true
  | mutationUnwrapped .. => true
  | keyShared .. => true
  | _ => false

/-- The channel of the part of the program that gives the notice. -/
def channel : Notice → String
  | schemaLoading _ => "gql_tsgen.core.loader"
  | patternUnmatched _ => "gql_tsgen.core.loader"
  | documentsLoaded _ => "gql_tsgen.core.loader"
  | fragmentsResolved .. => "gql_tsgen.core.fragments"
  | definitionsFound .. => "gql_tsgen.core.plugin"
  | importRequired _ => "gql_tsgen.core.context"
  | operationSkipped _ => "gql_tsgen.core.emitter"
  | mutationExcluded _ => "gql_tsgen.core.emitter"
  | mutationUnwrapped .. => "gql_tsgen.core.emitter"
  | recordsEmitted .. => "gql_tsgen.core.emitter"
  | keyShared .. => "gql_tsgen.core.factory"

/-- The notice in words. -/
def message : Notice → String
  | schemaLoading files => "Loading schema from " ++ toString files ++ " file(s)"
  | patternUnmatched pattern => "No documents match " ++ pattern
  | documentsLoaded count => "Loaded " ++ toString count ++ " document(s)"
  | fragmentsResolved own external =>
    "Resolved " ++ toString own ++ " local and " ++ toString external ++ " external fragments"
  | definitionsFound queries mutations subscriptions fragments =>
    "Found " ++ toString queries ++ " queries, " ++ toString mutations ++ " mutations, " ++
      toString subscriptions ++ " subscriptions, " ++ toString fragments ++ " fragments"
  | importRequired statement => "Import required: " ++ statement
  | operationSkipped name => "Skipping " ++ name ++ ": only queries and mutations get wrappers"
  | mutationExcluded name => "Excluding mutation " ++ name
  | mutationUnwrapped name functionName =>
    "No wrapper emitted for mutation " ++ name ++ "; the factory still references " ++ functionName
  | recordsEmitted queries mutations =>
    "Emitted " ++ toString queries ++ " query and " ++ toString mutations ++ " mutation records"
  | keyShared group key names =>
    "Factory key " ++ group ++ "." ++ key ++ " is shared by " ++ String.intercalate ", " names ++
      "; the last one wins"

/-- The notice as a line of the detailed log. -/
def logLine (notice : Notice) : String :=
  (if notice.isWarning then "WARNING " else "DEBUG ") ++ notice.channel ++ ": " ++ notice.message

end Notice

end TypedClient

import TypedClient.Document.Syntax
import TypedClient.Text.Basic

/-! # Filters and headers

Operations can be left out by the beginnings and ends of their names, and texts can be put above the
generated module.
-/

namespace TypedClient

/-- Leaves out operations by their names. A condition that is absent or empty is not in force. -/
structure OperationFilter where
  excludedStart : Option String := none
  excludedEnd : Option String := none
  includedStart : Option String := none
  includedEnd : Option String := none
  deriving DecidableEq, Repr

namespace OperationFilter

/-- The condition holds of the given text, if it is in force. -/
def inForce (condition : Option String) (holds : String → Bool) : Bool :=
  match condition with
  | some text => text != "" && holds text
  | none => false

/-- An operation of the name stays. -/
def keepsName (filter : OperationFilter) (name : String) : Bool :=
  !inForce filter.excludedStart (Text.startsWith name) &&
    !inForce filter.excludedEnd (Text.endsWith name) &&
    !inForce filter.includedStart (fun start => !Text.startsWith name start) &&
    !inForce filter.includedEnd (fun ending => !Text.endsWith name ending)

/-- The definition stays: it is no operation, or has no name, or its name stays. -/
def keeps (filter : OperationFilter) : Document.Definition → Bool
  | .operation operation => operation.name.all filter.keepsName
  | _ => true

end OperationFilter

/-- The document without the operations that the filter leaves out. -/
def Document.filterOperations (document : Document) (filter : OperationFilter) : Document :=
  document.filter filter.keeps

/-- The document after all filters, one after the other. -/
def Document.applyFilters (document : Document) (filters : List OperationFilter) : Document :=
  filters.foldl Document.filterOperations document

/-- The text with a header above it. A line feed ends the header and a blank line follows. -/
def addHeader (content header : String) : String :=
  (if Text.endsWith header "\n" then header ++ "\n" else header ++ "\n\n") ++ content

/-- The text after all headers are put above it, one after the other. -/
def addHeaders (content : String) (headers : List String) : String :=
  headers.foldl addHeader content

end TypedClient

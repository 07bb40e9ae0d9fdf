import TypedClient.Document.Syntax
import TypedClient.Number.Double
import TypedClient.Text.Quoted

/-! # Settings

The values that a configuration holds before it is checked: the values of a data file and, because
a configuration can also be put together by a program, syntax trees and finished fragment
descriptors.
-/

namespace TypedClient

/-- An unchecked value of a configuration. -/
inductive Setting where
  | null
  | flag (value : Bool)
  | integer (value : Int)
  | decimal (value : Double)
  | text (value : String)
  | list (items : List Setting)
  | table (entries : List (String × Setting))
  | definition (definition : Document.Definition)
  | descriptor (node : Document.Fragment) (name onType isExternal : Setting)
  deriving Inhabited

namespace Setting

/-- The value counts as given: not null, false, zero or empty. -/
def isTruthy : Setting → Bool
  | null => false
  | flag value => value
  | integer value => value != 0
  | decimal value => !value.isZero
  | text value => value != ""
  | list items => !items.isEmpty
  | table entries => !entries.isEmpty
  | .definition _ => true
  | descriptor .. => true

/-- The value can serve as a key, as lists and tables cannot. A descriptor can if all that it holds
can. -/
def isKey : Setting → Bool
  | list _ => false
  | table _ => false
  | descriptor _ name onType isExternal => name.isKey && onType.isKey && isExternal.isKey
  | _ => true

mutual

/-- The value as a message shows it. -/
def display : Setting → String
  | .null => "None"
  | .flag true => "True"
  | .flag false => "False"
  | .integer value => toString value
  | .decimal value => value.print
  | .text value => Text.quoted value
  | .list items => "[" ++ String.intercalate ", " (displayItems items) ++ "]"
  | .table entries => "\x7b" ++ String.intercalate ", " (displayEntries entries) ++ "\x7d"
  | .definition _ => "<definition>"
  | .descriptor .. => "<fragment>"

/-- The items of a list as a message shows them. -/
def displayItems : List Setting → List String
  | [] => []
  | item :: rest => display item :: displayItems rest

/-- The entries of a table as a message shows them. -/
def displayEntries : List (String × Setting) → List String
  | [] => []
  | (key, value) :: rest => (Text.quoted key ++ ": " ++ display value) :: displayEntries rest

end

/-- The value as it stands in running text: a text as it is, anything else as a message shows it. -/
def inline : Setting → String
  | text value => value
  | other => other.display

/-- The entry of a table under a key. -/
def entry? (entries : List (String × Setting)) (key : String) : Option Setting :=
  (entries.find? (·.1 == key)).map (·.2)

end Setting

end TypedClient

import TypedClient.Operation.Spec
import TypedClient.Text.Lines

/-! # The packaged templates

The text of a document constant, of a wrapper function with its doc comment, and of the factory.

The doc comment shows how the function is used. A usage example names each variable on a line of its
own; each such line continues the comment with an asterisk and a number of tabs.
-/

namespace TypedClient.Template

/-! ## Placeholders for variables in usage examples -/

/-- The number of tabs that a whole number asks for: none if it is negative. One that does not fit
into 64 bits is no number of tabs. -/
def tabCount? (number : Int) : Option Nat :=
  if -9223372036854775808 ≤ number ∧ number < 9223372036854775808 then some number.toNat else none

/-- What stands in front of the name in the placeholder line of a variable, line feed included. -/
def placeholderStart (tabs : Nat) : String :=
  "\n* " ++ String.ofList (List.replicate tabs '\t')

/-- What stands between the name and its value in the placeholder line of a variable. -/
def placeholderMiddle : String := ": // value for "

/-- The placeholder line of a variable, with the line feed in front of it. -/
def placeholderLine (tabs : Nat) (name : String) : String :=
  placeholderStart tabs ++ name ++ placeholderMiddle ++ name

/-- The placeholder lines of variables. -/
def variablePlaceholders (names : List String) (tabs : Nat) : String :=
  String.join (names.map (placeholderLine tabs))

/-- What stands in front of the placeholder lines in an options argument. -/
def exampleStart : String := ", \x7b\n*       variables: \x7b"

/-- What stands behind the placeholder lines in an options argument. -/
def exampleEnd : String := "\n*       \x7d\n*   \x7d"

/-- The options argument of a usage example, nothing if there are no variables. -/
def exampleArguments (names : List String) (tabs : Nat) : String :=
  if names.isEmpty then "" else exampleStart ++ variablePlaceholders names tabs ++ exampleEnd

/-! ## Templates -/

/-- The type of the client that wrappers take. -/
def clientType : String := "ApolloClient<object>"

/-- The reference to the constant of a fragment inside of a document constant. -/
def fragmentReference (constant : String) : String :=
  "$\x7b" ++ constant ++ "\x7d"

/-- The margin of a document inside of its constant. -/
def documentMargin : String := "    "

/-- The constant that holds a document, followed by the fragments that it refers to. -/
def renderDocument (name body : String) (references : List String) : String :=
  "export const " ++ name ++ " = gql`\n" ++ Text.indent documentMargin body ++ "\n" ++
    String.join (references.map fun constant =>
      documentMargin ++ fragmentReference constant ++ "\n") ++ "`;"

/-- The doc comment of a wrapper, line by line. An example with variables takes several lines. -/
def docComment (spec : OperationSpec) : List String :=
  ["/**",
    "* " ++ spec.functionName,
    "*",
    "* To execute a " ++ spec.documentKeyword ++
      " against the apollo client simply call this method",
    "* with a client and pass it any options that you require then await or chain the method call.",
    "*",
    "* @param options options that will be passed into the " ++ spec.documentKeyword ++
      ", supported options are listed on: " ++
      "https://www.apollographql.com/docs/react/api/core/#ApolloClient." ++ spec.action,
    "*",
    "* @example",
    "* ```typescript",
    "* try \x7b",
    "*   const data = await " ++ spec.functionName ++ "(client" ++
      exampleArguments spec.variableNames 4 ++ ");",
    "*",
    "*   // process data",
    "* \x7d catch (error) \x7b",
    "*   // handle error",
    "* \x7d",
    "* ```",
    "*",
    "* @example",
    "* ```typescript",
    "* " ++ spec.functionName ++ "(client" ++ exampleArguments spec.variableNames 3 ++ ")",
    "*   .then(result => // process data)",
    "*   .catch(error => // handle error);",
    "* ```",
    "*/"]

/-- The mark of a parameter that may be left out. -/
def optionalMark (optional : Bool) : String :=
  if optional then "?" else ""

/-- The wrapper function, line by line. -/
def wrapperFunction (spec : OperationSpec) : List String :=
  ["export const " ++ spec.functionName ++ " = (client: " ++ clientType ++ ", options" ++
      optionalMark (!spec.hasRequiredVariables) ++ ": " ++ spec.optionsType ++ ") => \x7b",
    "    return client",
    "        ." ++ spec.action ++ "<" ++ spec.resultType ++ ", " ++ spec.variablesType ++ ">(\x7b",
    "            ...options,",
    "            " ++ spec.documentKeyword ++ ": " ++ spec.documentVariable,
    "        \x7d);",
    "\x7d;"]

/-- The wrapper function with its doc comment. -/
def renderOperation (spec : OperationSpec) : String :=
  String.intercalate "\n" (docComment spec ++ wrapperFunction spec)

/-- The entry of a record in the factory. -/
def factoryEntry (record : OperationRecord) : String :=
  "        " ++ factoryKey record.name ++ ": (options" ++ optionalMark record.optional ++ ": " ++
    record.type ++ ") => " ++ record.functionName ++ "(client, options),"

/-- A member of the factory, line by line; without records there is none. -/
def factoryMember (key : String) (records : List OperationRecord) : List String :=
  if records.isEmpty then []
  else ["    " ++ key ++ ": \x7b"] ++ records.map factoryEntry ++ ["    \x7d,"]

/-- The factory: a function from a client to the wrappers, grouped into queries and mutations. -/
def renderFactory (name : String) (queries mutations : List OperationRecord) : String :=
  String.intercalate "\n"
    (["export const " ++ name ++ " = (client: " ++ clientType ++ ") => (\x7b"] ++
      factoryMember "query" queries ++ factoryMember "mutate" mutations ++ ["\x7d);"])

end TypedClient.Template

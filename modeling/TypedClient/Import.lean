import TypedClient.Config

/-! # Import statements

The statements at the top of a generated module.
-/

namespace TypedClient

/-- The client types that every wrapper mentions. -/
def clientTypes : List String :=
  ["ApolloClient", "QueryOptions", "MutationOptions"]

/-- Imports the given names from a module. -/
def importNames (names module : String) : String :=
  "import \x7b " ++ names ++ " \x7d from '" ++ module ++ "';"

/-- The import of the client types. -/
def Config.baselineImport (config : Config) : String :=
  importNames (String.intercalate ", " clientTypes) config.apolloClientImportFrom

/-- The import of the document tag. The setting is a module, whose default export is the tag, or a
module and the name of an export with a hash sign between them. -/
def tagImport (setting : String) : String :=
  let module := String.ofList (setting.toList.takeWhile (· != '#'))
  let exported := String.ofList ((setting.toList.dropWhile (· != '#')).drop 1)
  if exported = "" then "import gql from '" ++ module ++ "';"
  else if exported = "gql" then importNames "gql" module
  else importNames (exported ++ " as gql") module

/-- The import of the document tag that the configuration asks for. -/
def Config.tagImport (config : Config) : String :=
  TypedClient.tagImport config.gqlImport

/-- The import of the operation types as a namespace, if they come from a module. -/
def Config.typesImport? (config : Config) : Option String :=
  config.operationTypesModule?.map fun module =>
    "import * as " ++ config.namespacedImportName ++ " from '" ++ module ++ "';"

end TypedClient

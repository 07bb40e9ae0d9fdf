import TypedClient.Fragment.Descriptor

/-! # Configuration

The options of a run, with the values they have when nothing is said.
-/

namespace TypedClient

/-- How the names of a document become identifiers. -/
inductive NamingConvention where
  | pascalCase
  | keep
  deriving DecidableEq, Repr

/-- The convention as a configuration names it. -/
def NamingConvention.text : NamingConvention → String
  | pascalCase => "pascal-case"
  | keep => "keep"

/-- What is generated for a mutation: only an entry of the factory, nothing at all, or a wrapper and
an entry as for a query. -/
inductive MutationPolicy where
  | recordOnly
  | exclude
  | emit
  deriving DecidableEq, Repr

/-- The policy as a configuration names it. -/
def MutationPolicy.text : MutationPolicy → String
  | recordOnly => "record-only"
  | exclude => "exclude"
  | emit => "emit"

/-- The policies in the order in which messages list them. -/
def MutationPolicy.all : List MutationPolicy :=
  [recordOnly, exclude, emit]

/-- The policy with the given name. -/
def MutationPolicy.ofText? (text : String) : Option MutationPolicy :=
  all.find? (·.text == text)

/-- The options of a run. -/
structure Config where
  /-- The name of the output file is not checked. -/
  disableChecks : Bool := false
  /-- Fragments that the documents use and do not define. -/
  externalFragments : List FragmentDescriptor := []
  /-- What stands in front of the name of an operation type. -/
  typesPrefix : String := ""
  /-- What stands behind the name of an operation type. -/
  typesSuffix : String := ""
  namingConvention : NamingConvention := .pascalCase
  /-- Underscores in names only separate words. -/
  transformUnderscore : Bool := false
  documentVariableSuffix : String := "Document"
  fragmentVariableSuffix : String := "FragmentDoc"
  /-- The module of the document tag, with the name of its export behind a hash sign. -/
  gqlImport : String := "graphql-tag"
  apolloClientImportFrom : String := "@apollo/client"
  /-- The module of the operation types, which then stand in a namespace. -/
  importOperationTypesFrom : Option String := none
  namespacedImportName : String := "Types"
  mutationPolicy : MutationPolicy := .recordOnly
  factoryName : String := "graphQlClient"

/-- The module of the operation types, if one is given and not empty. -/
def Config.operationTypesModule? (config : Config) : Option String :=
  config.importOperationTypesFrom.filter (· != "")

end TypedClient

import TypedClient.Config
import TypedClient.Text.Basic
import TypedClient.Text.Words

/-! # Identifiers

The names of the generated module, made from the names of a document: an operation `getUsers` has
the identifier `GetUsersQuery`, the document constant `GetUsersDocument` and the factory key
`getUsers`. The naming convention converts the name itself; affixes are put around the converted
name.
-/

namespace TypedClient

namespace Config

/-- The name by the naming convention, without affixes. -/
def convert (config : Config) (name : String) : String :=
  match config.namingConvention with
  | .keep => name
  | .pascalCase => if config.transformUnderscore then Text.pascalCase name
      else Text.pascalPieces name

/-- What is put around a converted name. -/
structure Affixes where
  before : String := ""
  after : String := ""
  /-- The prefix of operation types is put in front. -/
  withTypesPrefix : Bool := true
  /-- The suffix of operation types is put behind. -/
  withTypesSuffix : Bool := true

/-- Puts the affixes around a name that is converted already. -/
def surround (config : Config) (affixes : Affixes) (converted : String) : String :=
  (if affixes.withTypesPrefix then config.typesPrefix else "") ++ affixes.before ++ converted ++
    affixes.after ++ (if affixes.withTypesSuffix then config.typesSuffix else "")

/-- The identifier for a name of a document. -/
def convertName (config : Config) (name : String) (affixes : Affixes) : String :=
  config.surround affixes (config.convert name)

/-- The affixes of identifiers that name no operation type. -/
def plainAffixes (after : String) : Affixes :=
  { after, withTypesPrefix := false, withTypesSuffix := false }

/-- The identifier of an operation. That of an anonymous one is its bare kind. -/
def operationIdentifier (config : Config) (name kind : String) : String :=
  config.convertName name (plainAffixes (Text.pascalCase kind))

/-- The constant that holds the document of an operation. -/
def documentVariable (config : Config) (name : String) : String :=
  config.convertName name (plainAffixes config.documentVariableSuffix)

/-- The constant that holds the document of a fragment. -/
def fragmentVariable (config : Config) (name : String) : String :=
  config.convertName name (plainAffixes config.fragmentVariableSuffix)

/-- The name of an operation type, without its namespace. -/
def operationTypeName (config : Config) (name after : String) : String :=
  config.convertName name { after }

end Config

/-- The key of an operation in the factory: its identifier with a small first letter and without a
trailing `Query` and then a trailing `Mutation`. -/
def factoryKey (identifier : String) : String :=
  Text.dropEnding (Text.dropEnding (Text.lowerFirst identifier) "Query") "Mutation"

end TypedClient

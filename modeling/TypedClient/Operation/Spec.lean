import TypedClient.Naming

/-! # What a wrapper says of an operation

A wrapper function names its operation, the types of its result and variables, and the constant with
its document. All of that follows from the head of the operation: its kind, its name and its
variables. A head can also be put together by hand, and then parts of its variables may be missing;
without the name of a variable there is no wrapper (`OperationHead.spec?`).
-/

namespace TypedClient

open Document

/-- What a wrapper says of an operation. -/
structure OperationSpec where
  /-- The identifier, such as `GetUsersQuery`. -/
  name : String
  /-- The kind as a word with a capital. -/
  kind : String
  /-- The method of the client that runs the operation. -/
  action : String
  /-- The option that carries the document. -/
  documentKeyword : String
  optionsType : String
  resultType : String
  variablesType : String
  documentVariable : String
  variableNames : List String := []
  hasRequiredVariables : Bool := false
  deriving DecidableEq, Repr

namespace OperationSpec

/-- The name of the wrapper function. -/
def functionName (spec : OperationSpec) : String :=
  spec.action ++ spec.name

/-- The operation is a query. -/
def isQuery (spec : OperationSpec) : Bool :=
  spec.kind == "Query"

/-- The operation is a mutation. -/
def isMutation (spec : OperationSpec) : Bool :=
  spec.kind == "Mutation"

end OperationSpec

/-- The entry of the factory for an operation. -/
structure OperationRecord where
  name : String
  action : String
  /-- The type of the options. -/
  type : String
  /-- The options may be left out. -/
  optional : Bool := false
  deriving DecidableEq, Repr

namespace OperationRecord

/-- The name of the wrapper function. -/
def functionName (record : OperationRecord) : String :=
  record.action ++ record.name

/-- The record of an operation that a wrapper is described for. -/
def ofSpec (spec : OperationSpec) : OperationRecord where
  name := spec.name
  action := spec.action
  type := spec.optionsType
  optional := !spec.hasRequiredVariables

end OperationRecord

/-- A variable of an operation, as far as it is given. -/
structure VariableHead where
  name : Option String
  type : Option TypeRef
  defaultValue : Option Value

/-- The caller has to give the variable a value. -/
def VariableHead.isRequired (head : VariableHead) : Bool :=
  head.type.any TypeRef.isNonNull && head.defaultValue.isNone

/-- An operation without its selections. -/
structure OperationHead where
  kind : OperationKind
  name : Option String
  variableHeads : List VariableHead

/-- The head of an operation. -/
def Document.Operation.head (operation : Operation) : OperationHead where
  kind := operation.kind
  name := operation.name
  variableHeads := operation.variableDefinitions.map fun definition =>
    ⟨some definition.name, some definition.type, definition.defaultValue⟩

/-- The client method that runs operations of a kind. -/
def Document.OperationKind.action : OperationKind → String
  | mutation => "mutate"
  | _ => "query"

/-- The option of that method that carries the document. -/
def Document.OperationKind.documentKeyword : OperationKind → String
  | mutation => "mutation"
  | _ => "query"

/-- The type of the options of that method. -/
def Document.OperationKind.optionsBase : OperationKind → String
  | mutation => "MutationOptions"
  | _ => "QueryOptions"

namespace Config

/-- The type of an operation with the given ending, in its namespace if the types are imported. -/
def operationType (config : Config) (name after : String) : String :=
  let typeName := config.operationTypeName name after
  match config.operationTypesModule? with
  | some _ => config.namespacedImportName ++ "." ++ typeName
  | none => typeName

/-- The type of the result of an operation. -/
def resultType (config : Config) (kind : OperationKind) (name : String) : String :=
  config.operationType name (Text.pascalCase kind.keyword)

/-- The type of the variables of an operation. -/
def variablesType (config : Config) (kind : OperationKind) (name : String) : String :=
  config.operationType name (Text.pascalCase kind.keyword ++ "Variables")

/-- What a wrapper says of an operation of the given kind and name. -/
def operationSpec (config : Config) (kind : OperationKind) (name : String)
    (variableNames : List String) (hasRequiredVariables : Bool) : OperationSpec :=
  let resultType := config.resultType kind name
  let variablesType := config.variablesType kind name
  { name := config.operationIdentifier name kind.keyword
    kind := Text.pascalCase kind.keyword
    action := kind.action
    documentKeyword := kind.documentKeyword
    optionsType := "Omit<" ++ kind.optionsBase ++ "<" ++ variablesType ++ ", " ++ resultType ++
      ">, '" ++ kind.documentKeyword ++ "'>"
    resultType
    variablesType
    documentVariable := config.documentVariable name
    variableNames
    hasRequiredVariables }

end Config

/-- What a wrapper says of the operation, unless a variable has no name. -/
def OperationHead.spec? (config : Config) (head : OperationHead) : Option OperationSpec :=
  (head.variableHeads.mapM VariableHead.name).map fun variableNames =>
    config.operationSpec head.kind (head.name.getD "") variableNames
      (head.variableHeads.any VariableHead.isRequired)

/-- What a wrapper says of the operation. -/
def Document.Operation.spec (config : Config) (operation : Operation) : OperationSpec :=
  config.operationSpec operation.kind (operation.name.getD "")
    (operation.variableDefinitions.map (·.name))
    (operation.head.variableHeads.any VariableHead.isRequired)

end TypedClient

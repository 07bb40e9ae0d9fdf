import TypedClient.Document.Reader.Executable

/-! # Reading type system definitions

The grammar of schemas, types and directive definitions and of their extensions. Descriptions are
read and not kept. An extension that adds nothing is refused at the token after it.

The directives of types and their parts keep their places, and with them the whole text that is
read, which is why the readers here are given that text.
-/

namespace TypedClient.Document

/-- The place as it is written in the definition of a directive. -/
def DirectiveLocation.ofKeyword? : String → Option DirectiveLocation
  | "QUERY" => some query
  | "MUTATION" => some mutation
  | "SUBSCRIPTION" => some subscription
  | "FIELD" => some field
  | "FRAGMENT_DEFINITION" => some fragmentDefinition
  | "FRAGMENT_SPREAD" => some fragmentSpread
  | "INLINE_FRAGMENT" => some inlineFragment
  | "VARIABLE_DEFINITION" => some variableDefinition
  | "SCHEMA" => some schema
  | "SCALAR" => some scalar
  | "OBJECT" => some object
  | "FIELD_DEFINITION" => some fieldDefinition
  | "ARGUMENT_DEFINITION" => some argumentDefinition
  | "INTERFACE" => some interface
  | "UNION" => some union
  | "ENUM" => some enum
  | "ENUM_VALUE" => some enumValue
  | "INPUT_OBJECT" => some inputObject
  | "INPUT_FIELD_DEFINITION" => some inputFieldDefinition
  | "DIRECTIVE_DEFINITION" => some directiveDefinition
  | _ => none

namespace Reader

variable (text : String)

/-- The place of the token in front. -/
def place : Reader Place := do
  return ⟨text, ← remaining⟩

/-- An argument with the place of its value. -/
def placedArgument : Reader PlacedArgument := do
  let argumentName ← name
  mark .colon
  let start ← place text
  return ⟨⟨argumentName, ← value true nestingLimit⟩, start⟩

/-- A directive with its place. -/
def placedDirective : Reader PlacedDirective := do
  let start ← place text
  mark .atSign
  let directiveName ← name
  return ⟨directiveName, ← bracketed? .parenOpen (placedArgument text) .parenClose, start⟩

/-- Directives with their places, one after the other, perhaps none. -/
def placedDirectives : Reader (List PlacedDirective) :=
  allAt .atSign (placedDirective text)

/-- An argument of a field or a directive, or a field of an input object. -/
def inputValueDefinition : Reader InputValueDefinition := do
  discard description?
  let found ← name
  mark .colon
  let inputType ← type nestingLimit
  let defaultValue ← do
    if ← skip? .equals then pure (some (← value true nestingLimit)) else pure none
  return ⟨found, inputType, defaultValue, ← placedDirectives text⟩

/-- The arguments that a field or a directive takes. -/
def argumentDefinitions : Reader (List InputValueDefinition) :=
  bracketed? .parenOpen (inputValueDefinition text) .parenClose

/-- A field of an object or an interface. -/
def fieldDefinition : Reader FieldDefinition := do
  discard description?
  let found ← name
  let taken ← argumentDefinitions text
  mark .colon
  let fieldType ← type nestingLimit
  return ⟨found, taken, fieldType, ← placedDirectives text⟩

/-- The fields of an object or an interface, perhaps none. -/
def fieldDefinitions : Reader (List FieldDefinition) :=
  bracketed? .braceOpen (fieldDefinition text) .braceClose

/-- The interfaces that a type implements, perhaps none. -/
def implementedInterfaces : Reader (List String) := do
  if ← skipWord? "implements" then separated .ampersand name else return []

/-- The names of other values, which no value of an enumeration can have. -/
def reservedWords : List String :=
  ["true", "false", "null"]

/-- A value of an enumeration. -/
def enumValueDefinition : Reader EnumValueDefinition := do
  discard description?
  let front ← peek
  if front.text?.any (· ∈ reservedWords) then throw (.reservedEnumValue front)
  let found ← name
  return ⟨found, ← placedDirectives text⟩

/-- A type at which one kind of operation starts. -/
def rootType : Reader (OperationKind × String) := do
  let kind ← operationKind
  mark .colon
  return (kind, ← name)

/-- The part of a schema definition behind the keyword. -/
def schemaDefinition : Reader SchemaDefinition := do
  let found ← directives true nestingLimit
  return ⟨found, ← bracketedSome .braceOpen rootType .braceClose⟩

/-- The part of a schema extension behind the keyword. -/
def schemaExtension : Reader SchemaDefinition := do
  let found ← directives true nestingLimit
  let roots ← bracketed? .braceOpen rootType .braceClose
  if found.isEmpty && roots.isEmpty then refuse else return ⟨found, roots⟩

/-- The part of a type definition or extension behind its keyword. -/
def typeDefinition (keyword : String) : Reader TypeDefinition := do
  let found ← name
  match keyword with
  | "type" =>
    let interfaces ← implementedInterfaces
    let annotations ← placedDirectives text
    return ⟨found, annotations, .object interfaces (← fieldDefinitions text)⟩
  | "interface" =>
    let interfaces ← implementedInterfaces
    let annotations ← placedDirectives text
    return ⟨found, annotations, .interface interfaces (← fieldDefinitions text)⟩
  | "union" =>
    let annotations ← placedDirectives text
    let members ← do
      if ← skip? .equals then separated .pipe name else pure []
    return ⟨found, annotations, .union members⟩
  | "enum" =>
    let annotations ← placedDirectives text
    return ⟨found, annotations,
      .enum (← bracketed? .braceOpen (enumValueDefinition text) .braceClose)⟩
  | "input" =>
    let annotations ← placedDirectives text
    return ⟨found, annotations,
      .inputObject (← bracketed? .braceOpen (inputValueDefinition text) .braceClose)⟩
  | _ => return ⟨found, ← placedDirectives text, .scalar⟩

/-- The words that start the definition of a type. -/
def typeKeywords : List String :=
  ["scalar", "type", "interface", "union", "enum", "input"]

/-- A place named in the definition of a directive. -/
def directiveLocation : Reader DirectiveLocation := do
  let found ← name
  match DirectiveLocation.ofKeyword? found with
  | some location => return location
  | none => throw (.unexpected (.name found))

/-- The part of a directive definition behind the keyword. -/
def directiveDefinition : Reader DirectiveDefinition := do
  mark .atSign
  let found ← name
  let taken ← argumentDefinitions text
  let repeatable ← skipWord? "repeatable"
  word "on"
  return ⟨found, taken, repeatable, ← separated .pipe directiveLocation⟩

end Reader

/-- The part of a type is empty: no interface, field, member or value. -/
def TypeBody.isEmpty : TypeBody → Bool
  | scalar => true
  | object interfaces fields => interfaces.isEmpty && fields.isEmpty
  | interface interfaces fields => interfaces.isEmpty && fields.isEmpty
  | union members => members.isEmpty
  | enum values => values.isEmpty
  | inputObject fields => fields.isEmpty

namespace Reader

variable (text : String)

/-- An extension of a schema or a type. -/
def extension : Reader Definition := do
  match ← peekSecond with
  | .name "schema" => do
    discard take
    discard take
    return .schemaExtension (← schemaExtension)
  | .name keyword =>
    if keyword ∈ typeKeywords then
      discard take
      discard take
      let definition ← typeDefinition text keyword
      if definition.placedDirectives.isEmpty && definition.body.isEmpty then refuse
      else return .typeExtension definition
    else throw (.unexpected (.name keyword))
  | found => throw (.unexpected found)

/-- A definition. The word that decides its kind stands in front or behind a description. -/
def definition : Reader Definition := do
  if ← atMark .braceOpen then return .operation (← operation)
  let described := match ← peek with
    | .string _ => true
    | .blockString _ => true
    | _ => false
  let deciding ← if described then peekSecond else peek
  match deciding with
  | .mark .braceOpen => throw .describedShorthand
  | .name keyword =>
    if keyword == "schema" then
      discard description?
      discard take
      return .schema (← schemaDefinition)
    else if keyword ∈ typeKeywords then
      discard description?
      discard take
      return .type (← typeDefinition text keyword)
    else if keyword == "directive" then
      discard description?
      discard take
      return .directive (← directiveDefinition text)
    else if (OperationKind.ofKeyword? keyword).isSome then
      return .operation (← operation)
    else if keyword == "fragment" then
      return .fragment (← fragment)
    else if described then throw .describedNonDefinition
    else if keyword == "extend" then extension text
    else throw (.unexpected deciding)
  | _ => throw (.unexpected deciding)

/-- The definitions up to the end of the tokens. Their number is at most `bound`. -/
def definitions : (bound : Nat) → Reader (List Definition)
  | 0 => return []
  | bound + 1 => do
    let first ← definition text
    match ← peek with
    | .endOfDocument => return [first]
    | _ => return first :: (← definitions bound)

/-- A document, which has at least one definition. -/
def document : Reader Document := do
  discard peek
  definitions text ((← remaining) + 1)

end Reader

end TypedClient.Document

namespace TypedClient

/-- Reads the text of a document. -/
def Document.ofText (text : String) : Except Document.SyntaxFault Document :=
  Document.Reader.readAll (Document.Reader.document text) text

end TypedClient

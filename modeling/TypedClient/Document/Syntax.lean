/-! # Syntax of GraphQL documents

The syntax trees of a GraphQL document: values, types, selections, operations, fragments and the
definitions of a type system. Lists that the grammar requires to hold an item are plain lists here,
and an absent list is the empty one.

Trees do not say where in the text they stand, except for the directives of types and their parts:
a message about such a directive shows the lines around it.
-/

namespace TypedClient.Document

/-- A string, and whether it is written as a block between triple quotes. -/
structure StringLiteral where
  text : String
  block : Bool
  deriving DecidableEq, Repr

/-- A value. Numbers keep the digits they were written with. -/
inductive Value where
  | variable (name : String)
  | int (digits : String)
  | float (digits : String)
  | string (literal : StringLiteral)
  | boolean (value : Bool)
  | null
  | enum (name : String)
  | list (items : List Value)
  | object (fields : List (String × Value))
  deriving Repr

/-- A reference to a type. -/
inductive TypeRef where
  | named (name : String)
  | list (item : TypeRef)
  | nonNull (type : TypeRef)
  deriving DecidableEq, Repr

/-- A null value of the type is refused. -/
def TypeRef.isNonNull : TypeRef → Bool
  | nonNull _ => true
  | _ => false

/-- The type of the items, if the type is one of lists. -/
def TypeRef.item? : TypeRef → Option TypeRef
  | named _ => none
  | list item => some item
  | nonNull type => type.item?

/-- The name at the core of the type. -/
def TypeRef.name : TypeRef → String
  | named name => name
  | list item => item.name
  | nonNull type => type.name

/-- A named value given to a field or a directive. -/
structure Argument where
  name : String
  value : Value
  deriving Repr

/-- An annotation `@name(arguments)`. -/
structure Directive where
  name : String
  arguments : List Argument
  deriving Repr

/-- One entry of a selection set: a field, the spread of a named fragment, or a fragment written in
place. A field without a selection set has no selections. -/
inductive Selection where
  | field (responseName : Option String) (name : String) (arguments : List Argument)
      (directives : List Directive) (selections : List Selection)
  | spread (name : String) (directives : List Directive)
  | inline (onType : Option String) (directives : List Directive) (selections : List Selection)
  deriving Repr

/-- What an operation does with the service. -/
inductive OperationKind where
  | query
  | mutation
  | subscription
  deriving DecidableEq, Repr

/-- The keyword that starts an operation of the kind. -/
def OperationKind.keyword : OperationKind → String
  | query => "query"
  | mutation => "mutation"
  | subscription => "subscription"

/-- The kind that a keyword names. -/
def OperationKind.ofKeyword? : String → Option OperationKind
  | "query" => some query
  | "mutation" => some mutation
  | "subscription" => some subscription
  | _ => none

/-- A variable that an operation declares. -/
structure VariableDefinition where
  description : Option StringLiteral
  name : String
  type : TypeRef
  defaultValue : Option Value
  directives : List Directive
  deriving Repr

/-- An operation; one without a name is anonymous. -/
structure Operation where
  description : Option StringLiteral
  kind : OperationKind
  name : Option String
  variableDefinitions : List VariableDefinition
  directives : List Directive
  selections : List Selection
  deriving Repr

/-- A fragment: a selection set to be spread into selections of the type it is declared on. -/
structure Fragment where
  description : Option StringLiteral
  name : String
  onType : String
  directives : List Directive
  selections : List Selection
  deriving Repr

/-- The place of a token in a text, given by the number of tokens from it to the end. -/
structure Place where
  text : String
  tokensLeft : Nat
  deriving DecidableEq, Repr

/-- An argument, and the place of its value. -/
structure PlacedArgument extends Argument where
  place : Place
  deriving Repr

/-- A directive, and its place. -/
structure PlacedDirective where
  name : String
  arguments : List PlacedArgument
  place : Place
  deriving Repr

/-- The directive as such. -/
def PlacedDirective.directive (placed : PlacedDirective) : Directive :=
  ⟨placed.name, placed.arguments.map (·.toArgument)⟩

/-- An argument of a field or a directive, or a field of an input object. -/
structure InputValueDefinition where
  name : String
  type : TypeRef
  defaultValue : Option Value
  placedDirectives : List PlacedDirective
  deriving Repr

/-- The directives of an argument or an input field. -/
def InputValueDefinition.directives (definition : InputValueDefinition) : List Directive :=
  definition.placedDirectives.map (·.directive)

/-- A field of an object or an interface. -/
structure FieldDefinition where
  name : String
  arguments : List InputValueDefinition
  type : TypeRef
  placedDirectives : List PlacedDirective
  deriving Repr

/-- The directives of a field. -/
def FieldDefinition.directives (definition : FieldDefinition) : List Directive :=
  definition.placedDirectives.map (·.directive)

/-- A value of an enumeration. -/
structure EnumValueDefinition where
  name : String
  placedDirectives : List PlacedDirective
  deriving Repr

/-- The directives of a value of an enumeration. -/
def EnumValueDefinition.directives (definition : EnumValueDefinition) : List Directive :=
  definition.placedDirectives.map (·.directive)

/-- The part of a type definition that differs between the kinds of type. -/
inductive TypeBody where
  | scalar
  | object (interfaces : List String) (fields : List FieldDefinition)
  | interface (interfaces : List String) (fields : List FieldDefinition)
  | union (members : List String)
  | enum (values : List EnumValueDefinition)
  | inputObject (fields : List InputValueDefinition)
  deriving Repr

/-- The definition or the extension of a type. -/
structure TypeDefinition where
  name : String
  placedDirectives : List PlacedDirective
  body : TypeBody
  deriving Repr

/-- The directives of a type. -/
def TypeDefinition.directives (definition : TypeDefinition) : List Directive :=
  definition.placedDirectives.map (·.directive)

/-- The definition or the extension of a schema: the types at which operations start. -/
structure SchemaDefinition where
  directives : List Directive
  roots : List (OperationKind × String)
  deriving Repr

/-- The places in a document that take directives. -/
inductive DirectiveLocation where
  | query | mutation | subscription | field | fragmentDefinition | fragmentSpread
  | inlineFragment | variableDefinition | schema | scalar | object | fieldDefinition
  | argumentDefinition | interface | union | enum | enumValue | inputObject
  | inputFieldDefinition | directiveDefinition
  deriving DecidableEq, Repr

/-- The definition of a directive. -/
structure DirectiveDefinition where
  name : String
  arguments : List InputValueDefinition
  repeatable : Bool
  locations : List DirectiveLocation
  deriving Repr

/-- A definition at the top level of a document. Descriptions are kept where they are printed. -/
inductive Definition where
  | operation (operation : Operation)
  | fragment (fragment : Fragment)
  | schema (definition : SchemaDefinition)
  | schemaExtension (extension : SchemaDefinition)
  | type (definition : TypeDefinition)
  | typeExtension (extension : TypeDefinition)
  | directive (definition : DirectiveDefinition)
  deriving Repr

end TypedClient.Document

namespace TypedClient

/-- A document is the list of its definitions. -/
abbrev Document := List Document.Definition

/-- The operations of a document, in order. -/
def Document.operations (document : Document) : List Document.Operation :=
  document.filterMap fun
    | .operation operation => some operation
    | _ => none

/-- The fragments of a document, in order. -/
def Document.fragments (document : Document) : List Document.Fragment :=
  document.filterMap fun
    | .fragment fragment => some fragment
    | _ => none

end TypedClient

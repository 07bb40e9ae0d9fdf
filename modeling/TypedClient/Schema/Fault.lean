import TypedClient.Document.Place
import TypedClient.Document.Printer
import TypedClient.Schema.Suggestion

/-! # Faults of a schema

What can be wrong with the definitions of a schema as a whole, and the words for it. A fault in an
argument of a directive shows the lines around its place.
-/

namespace TypedClient.Schema

open Document

/-- The kind of a type. -/
inductive TypeKind where
  | scalar
  | object
  | interface
  | union
  | enum
  | inputObject
  deriving DecidableEq, Repr

/-- The kind as a message names it. -/
def TypeKind.text : TypeKind → String
  | scalar => "scalar"
  | object => "object"
  | interface => "interface"
  | union => "union"
  | enum => "enum"
  | inputObject => "input object"

/-- The kind of the type with the given body. -/
def kindOf : TypeBody → TypeKind
  | .scalar => .scalar
  | .object .. => .object
  | .interface .. => .interface
  | .union _ => .union
  | .enum _ => .enum
  | .inputObject _ => .inputObject

/-- The place for a directive as a message names it. -/
def locationText : DirectiveLocation → String
  | .query => "query"
  | .mutation => "mutation"
  | .subscription => "subscription"
  | .field => "field"
  | .fragmentDefinition => "fragment definition"
  | .fragmentSpread => "fragment spread"
  | .inlineFragment => "inline fragment"
  | .variableDefinition => "variable definition"
  | .schema => "schema"
  | .scalar => "scalar"
  | .object => "object"
  | .fieldDefinition => "field definition"
  | .argumentDefinition => "argument definition"
  | .interface => "interface"
  | .union => "union"
  | .enum => "enum"
  | .enumValue => "enum value"
  | .inputObject => "input object"
  | .inputFieldDefinition => "input field definition"
  | .directiveDefinition => "directive definition"

/-- What is wrong with the definitions of a schema. -/
inductive SchemaFault where
  | secondSchema
  | secondRoot (kind : OperationKind)
  | secondType (name : String)
  | secondEnumValue (type value : String)
  | secondField (type field : String)
  | secondArgument (owner argument : String)
  | secondDirective (name : String)
  | unknownType (name : String) (similar : List String)
  | unknownDirective (name : String)
  | misplacedDirective (name : String) (location : DirectiveLocation)
  | repeatedDirective (name : String)
  | extendsUnknown (name : String) (similar : List String)
  | extendsOther (kind : TypeKind) (name : String)
  | unknownArgument (argument directive : String) (similar : List String)
  | repeatedArgument (name : String)
  | repeatedInputField (name : String)
  | missingArgument (directive argument type : String)
  /-- What a type implements is no interface. -/
  | notInterfaces (type : String)
  /-- A member of a union is no object type. -/
  | notObjects (type : String)
  /-- An argument has a type that is only for output. -/
  | argumentNotInput
  /-- A field of an input object has a type that is only for output. -/
  | inputFieldNotInput
  /-- A field of an object or an interface has a type that is only for input. -/
  | fieldNotOutput
  /-- A default value stands where the type, which is only for output, takes no value. -/
  | valueForOutput (type : String)
  | unsuitableValue (argument : String) (value : Value) (place : Place)
  | nullValue (argument type : String) (place : Place)
  | absentValue (argument type : String) (place : Place)
  /-- The fields of a type have a fault. -/
  | inFields (type : String) (reason : SchemaFault)

/-- The text, and the lines around a place. -/
def showing (place : Place) (text : String) : String :=
  text ++ "\n\n" ++ place.excerpt

/-- The fault in words. -/
def SchemaFault.message : SchemaFault → String
  | secondSchema => "Must provide only one schema definition."
  | secondRoot kind => "There can be only one " ++ kind.keyword ++ " type in schema."
  | secondType name => "There can be only one type named " ++ inQuotes name ++ "."
  | secondEnumValue type value =>
    "Enum value " ++ inQuotes (type ++ "." ++ value) ++ " can only be defined once."
  | secondField type field =>
    "Field " ++ inQuotes (type ++ "." ++ field) ++ " can only be defined once."
  | secondArgument owner argument =>
    "Argument " ++ inQuotes (owner ++ "(" ++ argument ++ ":)") ++ " can only be defined once."
  | secondDirective name =>
    "There can be only one directive named " ++ inQuotes ("@" ++ name) ++ "."
  | unknownType name similar => "Unknown type " ++ inQuotes name ++ "." ++ didYouMean similar
  | unknownDirective name => "Unknown directive " ++ inQuotes ("@" ++ name) ++ "."
  | misplacedDirective name location =>
    "Directive " ++ inQuotes ("@" ++ name) ++ " may not be used on " ++ locationText location ++ "."
  | repeatedDirective name =>
    "The directive " ++ inQuotes ("@" ++ name) ++ " can only be used once at this location."
  | extendsUnknown name similar =>
    "Cannot extend type " ++ inQuotes name ++ " because it is not defined." ++ didYouMean similar
  | extendsOther kind name =>
    "Cannot extend non-" ++ kind.text ++ " type " ++ inQuotes name ++ "."
  | unknownArgument argument directive similar =>
    "Unknown argument " ++ inQuotes argument ++ " on directive " ++ inQuotes ("@" ++ directive) ++
      "." ++ didYouMean similar
  | repeatedArgument name => "There can be only one argument named " ++ inQuotes name ++ "."
  | repeatedInputField name => "There can be only one input field named " ++ inQuotes name ++ "."
  | missingArgument directive argument type =>
    "Directive " ++ inQuotes ("@" ++ directive) ++ " argument " ++ inQuotes argument ++
      " of type " ++ inQuotes type ++ " is required, but it was not provided."
  | notInterfaces type =>
    type ++ " interfaces must be specified as a collection of GraphQLInterfaceType instances."
  | notObjects type =>
    type ++ " types must be specified as a collection of GraphQLObjectType instances."
  | argumentNotInput => "Argument type must be a GraphQL input type."
  | inputFieldNotInput => "Input field type must be a GraphQL input type."
  | fieldNotOutput => "Field type must be an output type."
  | valueForOutput type => "Unexpected input type: " ++ type ++ "."
  | unsuitableValue argument value place => showing place
    ("Argument " ++ inQuotes argument ++ " has invalid value " ++ value.print ++ ".")
  | nullValue argument type place => showing place
    ("Argument " ++ inQuotes argument ++ " of non-null type " ++ inQuotes type ++
      " must not be null.")
  | absentValue argument type place => showing place
    ("Argument " ++ inQuotes argument ++ " of required type " ++ inQuotes type ++
      " was not provided.")
  | inFields type reason => type ++ " fields cannot be resolved. " ++ reason.message

/-- The messages of faults, with blank lines between them. -/
def faultText (faults : List SchemaFault) : String :=
  String.intercalate "\n\n" (faults.map SchemaFault.message)

end TypedClient.Schema

import TypedClient.Schema.Fault

/-! # Checking the definitions of a schema

The definitions are checked in the order of the document, each in the light of the whole document
and of the definitions before it. At one definition the faults of the definition as such come first,
then those of its parts from left to right. Operations and fragments among the definitions are
checked for the names of types and for their directives and arguments only.
-/

namespace TypedClient.Schema

open Document

/-- The scalars that need no definition. -/
def standardScalars : List String :=
  ["Int", "Float", "String", "Boolean", "ID"]

/-- The types that describe a schema itself. -/
def introspectionTypes : List String :=
  ["__Schema", "__Directive", "__DirectiveLocation", "__Type", "__Field", "__InputValue",
    "__EnumValue", "__TypeKind"]

/-- The types that need no definition. -/
def standardTypes : List String :=
  standardScalars ++ introspectionTypes

/-- An argument of a standard directive. -/
def standardArgument (name : String) (type : TypeRef) (defaultValue : Option Value) :
    InputValueDefinition :=
  ⟨name, type, defaultValue, []⟩

/-- The directives that need no definition. -/
def standardDirectives : List DirectiveDefinition :=
  let condition := standardArgument "if" (.nonNull (.named "Boolean")) none
  let selections : List DirectiveLocation := [.field, .fragmentSpread, .inlineFragment]
  [⟨"include", [condition], false, selections⟩,
    ⟨"skip", [condition], false, selections⟩,
    ⟨"deprecated",
      [standardArgument "reason" (.named "String")
        (some (.string ⟨"No longer supported", false⟩))],
      false, [.fieldDefinition, .argumentDefinition, .inputFieldDefinition, .enumValue]⟩,
    ⟨"specifiedBy", [standardArgument "url" (.nonNull (.named "String")) none], false, [.scalar]⟩,
    ⟨"oneOf", [], false, [.inputObject]⟩]

/-- The types that a document defines. -/
def definedTypes (document : Document) : List TypeDefinition :=
  document.filterMap fun
    | .type definition => some definition
    | _ => none

/-- The directives that a document defines. -/
def definedDirectives (document : Document) : List DirectiveDefinition :=
  document.filterMap fun
    | .directive definition => some definition
    | _ => none

/-- The directive with a name. Of several definitions the last counts, and any of them replaces the
standard one. -/
def findDirective? (document : Document) (name : String) : Option DirectiveDefinition :=
  (standardDirectives ++ definedDirectives document).reverse.find? (·.name == name)

/-- The elements that occurred before: earlier in the list, or in `seen`. -/
def repeats (seen : List String) : List String → List String
  | [] => []
  | name :: rest => (if name ∈ seen then [name] else []) ++ repeats (name :: seen) rest

/-- The different elements that occur more than once. -/
def repeatedOnce (names : List String) : List String :=
  names.eraseDups.filter fun name => 1 < names.count name

/-! ## Values, arguments and directives -/

mutual

/-- The fields that are given twice to one object, in a value and the values inside of it. -/
def valueFaults : Value → List SchemaFault
  | .list items => itemFaults items
  | .object fields => fieldFaults [] fields
  | _ => []

/-- The faults of the items of a list. -/
def itemFaults : List Value → List SchemaFault
  | [] => []
  | item :: rest => valueFaults item ++ itemFaults rest

/-- The faults of the fields of an object; `seen` holds the names before. -/
def fieldFaults (seen : List String) : List (String × Value) → List SchemaFault
  | [] => []
  | (name, value) :: rest =>
    (if name ∈ seen then [.repeatedInputField name] else []) ++ valueFaults value ++
      fieldFaults (name :: seen) rest

end

/-- The faults inside of the values of arguments. -/
def argumentFaults (arguments : List Argument) : List SchemaFault :=
  arguments.flatMap fun argument => valueFaults argument.value

/-- The arguments that are given more than once. -/
def repeatedArguments (arguments : List Argument) : List SchemaFault :=
  (repeatedOnce (arguments.map (·.name))).map .repeatedArgument

variable (document : Document)

/-- Arguments in the order of their names' first occurrences; of several with one name the last
counts. -/
def lastByName : List InputValueDefinition → List InputValueDefinition
  | [] => []
  | argument :: rest =>
    let kept := ((argument :: rest).reverse.find? (·.name == argument.name)).getD argument
    kept :: (lastByName rest).filter (·.name != argument.name)

/-- The arguments that have to be given. -/
def requiredArguments (definition : DirectiveDefinition) : List InputValueDefinition :=
  lastByName (definition.arguments.filter fun argument =>
    argument.type.isNonNull && argument.defaultValue.isNone)

/-- The faults of a directive at a place. -/
def directiveFaults (location : DirectiveLocation) (directive : Directive) : List SchemaFault :=
  let given := directive.arguments.map (·.name)
  match findDirective? document directive.name with
  | none =>
    .unknownDirective directive.name ::
      (repeatedArguments directive.arguments ++ argumentFaults directive.arguments)
  | some definition =>
    let known := definition.arguments.map (·.name)
    let misplaced := if location ∈ definition.locations then []
      else [SchemaFault.misplacedDirective directive.name location]
    let unknown := (given.filter (· ∉ known)).map fun name =>
      SchemaFault.unknownArgument name directive.name (suggestions name known)
    let missing := ((requiredArguments definition).filter (·.name ∉ given)).map fun argument =>
      SchemaFault.missingArgument directive.name argument.name argument.type.print
    misplaced ++ unknown ++ repeatedArguments directive.arguments ++
      argumentFaults directive.arguments ++ missing

/-- The faults of the directives at a place, one after the other. -/
def eachDirective (location : DirectiveLocation) (directives : List Directive) :
    List SchemaFault :=
  directives.flatMap (directiveFaults document location)

/-- The directives that may stand only once at a place and stood there before: earlier in the list,
or among `seen`. -/
def repeatedDirectives (seen : List Directive) (directives : List Directive) : List SchemaFault :=
  let single (directive : Directive) : Option String :=
    match findDirective? document directive.name with
    | some definition => if definition.repeatable then none else some directive.name
    | none => none
  (repeats (seen.filterMap single) (directives.filterMap single)).map .repeatedDirective

/-! ## References to types -/

/-- The type is unknown. Definitions of a type system know the standard types without a definition;
operations and fragments do not. -/
def typeFaults (inTypeSystem : Bool) (name : String) : List SchemaFault :=
  let defined := (definedTypes document).map (·.name)
  if name ∈ defined then []
  else if inTypeSystem then
    if name ∈ standardTypes then []
    else [.unknownType name (suggestions name (standardTypes ++ defined))]
  else [.unknownType name (suggestions name defined)]

/-! ## Parts of type definitions -/

/-- The faults of an argument or of a field of an input object. -/
def inputFaults (location : DirectiveLocation) (input : InputValueDefinition) : List SchemaFault :=
  repeatedDirectives document [] input.directives ++ typeFaults document true input.type.name ++
    input.defaultValue.elim [] valueFaults ++ eachDirective document location input.directives

/-- The faults of a field of an object or an interface. -/
def fieldDefinitionFaults (field : FieldDefinition) : List SchemaFault :=
  repeatedDirectives document [] field.directives ++
    field.arguments.flatMap (inputFaults document .argumentDefinition) ++
    typeFaults document true field.type.name ++
    eachDirective document .fieldDefinition field.directives

/-- The faults of a value of an enumeration. -/
def enumValueFaults (value : EnumValueDefinition) : List SchemaFault :=
  repeatedDirectives document [] value.directives ++
    eachDirective document .enumValue value.directives

/-- The place of the directives of a type. -/
def typeLocation : TypeKind → DirectiveLocation
  | .scalar => .scalar
  | .object => .object
  | .interface => .interface
  | .union => .union
  | .enum => .enum
  | .inputObject => .inputObject

/-- The names of the fields of a type. -/
def fieldNames : TypeBody → List String
  | .object _ fields => fields.map (·.name)
  | .interface _ fields => fields.map (·.name)
  | .inputObject fields => fields.map (·.name)
  | _ => []

/-- The names of the values of an enumeration. -/
def enumValueNames : TypeBody → List String
  | .enum values => values.map (·.name)
  | _ => []

/-- The fields of a type that take arguments. -/
def outputFields : TypeBody → List FieldDefinition
  | .object _ fields => fields
  | .interface _ fields => fields
  | _ => []

/-- The definitions and extensions of a type. -/
def partsOf (definitions : Document) (name : String) : List TypeDefinition :=
  (definitions.filterMap fun
    | .type definition => some definition
    | .typeExtension extension => some extension
    | _ => none).filter (·.name == name)

/-- The faults of a type definition or extension as such, given the definitions before it. -/
def typePartFaults (earlier : Document) (part : TypeDefinition) : List SchemaFault :=
  let before := partsOf earlier part.name
  let values := repeats (before.flatMap (enumValueNames ·.body)) (enumValueNames part.body)
  let fields := repeats (before.flatMap (fieldNames ·.body)) (fieldNames part.body)
  values.map (.secondEnumValue part.name) ++ fields.map (.secondField part.name) ++
    (outputFields part.body).flatMap (fun field =>
      (repeatedOnce (field.arguments.map (·.name))).map
        (.secondArgument (part.name ++ "." ++ field.name))) ++
    repeatedDirectives document (before.flatMap (·.directives)) part.directives

/-- The faults of the parts of a type, from left to right. The fields of an extended input object
are places for the directives of arguments. -/
def typeContentFaults (extended : Bool) (part : TypeDefinition) : List SchemaFault :=
  let annotations := eachDirective document (typeLocation (kindOf part.body)) part.directives
  match part.body with
  | .scalar => annotations
  | .object interfaces fields =>
    interfaces.flatMap (typeFaults document true) ++ annotations ++
      fields.flatMap (fieldDefinitionFaults document)
  | .interface interfaces fields =>
    interfaces.flatMap (typeFaults document true) ++ annotations ++
      fields.flatMap (fieldDefinitionFaults document)
  | .union members => annotations ++ members.flatMap (typeFaults document true)
  | .enum values => annotations ++ values.flatMap (enumValueFaults document)
  | .inputObject fields =>
    let location := if extended then DirectiveLocation.argumentDefinition
      else .inputFieldDefinition
    annotations ++ fields.flatMap (inputFaults document location)

/-- The extension does not fit the definition of its type. -/
def extensionFaults (extension : TypeDefinition) : List SchemaFault :=
  let defined := definedTypes document
  match defined.reverse.find? (·.name == extension.name) with
  | some definition =>
    let kind := kindOf extension.body
    if kindOf definition.body = kind then [] else [.extendsOther kind extension.name]
  | none =>
    [.extendsUnknown extension.name (suggestions extension.name (defined.map (·.name)))]

/-! ## Operations and fragments -/

mutual

/-- The faults of a selection. -/
def selectionFaults : Selection → List SchemaFault
  | .field _ _ arguments directives selections =>
    repeatedDirectives document [] directives ++ repeatedArguments arguments ++
      argumentFaults arguments ++ eachDirective document .field directives ++
      selectionsFaults selections
  | .spread _ directives =>
    repeatedDirectives document [] directives ++ eachDirective document .fragmentSpread directives
  | .inline onType directives selections =>
    repeatedDirectives document [] directives ++ onType.elim [] (typeFaults document false) ++
      eachDirective document .inlineFragment directives ++ selectionsFaults selections

/-- The faults of selections, one after the other. -/
def selectionsFaults : List Selection → List SchemaFault
  | [] => []
  | selection :: rest => selectionFaults selection ++ selectionsFaults rest

end

/-- The faults of the declaration of a variable. -/
def variableFaults (definition : VariableDefinition) : List SchemaFault :=
  repeatedDirectives document [] definition.directives ++
    typeFaults document false definition.type.name ++
    definition.defaultValue.elim [] valueFaults ++
    eachDirective document .variableDefinition definition.directives

/-- The place of the directives of an operation. -/
def operationLocation : OperationKind → DirectiveLocation
  | .query => .query
  | .mutation => .mutation
  | .subscription => .subscription

/-! ## Definitions -/

/-- The kinds of operation that a definition gives a root to. -/
def rootKinds : Definition → List OperationKind
  | .schema definition => definition.roots.map (·.1)
  | .schemaExtension extension => extension.roots.map (·.1)
  | _ => []

/-- The directives of a definition or extension of the schema. -/
def schemaDirectives : Definition → List Directive
  | .schema definition => definition.directives
  | .schemaExtension extension => extension.directives
  | _ => []

/-- The faults of a definition or extension of the schema, given the definitions before it. -/
def schemaPartFaults (earlier : Document) (part : SchemaDefinition) : List SchemaFault :=
  let kinds := part.roots.map fun root => root.1.keyword
  let seen := (earlier.flatMap rootKinds).map (·.keyword)
  (repeats seen kinds).filterMap (fun word => (OperationKind.ofKeyword? word).map .secondRoot) ++
    repeatedDirectives document (earlier.flatMap schemaDirectives) part.directives ++
    eachDirective document .schema part.directives ++
    part.roots.flatMap fun root => typeFaults document true root.2

/-- The definition defines a schema. -/
def isSchema : Definition → Bool
  | .schema _ => true
  | _ => false

/-- The faults of a definition, given the definitions before it. -/
def definitionFaults (earlier : Document) : Definition → List SchemaFault
  | .operation operation =>
    repeatedDirectives document [] operation.directives ++
      operation.variableDefinitions.flatMap (variableFaults document) ++
      eachDirective document (operationLocation operation.kind) operation.directives ++
      selectionsFaults document operation.selections
  | .fragment fragment =>
    repeatedDirectives document [] fragment.directives ++
      typeFaults document false fragment.onType ++
      eachDirective document .fragmentDefinition fragment.directives ++
      selectionsFaults document fragment.selections
  | .schema definition =>
    (if earlier.any isSchema then [.secondSchema] else []) ++
      schemaPartFaults document earlier definition
  | .schemaExtension extension => schemaPartFaults document earlier extension
  | .type definition =>
    (if definition.name ∈ (definedTypes earlier).map (·.name) then [.secondType definition.name]
      else []) ++
      typePartFaults document earlier definition ++ typeContentFaults document false definition
  | .typeExtension extension =>
    typePartFaults document earlier extension ++ extensionFaults document extension ++
      typeContentFaults document true extension
  | .directive definition =>
    (repeatedOnce (definition.arguments.map (·.name))).map
        (.secondArgument ("@" ++ definition.name)) ++
      (if definition.name ∈ (definedDirectives earlier).map (·.name)
        then [.secondDirective definition.name] else []) ++
      definition.arguments.flatMap (inputFaults document .argumentDefinition)

/-- The faults of the definitions of a document behind some earlier ones. -/
def faultsFrom (earlier : Document) : Document → List SchemaFault
  | [] => []
  | definition :: rest =>
    definitionFaults document earlier definition ++ faultsFrom (earlier ++ [definition]) rest

/-- The faults of the definitions of a document. -/
def documentFaults : List SchemaFault :=
  faultsFrom document [] document

end TypedClient.Schema

import TypedClient.Schema.Check

/-! # Resolving the types of a schema

Definitions that pass the checks can still refer to types that do not fit the place: an argument
whose type is only for output, a member of a union that is no object type. They can also have
defaults and directives with unsuitable values. Resolution goes over all types and directives and
ends at the first such fault.

A default value of an input object asks for the fields of that object, so its type is resolved on
the way, and a fault in it is reported through everything that asked. Each input type is resolved
once: the types whose fields are known are the state of a resolution.
-/

namespace TypedClient.Schema

open Document

/-! ## Kinds of types -/

/-- The standard types that are enumerations, and their values. -/
def standardEnums : List (String × List String) :=
  [("__TypeKind",
      ["SCALAR", "OBJECT", "INTERFACE", "UNION", "ENUM", "INPUT_OBJECT", "LIST", "NON_NULL"]),
    ("__DirectiveLocation",
      ["QUERY", "MUTATION", "SUBSCRIPTION", "FIELD", "FRAGMENT_DEFINITION", "FRAGMENT_SPREAD",
        "INLINE_FRAGMENT", "VARIABLE_DEFINITION", "SCHEMA", "SCALAR", "OBJECT", "FIELD_DEFINITION",
        "ARGUMENT_DEFINITION", "INTERFACE", "UNION", "ENUM", "ENUM_VALUE", "INPUT_OBJECT",
        "INPUT_FIELD_DEFINITION", "DIRECTIVE_DEFINITION"])]

/-- Values of the kind can be given. -/
def TypeKind.isInput : TypeKind → Bool
  | scalar => true
  | enum => true
  | inputObject => true
  | _ => false

variable (document : Document)

/-- The types that the document adds to the standard ones. -/
def ownTypes : List TypeDefinition :=
  (definedTypes document).filter (·.name ∉ standardTypes)

/-- The kind of the type with a name. A standard type has its own kind even if the document defines
the name once more. -/
def kindNamed (name : String) : TypeKind :=
  if name ∈ standardScalars then .scalar
  else if name ∈ standardEnums.map (·.1) then .enum
  else if name ∈ introspectionTypes then .object
  else match (definedTypes document).find? (·.name == name) with
    | some definition => kindOf definition.body
    | none => .scalar

/-- The extensions of a type. -/
def extensionsOf (name : String) : List TypeDefinition :=
  document.filterMap fun
    | .typeExtension extension => if extension.name = name then some extension else none
    | _ => none

/-- The bodies of a type: that of its definition, then those of its extensions. -/
def bodiesOf (definition : TypeDefinition) : List TypeBody :=
  (definition :: extensionsOf document definition.name).map (·.body)

/-- The values of an enumeration. -/
def enumValuesNamed (name : String) : List String :=
  match standardEnums.lookup name with
  | some values => values
  | none => ((definedTypes document).find? (·.name == name)).elim [] fun definition =>
    (bodiesOf document definition).flatMap enumValueNames

/-! ## Directives on types and their parts -/

/-- The argument of a directive among some directives. -/
def placedArgument? (directive argument : String) (placed : List PlacedDirective) :
    Option PlacedArgument :=
  (placed.find? (·.name == directive)).bind fun found =>
    found.arguments.find? (·.name == argument)

/-- The reason for a deprecation is no text. -/
def deprecationFault? (placed : List PlacedDirective) : Option SchemaFault :=
  (placedArgument? "deprecated" "reason" placed).bind fun argument =>
    match argument.value with
    | .null => none
    | .string _ => none
    | value => some (.unsuitableValue "reason" value argument.place)

/-- The address of the specification of a scalar is missing or no text. -/
def specificationFault? (placed : List PlacedDirective) : Option SchemaFault :=
  (placed.find? (·.name == "specifiedBy")).bind fun directive =>
    match directive.arguments.find? (·.name == "url") with
    | none => some (.absentValue "url" "String!" directive.place)
    | some argument => match argument.value with
      | .null => some (.nullValue "url" "String!" argument.place)
      | .string _ => none
      | value => some (.unsuitableValue "url" value argument.place)

/-! ## Default values -/

/-- What becomes of a value at a type. -/
inductive Coerced where
  | unsuitable
  | null
  | filled
  deriving DecidableEq, Repr

/-- A field of an input object whose type is resolved, and what an object without the field has
there; without a suitable default it has nothing. -/
structure InputField where
  name : String
  type : TypeRef
  absent : Coerced
  deriving DecidableEq, Repr

/-- A part of the resolution. The state holds the fields of the input types so far. -/
abbrev Resolving := StateT (List (String × List InputField)) (Except SchemaFault)

/-- The number written by digits fits into 32 bits. -/
def isInt32 (digits : String) : Bool :=
  digits.toInt?.any fun n => -2147483648 ≤ n && n ≤ 2147483647

/-- A value of a scalar. Scalars of the document take every value. -/
def scalarTakes (name : String) (value : Value) : Bool :=
  match name, value with
  | "Int", .int digits => isInt32 digits
  | "Float", .int _ => true
  | "Float", .float _ => true
  | "String", .string _ => true
  | "Boolean", .boolean _ => true
  | "ID", .int _ => true
  | "ID", .string _ => true
  | _, _ => decide (name ∉ standardScalars)

/-- What becomes of a value at a named type. Values of input objects are coerced elsewhere, so here
an input object takes none. -/
def coerceNamed (name : String) (value : Value) : Resolving Coerced := do
  let suitable ← match kindNamed document name with
    | .scalar => pure (scalarTakes name value)
    | .enum => match value with
      | .enum text => pure (decide (text ∈ enumValuesNamed document name))
      | _ => pure false
    | .inputObject => pure false
    | _ => throw (.valueForOutput name)
  return if suitable then .filled else .unsuitable

/-- The input type takes objects with exactly one field. -/
def isOneOf (name : String) : Bool :=
  ((definedTypes document).find? (·.name == name)).any fun definition =>
    definition.directives.any (·.name == "oneOf")

/-- What becomes of an object whose fields so far are `taken`. The values that are given are
coerced in the order of the fields of the type, up to the first unsuitable one. -/
def coerceObject (single : Bool) (given : List (String × (TypeRef → Resolving Coerced))) :
    List InputField → (taken : List Coerced) → Resolving Coerced
  | [], taken => return if single && taken != [.filled] then .unsuitable else .filled
  | field :: rest, taken => do
    let found := given.lookup field.name
    let becomes ← match found with
      | some coerce => coerce field.type
      | none => pure field.absent
    if becomes ≠ .unsuitable then coerceObject single given rest (becomes :: taken)
    else if found.isNone && !field.type.isNonNull then coerceObject single given rest taken
    else return .unsuitable

section

-- The fields of an input type, which are resolved if they are not known yet.
variable (fieldsOf : String → Resolving (List InputField))

mutual

/-- What becomes of a value at a type. A value that is no list stands for a list of one item. -/
def coerce : Value → TypeRef → Resolving Coerced
  | .null, type => return if type.isNonNull then .unsuitable else .null
  | .list items, type => match type.item? with
    | some item => coerceItems items item
    | none => coerceNamed document type.name (.list items)
  | .object fields, type => do
    if kindNamed document type.name = .inputObject then
      coerceObject (isOneOf document type.name) (coerceFields fields) (← fieldsOf type.name) []
    else coerceNamed document type.name (.object fields)
  | value, type => coerceNamed document type.name value

/-- What becomes of a list, given the type of its items. -/
def coerceItems : List Value → TypeRef → Resolving Coerced
  | [], _ => return .filled
  | first :: rest, item => do
    if (← coerce first item) = .unsuitable then return .unsuitable else coerceItems rest item

/-- What becomes of the fields of an object, each as a function of its type. -/
def coerceFields : List (String × Value) → List (String × (TypeRef → Resolving Coerced))
  | [] => []
  | (name, value) :: rest => (name, fun type => coerce value type) :: coerceFields rest

end

/-! ## Fields and arguments -/

/-- Ends the resolution at a fault, if there is one. -/
def refuse (fault : Option SchemaFault) : Resolving Unit :=
  fault.elim (pure ()) throw

/-- A part of the resolution that is about the fields of a type. -/
def inFieldsOf {α : Type} (type : String) (part : Resolving α) : Resolving α := fun known =>
  (part known).mapError (.inFields type)

/-- Resolves an argument or an input field; `notInput` is the fault if its type takes no values. -/
def resolveInput (notInput : SchemaFault) (input : InputValueDefinition) :
    Resolving InputField := do
  let absent ← match input.defaultValue with
    | some value => coerce document fieldsOf value input.type
    | none => pure .unsuitable
  refuse (deprecationFault? input.placedDirectives)
  unless (kindNamed document input.type.name).isInput do throw notInput
  return ⟨input.name, input.type, absent⟩

/-- Resolves arguments. -/
def resolveArguments (arguments : List InputValueDefinition) : Resolving Unit :=
  arguments.forM fun argument => discard (resolveInput document fieldsOf .argumentNotInput argument)

/-- Resolves a field of an object or an interface. -/
def resolveField (field : FieldDefinition) : Resolving Unit := do
  resolveArguments document fieldsOf field.arguments
  refuse (deprecationFault? field.placedDirectives)
  if kindNamed document field.type.name = .inputObject then throw .fieldNotOutput

end

/-- The input fields of a type. -/
def inputFieldsOf (name : String) : List InputValueDefinition :=
  ((definedTypes document).find? (·.name == name)).elim [] fun definition =>
    (bodiesOf document definition).flatMap fun
      | .inputObject fields => fields
      | _ => []

/-- The fields of an input type. While they are being resolved the type counts as one without
fields, so that types may refer to each other; at most `bound` types are resolved inside of one
another. -/
def inputFields : (bound : Nat) → String → Resolving (List InputField)
  | 0, _ => return []
  | bound + 1, name => do
    match (← get).lookup name with
    | some fields => return fields
    | none =>
      modify ((name, []) :: ·)
      let fields ← inFieldsOf name ((inputFieldsOf document name).mapM
        (resolveInput document (inputFields bound) .inputFieldNotInput))
      modify ((name, fields) :: ·)
      return fields

/-- The fields of an input type of the document. -/
def fieldsOfInput (name : String) : Resolving (List InputField) :=
  inputFields document ((definedTypes document).length + 1) name

/-! ## Types and directives -/

/-- The first fault that does not wait for the other types: an unsuitable value in a directive of a
scalar or of the values of an enumeration. -/
def ownFault? (definition : TypeDefinition) : Option SchemaFault :=
  match definition.body with
  | .scalar => specificationFault? definition.placedDirectives
  | .enum _ => ((bodiesOf document definition).flatMap fun
      | .enum values => values
      | _ => []).findSome? fun value => deprecationFault? value.placedDirectives
  | _ => none

/-- Resolves a type. -/
def resolveType (definition : TypeDefinition) : Resolving Unit := do
  let bodies := bodiesOf document definition
  match kindOf definition.body with
  | .union =>
    let members := bodies.flatMap fun
      | .union members => members
      | _ => []
    unless members.all fun other => kindNamed document other = .object do
      throw (.notObjects definition.name)
  | .inputObject => discard (fieldsOfInput document definition.name)
  | .scalar => pure ()
  | .enum => pure ()
  | _ =>
    let interfaces := bodies.flatMap fun
      | .object interfaces _ => interfaces
      | .interface interfaces _ => interfaces
      | _ => []
    unless interfaces.all fun other => kindNamed document other = .interface do
      throw (.notInterfaces definition.name)
    inFieldsOf definition.name
      ((bodies.flatMap outputFields).forM (resolveField document (fieldsOfInput document)))

/-- Resolves all types and directives of a document. -/
def resolve : Resolving Unit := do
  (ownTypes document).forM fun definition => refuse (ownFault? document definition)
  (definedDirectives document).forM fun directive =>
    resolveArguments document (fieldsOfInput document) directive.arguments
  (ownTypes document).forM (resolveType document)

/-- The fault at which the resolution of a document ends. -/
def resolutionFault? : Option SchemaFault :=
  match (resolve document).run [] with
  | .ok _ => none
  | .error fault => some fault

end TypedClient.Schema

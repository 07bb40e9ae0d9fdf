import TypedClient.Number.Double
import TypedClient.Template.Packaged
import TypedClient.Text.RawText

/-! # Values in templates

What a custom template can name and print: texts, numbers, flags, lists, the specification of an
operation, the records of the factory. Asking a value for what it does not have gives a missing
value, which prints as nothing; of a missing value nothing more can be asked.

The texts that a template is given hold no surrogates, but one that it writes itself can. The
filters treat both alike.
-/

namespace TypedClient.Template

/-- A value that a template can name. An object shows some of its members when it is printed and
lets others be asked for. -/
inductive TemplateValue where
  | text (value : RawText)
  | flag (value : Bool)
  | number (value : Int)
  | decimal (value : Double)
  | nothing
  | list (items : List TemplateValue)
  | object (kind : String) (shown asked : List (String × TemplateValue))
  | missing
  deriving Repr, Inhabited

/-- Why a template has no text. -/
inductive TemplateFault where
  /-- The file is not in the encoding of text files. -/
  | unreadable
  /-- The template is not well formed. -/
  | malformed
  /-- A filter has an unknown name. -/
  | unknownFilter
  /-- Something is asked of a missing value. -/
  | undefinedValue
  /-- A filter for texts is given a list. -/
  | listForText
  /-- A value is not of the kind that is needed, or a filter is given too many or too few. -/
  | unsuitableValue
  /-- A number of tabs is out of range. -/
  | tooManyTabs
  /-- A text holds surrogates where only a text without them will do. -/
  | surrogates
  /-- Whatever else can go wrong, by its name. -/
  | other (name : String)
  deriving DecidableEq, Repr

namespace TemplateValue

/-- The value of a text without surrogates. -/
def ofText (value : String) : TemplateValue :=
  text (RawText.ofString value)

mutual

/-- The value as it stands inside of a printed list or object. -/
def display : TemplateValue → String
  | .text value => RawText.quoted value
  | .flag true => "True"
  | .flag false => "False"
  | .number value => toString value
  | .decimal value => value.print
  | .nothing => "None"
  | .list items => "[" ++ String.intercalate ", " (displayItems items) ++ "]"
  | .object kind shown _ => kind ++ "(" ++ String.intercalate ", " (displayMembers shown) ++ ")"
  | .missing => ""

/-- The items of a list as they are printed. -/
def displayItems : List TemplateValue → List String
  | [] => []
  | item :: rest => display item :: displayItems rest

/-- The members of an object as they are printed. -/
def displayMembers : List (String × TemplateValue) → List String
  | [] => []
  | (name, value) :: rest => (name ++ "=" ++ display value) :: displayMembers rest

end

/-- The value as an output gives it. -/
def inline : TemplateValue → RawText
  | text value => value
  | other => RawText.ofString other.display

/-- The value counts as none at all: nothing, zero, the empty text, the empty list. -/
def isVoid : TemplateValue → Bool
  | text value => value.isEmpty
  | flag value => !value
  | number value => value == 0
  | decimal value => value.isZero
  | nothing => true
  | list items => items.isEmpty
  | object .. => false
  | missing => true

/-- A member of the value. -/
def member (value : TemplateValue) (name : String) : Except TemplateFault TemplateValue :=
  match value with
  | object _ shown asked => .ok (((shown ++ asked).lookup name).getD missing)
  | missing => .error .undefinedValue
  | _ => .ok missing

/-- The whole number that the value stands for where one is needed. -/
def whole? : TemplateValue → Option Int
  | number value => some value
  | flag value => some (if value then 1 else 0)
  | _ => none

/-- The element at an index; a negative index counts from the end. -/
def elementAt (elements : List TemplateValue) (index : Int) : TemplateValue :=
  let place := if index < 0 then index + elements.length else index
  if place < 0 then missing else (elements[place.toNat]?).getD missing

/-- The item of a value under a key: an index into a list or a text, or the name of a member. -/
def item (value key : TemplateValue) : Except TemplateFault TemplateValue :=
  match value with
  | list items => .ok ((key.whole?.map (elementAt items)).getD missing)
  | text content =>
    let characters := content.map fun point => text [point]
    .ok ((key.whole?.map (elementAt characters)).getD missing)
  | object .. => match key with
    | text name => match RawText.text? name with
      | some name => value.member name
      | none => .ok missing
    | _ => .ok missing
  | missing => .error .undefinedValue
  | _ => .ok missing

/-- The number with the sign changed. -/
def negate : TemplateValue → Except TemplateFault TemplateValue
  | number value => .ok (number (-value))
  | flag value => .ok (number (if value then -1 else 0))
  | decimal value => .ok (decimal value.negate)
  | missing => .error .undefinedValue
  | _ => .error .unsuitableValue

/-- The number as it is. -/
def keepSign : TemplateValue → Except TemplateFault TemplateValue
  | number value => .ok (number value)
  | flag value => .ok (number (if value then 1 else 0))
  | decimal value => .ok (decimal value)
  | missing => .error .undefinedValue
  | _ => .error .unsuitableValue

/-- The names that the value lists. A text lists its characters. -/
def names : TemplateValue → Except TemplateFault (List RawText)
  | text content => .ok (content.map fun point => [point])
  | list items => .ok (items.map inline)
  | missing => .ok []
  | _ => .error .unsuitableValue

/-- The number of tabs that the value asks for. -/
def tabs (value : TemplateValue) : Except TemplateFault Nat :=
  match value with
  | missing => .error .undefinedValue
  | _ => match value.whole? with
    | none => .error .unsuitableValue
    | some asked => match tabCount? asked with
      | none => .error .tooManyTabs
      | some count => .ok count

/-- The value of a specification. -/
def ofSpec (spec : OperationSpec) : TemplateValue :=
  object "OperationSpec"
    [("name", ofText spec.name), ("kind", ofText spec.kind), ("action", ofText spec.action),
      ("document_keyword", ofText spec.documentKeyword), ("options_type", ofText spec.optionsType),
      ("result_type", ofText spec.resultType), ("variables_type", ofText spec.variablesType),
      ("document_variable", ofText spec.documentVariable),
      ("variables", list (spec.variableNames.map ofText)),
      ("has_required_vars", flag spec.hasRequiredVariables)]
    [("function_name", ofText spec.functionName), ("is_query", flag spec.isQuery),
      ("is_mutation", flag spec.isMutation)]

/-- The value of a record. -/
def ofRecord (record : OperationRecord) : TemplateValue :=
  object "GeneratedOperationRecord"
    [("name", ofText record.name), ("action", ofText record.action), ("type", ofText record.type),
      ("optional", flag record.optional)]
    [("function_name", ofText record.functionName)]

end TemplateValue

/-- What the output of a value can be sent through. -/
inductive Filter where
  | factoryKey
  | variablePlaceholders
  | exampleArguments
  | unknown
  deriving DecidableEq, Repr

namespace Filter

/-- The filter with a name. -/
def ofName : String → Filter
  | "factory_key" => factoryKey
  | "variable_placeholders" => variablePlaceholders
  | "example_arguments" => exampleArguments
  | _ => unknown

/-- The placeholder lines of names that may hold surrogates. -/
def rawPlaceholders (names : List RawText) (tabs : Nat) : RawText :=
  names.flatMap fun name => RawText.ofString (placeholderStart tabs) ++ name ++
    RawText.ofString placeholderMiddle ++ name

/-- The options argument for names that may hold surrogates. -/
def rawExample (names : List RawText) (tabs : Nat) : RawText :=
  if names.isEmpty then []
  else RawText.ofString exampleStart ++ rawPlaceholders names tabs ++ RawText.ofString exampleEnd

/-- The key of the value in the factory. -/
def applyFactoryKey : TemplateValue → Except TemplateFault TemplateValue
  | .text content => .ok (.text (RawText.factoryKey content))
  | .list _ => .error .listForText
  | .missing => .error .undefinedValue
  | _ => .error .unsuitableValue

/-- The placeholder lines of the names that a value lists. -/
def applyPlaceholders (value depth : TemplateValue) : Except TemplateFault TemplateValue := do
  let tabs ← depth.tabs
  return .text (rawPlaceholders (← value.names) tabs)

/-- The options argument for the names that a value lists. -/
def applyExample (value depth : TemplateValue) : Except TemplateFault TemplateValue := do
  if value.isVoid then return .text []
  let tabs ← depth.tabs
  return .text (rawExample (← value.names) tabs)

/-- Sends a value through a filter, with further values that may be named. -/
def apply (filter : Filter) (value : TemplateValue)
    (given : List (Option String × TemplateValue)) : Except TemplateFault TemplateValue :=
  match filter, given with
  | factoryKey, [] => applyFactoryKey value
  | variablePlaceholders, [(none, depth)] => applyPlaceholders value depth
  | variablePlaceholders, [(some "depth", depth)] => applyPlaceholders value depth
  | exampleArguments, [(none, depth)] => applyExample value depth
  | exampleArguments, [(some "depth", depth)] => applyExample value depth
  | unknown, _ => .error .unknownFilter
  | _, _ => .error .unsuitableValue

end Filter

end TypedClient.Template

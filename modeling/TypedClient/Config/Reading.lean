import TypedClient.Config

/-! # Reading a configuration

A configuration is read from settings, each field under its key in camel case or, failing that,
under its name in snake case. Fields are read one by one and every bad field is reported
(`Config.ofEntries`), in the order in which the fields are declared. Keys that name no field mean
nothing.
-/

namespace TypedClient

/-- What is wrong with the value of a field. -/
inductive Problem where
  | notText
  | notFlag
  | unclearFlag
  | unknownConvention
  | unknownPolicy
  | unsupportedFragment (item : Setting)
  | fragmentWithoutNode

namespace Problem

/-- The class that the problem belongs to. -/
def code : Problem → String
  | notText => "string_type"
  | notFlag => "bool_type"
  | unclearFlag => "bool_parsing"
  | unknownConvention => "literal_error"
  | unknownPolicy => "enum"
  | unsupportedFragment _ => "value_error"
  | fragmentWithoutNode => "value_error"

/-- The problem in words. -/
def message : Problem → String
  | notText => "Input should be a valid string"
  | notFlag => "Input should be a valid boolean"
  | unclearFlag => "Input should be a valid boolean, unable to interpret input"
  | unknownConvention => "Input should be 'pascal-case' or 'keep'"
  | unknownPolicy => "Input should be 'record-only', 'exclude' or 'emit'"
  | unsupportedFragment item => "Value error, Unsupported external fragment: " ++ item.display
  | fragmentWithoutNode =>
    "Value error, External fragment 'node' must be a FragmentDefinitionNode"

end Problem

/-- A problem and the key of the value that has it. -/
structure FieldProblem where
  key : String
  problem : Problem

/-- Why no configuration could be read. -/
inductive ConfigFault where
  /-- The given fields have problems. -/
  | invalid (problems : List FieldProblem)
  /-- A list stands for the configuration and its items are no pairs of a key and a value, or a text
  stands for it. -/
  | notPairs
  /-- A value without parts stands for the configuration or for one of its entries. -/
  | notEntries
  /-- The key of an entry is a list or a table. -/
  | unusableKey
  /-- A value without parts stands for the list of external fragments. -/
  | fragmentsNotListed

namespace Config

/-! ## Readers -/

/-- A text. -/
def readText : Setting → Except Problem String
  | .text value => .ok value
  | _ => .error .notText

/-- A text or nothing. -/
def readOptionalText : Setting → Except Problem (Option String)
  | .null => .ok none
  | .text value => .ok (some value)
  | _ => .error .notText

/-- The words for yes and for no. -/
def flagWords : List (String × Bool) :=
  [("0", false), ("off", false), ("f", false), ("false", false), ("n", false), ("no", false),
    ("1", true), ("on", true), ("t", true), ("true", true), ("y", true), ("yes", true)]

/-- The whole numbers of 64 bits lie below this, and not below its negative. -/
def wordLimit : Int := 9223372036854775808

/-- Zero is no and one is yes. Another whole number is taken for a flag that cannot be understood if
it is in range, and for no flag otherwise. -/
def flagOfWhole (inRange : Bool) (value : Int) : Except Problem Bool :=
  if value = 0 then .ok false
  else if value = 1 then .ok true
  else if inRange then .error .unclearFlag
  else .error .notFlag

/-- A flag, or a number or a word that means one. In range are the whole numbers of 64 bits; the
least of them is out of range where it has a point or an exponent. -/
def readFlag : Setting → Except Problem Bool
  | .flag value => .ok value
  | .integer value => flagOfWhole (-wordLimit ≤ value ∧ value < wordLimit) value
  | .decimal value => match value.toInt? with
    | some whole => flagOfWhole (-wordLimit < whole ∧ whole < wordLimit) whole
    | none => .error .notFlag
  | .text word =>
    let lowered := String.ofList (word.toList.map Char.toLower)
    match flagWords.lookup lowered with
    | some value => .ok value
    | none => .error .unclearFlag
  | _ => .error .notFlag

/-- The name of a naming convention. -/
def readConvention : Setting → Except Problem NamingConvention
  | .text "pascal-case" => .ok .pascalCase
  | .text "keep" => .ok .keep
  | _ => .error .unknownConvention

/-- The name of a policy for mutations. -/
def readPolicy : Setting → Except Problem MutationPolicy
  | .text name => match MutationPolicy.ofText? name with
    | some policy => .ok policy
    | none => .error .unknownPolicy
  | _ => .error .unknownPolicy

/-- The first of the values that counts as given, else the last resort. -/
def firstTruthy (values : List (Option Setting)) (resort : Setting) : Setting :=
  ((values.filterMap id).find? Setting.isTruthy).getD resort

/-- An external fragment: a finished descriptor, or a table with the definition and, at will, the
name and type it goes by and whether it is external. -/
def readFragment : Setting → Except Problem FragmentDescriptor
  | .descriptor node name onType isExternal => .ok ⟨node, name, onType, isExternal⟩
  | .table entries =>
    let given := Setting.entry? entries
    match given "node" with
    | some (.definition (.fragment node)) => .ok {
        node
        name := firstTruthy [given "name"] (.text node.name)
        onType := firstTruthy [given "onType", given "on_type"] (.text node.onType)
        isExternal := (given "isExternal").getD ((given "is_external").getD (.flag true)) }
    | _ => .error .fragmentWithoutNode
  | item => .error (.unsupportedFragment item)

/-- The items of a value that has any: those of a list, the characters of a text, the keys of a
table. -/
def itemsOf? : Setting → Option (List Setting)
  | .null => some []
  | .list items => some items
  | .text value => some (value.toList.map fun c => .text (String.singleton c))
  | .table entries => some (entries.map (.text ·.1))
  | _ => none

/-- The external fragments; the first bad one is the problem. A value without items has none here
and is caught beforehand. -/
def readFragments (value : Setting) : Except Problem (List FragmentDescriptor) :=
  ((itemsOf? value).getD []).mapM readFragment

/-! ## Kinds of values -/

/-- The kinds of values that fields have. -/
inductive ValueKind where
  | flag
  | fragments
  | text
  | convention
  | optionalText
  | policy
  deriving DecidableEq, Repr

namespace ValueKind

/-- What values of a kind are read as. -/
@[reducible]
def Value : ValueKind → Type
  | flag => Bool
  | fragments => List FragmentDescriptor
  | text => String
  | convention => NamingConvention
  | optionalText => Option String
  | policy => MutationPolicy

/-- Reads a value of a kind. -/
def read : (kind : ValueKind) → Setting → Except Problem kind.Value
  | flag => readFlag
  | fragments => readFragments
  | text => readText
  | convention => readConvention
  | optionalText => readOptionalText
  | policy => readPolicy

end ValueKind

/-! ## Fields -/

/-- The fields of a configuration. -/
inductive Field where
  | disableChecks
  | externalFragments
  | typesPrefix
  | typesSuffix
  | namingConvention
  | transformUnderscore
  | documentVariableSuffix
  | fragmentVariableSuffix
  | gqlImport
  | apolloClientImportFrom
  | importOperationTypesFrom
  | namespacedImportName
  | mutationPolicy
  | factoryName
  deriving DecidableEq, Repr

namespace Field

/-- The key in camel case. -/
def camel : Field → String
  | disableChecks => "disableChecks"
  | externalFragments => "externalFragments"
  | typesPrefix => "typesPrefix"
  | typesSuffix => "typesSuffix"
  | namingConvention => "namingConvention"
  | transformUnderscore => "transformUnderscore"
  | documentVariableSuffix => "documentVariableSuffix"
  | fragmentVariableSuffix => "fragmentVariableSuffix"
  | gqlImport => "gqlImport"
  | apolloClientImportFrom => "apolloClientImportFrom"
  | importOperationTypesFrom => "importOperationTypesFrom"
  | namespacedImportName => "namespacedImportName"
  | mutationPolicy => "mutationPolicy"
  | factoryName => "factoryName"

/-- The name in snake case. -/
def snake : Field → String
  | disableChecks => "disable_checks"
  | externalFragments => "external_fragments"
  | typesPrefix => "types_prefix"
  | typesSuffix => "types_suffix"
  | namingConvention => "naming_convention"
  | transformUnderscore => "transform_underscore"
  | documentVariableSuffix => "document_variable_suffix"
  | fragmentVariableSuffix => "fragment_variable_suffix"
  | gqlImport => "gql_import"
  | apolloClientImportFrom => "apollo_client_import_from"
  | importOperationTypesFrom => "import_operation_types_from"
  | namespacedImportName => "namespaced_import_name"
  | mutationPolicy => "mutation_policy"
  | factoryName => "factory_name"

/-- The kind of the values. -/
@[reducible]
def kind : Field → ValueKind
  | disableChecks => .flag
  | externalFragments => .fragments
  | namingConvention => .convention
  | transformUnderscore => .flag
  | importOperationTypesFrom => .optionalText
  | mutationPolicy => .policy
  | _ => .text

/-- The value that a configuration has in the field. -/
def get : (f : Field) → Config → f.kind.Value
  | disableChecks, config => config.disableChecks
  | externalFragments, config => config.externalFragments
  | typesPrefix, config => config.typesPrefix
  | typesSuffix, config => config.typesSuffix
  | namingConvention, config => config.namingConvention
  | transformUnderscore, config => config.transformUnderscore
  | documentVariableSuffix, config => config.documentVariableSuffix
  | fragmentVariableSuffix, config => config.fragmentVariableSuffix
  | gqlImport, config => config.gqlImport
  | apolloClientImportFrom, config => config.apolloClientImportFrom
  | importOperationTypesFrom, config => config.importOperationTypesFrom
  | namespacedImportName, config => config.namespacedImportName
  | mutationPolicy, config => config.mutationPolicy
  | factoryName, config => config.factoryName

/-- The value that the field is given and the key that it is given under: the camel case key is
looked at first. -/
def given (f : Field) (entries : List (String × Setting)) : Option (String × Setting) :=
  match Setting.entry? entries f.camel with
  | some value => some (f.camel, value)
  | none => (Setting.entry? entries f.snake).map fun value => (f.snake, value)

/-- What becomes of the field: its value, which is the default where none is given, or its
problem. -/
def outcome (f : Field) (entries : List (String × Setting)) : Except FieldProblem f.kind.Value :=
  match f.given entries with
  | none => .ok (f.get {})
  | some (key, value) => (f.kind.read value).mapError (FieldProblem.mk key)

end Field

/-! ## Entries -/

/-- The outcome of reading some fields. -/
inductive Checked (α : Type) where
  | accepted (value : α)
  | refused (problems : List FieldProblem)

/-- Reads one more field, and keeps its problem with those of the fields before it. -/
def Checked.apply {α : Type} (f : Field) (entries : List (String × Setting)) :
    Checked (f.kind.Value → α) → Checked α
  | accepted make => match f.outcome entries with
    | .ok value => accepted (make value)
    | .error problem => refused [problem]
  | refused problems => match f.outcome entries with
    | .ok _ => refused problems
    | .error problem => refused (problems ++ [problem])

/-- Reads every field. -/
def check (entries : List (String × Setting)) : Checked Config :=
  (Checked.accepted Config.mk)
    |>.apply .disableChecks entries
    |>.apply .externalFragments entries
    |>.apply .typesPrefix entries
    |>.apply .typesSuffix entries
    |>.apply .namingConvention entries
    |>.apply .transformUnderscore entries
    |>.apply .documentVariableSuffix entries
    |>.apply .fragmentVariableSuffix entries
    |>.apply .gqlImport entries
    |>.apply .apolloClientImportFrom entries
    |>.apply .importOperationTypesFrom entries
    |>.apply .namespacedImportName entries
    |>.apply .mutationPolicy entries
    |>.apply .factoryName entries

/-- The list of external fragments is a value without items. -/
def fragmentsNotListed (entries : List (String × Setting)) : Bool :=
  match Field.externalFragments.given entries with
  | some (_, value) => (itemsOf? value).isNone
  | none => false

/-- Reads a configuration from its entries. -/
def ofEntries (entries : List (String × Setting)) : Except ConfigFault Config :=
  if fragmentsNotListed entries then .error .fragmentsNotListed
  else match check entries with
    | .accepted config => .ok config
    | .refused problems => .error (.invalid problems)

/-- A key and a value, made of the two items of a value that has two. -/
def pairOf (item : Setting) : Except ConfigFault (Setting × Setting) :=
  match item with
  | .null => .error .notEntries
  | _ => match itemsOf? item with
    | some [key, value] => if key.isKey then .ok (key, value) else .error .unusableKey
    | some _ => .error .notPairs
    | none => .error .notEntries

/-- The entries that pairs make up; of equal keys the last counts. Keys that are no texts name no
field. -/
def entriesOfPairs (pairs : List (Setting × Setting)) : List (String × Setting) :=
  pairs.reverse.filterMap fun
    | (.text key, value) => some (key, value)
    | _ => none

/-- Reads a configuration. Nothing given is the configuration without entries. -/
def ofSetting (setting : Setting) : Except ConfigFault Config :=
  if !setting.isTruthy then ofEntries []
  else match setting with
    | .table entries => ofEntries entries
    | .list items => do ofEntries (entriesOfPairs (← items.mapM pairOf))
    | .text _ => .error .notPairs
    | _ => .error .notEntries

end Config

end TypedClient

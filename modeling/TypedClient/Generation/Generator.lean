import TypedClient.Document.Printer
import TypedClient.Factory
import TypedClient.Fragment.Spread
import TypedClient.Import

/-! # Generating the parts of a module

A generator has all that the parts of a module depend on: the configuration, the fragments and the
templates. It gives the constant of each document, the wrapper of each operation with its record,
and the whole emission of a document as traces.
-/

namespace TypedClient

open Document

/-- What the parts of a module depend on. -/
structure Generator where
  config : Config := {}
  fragments : List FragmentDescriptor := []
  templates : Templates := {}

/-- The constant that holds the document of a fragment, whose name may be any value. Only a text can
be cut into words; any other value stands for itself where names are kept. -/
def Config.fragmentVariableOf (config : Config) (name : Setting) : Except GenerationFault String :=
  match name with
  | .text content => .ok (config.fragmentVariable content)
  | other => match config.namingConvention with
    | .keep =>
      .ok (config.surround (Config.plainAffixes config.fragmentVariableSuffix) other.inline)
    | .pascalCase =>
      if config.transformUnderscore then .error .nameWithoutWords else .error .nameNotSplit

/-- The record of an operation, in the group that it goes to. -/
inductive GroupedRecord where
  | query (record : OperationRecord)
  | mutation (record : OperationRecord)
  deriving DecidableEq, Repr

/-- Puts a record at the end of its group. -/
def Records.add (records : Records) : GroupedRecord → Records
  | .query record => { records with queries := records.queries ++ [record] }
  | .mutation record => { records with mutations := records.mutations ++ [record] }

/-- The records of some operations, in order. -/
def Records.ofList (entries : List GroupedRecord) : Records :=
  entries.foldl Records.add {}

/-- The wrapper of an operation, empty if it gets none, and its record, if it gets one. -/
structure Emitted where
  wrapper : String
  record? : Option GroupedRecord
  deriving DecidableEq, Repr

/-- The texts of the operations of a document and their records. -/
structure Emission where
  bodies : List String
  records : Records
  deriving DecidableEq, Repr

namespace Generator

/-! ## Constants -/

/-- The constants of the fragments that a selection set needs. -/
def references (generator : Generator) (selections : List Selection) :
    Except GenerationFault (List String) :=
  if generator.fragments.all (·.name.isKey) then
    .ok ((neededFragments generator.fragments selections).map generator.config.fragmentVariable)
  else .error .nameNotKey

/-- A constant that holds a document. It needs the import of the document tag. -/
def constant (generator : Generator) (name body : String) (selections : List Selection) :
    Trace String := do
  Trace.emit (.require generator.config.tagImport)
  let references ← Trace.lift (generator.references selections)
  Trace.lift ((generator.templates.renderDocument name body references).mapError .template)

/-- The constant that holds the document of an operation. -/
def documentConstant (generator : Generator) (operation : Operation) : Trace String := do
  Trace.emit .collect
  generator.constant (generator.config.documentVariable (operation.name.getD "")) operation.print
    operation.selections

/-- The constant that holds the document of a fragment. -/
def fragmentConstant (generator : Generator) (fragment : FragmentDescriptor) : Trace String := do
  let name ← Trace.lift (generator.config.fragmentVariableOf fragment.name)
  generator.constant name fragment.node.print fragment.node.selections

/-- The constants of the fragments that the module declares, in order. -/
def fragmentConstants (generator : Generator) : Trace String := do
  let texts ← (generator.fragments.filter (·.isDeclared)).mapM generator.fragmentConstant
  Trace.emit (.renderFragments !texts.isEmpty)
  return String.intercalate "\n" texts

/-! ## Wrappers -/

/-- The import of the operation types, if they are imported. -/
def requireTypes (generator : Generator) : Trace Unit :=
  match generator.config.typesImport? with
  | some statement => Trace.emit (.require statement)
  | none => return

/-- The type of the result of an operation. -/
def resultType (generator : Generator) (operation : Operation) : Trace String := do
  generator.requireTypes
  return generator.config.resultType operation.kind (operation.name.getD "")

/-- The type of the variables of an operation. -/
def variablesType (generator : Generator) (operation : Operation) : Trace String := do
  generator.requireTypes
  return generator.config.variablesType operation.kind (operation.name.getD "")

/-- What the wrapper of an operation says. Both of its types are looked up. -/
def spec (generator : Generator) (operation : Operation) : Trace OperationSpec := do
  generator.requireTypes
  generator.requireTypes
  return operation.spec generator.config

/-- The text of a wrapper. -/
def wrapper (generator : Generator) (spec : OperationSpec) : Trace String :=
  Trace.lift ((generator.templates.renderOperation spec).mapError .template)

/-- The wrapper and the record of an operation of a kind, from what its wrapper says. Subscriptions
have neither; what a mutation has is a matter of policy. -/
def emitSpec (generator : Generator) (kind : OperationKind) (spec : OperationSpec) :
    Trace Emitted :=
  let record := OperationRecord.ofSpec spec
  match kind with
  | .subscription => do
    Trace.note (.operationSkipped spec.name)
    return ⟨"", none⟩
  | .query => return ⟨← generator.wrapper spec, some (.query record)⟩
  | .mutation => match generator.config.mutationPolicy with
    | .exclude => do
      Trace.note (.mutationExcluded spec.name)
      return ⟨"", none⟩
    | .recordOnly => do
      Trace.note (.mutationUnwrapped spec.name spec.functionName)
      return ⟨"", some (.mutation record)⟩
    | .emit => return ⟨← generator.wrapper spec, some (.mutation record)⟩

/-- The wrapper and the record of an operation. -/
def emit (generator : Generator) (operation : Operation) : Trace Emitted := do
  generator.emitSpec operation.kind (← generator.spec operation)

/-- The wrapper and the record of an operation that is given by its head, unless a variable has no
name. -/
def emitHead? (generator : Generator) (head : OperationHead) : Option (Trace Emitted) :=
  (head.spec? generator.config).map fun spec => do
    generator.requireTypes
    generator.requireTypes
    generator.emitSpec head.kind spec

/-! ## Documents -/

/-- The constant of an operation above its wrapper, and the record. -/
def operationPart (generator : Generator) (operation : Operation) :
    Trace (String × Option GroupedRecord) := do
  let document ← generator.documentConstant operation
  let emitted ← generator.emit operation
  return (document ++ "\n" ++ emitted.wrapper, emitted.record?)

/-- The texts of all operations of a document and their records. -/
def traverse (generator : Generator) (document : Document) : Trace Emission := do
  let parts ← document.operations.mapM generator.operationPart
  let records := Records.ofList (parts.filterMap (·.2))
  Trace.note (.recordsEmitted records.queries.length records.mutations.length)
  return ⟨parts.map (·.1), records⟩

end Generator

end TypedClient

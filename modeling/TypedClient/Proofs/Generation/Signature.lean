import TypedClient.Proofs.Generation.Linkage

/-! # Signatures of wrappers

A wrapper and the entry of the factory that calls it are written from two descriptions of one
operation: the wrapper says whether its options are needed, the record whether they may be left out.
Both have the signature of the operation (`OperationHead.signature`): the name of the function, and
the type of its options with or without a question mark.

An operation can be read from a document or be put together by hand, and then all that counts is its
head. Whatever head has a wrapper described for it, the wrapper and the entry agree
(`emitHead_fitsEntry`).
-/

namespace TypedClient

open Document

/-! ## Heads and operations -/

/-- The head of an operation says as much as the operation. -/
theorem Document.Operation.spec?_head (config : Config) (operation : Operation) :
    operation.head.spec? config = some (operation.spec config) := by
  have names : operation.head.variableHeads.mapM VariableHead.name =
      some (operation.variableDefinitions.map (·.name)) := by
    rw [Operation.head, List.mapM_map]
    exact List.mapM_pure
  rw [OperationHead.spec?, names]
  rfl

/-- An operation emits what its head emits. -/
theorem Generator.emitHead?_head (generator : Generator) (operation : Operation) :
    generator.emitHead? operation.head = some (generator.emit operation) := by
  rw [emitHead?, operation.spec?_head, Option.map_some, emit, spec]
  simp only [bind_assoc, pure_bind]
  rfl

/-! ## Signatures -/

/-- How the function of a wrapper is declared and called. -/
structure Signature where
  function : String
  /-- The options may be left out. -/
  optional : Bool
  /-- The type of the options that the client takes. -/
  clientOptions : String
  /-- The option that the function adds by itself. -/
  added : String

namespace Signature

variable (signature : Signature)

/-- The type of the options that the function takes, without the one that it adds. -/
def optionsType : String :=
  "Omit<" ++ signature.clientOptions ++ ", '" ++ signature.added ++ "'>"

/-- The parameter that takes the options. -/
def parameter : String :=
  "options" ++ (if signature.optional then "?" else "") ++ ": " ++ signature.optionsType

/-- The line that declares the function. -/
def declaration : String :=
  "export const " ++ signature.function ++ " = (client: ApolloClient<object>, " ++
    signature.parameter ++ ") => \x7b"

/-- The lines with the options that go to the client. -/
def given (value : String) : List String :=
  ["            ...options,", "            " ++ signature.added ++ ": " ++ value]

/-- The line of the factory that calls the function under a key. -/
def entry (key : String) : String :=
  "        " ++ key ++ ": (" ++ signature.parameter ++ ") => " ++ signature.function ++
    "(client, options),"

end Signature

/-- The caller has to give the variable a value: its type takes no null value, and nothing stands in
for one. -/
def VariableHead.IsNeeded (variable_ : VariableHead) : Prop :=
  (∃ type, variable_.type = some (.nonNull type)) ∧ variable_.defaultValue = none

/-- A variable is required exactly if a value is needed for it. -/
theorem VariableHead.isRequired_iff {variable_ : VariableHead} :
    variable_.isRequired = true ↔ variable_.IsNeeded := by
  obtain ⟨name, type, defaultValue⟩ := variable_
  rw [isRequired, IsNeeded, Bool.and_eq_true, Option.isNone_iff_eq_none]
  apply and_congr_left
  intro _
  cases type with
  | none => simp
  | some type => cases type <;> simp [TypeRef.isNonNull]

/-- The signature of the wrapper of an operation. -/
def OperationHead.signature (config : Config) (head : OperationHead) : Signature where
  function := head.kind.action ++ config.operationIdentifier (head.name.getD "") head.kind.keyword
  optional := !head.variableHeads.any VariableHead.isRequired
  clientOptions := head.kind.optionsBase ++ "<" ++
    config.variablesType head.kind (head.name.getD "") ++ ", " ++
    config.resultType head.kind (head.name.getD "") ++ ">"
  added := head.kind.documentKeyword

/-- The function of a wrapper, line by line. It is declared with the signature, and gives its
options to the client together with the constant that holds the document of the operation. -/
def OperationHead.functionLines (config : Config) (head : OperationHead) : List String :=
  [(head.signature config).declaration, "    return client",
    "        ." ++ head.kind.action ++ "<" ++ config.resultType head.kind (head.name.getD "") ++
      ", " ++ config.variablesType head.kind (head.name.getD "") ++ ">(\x7b"] ++
    (head.signature config).given (config.documentVariable (head.name.getD "")) ++
    ["        \x7d);", "\x7d;"]

/-- Options are needed exactly for the sake of a variable. -/
theorem OperationHead.signature_optional_iff (config : Config) (head : OperationHead) :
    (head.signature config).optional = true ↔
      ¬∃ variable_ ∈ head.variableHeads, variable_.IsNeeded := by
  rw [signature, Bool.not_eq_true', Bool.eq_false_iff, Ne, List.any_eq_true]
  simp only [VariableHead.isRequired_iff]

/-! ## Texts with a signature -/

namespace Template

section Described

variable {config : Config} {head : OperationHead} {spec : OperationSpec}
  (described : head.spec? config = some spec)

include described

/-- What a wrapper says of a head, up to the names of its variables. -/
theorem spec_of_head : ∃ names, spec = config.operationSpec head.kind (head.name.getD "") names
    (head.variableHeads.any VariableHead.isRequired) := by
  obtain ⟨names, _, same⟩ := Option.map_eq_some_iff.1 described
  exact ⟨names, same.symm⟩

/-- The type of the options is that of the signature. -/
theorem optionsType_of_head : spec.optionsType = (head.signature config).optionsType := by
  obtain ⟨names, rfl⟩ := spec_of_head described
  have closing : ">, '" = ">" ++ ", '" := rfl
  rw [Signature.optionsType, Config.operationSpec, OperationHead.signature, closing]
  simp only [String.append_assoc]

/-- The function of a wrapper has the lines of its head. -/
theorem wrapperFunction_eq_signature : wrapperFunction spec = head.functionLines config := by
  have type := optionsType_of_head described
  obtain ⟨names, rfl⟩ := spec_of_head described
  have opening : ∀ rest : String, " = (client: " ++ (clientType ++ (", options" ++ rest)) =
      " = (client: ApolloClient<object>, " ++ ("options" ++ rest) := by
    intro rest
    rw [← String.append_assoc, ← String.append_assoc, ← String.append_assoc]
    rfl
  have declared : ∀ function type : String, ∀ optional : Bool,
      "export const " ++ function ++ " = (client: " ++ clientType ++ ", options" ++
          optionalMark optional ++ ": " ++ type ++ ") => \x7b" =
        "export const " ++ function ++ " = (client: ApolloClient<object>, " ++
          ("options" ++ (if optional then "?" else "") ++ ": " ++ type) ++ ") => \x7b" := by
    intro function type optional
    simp only [String.append_assoc, opening]
    rfl
  rw [wrapperFunction, type, declared]
  rfl

/-- The entry of a factory calls the function of the signature and has its parameter. -/
theorem factoryEntry_eq_signature : factoryEntry (.ofSpec spec) =
    (head.signature config).entry (factoryKey spec.name) := by
  have type := optionsType_of_head described
  obtain ⟨names, rfl⟩ := spec_of_head described
  have opening : ": (options" = ": (" ++ "options" := rfl
  have unfolded (record : OperationRecord) : factoryEntry record =
      "        " ++ factoryKey record.name ++ ": (options" ++ optionalMark record.optional ++
        ": " ++ record.type ++ ") => " ++ record.functionName ++ "(client, options)," := rfl
  rw [unfolded, OperationRecord.ofSpec, type, Signature.entry, Signature.parameter, opening]
  simp only [String.append_assoc]
  rfl

end Described

/-- No wrapper is empty. -/
theorem renderOperation_ne_empty (spec : OperationSpec) : renderOperation spec ≠ "" := by
  rw [renderOperation, docComment, List.cons_append, List.cons_append,
    String.intercalate_cons_cons]
  intro empty
  have characters := congrArg String.toList empty
  rw [String.toList_append, String.toList_append] at characters
  cases characters

/-- A text between others that are joined. -/
theorem intercalate_between {separator text : String} {before after : List String}
    (first : before ≠ []) (last : after ≠ []) :
    String.intercalate separator (before ++ text :: after) =
      String.intercalate separator before ++ separator ++ text ++ separator ++
        String.intercalate separator after := by
  rw [String.intercalate_append_of_ne_nil first (List.cons_ne_nil _ _),
    String.intercalate_cons_of_ne_nil last]
  simp only [String.append_assoc]

/-- The entry of a record is a line of every factory that has the record. -/
theorem exists_renderFactory_eq {record : OperationRecord}
    {queries mutations : List OperationRecord} (member : record ∈ queries ++ mutations)
    (name : String) :
    ∃ before after, renderFactory name queries mutations =
      before ++ "\n" ++ factoryEntry record ++ "\n" ++ after := by
  have listed : ∃ front back, factoryMember "query" queries ++ factoryMember "mutate" mutations =
      front ++ factoryEntry record :: back := by
    have inMember : ∀ key records, record ∈ records →
        factoryEntry record ∈ factoryMember key records := by
      intro key records inside
      rw [factoryMember, if_neg (by simp [List.ne_nil_of_mem inside])]
      exact List.mem_append_left _ (List.mem_append_right _ (List.mem_map_of_mem inside))
    apply List.append_of_mem
    rcases List.mem_append.1 member with query | mutation
    · exact List.mem_append_left _ (inMember _ _ query)
    · exact List.mem_append_right _ (inMember _ _ mutation)
  obtain ⟨front, back, split⟩ := listed
  have lines : ∀ first : String, ∀ last : String,
      [first] ++ factoryMember "query" queries ++ factoryMember "mutate" mutations ++ [last] =
        (first :: front) ++ factoryEntry record :: (back ++ [last]) := by
    intro first last
    rw [List.append_assoc [first], split, List.append_assoc, List.append_assoc]
    rfl
  rw [renderFactory, lines]
  apply Exists.intro
  apply Exists.intro
  exact intercalate_between (List.cons_ne_nil _ _) (List.append_ne_nil_of_right_ne_nil _ (by simp))

end Template

/-! ## Emission -/

/-- The record, whichever group it goes to. -/
def GroupedRecord.record : GroupedRecord → OperationRecord
  | query record => record
  | mutation record => record

namespace Generator

variable {generator : Generator} {kind : OperationKind}

/-- A query, and a mutation where mutations are emitted, have a wrapper and a record. -/
theorem emitSpec_wrapped (packaged : generator.templates = {})
    (wrapped : kind = .query ∨ kind = .mutation ∧ generator.config.mutationPolicy = .emit)
    (spec : OperationSpec) :
    ∃ grouped, grouped.record = .ofSpec spec ∧
      generator.emitSpec kind spec = ⟨[], .ok ⟨Template.renderOperation spec, some grouped⟩⟩ := by
  rcases wrapped with query | ⟨mutation, policy⟩
  · refine ⟨.query (.ofSpec spec), rfl, ?_⟩
    rw [query, emitSpec, wrapper_packaged packaged]
    rfl
  · refine ⟨.mutation (.ofSpec spec), rfl, ?_⟩
    rw [mutation, emitSpec, policy, wrapper_packaged packaged]
    rfl

/-- Other operations have no wrapper. -/
theorem emitSpec_unwrapped
    (unwrapped : ¬(kind = .query ∨ kind = .mutation ∧ generator.config.mutationPolicy = .emit))
    (spec : OperationSpec) :
    ∃ record?, (generator.emitSpec kind spec).outcome = .ok ⟨"", record?⟩ := by
  cases kind with
  | query => exact absurd (.inl rfl) unwrapped
  | subscription => exact ⟨none, rfl⟩
  | mutation =>
      rw [emitSpec]
      cases policy : generator.config.mutationPolicy with
      | emit => exact absurd (.inr ⟨rfl, policy⟩) unwrapped
      | exclude => exact ⟨none, rfl⟩
      | recordOnly => exact ⟨_, rfl⟩

/-- What a head emits is what its operations emit, and comes out as its description does. -/
theorem exists_emitHead?_eq {head : OperationHead} {spec : OperationSpec}
    (described : head.spec? generator.config = some spec) :
    ∃ trace, generator.emitHead? head = some trace ∧
      trace.outcome = (generator.emitSpec head.kind spec).outcome ∧
      ∀ operation, operation.head = head → generator.emit operation = trace := by
  rw [emitHead?, described, Option.map_some]
  refine ⟨_, rfl, ?_, ?_⟩
  · rw [requireTypes_eq, Trace.bind_ok, Trace.bind_ok]
  · intro operation own
    apply Option.some.inj
    rw [← generator.emitHead?_head, own, emitHead?, described, Option.map_some]

end Generator

/-- A wrapper and a record of one operation fit together. -/
structure FitsEntry (config : Config) (head : OperationHead) (spec : OperationSpec)
    (wrapper : String) (record : OperationRecord) : Prop where
  /-- Below its doc comment the wrapper declares the function of the signature, and gives the client
  the constant of the operation as the option that the type of the options leaves out. -/
  declares : wrapper = String.intercalate "\n"
    (Template.docComment spec ++ head.functionLines config)
  /-- The entry calls that function, and has its parameter. -/
  calls : Template.factoryEntry record = (head.signature config).entry (factoryKey record.name)
  /-- The entry is a line of every factory with the record. -/
  listed : ∀ name queries mutations, record ∈ queries ++ mutations →
    ∃ before after, Template.renderFactory name queries mutations =
      before ++ "\n" ++ Template.factoryEntry record ++ "\n" ++ after
  /-- The options may be left out unless a variable needs a value. -/
  optional : (head.signature config).optional = true ↔
    ¬∃ variable_ ∈ head.variableHeads, variable_.IsNeeded
  /-- The constant is the one that holds the document of the operation. -/
  constant : ∀ fragments operation, operation.head = head →
    ∃ literal, ({ config, fragments } : Generator).documentText operation =
      "export const " ++ config.documentVariable (head.name.getD "") ++ " = gql`" ++ literal

/-- Whatever a specification is made of, its wrapper, its record and its entry fit together. -/
theorem fitsEntry_of_head {config : Config} {head : OperationHead} {spec : OperationSpec}
    (described : head.spec? config = some spec) :
    FitsEntry config head spec (Template.renderOperation spec) (.ofSpec spec) where
  declares := by rw [Template.renderOperation, Template.wrapperFunction_eq_signature described]
  calls := Template.factoryEntry_eq_signature described
  listed name _ _ member := Template.exists_renderFactory_eq member name
  optional := head.signature_optional_iff config
  constant fragments operation same := by
    subst same
    exact Template.renderDocument_eq_tagged _ _ _

/-- **Agreement of wrapper and entry.** Whatever head has a wrapper described for it is emitted,
like every operation with that head. It has both a wrapper and a record exactly if it is a query, or
a mutation where mutations are emitted, and then the two fit together. -/
theorem emitHead_fitsEntry (config : Config) (fragments : List FragmentDescriptor)
    (head : OperationHead) (spec : OperationSpec) (described : head.spec? config = some spec) :
    ∃ trace emitted, ({ config, fragments } : Generator).emitHead? head = some trace ∧
      trace.outcome = .ok emitted ∧
      (∀ operation, operation.head = head →
        ({ config, fragments } : Generator).emit operation = trace) ∧
      (emitted.wrapper ≠ "" ∧ emitted.record?.isSome = true ↔
        head.kind = .query ∨ head.kind = .mutation ∧ config.mutationPolicy = .emit) ∧
      ∀ grouped, emitted.wrapper ≠ "" → emitted.record? = some grouped →
        FitsEntry config head spec emitted.wrapper grouped.record := by
  let generator : Generator := { config, fragments }
  obtain ⟨trace, emission, outcome, same⟩ := @Generator.exists_emitHead?_eq generator _ _ described
  by_cases wrapped : head.kind = .query ∨ head.kind = .mutation ∧ config.mutationPolicy = .emit
  · obtain ⟨grouped, record, result⟩ := @Generator.emitSpec_wrapped generator _ rfl wrapped spec
    rw [result] at outcome
    refine ⟨trace, ⟨Template.renderOperation spec, some grouped⟩, emission, outcome, same, ?_, ?_⟩
    · exact iff_of_true ⟨Template.renderOperation_ne_empty spec, rfl⟩ wrapped
    · intro _ _ own
      cases own
      rw [record]
      exact fitsEntry_of_head described
  · obtain ⟨record?, result⟩ := @Generator.emitSpec_unwrapped generator _ wrapped spec
    refine ⟨trace, ⟨"", record?⟩, emission, outcome.trans result, same, ?_, ?_⟩
    · apply iff_of_false _ wrapped
      intro both
      exact both.1 rfl
    · intro _ present
      exact absurd rfl present

/-- An anonymous mutation put together by hand: one variable has no type, and one has a default. -/
def handmadeHead : OperationHead where
  kind := .mutation
  name := none
  variableHeads := [⟨some "input", none, none⟩,
    ⟨some "count", some (.nonNull (.named "Int")), some (.int "1")⟩]

theorem handmadeHead_fitsEntry :
    let config : Config := { mutationPolicy := .emit }
    let spec := config.operationSpec .mutation "" ["input", "count"] false
    handmadeHead.spec? config = some spec ∧
      ∃ trace emitted, ({ config } : Generator).emitHead? handmadeHead = some trace ∧
        trace.outcome = .ok emitted ∧
        (∀ operation, operation.head = handmadeHead →
          ({ config } : Generator).emit operation = trace) ∧
        (emitted.wrapper ≠ "" ∧ emitted.record?.isSome = true ↔
          handmadeHead.kind = .query ∨
            handmadeHead.kind = .mutation ∧ config.mutationPolicy = .emit) ∧
        ∀ grouped, emitted.wrapper ≠ "" → emitted.record? = some grouped →
          FitsEntry config handmadeHead spec emitted.wrapper grouped.record := by
  intro config spec
  have described : handmadeHead.spec? config = some spec := rfl
  exact ⟨described, emitHead_fitsEntry config [] handmadeHead spec described⟩

end TypedClient

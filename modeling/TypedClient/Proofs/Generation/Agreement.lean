import Mathlib.Data.Set.Card
import TypedClient.Generation.Index
import TypedClient.Proofs.Generation.Rendering
import TypedClient.Proofs.Text.Distinct

/-! # The index and the records of a document

The index of a document and its records are made by two walks over it. The index holds each name
once and leaves out what has none; the records follow the operations one by one, by the identifiers
that their names are converted to. Yet the two tell the same operations (`traverse_agrees`): the
identifiers that are recorded are those of the names in the index, and that of the empty name if
there is an operation without one.
-/

namespace TypedClient

open Document

namespace Document

variable {document : Document} {kind : OperationKind} {name : String}

/-- The document has an operation of the kind with the name. An empty name is none. -/
def Defines (document : Document) (kind : OperationKind) (name : String) : Prop :=
  name ≠ "" ∧ ∃ operation ∈ document.operations, operation.kind = kind ∧ operation.name = some name

/-- The document has an operation of the kind without a name. -/
def HasAnonymous (document : Document) (kind : OperationKind) : Prop :=
  ∃ operation ∈ document.operations, operation.kind = kind ∧ operation.name.getD "" = ""

/-! ## Names in the index -/

/-- An operation is named if its name is not empty. -/
theorem Operation.givenName?_eq_some {operation : Operation} :
    operation.givenName? = some name ↔ operation.name = some name ∧ name ≠ "" := by
  rw [givenName?, Option.filter_eq_some_iff, decide_eq_true_iff]

/-- An operation without a name, or with the empty one, is anonymous. -/
theorem Operation.givenName?_eq_none {operation : Operation} :
    operation.givenName? = none ↔ operation.name.getD "" = "" := by
  unfold givenName?
  cases operation.name with
  | none => simp
  | some given => simp

/-- The names of a kind are those that the document defines. -/
theorem mem_operationNames : name ∈ document.operationNames kind ↔ document.Defines kind name := by
  simp only [operationNames, List.mem_eraseDups, List.mem_filterMap, List.mem_filter, beq_iff_eq,
    Operation.givenName?_eq_some, Defines]
  constructor
  · rintro ⟨operation, ⟨member, same⟩, given, solid⟩
    exact ⟨solid, operation, member, same, given⟩
  · rintro ⟨solid, operation, member, same, given⟩
    exact ⟨operation, ⟨member, same⟩, given, solid⟩

/-- The index has the names of each kind under its keyword. -/
theorem names?_index (document : Document) (kind : OperationKind) :
    document.index.names? kind.keyword = some (document.operationNames kind) := by
  cases kind <;> rfl

/-- The kinds and names in the index. -/
def entries (document : Document) : List (OperationKind × String) :=
  [OperationKind.query, .mutation, .subscription].flatMap fun kind =>
    (document.operationNames kind).map (kind, ·)

/-- The entries of the index are what the document defines. -/
theorem mem_entries {entry : OperationKind × String} :
    entry ∈ document.entries ↔ document.Defines entry.1 entry.2 := by
  obtain ⟨kind, name⟩ := entry
  rw [← mem_operationNames]
  cases kind <;> simp [entries]

/-- No operation is entered twice. -/
theorem nodup_entries (document : Document) : document.entries.Nodup := by
  rw [entries, List.nodup_flatMap]
  constructor
  · exact fun kind _ => (nodup_eraseDups _).map (Prod.mk_right_injective kind)
  · have different : [OperationKind.query, .mutation, .subscription].Nodup := by decide
    refine different.imp fun {kind other} apart entry inOne inOther => ?_
    obtain ⟨_, _, rfl⟩ := List.mem_map.1 inOne
    obtain ⟨_, _, same⟩ := List.mem_map.1 inOther
    exact apart (congrArg Prod.fst same).symm

/-- The index counts each kind and name once. -/
theorem count_index (document : Document) : document.index.count =
    {entry : OperationKind × String | document.Defines entry.1 entry.2}.ncard := by
  have same : {entry : OperationKind × String | document.Defines entry.1 entry.2} =
      (document.entries.toFinset : Set (OperationKind × String)) := by
    ext entry
    rw [List.coe_toFinset]
    exact mem_entries.symm
  have length : document.entries.length = document.index.count := by
    simp only [entries, List.flatMap_cons, List.flatMap_nil, List.append_nil, List.length_append,
      List.length_map, ← Nat.add_assoc]
    rfl
  rw [same, Set.ncard_coe_finset, List.toFinset_card_of_nodup (nodup_entries document), length]

/-! ## Names in the records -/

theorem Operation.record_name (config : Config) (operation : Operation) :
    (operation.record config).name =
      config.operationIdentifier (operation.name.getD "") operation.kind.keyword := rfl

/-- The identifiers of the operations of a kind are those of the names in the index, and that of the
empty name if there is an operation without one. -/
theorem mem_identifiers {config : Config} {identifier : String} :
    identifier ∈ ((document.operations.filter (·.kind = kind)).map (·.record config)).map (·.name) ↔
      (∃ name ∈ document.operationNames kind,
        config.operationIdentifier name kind.keyword = identifier) ∨
      (document.HasAnonymous kind ∧ config.operationIdentifier "" kind.keyword = identifier) := by
  rw [List.map_map, List.mem_map]
  simp only [List.mem_filter, decide_eq_true_iff, Function.comp_apply, Operation.record_name]
  constructor
  · rintro ⟨operation, ⟨member, rfl⟩, rfl⟩
    cases given : operation.givenName? with
    | some name =>
        obtain ⟨named, solid⟩ := Operation.givenName?_eq_some.1 given
        refine .inl ⟨name, mem_operationNames.2 ⟨solid, operation, member, rfl, named⟩, ?_⟩
        rw [named, Option.getD_some]
    | none =>
        have anonymous := Operation.givenName?_eq_none.1 given
        refine .inr ⟨⟨operation, member, rfl, anonymous⟩, ?_⟩
        rw [anonymous]
  · rintro (⟨name, member, rfl⟩ | ⟨⟨operation, member, rfl, anonymous⟩, rfl⟩)
    · obtain ⟨-, operation, inside, rfl, named⟩ := mem_operationNames.1 member
      refine ⟨operation, ⟨inside, rfl⟩, ?_⟩
      rw [named, Option.getD_some]
    · refine ⟨operation, ⟨member, rfl⟩, ?_⟩
      rw [anonymous]

end Document

/-! ## Agreement -/

/-- The index tells which operations and fragments a document has. -/
structure DefinitionIndex.Describes (index : DefinitionIndex) (document : Document) : Prop where
  operations : ∀ kind name,
    index.has? (OperationKind.keyword kind) name = some true ↔ document.Defines kind name
  fragments : ∀ name, index.has? "fragment" name = some true ↔
    ∃ fragment ∈ document.fragments, fragment.name = name
  /-- Operations are counted by kind and name. -/
  count : index.count =
    {entry : OperationKind × String | document.Defines entry.1 entry.2}.ncard

/-- The records hold the identifiers of the names in the index, and that of the empty name for
operations without one. -/
structure Records.AgreesWith (records : Records) (config : Config) (document : Document) :
    Prop where
  queries : ∀ identifier, identifier ∈ records.queries.map (·.name) ↔
    (∃ name ∈ document.index.queries, config.operationIdentifier name "query" = identifier) ∨
      (document.HasAnonymous .query ∧ config.operationIdentifier "" "query" = identifier)
  mutations : config.mutationPolicy ≠ .exclude →
    ∀ identifier, identifier ∈ records.mutations.map (·.name) ↔
      (∃ name ∈ document.index.mutations,
        config.operationIdentifier name "mutation" = identifier) ∨
      (document.HasAnonymous .mutation ∧ config.operationIdentifier "" "mutation" = identifier)

/-- The index describes its document. -/
theorem Document.index_describes (document : Document) : document.index.Describes document where
  operations kind name := by
    rw [DefinitionIndex.has?, names?_index, Option.map_some, Option.some.injEq, decide_eq_true_iff]
    exact mem_operationNames
  fragments name := by
    have names : document.index.names? "fragment" =
        some (document.fragments.map (·.name)).eraseDups := rfl
    rw [DefinitionIndex.has?, names, Option.map_some, Option.some.injEq, decide_eq_true_iff,
      List.mem_eraseDups, List.mem_map]
  count := count_index document

/-- The records of a document agree with its index. -/
theorem Generator.documentRecords_agreesWith (generator : Generator) (document : Document) :
    (generator.documentRecords document).AgreesWith generator.config document where
  queries _ := mem_identifiers
  mutations policy _ := by
    rw [documentRecords, if_neg policy]
    exact mem_identifiers

/-- **Index and records agree.** The index of a document tells its operations and fragments by kind
and name, and the records of its traversal tell the same operations by their identifiers, whatever
the templates. With the packaged templates and fragments whose names are texts the traversal always
gives records. -/
theorem traverse_agrees (generator : Generator) (document : Document) :
    document.index.Describes document ∧
      (∀ emission, (generator.traverse document).outcome = .ok emission →
        emission.records.AgreesWith generator.config document) ∧
      (generator.templates = {} → HasTextNames generator.fragments →
        ∃ emission, (generator.traverse document).outcome = .ok emission) := by
  refine ⟨document.index_describes, fun emission done => ?_, fun packaged named => ?_⟩
  · rw [(Generator.traverse_of_ok done).2.1]
    exact generator.documentRecords_agreesWith document
  · rw [Generator.traverse_packaged packaged named document]
    exact ⟨_, rfl⟩

theorem traverse_agrees_mixed :
    HasTextNames [.ofFragment idFragment false] ∧ mixedDocument.index.count = 2 ∧
      ∃ emission, (({ fragments := [.ofFragment idFragment false] } : Generator).traverse
          mixedDocument).outcome = .ok emission ∧
        emission.records.AgreesWith {} mixedDocument := by
  have named : HasTextNames [.ofFragment idFragment false] :=
    fun _ member => ⟨"F", by rw [List.mem_singleton.1 member]; rfl⟩
  obtain ⟨-, agrees, succeeds⟩ :=
    traverse_agrees { fragments := [.ofFragment idFragment false] } mixedDocument
  obtain ⟨emission, done⟩ := succeeds rfl named
  exact ⟨named, by decide, emission, done, agrees emission done⟩

end TypedClient

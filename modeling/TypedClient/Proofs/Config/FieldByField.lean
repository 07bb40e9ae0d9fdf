import TypedClient.Proofs.Config.Fields
import TypedClient.Proofs.Config.Values

/-! # Configurations are read field by field

The outcome of a field (`Config.Field.outcome`) depends on the value and the key that it is given
under, and so no other entry takes part in it (`Config.Field.StandsAlone`). A configuration is read
exactly if every field is; otherwise the problems are those of its fields, in order
(`Config.ReadFieldByField`).
-/

namespace TypedClient.Config

/-! ## The order of the fields -/

namespace Field

/-- The fields in the order in which they are declared. -/
def all : List Field :=
  [disableChecks, externalFragments, typesPrefix, typesSuffix, namingConvention,
    transformUnderscore, documentVariableSuffix, fragmentVariableSuffix, gqlImport,
    apolloClientImportFrom, importOperationTypesFrom, namespacedImportName, mutationPolicy,
    factoryName]

/-- There is no other field. -/
theorem mem_all (f : Field) : f ∈ all := by
  cases f <;> decide

/-- The configuration with the given values in its fields. -/
def fill (values : (f : Field) → f.kind.Value) : Config where
  disableChecks := values disableChecks
  externalFragments := values externalFragments
  typesPrefix := values typesPrefix
  typesSuffix := values typesSuffix
  namingConvention := values namingConvention
  transformUnderscore := values transformUnderscore
  documentVariableSuffix := values documentVariableSuffix
  fragmentVariableSuffix := values fragmentVariableSuffix
  gqlImport := values gqlImport
  apolloClientImportFrom := values apolloClientImportFrom
  importOperationTypesFrom := values importOperationTypesFrom
  namespacedImportName := values namespacedImportName
  mutationPolicy := values mutationPolicy
  factoryName := values factoryName

/-- A configuration that is filled with values has these. -/
theorem get_fill (values : (f : Field) → f.kind.Value) (f : Field) :
    f.get (fill values) = values f := by
  cases f <;> rfl

/-- The problem of the field, if it has one. -/
def problem? (f : Field) (entries : List (String × Setting)) : Option FieldProblem :=
  match f.outcome entries with
  | .ok _ => none
  | .error problem => some problem

end Field

/-! ## All fields -/

namespace Checked

/-- The problems of an outcome. -/
def problems {α : Type} : Checked α → List FieldProblem
  | accepted _ => []
  | refused problems => problems

/-- One more field puts its problem behind those that there are. -/
theorem problems_apply {α : Type} {f : Field} (first : Checked (f.kind.Value → α))
    (entries : List (String × Setting)) :
    (first.apply f entries).problems = first.problems ++ (f.problem? entries).toList := by
  unfold Field.problem?
  cases first <;> cases read : f.outcome entries <;> simp [apply, problems, read]

end Checked

variable {entries : List (String × Setting)} {config : Config}

/-- The problems of the fields, in the order of the fields. -/
def problems (entries : List (String × Setting)) : List FieldProblem :=
  Field.all.filterMap (·.problem? entries)

/-- What is refused is refused for the problems of the fields, in order. -/
theorem problems_check (entries : List (String × Setting)) :
    (check entries).problems = problems entries := by
  rw [check, problems, List.filterMap_eq_flatMap_toList]
  simp only [Checked.problems_apply, Field.all, List.flatMap_cons, List.flatMap_nil,
    List.append_assoc, List.append_nil]
  rfl

/-- Fields that can each be read can be read together. -/
theorem exists_accepted_iff : (∃ config, check entries = .accepted config) ↔
    ∀ f : Field, (f.outcome entries).isOk = true := by
  simp only [check_eq_accepted_iff, ReadsAs, isOk_iff]
  constructor
  · exact fun ⟨config, all⟩ f => ⟨f.get config, all f⟩
  · intro all
    choose values read using all
    exact ⟨Field.fill values, fun f => (Field.get_fill values f).symm ▸ read f⟩

/-- There are no problems exactly if every field can be read. -/
theorem problems_eq_nil_iff : problems entries = [] ↔
    ∀ f : Field, (f.outcome entries).isOk = true := by
  unfold problems
  rw [List.filterMap_eq_nil_iff]
  have own (f : Field) : f.problem? entries = none ↔ (f.outcome entries).isOk = true := by
    unfold Field.problem?
    cases f.outcome entries with
    | ok value => exact iff_of_true rfl rfl
    | error problem => exact iff_of_false nofun Bool.false_ne_true
  exact ⟨fun all f => (own f).1 (all f f.mem_all), fun all f _ => (own f).2 (all f)⟩

/-! ## Tables -/

/-- The external fragments are absent, or null, a list, a text or a table. -/
def ListsFragments (entries : List (String × Setting)) : Prop :=
  ∀ key value, Field.externalFragments.given entries = some (key, value) →
    match value with
    | .null | .list _ | .text _ | .table _ => True
    | _ => False

/-- What the external fragments may be has items. -/
theorem isSome_itemsOf?_of_listsFragments (listed : ListsFragments entries) {key : String}
    {value : Setting} (given : Field.externalFragments.given entries = some (key, value)) :
    (itemsOf? value).isSome = true := by
  have own := listed key value given
  cases value <;> first | rfl | exact own.elim

theorem fragmentsNotListed_eq_false (listed : ListsFragments entries) :
    fragmentsNotListed entries = false := by
  unfold fragmentsNotListed
  split
  · next value given =>
      rw [Option.isNone_eq_false_iff, isSome_itemsOf?_of_listsFragments listed given]
  · rfl

/-- A table whose fragments are listed is read if its fields are accepted. -/
theorem ofSetting_table_eq_ok (listed : ListsFragments entries) :
    ofSetting (.table entries) = .ok config ↔ check entries = .accepted config := by
  rw [ofSetting_table, ofEntries, fragmentsNotListed_eq_false listed, if_neg Bool.false_ne_true]
  cases check entries with
  | accepted read => simp
  | refused problems => simp

/-- A table whose fragments are listed is refused for the problems of its fields, of which there is
one at least. -/
theorem ofSetting_table_eq_error (listed : ListsFragments entries) {fault : ConfigFault} :
    ofSetting (.table entries) = .error fault ↔
      fault = .invalid (problems entries) ∧ problems entries ≠ [] := by
  have own := problems_check entries
  rw [ofSetting_table, ofEntries, fragmentsNotListed_eq_false listed, if_neg Bool.false_ne_true]
  cases read : check entries with
  | accepted config =>
      rw [read] at own
      exact iff_of_false nofun fun ⟨_, present⟩ => present own.symm
  | refused problems =>
      rw [read] at own
      -- Without problems every field can be read, and then nothing would be refused.
      have present : Config.problems entries ≠ [] := fun empty => by
        obtain ⟨config, accepted⟩ := exists_accepted_iff.2 (problems_eq_nil_iff.1 empty)
        rw [read] at accepted
        cases accepted
      rw [← own] at present ⊢
      constructor
      · rintro ⟨⟩
        exact ⟨rfl, present⟩
      · rintro ⟨rfl, -⟩
        rfl

/-- The value of a field can be read exactly if it is acceptable. -/
theorem Field.isOk_read (listed : ListsFragments entries) {f : Field} {key : String}
    {value : Setting} (given : f.given entries = some (key, value)) :
    (f.kind.read value).isOk = true ↔ f.kind.Accepts value := by
  refine ValueKind.isOk_read fun isFragments => ?_
  -- Only one field has fragments as its values.
  have own : f = externalFragments := by
    cases f <;> first | rfl | cases isFragments
  exact isSome_itemsOf?_of_listsFragments listed (own ▸ given)

/-- A field can be read exactly if it is absent or has an acceptable value. -/
theorem Field.isOk_outcome (listed : ListsFragments entries) (f : Field) :
    (f.outcome entries).isOk = true ↔
      ∀ key value, f.given entries = some (key, value) → f.kind.Accepts value := by
  unfold outcome
  cases given : f.given entries with
  | none => exact iff_of_true rfl nofun
  | some entry =>
      obtain ⟨key, value⟩ := entry
      dsimp only
      rw [isOk_mapError, isOk_read listed given]
      constructor
      · rintro accepted _ _ ⟨⟩
        exact accepted
      · exact fun all => all key value rfl

/-- A bad field has one problem, at the key that it is given under. -/
theorem Field.problem?_eq_some {f : Field} {problem : FieldProblem} :
    f.problem? entries = some problem ↔ ∃ value, f.given entries = some (problem.key, value) ∧
      f.kind.read value = .error problem.problem := by
  unfold problem? outcome
  cases given : f.given entries with
  | none => exact iff_of_false nofun nofun
  | some entry =>
      obtain ⟨key, value⟩ := entry
      dsimp only
      cases read : f.kind.read value with
      | ok result =>
          refine iff_of_false nofun ?_
          rintro ⟨_, ⟨⟩, failed⟩
          rw [read] at failed
          cases failed
      | error cause =>
          constructor
          · rintro ⟨⟩
            exact ⟨value, rfl, read⟩
          · rintro ⟨_, ⟨⟩, failed⟩
            rw [read] at failed
            cases failed
            rfl

/-! ## Entries that take no part -/

/-- Entries under other keys can be put in anywhere. -/
theorem entry?_insert {key other : String} (differ : other ≠ key)
    (front back : List (String × Setting)) (value : Setting) :
    Setting.entry? (front ++ (other, value) :: back) key = Setting.entry? (front ++ back) key := by
  unfold Setting.entry?
  rw [List.find?_append, List.find?_append, List.find?_cons_of_neg]
  exact fun same => differ (beq_iff_eq.1 same)

/-- The first entry with the key decides. -/
theorem entry?_cons (key other : String) (value : Setting) (entries : List (String × Setting)) :
    Setting.entry? ((other, value) :: entries) key =
      if other = key then some value else Setting.entry? entries key := by
  unfold Setting.entry?
  by_cases same : other = key
  · rw [if_pos same, List.find?_cons_of_pos]
    · rfl
    · exact beq_iff_eq.2 same
  · rw [if_neg same, List.find?_cons_of_neg]
    exact fun equal => same (beq_iff_eq.1 equal)

/-- The order of entries with different keys is of no account. -/
theorem entry?_perm {others : List (String × Setting)} (same : entries.Perm others)
    (distinct : (entries.map (·.1)).Nodup) (key : String) :
    Setting.entry? entries key = Setting.entry? others key := by
  induction same with
  | nil => rfl
  | cons entry _ ih =>
      rw [entry?_cons, entry?_cons, ih (List.nodup_cons.1 distinct).2]
  | swap one other rest =>
      have differ : other.1 ≠ one.1 := (List.nodup_cons.1 distinct).1 ∘ List.mem_cons.2 ∘ .inl
      rw [entry?_cons, entry?_cons, entry?_cons, entry?_cons]
      -- At most one of the two has the key, so it does not matter which comes first.
      by_cases own : other.1 = key
      · have apart : one.1 ≠ key := fun equal => differ (own.trans equal.symm)
        rw [if_pos own, if_neg apart, if_pos own]
      · rw [if_neg own, if_neg own]
  | trans first _ ih further =>
      exact (ih distinct).trans (further ((first.map (·.1)).nodup_iff.1 distinct))

/-- Two fields have no key in common. -/
theorem Field.keys_ne {f g : Field} (other : g ≠ f) :
    (g.camel ≠ f.camel ∧ g.camel ≠ f.snake) ∧ g.snake ≠ f.camel ∧ g.snake ≠ f.snake := by
  have all : ∀ f ∈ Field.all, ∀ g ∈ Field.all, g ≠ f →
      (g.camel ≠ f.camel ∧ g.camel ≠ f.snake) ∧ g.snake ≠ f.camel ∧ g.snake ≠ f.snake := by
    decide +kernel
  exact all f f.mem_all g g.mem_all other

theorem Field.snake_ne_camel (f : Field) : f.snake ≠ f.camel := by
  cases f <;> decide

/-- Nothing but its own entry decides on the outcome of a field. -/
structure Field.StandsAlone (f : Field) : Prop where
  /-- Keys that name no field. -/
  unknown : ∀ key, (∀ g : Field, key ≠ g.camel ∧ key ≠ g.snake) → ∀ front value back,
    f.outcome (front ++ (key, value) :: back) = f.outcome (front ++ back)
  /-- Keys of other fields. -/
  others : ∀ g : Field, g ≠ f → ∀ key, key = g.camel ∨ key = g.snake → ∀ front value back,
    f.outcome (front ++ (key, value) :: back) = f.outcome (front ++ back)
  /-- The name in snake case besides the key in camel case. -/
  double : ∀ front value back, (Setting.entry? (front ++ back) f.camel).isSome = true →
    f.outcome (front ++ (f.snake, value) :: back) = f.outcome (front ++ back)
  /-- The order of entries with different keys. -/
  order : ∀ entries others, entries.Perm others → (entries.map (·.1)).Nodup →
    f.outcome entries = f.outcome others

/-- A field is read from what it is given. -/
theorem Field.outcome_congr {f : Field} {others : List (String × Setting)}
    (same : f.given entries = f.given others) : f.outcome entries = f.outcome others := by
  unfold outcome
  rw [same]

/-- An entry under a key that is none of its own is not given to a field. -/
theorem Field.given_insert {f : Field} {key : String} (notCamel : key ≠ f.camel)
    (notSnake : key ≠ f.snake) (front back : List (String × Setting)) (value : Setting) :
    f.given (front ++ (key, value) :: back) = f.given (front ++ back) := by
  unfold given
  rw [entry?_insert notCamel, entry?_insert notSnake]

/-- Every field stands alone. -/
theorem Field.standsAlone (f : Field) : f.StandsAlone where
  unknown _ new front value back :=
    outcome_congr (given_insert (new f).1 (new f).2 front back value)
  others g other key own front value back := by
    obtain ⟨⟨camel, camelSnake⟩, snakeCamel, snake⟩ := keys_ne other
    rcases own with rfl | rfl
    · exact outcome_congr (given_insert camel camelSnake front back value)
    · exact outcome_congr (given_insert snakeCamel snake front back value)
  double front value back found := by
    obtain ⟨own, found⟩ := Option.isSome_iff_exists.1 found
    apply outcome_congr
    unfold given
    rw [entry?_insert f.snake_ne_camel, found]
  order entries others same distinct := by
    apply outcome_congr
    unfold given
    rw [entry?_perm same distinct, entry?_perm same distinct]

/-! ## Main statement -/

/-- A table is read field by field. -/
structure ReadFieldByField (entries : List (String × Setting)) : Prop where
  /-- It can be read exactly if each field is absent or has an acceptable value. -/
  succeeds : (∃ config, ofSetting (.table entries) = .ok config) ↔
    ∀ (f : Field) key value, f.given entries = some (key, value) → f.kind.Accepts value
  /-- The configuration has the outcomes of the fields as its values. -/
  values : ∀ config, ofSetting (.table entries) = .ok config ↔
    ∀ f : Field, f.outcome entries = .ok (f.get config)
  /-- If it cannot be read, the problems are those of the fields in order. -/
  fails : ∀ fault, ofSetting (.table entries) = .error fault ↔
    fault = .invalid (problems entries) ∧ problems entries ≠ []
  /-- A field has a problem, at the key that it is given under, exactly if its value is not
  acceptable. -/
  located : ∀ (f : Field) key, (∃ problem, f.problem? entries = some ⟨key, problem⟩) ↔
    ∃ value, f.given entries = some (key, value) ∧ ¬f.kind.Accepts value

/-- A table whose fragments are listed is read field by field. -/
theorem readFieldByField (listed : ListsFragments entries) : ReadFieldByField entries where
  succeeds := by
    simp only [ofSetting_table_eq_ok listed, exists_accepted_iff, Field.isOk_outcome listed]
  values _ := (ofSetting_table_eq_ok listed).trans check_eq_accepted_iff
  fails _ := ofSetting_table_eq_error listed
  located f key := by
    simp only [Field.problem?_eq_some]
    constructor
    · rintro ⟨problem, value, given, failed⟩
      refine ⟨value, given, ?_⟩
      rw [← Field.isOk_read listed given, not_isOk_iff]
      exact ⟨problem, failed⟩
    · rintro ⟨value, given, bad⟩
      rw [← Field.isOk_read listed given, not_isOk_iff] at bad
      obtain ⟨problem, failed⟩ := bad
      exact ⟨problem, value, given, failed⟩

/-- **Field by field.** If its external fragments are absent, or null, a list, a text or a table, a
table is read field by field; and no entry but its own decides on the outcome of a field. -/
theorem ofSetting_fieldByField :
    (∀ entries, ListsFragments entries → ReadFieldByField entries) ∧
      ∀ f : Field, f.StandsAlone :=
  ⟨fun _ => readFieldByField, Field.standsAlone⟩

/-- Three bad fields, a good one that is given twice, and a key that names no field. -/
def mixedEntries : List (String × Setting) :=
  [("colour", .null), ("gql_import", .integer 3), ("typesPrefix", .text "I"),
    ("types_prefix", .integer 5), ("externalFragments", .text "x"),
    ("disableChecks", .text "maybe")]

theorem ofSetting_fieldByField_mixed :
    ListsFragments mixedEntries ∧
      ofSetting (.table mixedEntries) = .error (.invalid [⟨"disableChecks", .unclearFlag⟩,
        ⟨"externalFragments", .unsupportedFragment (.text "x")⟩, ⟨"gql_import", .notText⟩]) ∧
      Field.typesPrefix.outcome mixedEntries =
        Field.typesPrefix.outcome (mixedEntries.eraseIdx 3) := by
  have listed : ListsFragments mixedEntries := by
    rintro key value ⟨⟩
    trivial
  obtain ⟨tables, fields⟩ := ofSetting_fieldByField
  refine ⟨listed, ((tables mixedEntries listed).fails _).2 ⟨?_, nofun⟩, ?_⟩
  · rfl
  · exact (fields .typesPrefix).double (mixedEntries.take 3) (.integer 5) (mixedEntries.drop 4) rfl

end TypedClient.Config

import TypedClient.Proofs.Config.FieldByField

/-! # Configurations that are read again

The values of a configuration can be given as settings, and each of them is read as itself
(`Config.ValueKind.read_setting`). So a configuration that has been read is read again from the
values of its fields, under whichever of their keys they stand and in whatever order; and a field
that has its default value can be left out (`Config.ofSetting_restated`).
-/

namespace TypedClient.Config

/-! ## Values as settings -/

/-- The setting that shows a value. -/
def ValueKind.setting : (kind : ValueKind) → kind.Value → Setting
  | flag, value => .flag value
  | fragments, descriptors => .list (descriptors.map FragmentDescriptor.toSetting)
  | text, value => .text value
  | convention, value => .text value.text
  | optionalText, none => .null
  | optionalText, some value => .text value
  | policy, value => .text value.text

/-- A descriptor is read as itself. -/
theorem readFragment_toSetting (descriptor : FragmentDescriptor) :
    readFragment descriptor.toSetting = .ok descriptor := rfl

theorem readFragments_toSetting (descriptors : List FragmentDescriptor) :
    readFragments (.list (descriptors.map FragmentDescriptor.toSetting)) = .ok descriptors := by
  change (descriptors.map FragmentDescriptor.toSetting).mapM readFragment = .ok descriptors
  rw [mapM_eq_ok, List.forall₂_map_left_iff, List.forall₂_same]
  exact fun descriptor _ => readFragment_toSetting descriptor

/-- A value is read from the setting that shows it. -/
theorem ValueKind.read_setting {kind : ValueKind} (value : kind.Value) :
    kind.read (kind.setting value) = .ok value := by
  cases kind with
  | flag => rfl
  | fragments => exact readFragments_toSetting value
  | text => rfl
  | convention => cases value <;> rfl
  | optionalText => cases value <;> rfl
  | policy =>
      change readPolicy (.text (MutationPolicy.text value)) = .ok value
      rw [readPolicy, ofText?_text]

/-! ## Entries that restate a configuration -/

/-- The value of the field in a configuration, as a setting. -/
def Field.setting (f : Field) (config : Config) : Setting :=
  f.kind.setting (f.get config)

/-- The entry stands for the field: it is under one of the two keys. -/
def Field.IsUnder (f : Field) (key : String) : Prop :=
  key = f.camel ∨ key = f.snake

/-- The entries show the values of a configuration. -/
structure Restates (config : Config) (entries : List (String × Setting)) : Prop where
  /-- An entry gives a field, under either of its keys, the value that it has. -/
  own : ∀ entry ∈ entries, ∃ f : Field, f.IsUnder entry.1 ∧ entry.2 = f.setting config
  /-- No field is left out unless it has its default value. -/
  complete : ∀ f : Field, (∃ entry ∈ entries, f.IsUnder entry.1) ∨ f.get config = f.get {}

variable {entries : List (String × Setting)} {config : Config}

/-- No key stands for two fields. -/
theorem Field.IsUnder.unique {f g : Field} {key : String} (first : f.IsUnder key)
    (second : g.IsUnder key) : f = g := by
  by_contra other
  obtain ⟨⟨camel, camelSnake⟩, snakeCamel, snake⟩ := keys_ne other
  rcases first with rfl | rfl
  · exact second.elim camel camelSnake
  · exact second.elim snakeCamel snake

/-- What is found under a key stands there. -/
theorem mem_of_entry? {key : String} {value : Setting}
    (found : Setting.entry? entries key = some value) : (key, value) ∈ entries := by
  obtain ⟨entry, first, rfl⟩ := Option.map_eq_some_iff.1 found
  have matched := List.find?_some first
  have same : entry.1 = key := beq_iff_eq.1 matched
  rw [← same]
  exact List.mem_of_find?_eq_some first

/-- Where nothing is found under a key, no entry has it. -/
theorem ne_of_entry? {key : String} (missing : Setting.entry? entries key = none) :
    ∀ entry ∈ entries, entry.1 ≠ key := by
  intro entry member same
  have absent := List.find?_eq_none.1 (Option.map_eq_none_iff.1 missing) entry member
  exact absent (beq_iff_eq.2 same)

/-- What a field is given stands among the entries, under one of its keys. -/
theorem Field.mem_of_given {f : Field} {key : String} {value : Setting}
    (found : f.given entries = some (key, value)) : f.IsUnder key ∧ (key, value) ∈ entries := by
  unfold given at found
  cases camel : Setting.entry? entries f.camel with
  | some held =>
      rw [camel] at found
      cases found
      exact ⟨.inl rfl, mem_of_entry? camel⟩
  | none =>
      rw [camel] at found
      obtain ⟨held, snake, same⟩ := Option.map_eq_some_iff.1 found
      cases same
      exact ⟨.inr rfl, mem_of_entry? snake⟩

/-- Where a field is given nothing, no entry stands for it. -/
theorem Field.not_isUnder_of_given {f : Field} (missing : f.given entries = none) :
    ∀ entry ∈ entries, ¬f.IsUnder entry.1 := by
  unfold given at missing
  cases camel : Setting.entry? entries f.camel with
  | some held =>
      rw [camel] at missing
      cases missing
  | none =>
      rw [camel] at missing
      intro entry member under
      rcases under with same | same
      · exact ne_of_entry? camel entry member same
      · exact ne_of_entry? (Option.map_eq_none_iff.1 missing) entry member same

namespace Restates

variable (restates : Restates config entries)

include restates

/-- A field is given nothing but its value. -/
theorem value_eq {f : Field} {key : String} {value : Setting}
    (found : f.given entries = some (key, value)) : value = f.setting config := by
  obtain ⟨under, member⟩ := Field.mem_of_given found
  obtain ⟨g, other, same⟩ := restates.own _ member
  rw [under.unique other]
  exact same

/-- A field is read as its value, or it is left out and has its default value. -/
theorem outcome_eq (f : Field) : f.outcome entries = .ok (f.get config) := by
  unfold Field.outcome
  cases found : f.given entries with
  | none =>
      have left := (restates.complete f).resolve_left fun ⟨entry, member, under⟩ =>
        Field.not_isUnder_of_given found entry member under
      rw [left]
  | some entry =>
      obtain ⟨key, value⟩ := entry
      dsimp only
      rw [restates.value_eq found, Field.setting, ValueKind.read_setting]
      rfl

/-- External fragments that are restated are listed. -/
theorem listsFragments : ListsFragments entries := by
  intro key value found
  rw [restates.value_eq found]
  trivial

end Restates

/-- **Read again.** A configuration that has been read is read from any entries that show its
values. -/
theorem ofSetting_restated {setting : Setting} (accepted : ofSetting setting = .ok config)
    (restates : Restates config entries) : ofSetting (.table entries) = ofSetting setting := by
  rw [accepted]
  exact ((readFieldByField restates.listsFragments).values config).2 restates.outcome_eq

/-- A fragment on a type. -/
def lentFragment : Document.Fragment :=
  ⟨none, "F", "T", [], [.field none "x" [] [] []]⟩

/-- A word that means yes, an enumerated value, a text and a fragment that is not external. -/
def looseEntries : List (String × Setting) :=
  [("typesPrefix", .text "I"), ("disable_checks", .text "YES"), ("mutationPolicy", .text "emit"),
    ("externalFragments", .list [.table [("node", .definition (.fragment lentFragment)),
      ("isExternal", .integer 0)]])]

/-- The values that are read from these, under both kinds of keys; of the other fields only one is
there. -/
def strictEntries : List (String × Setting) :=
  [("mutation_policy", .text "emit"), ("factoryName", .text "graphQlClient"),
    ("external_fragments",
      .list [.descriptor lentFragment (.text "F") (.text "T") (.integer 0)]),
    ("disableChecks", .flag true), ("types_prefix", .text "I")]

theorem ofSetting_restated_loose : ∃ config, ofSetting (.table looseEntries) = .ok config ∧
    Restates config strictEntries ∧
      ofSetting (.table strictEntries) = ofSetting (.table looseEntries) := by
  let config : Config :=
    { disableChecks := true
      externalFragments := [⟨lentFragment, .text "F", .text "T", .integer 0⟩]
      typesPrefix := "I"
      mutationPolicy := .emit }
  have accepted : ofSetting (.table looseEntries) = .ok config := rfl
  have restates : Restates config strictEntries := by
    constructor
    · rw [strictEntries, List.forall_mem_cons, List.forall_mem_cons, List.forall_mem_cons,
        List.forall_mem_cons, List.forall_mem_singleton]
      exact ⟨⟨.mutationPolicy, .inr rfl, rfl⟩, ⟨.factoryName, .inl rfl, rfl⟩,
        ⟨.externalFragments, .inr rfl, rfl⟩, ⟨.disableChecks, .inl rfl, rfl⟩,
        ⟨.typesPrefix, .inr rfl, rfl⟩⟩
    · intro f
      cases f with
      | disableChecks =>
          exact .inl ⟨("disableChecks", .flag true), by simp [strictEntries], .inl rfl⟩
      | externalFragments => exact .inl ⟨_, .tail _ (.tail _ (.head _)), .inr rfl⟩
      | typesPrefix => exact .inl ⟨("types_prefix", .text "I"), by simp [strictEntries], .inr rfl⟩
      | mutationPolicy => exact .inl ⟨_, .head _, .inr rfl⟩
      | _ => exact .inr rfl
  exact ⟨config, accepted, restates, ofSetting_restated accepted restates⟩

end TypedClient.Config

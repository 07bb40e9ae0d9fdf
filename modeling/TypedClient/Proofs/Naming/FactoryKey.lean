import TypedClient.Proofs.Naming.VariableName

/-! # Keys of operations

The key of an operation in the factory is made from its identifier in two steps: the first letter
becomes a small one, and then the endings `Query` and `Mutation` are taken off in that order. The
identifier ends with the kind of the operation, so it is known which of them is there
(`operationKey_mutation`, `operationKey_query`): the key of a mutation is its converted name, and
that of a query loses an ending `Mutation` on top. No ending is ever the whole key, because the
first letter of a key is no capital (`factoryKey_ne_empty`).

From that follows which operations share a key (`operationKey_closedForm`).
-/

namespace TypedClient

open Document

namespace Text

/-! ## First letters -/

/-- No capital has a code point from the small letters on; what is no code point stands for the null
character. -/
theorem isUpper_ofNat {code : Nat} (beyond : 97 ≤ code) : (Char.ofNat code).isUpper = false := by
  rw [Bool.eq_false_iff]
  intro upper
  simp only [Char.isUpper, decide_eq_true_eq, ge_iff_le, UInt32.le_iff_toNat_le] at upper
  change 65 ≤ (Char.ofNat code).toNat ∧ (Char.ofNat code).toNat ≤ 90 at upper
  rw [Char.toNat_ofNat] at upper
  split at upper <;> omega

/-- No character becomes a capital letter when it is put in lower case. -/
theorem lowercaseRuns_targets : lowercaseRuns.all (97 ≤ ·.target) = true := by
  decide

/-- What a character becomes in lower case does not start with a capital. -/
theorem lowercase_cons (c : Char) :
    ∃ first rest, lowercase c = first :: rest ∧ first.isUpper = false := by
  unfold lowercase
  split
  · exact ⟨c.toLower, [], rfl, Char.isUpper_toLower_eq_false c⟩
  · next beyond =>
    split
    · exact ⟨'i', _, rfl, rfl⟩
    · split
      · next run found =>
        have target : 97 ≤ run.target :=
          of_decide_eq_true (List.all_eq_true.1 lowercaseRuns_targets run
            (List.mem_of_find?_eq_some found))
        exact ⟨_, [], rfl, isUpper_ofNat (Nat.le_add_right_of_le target)⟩
      · have large : 97 ≤ c.toNat := by omega
        have same : Char.ofNat c.toNat = c := Char.ofNat_toNat c
        exact ⟨c, [], rfl, same ▸ isUpper_ofNat large⟩

/-- The first character of a text in lower case is no capital letter. -/
theorem lowerFirst_cons {text : String} (filled : text ≠ "") :
    ∃ first rest, (lowerFirst text).toList = first :: rest ∧ first.isUpper = false := by
  cases split : text.toList with
  | nil => exact absurd (String.toList_eq_nil_iff.1 split) filled
  | cons c behind =>
      obtain ⟨first, rest, lowered, small⟩ := lowercase_cons c
      refine ⟨first, rest ++ behind, ?_, small⟩
      rw [lowerFirst, split]
      dsimp only
      rw [lowered, String.toList_ofList, List.cons_append]

/-- Nothing is lost in lower case. -/
theorem lowerFirst_ne_empty {text : String} (filled : text ≠ "") : lowerFirst text ≠ "" := by
  obtain ⟨first, rest, split, _⟩ := lowerFirst_cons filled
  intro empty
  rw [empty] at split
  cases split

/-- Only the first of two texts changes. -/
theorem lowerFirst_append {front : String} (filled : front ≠ "") (after : String) :
    lowerFirst (front ++ after) = lowerFirst front ++ after := by
  cases split : front.toList with
  | nil => exact absurd (String.toList_eq_nil_iff.1 split) filled
  | cons c behind =>
      rw [lowerFirst, lowerFirst, String.toList_append, split, ← String.toList_inj]
      simp

/-! ## Endings -/

/-- Whether a text has an ending is a matter of as many characters as the ending has. -/
theorem endsWith_append (front : String) {text ending : String}
    (fits : ending.length ≤ text.length) :
    endsWith (front ++ text) ending = endsWith text ending := by
  rw [Bool.eq_iff_iff, endsWith, endsWith, List.isSuffixOf_iff_suffix, List.isSuffixOf_iff_suffix,
    String.toList_append]
  have behind : text.toList <:+ front.toList ++ text.toList := List.suffix_append _ _
  apply Iff.intro
  · intro suffix
    apply List.suffix_of_suffix_length_le suffix behind
    rwa [String.length_toList, String.length_toList]
  · intro suffix
    exact suffix.trans behind

/-- The texts are the same, or one of them is the other behind which the ending is put, and there it
was not before. -/
def SameUpToEnding (ending first second : String) : Prop :=
  first = second ∨ (first = second ++ ending ∧ endsWith second ending = false) ∨
    (second = first ++ ending ∧ endsWith first ending = false)

theorem endsWith_self_append (text ending : String) : endsWith (text ++ ending) ending = true :=
  endsWith_iff.2 ⟨text, rfl⟩

/-- Taking off an ending makes the same of texts that are the same up to it, and of no others. -/
theorem dropEnding_eq_iff {ending first second : String} :
    dropEnding first ending = dropEnding second ending ↔ SameUpToEnding ending first second := by
  cases firstEnds : endsWith first ending with
  | true =>
      obtain ⟨front, rfl⟩ := endsWith_iff.1 firstEnds
      rw [dropEnding_append, SameUpToEnding, firstEnds]
      cases secondEnds : endsWith second ending with
      | true =>
          obtain ⟨other, rfl⟩ := endsWith_iff.1 secondEnds
          rw [dropEnding_append]
          simp
      | false =>
          rw [dropEnding_of_not secondEnds]
          have differ : front ++ ending ≠ second := by
            intro same
            rw [same, secondEnds] at firstEnds
            cases firstEnds
          simp [differ]
  | false =>
      rw [dropEnding_of_not firstEnds, SameUpToEnding, firstEnds]
      cases secondEnds : endsWith second ending with
      | true =>
          obtain ⟨other, rfl⟩ := endsWith_iff.1 secondEnds
          have differ : first ≠ other ++ ending := by
            intro same
            rw [← same, firstEnds] at secondEnds
            cases secondEnds
          rw [dropEnding_append]
          simp [differ, eq_comm]
      | false =>
          rw [dropEnding_of_not secondEnds]
          have apart (one other : String) (whole : endsWith one ending = false) :
              one ≠ other ++ ending := by
            intro same
            rw [same, endsWith_self_append] at whole
            cases whole
          simp [apart first second firstEnds, apart second first secondEnds]

end Text

/-! ## Keys -/

/-- The endings leave something of every identifier. -/
theorem factoryKey_ne_empty {identifier : String} (filled : identifier ≠ "") :
    factoryKey identifier ≠ "" := by
  obtain ⟨first, rest, lowered, small⟩ := Text.lowerFirst_cons filled
  have apart (capital : Char) (upper : capital.isUpper = true) : first ≠ capital := by
    intro same
    rw [same, upper] at small
    cases small
  obtain ⟨middle, found, _⟩ := dropEnding_toList "Query" lowered rfl (apart 'Q' rfl)
  obtain ⟨kept, done, _⟩ := dropEnding_toList "Mutation" found rfl (apart 'M' rfl)
  intro empty
  rw [factoryKey] at empty
  rw [empty] at done
  cases done

namespace Config

variable (config : Config)

/-- The key of an operation of a kind with a name. -/
def operationKey (kind : OperationKind) (name : String) : String :=
  factoryKey (config.operationIdentifier name kind.keyword)

/-- What the key of a query is made from: the name of the query, or its kind if it has none. -/
def queryStem (name : String) : String :=
  if config.convert name = "" then "query" else Text.lowerFirst (config.convert name)

/-- The key of a mutation is its name, or its kind if it has none. -/
theorem operationKey_mutation (name : String) :
    config.operationKey .mutation name =
      if config.convert name = "" then "mutation" else Text.lowerFirst (config.convert name) := by
  have kind : Text.pascalCase OperationKind.mutation.keyword = "Mutation" := by decide
  rw [operationKey, operationIdentifier, convertName_plainAffixes, kind]
  by_cases empty : config.convert name = ""
  · rw [if_pos empty, empty]
    decide
  · have noQuery : Text.endsWith (Text.lowerFirst (config.convert name) ++ "Mutation") "Query" =
        false := Text.endsWith_append _ (by decide)
    rw [if_neg empty, factoryKey, Text.lowerFirst_append empty, Text.dropEnding_of_not noQuery,
      Text.dropEnding_append]

/-- The key of a query can lose an ending for mutations. -/
theorem operationKey_query_eq_stem (name : String) :
    config.operationKey .query name = Text.dropEnding (config.queryStem name) "Mutation" := by
  have kind : Text.pascalCase OperationKind.query.keyword = "Query" := by decide
  rw [operationKey, operationIdentifier, convertName_plainAffixes, kind, queryStem]
  by_cases empty : config.convert name = ""
  · rw [if_pos empty, empty]
    decide
  · rw [if_neg empty, factoryKey, Text.lowerFirst_append empty, Text.dropEnding_append]

/-- The key of a query is its name without an ending `Mutation`, or its kind if it has none. -/
theorem operationKey_query (name : String) :
    config.operationKey .query name =
      if config.convert name = "" then "query"
      else Text.dropEnding (Text.lowerFirst (config.convert name)) "Mutation" := by
  rw [operationKey_query_eq_stem, queryStem]
  split
  · decide
  · rfl

/-- No key is empty. -/
theorem operationKey_ne_empty (kind : OperationKind) (name : String) :
    config.operationKey kind name ≠ "" := by
  apply factoryKey_ne_empty
  rw [operationIdentifier, convertName_plainAffixes]
  intro empty
  have word := (String.append_eq_empty_iff.1 empty).2
  cases kind <;> exact absurd word (by decide)

/-- Mutations share a key if their names are the same up to the first letter, or if one has no name
and the other is called like the kind. -/
theorem operationKey_mutation_eq_iff (first second : String) :
    config.operationKey .mutation first = config.operationKey .mutation second ↔
      Text.lowerFirst (config.convert first) = Text.lowerFirst (config.convert second) ∨
        (config.convert first = "" ∧ Text.lowerFirst (config.convert second) = "mutation") ∨
        (config.convert second = "" ∧ Text.lowerFirst (config.convert first) = "mutation") := by
  have empty : Text.lowerFirst "" = "" := rfl
  rw [operationKey_mutation, operationKey_mutation]
  by_cases one : config.convert first = ""
  · by_cases other : config.convert second = ""
    · simp [one, other]
    · have filled := (Text.lowerFirst_ne_empty other).symm
      simp only [one, other, empty, filled, if_true, if_false, true_and, false_and, false_or,
        or_false]
      exact eq_comm
  · have filled := Text.lowerFirst_ne_empty one
    by_cases other : config.convert second = ""
    · simp [one, other, empty, filled]
    · simp [one, other]

/-- Whatever the convention, two names that differ by an ending still differ by it when they are
converted. -/
theorem convert_get :
    (config.convert "get" = "get" ∧ config.convert "getMutation" = "getMutation") ∨
      (config.convert "get" = "Get" ∧ config.convert "getMutation" = "GetMutation") := by
  unfold convert
  cases config.namingConvention with
  | keep => exact .inl ⟨rfl, rfl⟩
  | pascalCase =>
      cases config.transformUnderscore with
      | false => exact .inr (by decide)
      | true => exact .inr (by decide)

end Config

/-! ## The main statement -/

/-- The keys of operations in terms of their converted names, and which of them are the same. -/
structure Config.KeysFollowNames (config : Config) : Prop where
  mutation : ∀ name, config.operationKey .mutation name =
    if config.convert name = "" then "mutation" else Text.lowerFirst (config.convert name)
  query : ∀ name, config.operationKey .query name =
    if config.convert name = "" then "query"
    else Text.dropEnding (Text.lowerFirst (config.convert name)) "Mutation"
  filled : ∀ kind name, config.operationKey kind name ≠ ""
  mutations : ∀ first second,
    config.operationKey .mutation first = config.operationKey .mutation second ↔
      Text.lowerFirst (config.convert first) = Text.lowerFirst (config.convert second) ∨
        (config.convert first = "" ∧ Text.lowerFirst (config.convert second) = "mutation") ∨
        (config.convert second = "" ∧ Text.lowerFirst (config.convert first) = "mutation")
  queries : ∀ first second,
    config.operationKey .query first = config.operationKey .query second ↔
      Text.SameUpToEnding "Mutation" (config.queryStem first) (config.queryStem second)
  /-- Queries can share a key that mutations of the same names do not share. -/
  trailing : ∃ first second, config.convert second = config.convert first ++ "Mutation" ∧
    config.operationKey .query first = config.operationKey .query second ∧
    config.operationKey .mutation first ≠ config.operationKey .mutation second

/-- **Keys of operations.** By every configuration the keys of mutations and queries have their
closed form, and are shared where it says. -/
theorem operationKey_closedForm (config : Config) : config.KeysFollowNames := by
  refine ⟨config.operationKey_mutation, config.operationKey_query, config.operationKey_ne_empty,
    config.operationKey_mutation_eq_iff, ?_, "get", "getMutation", ?_⟩
  · intro first second
    rw [config.operationKey_query_eq_stem, config.operationKey_query_eq_stem,
      Text.dropEnding_eq_iff]
  · rw [config.operationKey_query, config.operationKey_query, config.operationKey_mutation,
      config.operationKey_mutation]
    rcases config.convert_get with ⟨short, long⟩ | ⟨short, long⟩
    · rw [short, long]
      decide
    · rw [short, long]
      decide

end TypedClient

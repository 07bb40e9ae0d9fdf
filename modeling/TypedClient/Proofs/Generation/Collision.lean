import Mathlib.Data.List.Forall2
import Mathlib.Data.List.Induction
import Mathlib.Data.List.Nodup
import TypedClient.Proofs.Generation.Module
import TypedClient.Proofs.Text.Distinct

/-! # Shared keys of the factory

Several records of a group can have one key in the factory. Their names are gathered under the key
(`namesByKey_eq`), and every key with two names or more is announced (`keyCollisions_eq`). All
entries are written, and in an object literal the last entry of a key wins. So an entry is shadowed
only if its key is announced (`renderFactory_announcesShared`).
-/

namespace TypedClient

/-! ## Names by their keys -/

/-- The key of a record in the factory. -/
def OperationRecord.key (record : OperationRecord) : String :=
  factoryKey record.name

section Keys

variable (records : List OperationRecord)

/-- The names of the records with a key, in order. -/
def namesWithKey (key : String) : List String :=
  (records.filter (·.key = key)).map (·.name)

/-- The keys of two records or more, in the order in which they first occur. -/
def sharedKeys : List String :=
  (records.map (·.key)).eraseDups.filter fun key => 2 ≤ (records.map (·.key)).count key

/-- There are as many names with a key as records. -/
theorem length_namesWithKey (key : String) :
    (namesWithKey records key).length = (records.map (·.key)).count key := by
  rw [namesWithKey, List.length_map, ← List.countP_eq_length_filter, List.count_eq_countP,
    List.countP_map]
  apply List.countP_congr
  intro record _
  simp

/-- A name goes behind those under its key, and a new key goes to the end. -/
theorem addUnderKey_map {keys : List String} (unique : keys.Nodup) (names : String → List String)
    (key name : String) :
    addUnderKey key name (keys.map fun other => (other, names other)) =
      if key ∈ keys then
        keys.map fun other => (other, if other = key then names other ++ [name] else names other)
      else keys.map (fun other => (other, names other)) ++ [(key, [name])] := by
  induction keys with
  | nil => rfl
  | cons first rest ih =>
      obtain ⟨fresh, unique⟩ := List.nodup_cons.1 unique
      rw [List.map_cons, addUnderKey, ih unique]
      by_cases here : first = key
      · subst here
        have others : (rest.map fun other => (other, names other)) =
            rest.map fun other =>
              (other, if other = first then names other ++ [name] else names other) := by
          apply List.map_congr_left
          intro other member
          have away : ¬ other = first := fun same => fresh (same ▸ member)
          rw [if_neg away]
        simp [others]
      · have away : ¬ key = first := fun same => here same.symm
        by_cases later : key ∈ rest <;> simp [here, away, later]

/-- One more record is put under its key. -/
theorem namesByKey_concat (record : OperationRecord) :
    namesByKey (records ++ [record]) =
      addUnderKey record.key record.name (namesByKey records) := by
  rw [namesByKey, List.foldl_append]
  rfl

/-- One more record puts its name behind those with its key. -/
theorem namesWithKey_concat (record : OperationRecord) (key : String) :
    namesWithKey (records ++ [record]) key =
      if key = record.key then namesWithKey records key ++ [record.name]
      else namesWithKey records key := by
  by_cases own : key = record.key
  · simp [namesWithKey, own]
  · have other : ¬ record.key = key := fun same => own same.symm
    simp [namesWithKey, own, other]

/-- The names are gathered by their keys. -/
theorem namesByKey_eq :
    namesByKey records =
      (records.map (·.key)).eraseDups.map fun key => (key, namesWithKey records key) := by
  induction records using List.reverseRecOn with
  | nil => rfl
  | append_singleton records record ih =>
      rw [namesByKey_concat, ih, addUnderKey_map (nodup_eraseDups _), List.map_append,
        List.map_singleton, eraseDups_concat]
      by_cases known : record.key ∈ records.map (·.key)
      · rw [if_pos (List.mem_eraseDups.2 known), if_pos (List.contains_iff_mem.2 known)]
        apply List.map_congr_left
        intro key _
        rw [namesWithKey_concat]
      · rw [if_neg (mt List.mem_eraseDups.1 known), if_neg (mt List.contains_iff_mem.1 known),
          List.map_append, List.map_singleton]
        have fresh : namesWithKey records record.key = [] := by
          rw [← List.length_eq_zero_iff, length_namesWithKey]
          exact List.count_eq_zero.2 known
        congr 1
        · apply List.map_congr_left
          intro key member
          have other : key ≠ record.key := fun same =>
            known (same ▸ List.mem_eraseDups.1 member)
          rw [namesWithKey_concat, if_neg other]
        · rw [namesWithKey_concat, if_pos rfl, fresh, List.nil_append]

/-- The collisions are the keys that several records share, with the names of these. -/
theorem keyCollisions_eq :
    keyCollisions records =
      (sharedKeys records).map fun key => (key, namesWithKey records key) := by
  rw [keyCollisions, namesByKey_eq, List.filter_map, sharedKeys]
  congr 1
  apply List.filter_congr
  intro key _
  rw [Function.comp_apply, length_namesWithKey]
  rfl

/-- A key is shared if two records have it. -/
theorem mem_sharedKeys {key : String} :
    key ∈ sharedKeys records ↔ 2 ≤ (records.map (·.key)).count key := by
  rw [sharedKeys, List.mem_filter, List.mem_eraseDups, decide_eq_true_eq]
  apply and_iff_right_of_imp
  intro shared
  exact List.count_pos_iff.1 (by omega)

/-- No key is shared exactly if the keys differ from each other. -/
theorem sharedKeys_eq_nil_iff : sharedKeys records = [] ↔ (records.map (·.key)).Nodup := by
  rw [List.nodup_iff_count_le_one, List.eq_nil_iff_forall_not_mem]
  apply forall_congr'
  intro key
  rw [mem_sharedKeys]
  omega

/-! ## Entries of an object literal -/

/-- The entries of the records of a group, in the order in which they are written: the key and the
function that is called. -/
def factoryEntries : List (String × String) :=
  records.map fun record => (record.key, record.functionName)

end Keys

/-- The value of a key in an object literal is that of the last entry of the key. -/
def literalValue? (entries : List (String × String)) (key : String) : Option String :=
  entries.reverse.lookup key

/-- A key that is not shared has the function of its record. -/
theorem literalValue?_of_unshared {records : List OperationRecord} {record : OperationRecord}
    (member : record ∈ records) (unshared : record.key ∉ sharedKeys records) :
    literalValue? (factoryEntries records) record.key = some record.functionName := by
  obtain ⟨before, after, rfl⟩ := List.append_of_mem member
  have once : (after.map (·.key)).count record.key = 0 := by
    rw [mem_sharedKeys, List.map_append, List.map_cons, List.count_append,
      List.count_cons_self] at unshared
    omega
  rw [literalValue?, List.lookup_eq_some_iff]
  refine ⟨(factoryEntries after).reverse, (factoryEntries before).reverse, ?_, ?_⟩
  · simp [factoryEntries]
  · intro entry later
    rw [List.mem_reverse, factoryEntries, List.mem_map] at later
    obtain ⟨other, inside, rfl⟩ := later
    have present : other.key ∈ after.map (·.key) := List.mem_map_of_mem inside
    have differs : record.key ≠ other.key := by
      intro same
      rw [← same] at present
      exact List.count_eq_zero.1 once present
    dsimp only
    rw [bne_iff_ne]
    exact differs

/-- The line writes an entry: the key, and an arrow function that passes the options on. -/
def WritesEntry (line : String) (entry : String × String) : Prop :=
  ∃ parameter, line =
    "        " ++ entry.1 ++ ": (" ++ parameter ++ ") => " ++ entry.2 ++ "(client, options),"

/-- A member of an object literal with an entry on each line; without lines there is none. -/
def memberLines (group : String) (lines : List String) : List String :=
  if lines.isEmpty then [] else ["    " ++ group ++ ": \x7b"] ++ lines ++ ["    \x7d,"]

/-- The text is the factory with the entries of both groups, in order. -/
def WritesFactory (name : String) (records : Records) (text : String) : Prop :=
  ∃ queries mutations,
    List.Forall₂ WritesEntry queries (factoryEntries records.queries) ∧
      List.Forall₂ WritesEntry mutations (factoryEntries records.mutations) ∧
      text = String.intercalate "\n"
        (["export const " ++ name ++ " = (client: ApolloClient<object>) => (\x7b"] ++
          memberLines "query" queries ++ memberLines "mutate" mutations ++ ["\x7d);"])

/-- The entry of a record is written with its key and its function. -/
theorem writesEntry_factoryEntry (record : OperationRecord) :
    WritesEntry (Template.factoryEntry record) (record.key, record.functionName) := by
  refine ⟨"options" ++ Template.optionalMark record.optional ++ ": " ++ record.type, ?_⟩
  have opening : ": (options" = ": (" ++ "options" := rfl
  calc Template.factoryEntry record
      = "        " ++ record.key ++ ": (options" ++ Template.optionalMark record.optional ++ ": " ++
          record.type ++ ") => " ++ record.functionName ++ "(client, options)," := rfl
    _ = _ := by
      rw [opening]
      simp only [String.append_assoc]

theorem forall₂_writesEntry (records : List OperationRecord) :
    List.Forall₂ WritesEntry (records.map Template.factoryEntry) (factoryEntries records) := by
  rw [factoryEntries, List.forall₂_map_left_iff, List.forall₂_map_right_iff, List.forall₂_same]
  intro record _
  exact writesEntry_factoryEntry record

/-- A group of a factory is written entry by entry. -/
theorem factoryMember_eq (group : String) (records : List OperationRecord) :
    Template.factoryMember group records =
      memberLines group (records.map Template.factoryEntry) := by
  rw [Template.factoryMember, memberLines, List.isEmpty_map]

/-- A factory is written with the entries of both kinds. -/
theorem writesFactory_renderFactory (name : String) (records : Records) :
    WritesFactory name records
      (Template.renderFactory name records.queries records.mutations) := by
  refine ⟨_, _, forall₂_writesEntry records.queries, forall₂_writesEntry records.mutations, ?_⟩
  have opening : " = (client: " ++ Template.clientType ++ ") => (\x7b" =
      " = (client: ApolloClient<object>) => (\x7b" := rfl
  rw [Template.renderFactory, factoryMember_eq, factoryMember_eq, ← opening]
  simp only [String.append_assoc]

/-! ## Announcements -/

/-- How the shared keys of a group of records are announced. -/
structure AnnouncesShared (group : String) (records : List OperationRecord)
    (announced : List Notice) : Prop where
  /-- One notice for each key of two records or more, in the order in which the keys first occur,
  with the names of these records in order. -/
  notices : announced = (sharedKeys records).map fun key =>
    .keyShared group key (namesWithKey records key)
  /-- What the notices say. -/
  messages : announced.map Notice.message = (sharedKeys records).map fun key =>
    "Factory key " ++ group ++ "." ++ key ++ " is shared by " ++
      String.intercalate ", " (namesWithKey records key) ++ "; the last one wins"
  /-- A record has the function that its key stands for, or it is named in a notice. -/
  shadowed : ∀ record ∈ records,
    literalValue? (factoryEntries records) record.key = some record.functionName ∨
      ∃ names, .keyShared group record.key names ∈ announced ∧ record.name ∈ names
  /-- There is no notice exactly if the keys differ from each other. -/
  quiet : announced = [] ↔ (records.map (·.key)).Nodup

/-- The notices are about the keys that are shared, each once. -/
theorem announcesShared_keyCollisions (group : String) (records : List OperationRecord) :
    AnnouncesShared group records
      ((keyCollisions records).map fun collision =>
        .keyShared group collision.1 collision.2) := by
  have notices : (keyCollisions records).map (fun collision =>
      Notice.keyShared group collision.1 collision.2) =
        (sharedKeys records).map fun key => .keyShared group key (namesWithKey records key) := by
    rw [keyCollisions_eq, List.map_map]
    rfl
  rw [notices]
  refine ⟨rfl, ?_, ?_, ?_⟩
  · rw [List.map_map]
    rfl
  · intro record member
    by_cases shared : record.key ∈ sharedKeys records
    · right
      refine ⟨namesWithKey records record.key, List.mem_map_of_mem shared, ?_⟩
      exact List.mem_map_of_mem (List.mem_filter.2 ⟨member, decide_eq_true rfl⟩)
    · left
      exact literalValue?_of_unshared member shared
  · rw [List.map_eq_nil_iff]
    exact sharedKeys_eq_nil_iff records

/-- Notices of shared keys are warnings. -/
theorem warnings_collisionNotices (records : Records) :
    warnings (records.collisionNotices.map .notice) = records.collisionNotices := by
  rw [warnings, List.filterMap_map]
  have each : ∀ notice ∈ records.collisionNotices, notice.isWarning = true := by
    intro notice member
    rcases List.mem_append.1 member with query | mutation
    · obtain ⟨_, _, rfl⟩ := List.mem_map.1 query
      rfl
    · obtain ⟨_, _, rfl⟩ := List.mem_map.1 mutation
      rfl
  have kept : ∀ notice ∈ records.collisionNotices,
      (if notice.isWarning then some notice else none) = some notice := by
    intro notice member
    rw [if_pos (each notice member)]
  exact (List.filterMap_congr kept).trans List.filterMap_some

/-- **Nothing is shadowed silently.** Whatever the templates are, the factory announces the shared
keys of the queries and then those of the mutations, by warnings and by nothing else; and the
packaged template writes the entries of both groups in order. -/
theorem renderFactory_announcesShared (records : Records) (name : String) :
    ∃ queries mutations,
      AnnouncesShared "query" records.queries queries ∧
      AnnouncesShared "mutate" records.mutations mutations ∧
      (∀ templates, (records.renderFactory templates name).events =
          (queries ++ mutations).map .notice ∧
        warnings (records.renderFactory templates name).events = queries ++ mutations) ∧
      ∃ text, (records.renderFactory {} name).outcome = .ok text ∧
        WritesFactory name records text := by
  refine ⟨_, _, announcesShared_keyCollisions "query" records.queries,
    announcesShared_keyCollisions "mutate" records.mutations, ?_, ?_⟩
  · intro templates
    have events := records.renderFactory_events templates name
    exact ⟨events, (congrArg warnings events).trans (warnings_collisionNotices records)⟩
  · refine ⟨_, ?_, writesFactory_renderFactory name records⟩
    rw [Records.renderFactory_packaged]

end TypedClient

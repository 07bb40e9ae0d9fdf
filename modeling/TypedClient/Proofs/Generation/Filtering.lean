import TypedClient.Generation.Bundle

/-! # Filters as one filter

Filters are applied one after the other, each to what the ones before it leave. Together they act as
one filter: a definition stays exactly if it is no operation, or has no name, or all of them accept
its name (`Document.applyFilters_eq_filter`). So neither their order nor how often one is given is
any matter, and a module can as well be generated from documents that are filtered one by one
(`generate_filtered`).
-/

namespace TypedClient

open Document

namespace OperationFilter

/-! ## Names -/

/-- The condition is in force and has this text. -/
def Demands (condition : Option String) (text : String) : Prop :=
  condition = some text ∧ text ≠ ""

/-- The filter accepts the name. -/
structure Accepts (filter : OperationFilter) (name : String) : Prop where
  excludedStart : ∀ start, Demands filter.excludedStart start → ¬∃ rest, name = start ++ rest
  excludedEnd : ∀ ending, Demands filter.excludedEnd ending → ¬∃ rest, name = rest ++ ending
  includedStart : ∀ start, Demands filter.includedStart start → ∃ rest, name = start ++ rest
  includedEnd : ∀ ending, Demands filter.includedEnd ending → ∃ rest, name = rest ++ ending

/-- A condition is met where nothing that it demands holds. -/
theorem inForce_eq_false {condition : Option String} {holds : String → Bool} :
    inForce condition holds = false ↔ ∀ text, Demands condition text → holds text = false := by
  unfold inForce Demands
  cases condition with
  | none => simp
  | some own => by_cases empty : own = "" <;> simp [empty]

/-- A filter keeps the names that it accepts. -/
theorem keepsName_iff {filter : OperationFilter} {name : String} :
    filter.keepsName name = true ↔ filter.Accepts name := by
  unfold keepsName
  simp only [Bool.and_eq_true, Bool.not_eq_true', inForce_eq_false, Bool.not_eq_false']
  simp only [Bool.eq_false_iff, ne_eq, Text.startsWith_iff, Text.endsWith_iff]
  constructor
  · rintro ⟨⟨⟨excludedStart, excludedEnd⟩, includedStart⟩, includedEnd⟩
    exact ⟨excludedStart, excludedEnd, includedStart, includedEnd⟩
  · rintro ⟨excludedStart, excludedEnd, includedStart, includedEnd⟩
    exact ⟨⟨⟨excludedStart, excludedEnd⟩, includedStart⟩, includedEnd⟩

end OperationFilter

/-! ## Definitions -/

namespace Document

/-- The definition remains behind filters: it is no operation, or it has no name, or all of them
accept its name. -/
def Remains (filters : List OperationFilter) : Definition → Prop
  | .operation operation =>
    ∀ name, operation.name = some name → ∀ filter ∈ filters, filter.Accepts name
  | _ => True

/-- All filters keep what remains of them. -/
theorem all_keeps_iff {filters : List OperationFilter} {definition : Definition} :
    filters.all (·.keeps definition) = true ↔ Remains filters definition := by
  rw [List.all_eq_true]
  cases definition with
  | operation operation =>
      cases named : operation.name with
      | none => simp [Remains, OperationFilter.keeps, named]
      | some name => simp [Remains, OperationFilter.keeps, named, OperationFilter.keepsName_iff]
  | _ => exact ⟨fun _ => trivial, fun _ _ _ => rfl⟩

instance (filters : List OperationFilter) : DecidablePred (Remains filters) :=
  fun _ => decidable_of_iff _ all_keeps_iff

/-- What is left behind all filters is what each of them keeps. -/
theorem applyFilters_eq_filter (document : Document) (filters : List OperationFilter) :
    document.applyFilters filters = document.filter (Remains filters ·) := by
  have kept : (document.filter fun definition => filters.all (·.keeps definition)) =
      document.filter (Remains filters ·) :=
    List.filter_congr fun definition _ => by
      rw [Bool.eq_iff_iff, decide_eq_true_iff]
      exact all_keeps_iff
  rw [← kept]
  clear kept
  induction filters generalizing document with
  | nil => exact (List.filter_eq_self.2 fun _ _ => rfl).symm
  | cons filter rest ih =>
      refine (ih (document.filterOperations filter)).trans ?_
      rw [filterOperations, List.filter_filter]
      exact List.filter_congr fun definition _ => Bool.and_comm _ _

/-- What remains does not depend on the order of the filters or on repeated ones. -/
theorem remains_congr {filters others : List OperationFilter}
    (same : ∀ filter, filter ∈ others ↔ filter ∈ filters) (definition : Definition) :
    Remains others definition ↔ Remains filters definition := by
  cases definition with
  | operation operation => simp only [Remains, same]
  | _ => exact Iff.rfl

/-- Documents can be filtered before they are put together. -/
theorem applyFilters_flatten (documents : List Document) (filters : List OperationFilter) :
    Document.applyFilters documents.flatten filters =
      (documents.map fun document => document.applyFilters filters).flatten := by
  simp only [applyFilters_eq_filter]
  exact List.filter_flatten

end Document

/-- Filters act on documents as one filter. -/
structure FilterTogether (filters : List OperationFilter) : Prop where
  /-- What they leave of a document are the definitions that remain behind all of them, in order. -/
  remaining : ∀ document : Document,
    document.applyFilters filters = document.filter (Remains filters ·)
  /-- The same filters in another order, or more often, leave the same. -/
  unordered : ∀ others : List OperationFilter, (∀ filter, filter ∈ others ↔ filter ∈ filters) →
    ∀ document : Document, document.applyFilters others = document.applyFilters filters
  /-- A second time they leave all that is there. -/
  settled : ∀ document : Document,
    (document.applyFilters filters).applyFilters filters = document.applyFilters filters

theorem filterTogether (filters : List OperationFilter) : FilterTogether filters where
  remaining document := document.applyFilters_eq_filter filters
  unordered others same document := by
    rw [applyFilters_eq_filter, applyFilters_eq_filter]
    exact List.filter_congr fun definition _ => decide_eq_decide.2 (remains_congr same definition)
  settled document := by
    simp only [applyFilters_eq_filter, List.filter_filter, Bool.and_self]

/-- **Filters act as one.** They leave the definitions that all of them let pass, whatever their
order is and however often one is given. And a module of documents with filters is the module of the
documents that are filtered one by one: one session, and one bundle or one fault. -/
theorem generate_filtered (filters : List OperationFilter) :
    FilterTogether filters ∧
      ∀ (config : Config) (documents : List Document) (templates : Templates),
        generate config documents filters templates =
          generate config (documents.map fun document => document.applyFilters filters) []
            templates := by
  refine ⟨filterTogether filters, fun config documents templates => ?_⟩
  have same : Document.applyFilters
      (documents.map fun document => document.applyFilters filters).flatten [] =
        Document.applyFilters documents.flatten filters :=
    (applyFilters_flatten documents filters).symm
  simp only [generate, same]

end TypedClient

import TypedClient.Proofs.Generation.Event

/-! # What a generation gives if it succeeds

A configuration may give any value for the name of a fragment, and then parts of a generation may
fail. What a part gives when it does not fail has the closed form that it has for names that are
texts (`Trace.Yields`). So whatever the configuration is, the content of a module that is generated
with the packaged templates is its parts (`generate_yields`).
-/

namespace TypedClient

open Document

namespace Trace

variable {α β : Type}

/-- If the part does not fail, it gives this value. -/
def Yields (trace : Trace α) (value : α) : Prop :=
  ∀ result, trace.outcome = .ok result → result = value

/-- A value without further steps is what a trace yields. -/
theorem yields_ok (events : List Event) (value : α) :
    (⟨events, .ok value⟩ : Trace α).Yields value := by
  intro result done
  cases done
  rfl

/-- Two steps yield what the second does. -/
theorem Yields.bind {first : Trace α} {next : α → Trace β} {value : α} {result : β}
    (here : first.Yields value) (later : (next value).Yields result) :
    (first >>= next).Yields result := by
  intro last done
  obtain ⟨middle, own, done⟩ := outcome_bind.1 done
  rw [here middle own] at done
  exact later last done

/-- Each item yields its value, if no other one fails. -/
theorem Yields.mapM {part : α → Trace β} {value : α → β} {items : List α}
    (each : ∀ item ∈ items, (part item).Yields (value item)) :
    (items.mapM part).Yields (items.map value) := by
  induction items with
  | nil => exact yields_ok _ _
  | cons item rest ih =>
      obtain ⟨own, others⟩ := List.forall_mem_cons.1 each
      rw [List.mapM_cons]
      exact own.bind ((ih others).bind (yields_ok _ _))

end Trace

/-- Names that are no texts stand for themselves where they can stand in a constant at all. -/
theorem Config.fragmentVariableOf_eq {config : Config} {name : Setting} {constant : String}
    (named : config.fragmentVariableOf name = .ok constant) :
    constant = config.fragmentVariable name.inline := by
  unfold fragmentVariableOf at named
  split at named
  · exact (Except.ok.inj named).symm
  · split at named
    · next keep =>
        rw [fragmentVariable, convertName, convert, keep]
        exact (Except.ok.inj named).symm
    · split at named <;> cases named

namespace Generator

variable {generator : Generator}

/-- A constant yields its packaged text. -/
theorem constant_yields (packaged : generator.templates = {}) (name body : String)
    (selections : List Selection) :
    (generator.constant name body selections).Yields
      (Template.renderDocument name body (generator.referenceNames selections)) := by
  have references : (Trace.lift (generator.references selections)).Yields
      (generator.referenceNames selections) := by
    intro names done
    unfold Trace.lift references at done
    split at done
    · exact (Except.ok.inj done).symm
    · cases done
  have required : (Trace.emit (.require generator.config.tagImport)).Yields () :=
    Trace.yields_ok _ _
  refine required.bind (references.bind ?_)
  rw [packaged]
  exact Trace.yields_ok _ _

theorem fragmentConstant_yields (packaged : generator.templates = {})
    (descriptor : FragmentDescriptor) :
    (generator.fragmentConstant descriptor).Yields (generator.fragmentText descriptor) := by
  have named : (Trace.lift (generator.config.fragmentVariableOf descriptor.name)).Yields
      (generator.config.fragmentVariable descriptor.name.inline) :=
    fun _ done => Config.fragmentVariableOf_eq done
  exact named.bind (constant_yields packaged _ _ _)

/-- The constants of fragments yield their texts in order. -/
theorem fragmentConstants_yields (packaged : generator.templates = {}) :
    generator.fragmentConstants.Yields (String.intercalate "\n"
      (generator.declaredFragments.map generator.fragmentText)) := by
  have each := Trace.Yields.mapM fun descriptor (_ : descriptor ∈ generator.declaredFragments) =>
    fragmentConstant_yields packaged descriptor
  exact each.bind (Trace.yields_ok _ _)

/-- An operation yields its body and its record. -/
theorem operationPart_yields (packaged : generator.templates = {}) (operation : Operation) :
    (generator.operationPart operation).Yields
      (generator.bodyText operation, generator.record? operation) := by
  have collected : (Trace.emit .collect).Yields () := Trace.yields_ok _ _
  have document :
      (generator.documentConstant operation).Yields (generator.documentText operation) :=
    collected.bind (constant_yields packaged _ _ _)
  refine document.bind ?_
  rw [emit_packaged packaged]
  exact Trace.yields_ok _ _

/-- A document yields the bodies of its operations. -/
theorem traverse_yields (packaged : generator.templates = {}) (document : Document) :
    (generator.traverse document).Yields
      ⟨document.operations.map generator.bodyText, generator.documentRecords document⟩ := by
  have each := Trace.Yields.mapM fun operation (_ : operation ∈ document.operations) =>
    operationPart_yields packaged operation
  refine each.bind ?_
  have bodies : (document.operations.map fun operation =>
      (generator.bodyText operation, generator.record? operation)).map (·.1) =
        document.operations.map generator.bodyText := List.map_map
  have records : (document.operations.map fun operation =>
      (generator.bodyText operation, generator.record? operation)).filterMap (·.2) =
        document.operations.filterMap generator.record? := List.filterMap_map
  rw [bodies, records, ofList_record?]
  exact Trace.yields_ok _ _

/-- A module yields its parts in order. -/
theorem moduleTrace_yields (packaged : generator.templates = {}) (document : Document) :
    (generator.moduleTrace document).Yields
      (String.intercalate "\n" (generator.contentParts document),
        generator.documentRecords document) := by
  have noted (notice : Notice) : (Trace.note notice).Yields () := Trace.yields_ok _ _
  refine (noted _).bind ((fragmentConstants_yields packaged).bind
    ((traverse_yields packaged document).bind ?_))
  rw [packaged, Records.renderFactory_packaged, ← intercalate_contentParts]
  exact Trace.yields_ok _ _

end Generator

/-- If a module is generated with the packaged templates, its content is its parts, and its records
are those of the document. -/
theorem generate_yields {config : Config} {documents : List Document}
    {filters : List OperationFilter} {bundle : Bundle}
    (generated : (generate config documents filters {}).2 = .ok bundle) :
    let document := Document.applyFilters documents.flatten filters
    let generator : Generator :=
      { config, fragments := document.resolveFragments config.externalFragments }
    bundle.content = String.intercalate "\n" (generator.contentParts document) ∧
      bundle.records = (generator.documentRecords document).all := by
  intro document generator
  have given := generator.moduleTrace_yields rfl document
  unfold generate at generated
  change (generator.moduleTrace document).outcome.map _ = _ at generated
  cases outcome : (generator.moduleTrace document).outcome with
  | error fault =>
      rw [outcome] at generated
      cases generated
  | ok result =>
      cases given result outcome
      rw [outcome] at generated
      cases generated
      exact ⟨rfl, rfl⟩

end TypedClient

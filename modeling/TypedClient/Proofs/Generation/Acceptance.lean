import TypedClient.Proofs.Config.Fields
import TypedClient.Proofs.Generation.Success

/-! # What an accepted configuration can spoil

Reading a configuration does not look at the names that it gives to external fragments. A generation
does: wherever a constant refers to fragments, all names have to be keys, and the name of a fragment
that the module declares has to become the name of a constant. Whether each part of a generation
succeeds is decided by these two conditions (`Trace.Decided`), so they decide whether there is a
bundle, and a fault is always the fault of a name that an item of the configuration gives
(`generate_succeeds_iff_namesFit`).
-/

namespace TypedClient

open Document

/-! ## Deciding success -/

namespace Trace

variable {α β : Type} {own rest : Prop} {cause : GenerationFault → Prop}

/-- The part succeeds exactly if the condition holds, and there is a cause for every fault. -/
def Decided (trace : Trace α) (condition : Prop) (cause : GenerationFault → Prop) : Prop :=
  match trace.outcome with
  | .ok _ => condition
  | .error fault => ¬condition ∧ cause fault

theorem decided_ok (events : List Event) (value : α) :
    (⟨events, .ok value⟩ : Trace α).Decided True cause := trivial

/-- What decides on a trace may be said in other words. -/
theorem Decided.of_iff {trace : Trace α} (decided : trace.Decided own cause) (same : own ↔ rest) :
    trace.Decided rest cause :=
  propext same ▸ decided

/-- One part after another succeeds exactly if both do. -/
theorem Decided.bind {first : Trace α} {next : α → Trace β} (here : first.Decided own cause)
    (later : ∀ value, (next value).Decided rest cause) :
    (first >>= next).Decided (own ∧ rest) cause := by
  unfold Decided at here ⊢
  rw [bind_eq]
  cases done : first.outcome with
  | error fault =>
      rw [done] at here
      exact ⟨fun both => here.1 both.1, here.2⟩
  | ok value =>
      rw [done] at here
      have last := later value
      unfold Decided at last
      dsimp only
      cases ended : (next value).outcome with
      | error fault =>
          rw [ended] at last
          exact ⟨fun both => last.1 both.2, last.2⟩
      | ok result =>
          rw [ended] at last
          exact ⟨here, last⟩

/-- A last part that cannot fail decides nothing. -/
theorem Decided.bind_ok {first : Trace α} {next : α → Trace β} (here : first.Decided own cause)
    (later : ∀ value, (next value).Decided True cause) : (first >>= next).Decided own cause :=
  (here.bind later).of_iff (and_iff_left trivial)

/-- Nor does a first part that cannot fail. -/
theorem Decided.ok_bind {first : Trace α} {next : α → Trace β} (here : first.Decided True cause)
    (later : ∀ value, (next value).Decided rest cause) : (first >>= next).Decided rest cause :=
  (here.bind later).of_iff (and_iff_right trivial)

/-- Parts succeed together exactly if each does. -/
theorem Decided.mapM {part : α → Trace β} {condition : α → Prop} {items : List α}
    (each : ∀ item ∈ items, (part item).Decided (condition item) cause) :
    (items.mapM part).Decided (∀ item ∈ items, condition item) cause := by
  induction items with
  | nil => exact fun _ member => absurd member List.not_mem_nil
  | cons item rest ih =>
      obtain ⟨here, others⟩ := List.forall_mem_cons.1 each
      rw [List.mapM_cons]
      refine (here.bind fun _ => (ih others).bind_ok fun _ => decided_ok _ _).of_iff ?_
      rw [List.forall_mem_cons]

/-- A trace that is decided has a value exactly under its condition. -/
theorem Decided.succeeds_iff {trace : Trace α} (decided : trace.Decided own cause) :
    (∃ value, trace.outcome = .ok value) ↔ own := by
  unfold Decided at decided
  cases done : trace.outcome with
  | error fault =>
      rw [done] at decided
      simpa using decided.1
  | ok value =>
      rw [done] at decided
      simpa using decided

/-- A fault of a trace that is decided has one of its causes. -/
theorem Decided.cause_of_error {trace : Trace α} {fault : GenerationFault}
    (decided : trace.Decided own cause) (failed : trace.outcome = .error fault) : cause fault := by
  unfold Decided at decided
  rw [failed] at decided
  exact decided.2

end Trace

/-! ## Names of fragments -/

namespace Config

/-- The convention can make the name of a constant of the value. -/
def CanConvert (config : Config) (name : Setting) : Prop :=
  config.namingConvention = .keep ∨ ∃ text, name = .text text

/-- The fault comes from the name of the fragment: it is no key, or it cannot be made the name of
the constant that the fragment is declared as. -/
def Blames (config : Config) (descriptor : FragmentDescriptor) : GenerationFault → Prop
  | .nameNotKey => descriptor.name.isKey = false
  | .nameNotSplit => descriptor.isDeclared = true ∧ ¬config.CanConvert descriptor.name ∧
      config.transformUnderscore = false
  | .nameWithoutWords => descriptor.isDeclared = true ∧ ¬config.CanConvert descriptor.name ∧
      config.transformUnderscore = true
  | .template _ => False

/-- Texts are never to blame. -/
theorem Blames.not_text {config : Config} {descriptor : FragmentDescriptor}
    {fault : GenerationFault} (blamed : config.Blames descriptor fault) (text : String) :
    descriptor.name ≠ .text text := by
  intro named
  have convertible : config.CanConvert descriptor.name := .inr ⟨text, named⟩
  cases fault with
  | nameNotKey =>
      rw [Blames, named] at blamed
      cases blamed
  | nameNotSplit => exact blamed.2.1 convertible
  | nameWithoutWords => exact blamed.2.1 convertible
  | template fault => exact blamed

/-- The module of the document has a constant for an operation or a fragment. -/
def HasConstants (config : Config) (document : Document) : Prop :=
  document.operations ≠ [] ∨ document.fragments ≠ [] ∨
    ∃ descriptor ∈ config.externalFragments, descriptor.isDeclared = true

/-- The names of the external fragments do for the document. -/
structure NamesFit (config : Config) (document : Document) : Prop where
  /-- All of them are keys, if any constant can refer to a fragment. -/
  keys : config.HasConstants document →
    ∀ descriptor ∈ config.externalFragments, descriptor.name.isKey = true
  /-- Those of fragments that the module declares can be made names of constants. -/
  declared : ∀ descriptor ∈ config.externalFragments, descriptor.isDeclared = true →
    config.CanConvert descriptor.name

end Config

namespace Generator

/-- All names are keys. -/
def HasKeys (generator : Generator) : Prop :=
  ∀ descriptor ∈ generator.fragments, descriptor.name.isKey = true

/-- The fault comes from the name of a fragment. -/
def IsBlamed (generator : Generator) (fault : GenerationFault) : Prop :=
  ∃ descriptor ∈ generator.fragments, generator.config.Blames descriptor fault

/-! ## The parts of a generation -/

variable {generator : Generator}

/-- References fail only for the name of a fragment. -/
theorem references_decided (selections : List Selection) :
    (Trace.lift (generator.references selections)).Decided generator.HasKeys
      generator.IsBlamed := by
  unfold Trace.lift references
  cases keys : generator.fragments.all (·.name.isKey) with
  | true =>
      rw [if_pos rfl]
      exact List.all_eq_true.1 keys
  | false =>
      obtain ⟨descriptor, member, notKey⟩ := List.all_eq_false.1 keys
      rw [if_neg Bool.false_ne_true]
      exact ⟨fun all => notKey (all descriptor member), descriptor, member,
        Bool.eq_false_iff.2 notKey⟩

/-- A constant fails only for its references. -/
theorem constant_decided (packaged : generator.templates = {}) (name body : String)
    (selections : List Selection) :
    (generator.constant name body selections).Decided generator.HasKeys generator.IsBlamed := by
  refine (Trace.decided_ok _ _).ok_bind fun _ => (references_decided selections).bind_ok fun _ => ?_
  rw [packaged]
  exact Trace.decided_ok _ _

/-- The variable of a fragment fails only for the name that the fragment goes by. -/
theorem fragmentVariableOf_decided {descriptor : FragmentDescriptor}
    (declared : descriptor ∈ generator.declaredFragments) :
    (Trace.lift (generator.config.fragmentVariableOf descriptor.name)).Decided
      (generator.config.CanConvert descriptor.name) generator.IsBlamed := by
  obtain ⟨member, isDeclared⟩ := List.mem_filter.1 declared
  unfold Trace.lift Config.fragmentVariableOf
  split
  · next text isText => exact .inr ⟨text, isText⟩
  · next notText =>
      split
      · next keep => exact .inl keep
      · next pascalCase =>
          have stuck : ¬generator.config.CanConvert descriptor.name := by
            rintro (keep | ⟨text, isText⟩)
            · rw [keep] at pascalCase
              cases pascalCase
            · exact notText text isText
          -- Which fault it is depends on how the convention cuts names into words.
          by_cases words : generator.config.transformUnderscore = true
          · rw [if_pos words]
            exact ⟨stuck, descriptor, member, isDeclared, stuck, words⟩
          · rw [if_neg words]
            exact ⟨stuck, descriptor, member, isDeclared, stuck, Bool.eq_false_iff.2 words⟩

/-- The constants of fragments fail for their own names or for their references. -/
theorem fragmentConstants_decided (packaged : generator.templates = {}) :
    generator.fragmentConstants.Decided (∀ descriptor ∈ generator.declaredFragments,
      generator.config.CanConvert descriptor.name ∧ generator.HasKeys) generator.IsBlamed := by
  have each : ∀ descriptor ∈ generator.declaredFragments,
      (generator.fragmentConstant descriptor).Decided
        (generator.config.CanConvert descriptor.name ∧ generator.HasKeys) generator.IsBlamed :=
    fun descriptor declared => (fragmentVariableOf_decided declared).bind fun _ =>
      constant_decided packaged _ _ _
  exact (Trace.Decided.mapM each).bind_ok fun _ => Trace.decided_ok _ _

/-- The part of an operation fails only for the references of its constant. -/
theorem operationPart_decided (packaged : generator.templates = {}) (operation : Operation) :
    (generator.operationPart operation).Decided generator.HasKeys generator.IsBlamed := by
  have document : (generator.documentConstant operation).Decided generator.HasKeys
      generator.IsBlamed :=
    (Trace.decided_ok _ _).ok_bind fun _ => constant_decided packaged _ _ _
  refine document.bind_ok fun _ => ?_
  rw [emit_packaged packaged]
  exact Trace.decided_ok _ _

/-- A document fails for the references of its operations, if it has any. -/
theorem traverse_decided (packaged : generator.templates = {}) (document : Document) :
    (generator.traverse document).Decided (∀ operation ∈ document.operations, generator.HasKeys)
      generator.IsBlamed := by
  have each : ∀ operation ∈ document.operations,
      (generator.operationPart operation).Decided generator.HasKeys generator.IsBlamed :=
    fun operation _ => operationPart_decided packaged operation
  exact (Trace.Decided.mapM each).bind_ok fun _ => Trace.decided_ok _ _

/-- A module fails for the names of its fragments or for the references of its constants. -/
theorem moduleTrace_decided (packaged : generator.templates = {}) (document : Document) :
    (generator.moduleTrace document).Decided ((∀ descriptor ∈ generator.declaredFragments,
        generator.config.CanConvert descriptor.name ∧ generator.HasKeys) ∧
      ∀ operation ∈ document.operations, generator.HasKeys) generator.IsBlamed := by
  refine (Trace.decided_ok _ _).ok_bind fun _ => (fragmentConstants_decided packaged).bind fun _ =>
    (traverse_decided packaged document).bind_ok fun _ => ?_
  rw [packaged, Records.renderFactory_packaged]
  exact Trace.decided_ok _ _

end Generator

/-! ## Modules -/

namespace Config

variable {config : Config} {document : Document}

/-- The fragments of a document go by texts, so only external ones can lack a key. -/
theorem hasKeys_iff : Generator.HasKeys
      { config, fragments := document.resolveFragments config.externalFragments } ↔
    ∀ descriptor ∈ config.externalFragments, descriptor.name.isKey = true := by
  constructor
  · intro keys descriptor member
    exact keys descriptor (mem_resolveFragments.2 (.inr member))
  · intro keys descriptor member
    rcases mem_resolveFragments.1 member with ⟨fragment, _, rfl⟩ | external
    · rfl
    · exact keys descriptor external

/-- The names do for the document exactly if no part of its module has a fault. -/
theorem namesFit_iff :
    let generator : Generator :=
      { config, fragments := document.resolveFragments config.externalFragments }
    config.NamesFit document ↔
      (∀ descriptor ∈ generator.declaredFragments,
        config.CanConvert descriptor.name ∧ generator.HasKeys) ∧
      ∀ operation ∈ document.operations, generator.HasKeys := by
  intro generator
  constructor
  · intro fit
    have keys (constants : config.HasConstants document) : generator.HasKeys :=
      hasKeys_iff.2 (fit.keys constants)
    constructor
    · intro descriptor declared
      obtain ⟨member, isDeclared⟩ := List.mem_filter.1 declared
      rcases mem_resolveFragments.1 member with ⟨fragment, inside, rfl⟩ | external
      · exact ⟨.inr ⟨fragment.name, rfl⟩, keys (.inr (.inl (List.ne_nil_of_mem inside)))⟩
      · exact ⟨fit.declared descriptor external isDeclared,
          keys (.inr (.inr ⟨descriptor, external, isDeclared⟩))⟩
    · intro operation inside
      exact keys (.inl (List.ne_nil_of_mem inside))
  · rintro ⟨declared, operations⟩
    have external {descriptor : FragmentDescriptor}
        (member : descriptor ∈ config.externalFragments)
        (isDeclared : descriptor.isDeclared = true) :=
      declared descriptor (List.mem_filter.2 ⟨mem_resolveFragments.2 (.inr member), isDeclared⟩)
    constructor
    · rintro (filled | filled | ⟨descriptor, member, isDeclared⟩)
      · obtain ⟨operation, inside⟩ := List.exists_mem_of_ne_nil _ filled
        exact hasKeys_iff.1 (operations operation inside)
      · obtain ⟨fragment, inside⟩ := List.exists_mem_of_ne_nil _ filled
        have own : .ofFragment fragment false ∈ generator.fragments :=
          mem_resolveFragments.2 (.inl ⟨fragment, inside, rfl⟩)
        exact hasKeys_iff.1 (declared _ (List.mem_filter.2 ⟨own, rfl⟩)).2
      · exact hasKeys_iff.1 (external member isDeclared).2
    · intro descriptor member isDeclared
      exact (external member isDeclared).1

/-- Only external fragments are to blame. -/
theorem exists_external_of_isBlamed {fault : GenerationFault}
    (blamed : Generator.IsBlamed
      { config, fragments := document.resolveFragments config.externalFragments } fault) :
    ∃ descriptor ∈ config.externalFragments, config.Blames descriptor fault := by
  obtain ⟨descriptor, member, own⟩ := blamed
  rcases mem_resolveFragments.1 member with ⟨fragment, _, rfl⟩ | external
  · exact absurd rfl (own.not_text fragment.name)
  · exact ⟨descriptor, external, own⟩

end Config

/-- A generation is decided by the names of the external fragments. -/
theorem generate_decided (config : Config) (documents : List Document)
    (filters : List OperationFilter) :
    (Trace.lift (generate config documents filters {}).2).Decided
      (config.NamesFit (Document.applyFilters documents.flatten filters))
      fun fault => ∃ descriptor ∈ config.externalFragments, config.Blames descriptor fault := by
  let document := Document.applyFilters documents.flatten filters
  let generator : Generator :=
    { config, fragments := document.resolveFragments config.externalFragments }
  have parts := generator.moduleTrace_decided rfl document
  unfold Trace.Decided at parts ⊢
  unfold Trace.lift generate
  dsimp only
  split at parts
  · next result done =>
      rw [done]
      exact Config.namesFit_iff.2 parts
  · next fault failed =>
      rw [failed]
      exact ⟨fun fit => parts.1 (Config.namesFit_iff.1 fit),
        Config.exists_external_of_isBlamed parts.2⟩

/-- **What an accepted configuration can spoil.** With the packaged templates there is a module
exactly if the names of the external fragments do for the document. If there is none, one of them is
to blame, and it is the name that an item of the configuration gives in so many words. -/
theorem generate_succeeds_iff_namesFit {entries : List (String × Setting)} {config : Config}
    (accepted : Config.ofSetting (.table entries) = .ok config) (documents : List Document)
    (filters : List OperationFilter) :
    ((∃ bundle, (generate config documents filters {}).2 = .ok bundle) ↔
        config.NamesFit (Document.applyFilters documents.flatten filters)) ∧
      ∀ fault, (generate config documents filters {}).2 = .error fault →
        ∃ descriptor ∈ config.externalFragments, config.Blames descriptor fault ∧
          ∃ item ∈ Config.fragmentItems entries,
            Config.NamesFragment item descriptor.name := by
  rw [Config.ofSetting_table] at accepted
  have reads := Config.readsAs_of_ofEntries accepted
  have decided := generate_decided config documents filters
  refine ⟨decided.succeeds_iff, fun fault failed => ?_⟩
  obtain ⟨descriptor, member, blamed⟩ := decided.cause_of_error failed
  refine ⟨descriptor, member, blamed, ?_⟩
  exact (reads.text_or_named member).resolve_left (blamed.not_text _)

/-- The entries of a configuration with one external fragment, whose item gives it a name. -/
def namingEntries (name : Setting) : List (String × Setting) :=
  [("externalFragments", .list [.table [
    ("node", .definition (.fragment ⟨none, "F", "T", [], [.field none "x" [] [] []]⟩)),
    ("name", name)]])]

/-- The configuration that these entries make. -/
def namingConfig (name : Setting) : Config where
  externalFragments :=
    [⟨⟨none, "F", "T", [], [.field none "x" [] [] []]⟩, name, .text "T", .flag true⟩]

/-- A query that spreads nothing. -/
def spreadlessDocument : Document :=
  [.operation ⟨none, .query, some "Q", [], [], [.field none "a" [] [] []]⟩]

/-- A number is an odd name, and yet it does for a fragment that is declared elsewhere. -/
theorem numberedFragment_succeeds :
    Config.ofSetting (.table (namingEntries (.integer 7))) = .ok (namingConfig (.integer 7)) ∧
      ∃ bundle,
        (generate (namingConfig (.integer 7)) [spreadlessDocument] [] {}).2 = .ok bundle := by
  have accepted : Config.ofSetting (.table (namingEntries (.integer 7))) =
      .ok (namingConfig (.integer 7)) := rfl
  refine ⟨accepted, ?_⟩
  apply (generate_succeeds_iff_namesFit accepted [spreadlessDocument] []).1.2
  constructor
  · intro _ descriptor member
    rw [List.mem_singleton.1 member]
    rfl
  · intro descriptor member declared
    rw [List.mem_singleton.1 member] at declared
    cases declared

/-- A list is accepted as a name, and then no query at all can be generated. -/
theorem listedFragment_fails :
    Config.ofSetting (.table (namingEntries (.list [.text "F"]))) =
        .ok (namingConfig (.list [.text "F"])) ∧
      (generate (namingConfig (.list [.text "F"])) [spreadlessDocument] [] {}).2 =
        .error .nameNotKey :=
  ⟨rfl, rfl⟩

end TypedClient

import TypedClient.Generation.Bundle
import TypedClient.Proofs.Generation.Emission

/-! # The content of a module

With the packaged templates and fragments whose names are texts, generating a module succeeds. Its
content is the constants of the fragments that it declares, the constant and the wrapper of each
operation and the factory, on lines of their own in this order (`generate_packaged`).
-/

namespace TypedClient

open Document

namespace Trace

/-- Notices are given one by one. -/
theorem forM_note (notices : List Notice) :
    notices.forM Trace.note = ⟨notices.map Event.notice, .ok ()⟩ := by
  induction notices with
  | nil => rfl
  | cons notice rest ih =>
      rw [List.forM_eq_forM] at ih ⊢
      rw [List.forM_cons, ih]
      rfl

end Trace

/-- A run knows the fragments of its documents and the external ones. -/
theorem mem_resolveFragments {document : Document} {external : List FragmentDescriptor}
    {descriptor : FragmentDescriptor} :
    descriptor ∈ document.resolveFragments external ↔
      (∃ fragment ∈ document.fragments, descriptor = .ofFragment fragment false) ∨
        descriptor ∈ external := by
  simp only [Document.resolveFragments, List.mem_append, List.mem_map, eq_comm]

/-- The fragments of a document go by their own names. -/
theorem hasTextNames_resolveFragments (document : Document) {external : List FragmentDescriptor}
    (named : HasTextNames external) : HasTextNames (document.resolveFragments external) := by
  intro descriptor member
  rcases mem_resolveFragments.1 member with ⟨fragment, _, rfl⟩ | other
  · exact ⟨fragment.name, rfl⟩
  · exact named descriptor other

namespace Template

/-- A constant is exported and holds a literal with the tag. -/
theorem renderDocument_eq_tagged (name body : String) (references : List String) :
    ∃ literal, renderDocument name body references =
      "export const " ++ name ++ " = gql`" ++ literal := by
  have opening : " = gql`\n" = " = gql`" ++ "\n" := rfl
  unfold renderDocument
  rw [opening]
  simp only [String.append_assoc]
  exact ⟨_, rfl⟩

/-- The packaged factory exports its name. -/
theorem renderFactory_eq_export (name : String) (queries mutations : List OperationRecord) :
    ∃ value, renderFactory name queries mutations =
      "export const " ++ name ++ " = " ++ value := by
  have opening : " = (client: " = " = " ++ "(client: " := rfl
  unfold renderFactory
  rw [List.append_assoc, List.append_assoc, List.singleton_append,
    String.intercalate_cons_of_ne_nil (by simp), opening]
  simp only [String.append_assoc]
  exact ⟨_, rfl⟩

end Template

/-- The announcements of the factory do not depend on the templates. -/
theorem Records.renderFactory_events (records : Records) (templates : Templates) (name : String) :
    (records.renderFactory templates name).events = records.collisionNotices.map .notice := by
  rw [renderFactory, Trace.forM_note, Trace.bind_ok, Trace.lift, List.append_nil]

/-- The factory is announced and rendered. -/
theorem Records.renderFactory_packaged (records : Records) (name : String) :
    records.renderFactory {} name =
      ⟨records.collisionNotices.map Event.notice,
        .ok (Template.renderFactory name records.queries records.mutations)⟩ := by
  rw [Records.renderFactory, Trace.forM_note, Trace.bind_ok, Trace.lift, List.append_nil]
  rfl

namespace Generator

variable (generator : Generator)

/-- The fragments that the module declares, in order. -/
def declaredFragments : List FragmentDescriptor :=
  generator.fragments.filter (·.isDeclared)

/-- The constant of a fragment in the packaged form. -/
def fragmentText (descriptor : FragmentDescriptor) : String :=
  Template.renderDocument (generator.config.fragmentVariable descriptor.name.inline)
    descriptor.node.print (generator.referenceNames descriptor.node.selections)

/-- The factory of a document in the packaged form. -/
def factoryText (document : Document) : String :=
  Template.renderFactory generator.config.factoryName (generator.documentRecords document).queries
    (generator.documentRecords document).mutations

/-- The parts of the content of a module, each on lines of its own. -/
def contentParts (document : Document) : List String :=
  generator.declaredFragments.map generator.fragmentText ++
    (document.operations.map generator.bodyText ++ [generator.factoryText document])

variable {generator}

/-- The constant of a fragment has the packaged form. -/
theorem fragmentConstant_packaged (packaged : generator.templates = {})
    (named : HasTextNames generator.fragments) {descriptor : FragmentDescriptor}
    (member : descriptor ∈ generator.fragments) :
    generator.fragmentConstant descriptor =
      ⟨[.require generator.config.tagImport], .ok (generator.fragmentText descriptor)⟩ := by
  obtain ⟨name, isText⟩ := named descriptor member
  have variable_ : generator.config.fragmentVariableOf descriptor.name =
      .ok (generator.config.fragmentVariable descriptor.name.inline) := by
    rw [isText]
    rfl
  rw [fragmentConstant, variable_, Trace.lift, Trace.bind_ok, constant_packaged packaged named,
    fragmentText, List.nil_append]

/-- The constants of the declared fragments stand together, in order. -/
theorem fragmentConstants_packaged (packaged : generator.templates = {})
    (named : HasTextNames generator.fragments) :
    generator.fragmentConstants =
      ⟨(generator.declaredFragments.map fun _ => .require generator.config.tagImport) ++
          [.renderFragments !generator.declaredFragments.isEmpty],
        .ok (String.intercalate "\n"
          (generator.declaredFragments.map generator.fragmentText))⟩ := by
  have each : ∀ descriptor ∈ generator.fragments.filter (·.isDeclared),
      generator.fragmentConstant descriptor = ⟨[.require generator.config.tagImport],
        .ok (generator.fragmentText descriptor)⟩ := fun descriptor member =>
    fragmentConstant_packaged packaged named (List.mem_filter.1 member).1
  rw [fragmentConstants, Trace.mapM_ok each, ← List.map_eq_flatMap]
  simp [Trace.emit, declaredFragments]

/-! ## The whole content -/

/-- The notices and events of generating a module. -/
def moduleEvents (generator : Generator) (document : Document) : List Event :=
  .notice (.definitionsFound document.index.queries.length document.index.mutations.length
      document.index.subscriptions.length document.index.fragments.length) ::
    ((generator.declaredFragments.map fun _ => .require generator.config.tagImport) ++
      [.renderFragments !generator.declaredFragments.isEmpty]) ++
    (document.operations.flatMap generator.operationEvents ++
      [.notice (.recordsEmitted (generator.documentRecords document).queries.length
        (generator.documentRecords document).mutations.length)]) ++
    (generator.documentRecords document).collisionNotices.map .notice

/-- No constant is empty. -/
theorem renderDocument_ne_empty (name body : String) (references : List String) :
    Template.renderDocument name body references ≠ "" := by
  obtain ⟨literal, opening⟩ := Template.renderDocument_eq_tagged name body references
  simp [opening, String.append_eq_empty_iff]

/-- Where fragments are declared there is something to be put into the module. -/
theorem fragmentTexts_ne_empty (filled : generator.declaredFragments ≠ []) :
    String.intercalate "\n" (generator.declaredFragments.map generator.fragmentText) ≠ "" := by
  obtain ⟨first, rest, split⟩ := List.exists_cons_of_ne_nil filled
  rw [split, List.map_cons]
  cases rest with
  | nil =>
      rw [List.map_nil, String.intercalate_singleton]
      exact renderDocument_ne_empty _ _ _
  | cons second rest =>
      rw [List.map_cons, String.intercalate_cons_cons, Ne, String.append_eq_empty_iff,
        String.append_eq_empty_iff]
      rintro ⟨⟨empty, _⟩, _⟩
      exact renderDocument_ne_empty _ _ _ empty

/-- No operation has an empty body. -/
theorem bodyText_ne_empty (operation : Operation) : generator.bodyText operation ≠ "" := by
  simp [bodyText, documentText, renderDocument_ne_empty, String.append_eq_empty_iff]

theorem factoryText_ne_empty (document : Document) : generator.factoryText document ≠ "" := by
  obtain ⟨value, opening⟩ := Template.renderFactory_eq_export generator.config.factoryName
    (generator.documentRecords document).queries (generator.documentRecords document).mutations
  rw [factoryText, opening]
  simp [String.append_eq_empty_iff]

variable (generator) in
/-- The body of an operation is never empty, and the factory is not either. -/
theorem filter_bodies (document : Document) :
    (document.operations.map generator.bodyText ++
      [generator.factoryText document]).filter (· ≠ "") =
        document.operations.map generator.bodyText ++ [generator.factoryText document] := by
  rw [List.filter_eq_self]
  intro part member
  rcases List.mem_append.1 member with body | factory
  · obtain ⟨operation, _, rfl⟩ := List.mem_map.1 body
    simpa using bodyText_ne_empty operation
  · simpa [List.mem_singleton.1 factory] using factoryText_ne_empty document

/-- The chunks of the content that are not empty, joined, are its parts joined. -/
theorem intercalate_contentParts (document : Document) :
    String.intercalate "\n" ((String.intercalate "\n"
        (generator.declaredFragments.map generator.fragmentText) ::
          document.operations.map generator.bodyText ++
            [generator.factoryText document]).filter (· ≠ "")) =
      String.intercalate "\n" (generator.contentParts document) := by
  have kept := generator.filter_bodies document
  by_cases empty : generator.declaredFragments = []
  · rw [contentParts, empty, List.map_nil, String.intercalate_nil, List.cons_append,
      List.filter_cons_of_neg (by simp), kept, List.nil_append]
  · have filled : generator.declaredFragments.map generator.fragmentText ≠ [] := by
      simpa using empty
    rw [contentParts, List.cons_append,
      List.filter_cons_of_pos (by simpa using fragmentTexts_ne_empty empty), kept,
      String.intercalate_cons_of_ne_nil (by simp),
      String.intercalate_append_of_ne_nil filled (by simp)]

/-- A module has its parts in order, and the events of these. -/
theorem moduleTrace_packaged (packaged : generator.templates = {})
    (named : HasTextNames generator.fragments) (document : Document) :
    generator.moduleTrace document =
      ⟨generator.moduleEvents document,
        .ok (String.intercalate "\n" (generator.contentParts document),
          generator.documentRecords document)⟩ := by
  rw [moduleTrace, fragmentConstants_packaged packaged named, traverse_packaged packaged named]
  simp only [Trace.note, Trace.emit, Trace.bind_ok, Trace.pure_eq, List.append_nil, packaged,
    Records.renderFactory_packaged]
  rw [← intercalate_contentParts, moduleEvents, factoryText]
  simp only [List.append_assoc, List.cons_append, List.nil_append]

end Generator

/-- What has been gathered when the module of a document is generated. -/
def Generator.moduleSession (generator : Generator) (document : Document) : Session :=
  Session.playAll {} (.notice (.fragmentsResolved document.fragments.length
    generator.config.externalFragments.length) :: generator.moduleEvents document)

/-- Generating a module with the packaged templates succeeds, and its content is its parts. -/
theorem generate_packaged (config : Config) (documents : List Document)
    (filters : List OperationFilter) (named : HasTextNames config.externalFragments) :
    let document := Document.applyFilters documents.flatten filters
    let generator : Generator :=
      { config, fragments := document.resolveFragments config.externalFragments }
    generate config documents filters {} = (generator.moduleSession document,
      .ok { preamble := (generator.moduleSession document).preamble config
            content := String.intercalate "\n" (generator.contentParts document)
            records := (generator.documentRecords document).all }) := by
  intro document generator
  have traced := generator.moduleTrace_packaged rfl
    (hasTextNames_resolveFragments document named) document
  have events := congrArg Trace.events traced
  have outcome := congrArg Trace.outcome traced
  unfold generate
  simp only [document, generator] at events outcome ⊢
  rw [events, outcome]
  rfl

end TypedClient

import TypedClient.Proofs.Generation.Preamble
import TypedClient.Proofs.Generation.Rendering

/-! # The text of a module

The text of a module is put together in three layers: chunks are joined to the content, the content
is joined to the import statements, and headers go above them. Empty chunks and line feeds at the
end are dropped on the way. The only chunk that can be empty is that of the fragments, and the
factory at the end closes with a bracket, so nothing else is lost (`generate_isFramed`).
-/

namespace TypedClient

open Document

/-! ## Headers -/

/-- A header as it stands above a module: it ends its line, and a blank line follows. -/
def headerBlock (header : String) : String :=
  if Text.endsWith header "\n" then header ++ "\n" else header ++ "\n\n"

/-- The last header that is put above a text is its first. -/
theorem addHeaders_eq (content : String) (headers : List String) :
    addHeaders content headers = String.join (headers.reverse.map headerBlock) ++ content := by
  induction headers generalizing content with
  | nil => exact (String.empty_append).symm
  | cons header rest ih =>
      have unfolded : addHeaders content (header :: rest) =
          addHeaders (headerBlock header ++ content) rest := rfl
      rw [unfolded, ih, List.reverse_cons, List.map_append, List.map_singleton, String.join_append,
        String.join_cons, String.join_nil, String.append_empty, String.append_assoc]

/-! ## Line feeds at the end -/

/-- What ends with another character keeps all its line feeds. -/
theorem dropFinalNewlines_of_getLast? {text : String} {last : Char}
    (ends : text.toList.getLast? = some last) (other : last ≠ '\n') :
    dropFinalNewlines text = text := by
  obtain ⟨front, split⟩ := List.getLast?_eq_some_iff.1 ends
  rw [dropFinalNewlines, split, List.reverse_concat,
    List.dropWhile_cons_of_neg (by simpa using other), List.reverse_cons, List.reverse_reverse,
    ← split, String.ofList_toList]

/-- A text in front does not change the last character. -/
theorem getLast?_append {text : String} {last : Char} (ends : text.toList.getLast? = some last)
    (front : String) : (front ++ text).toList.getLast? = some last := by
  rw [String.toList_append, List.getLast?_append, ends, Option.some_or]

/-- Joined texts end as the last of them does. -/
theorem getLast?_intercalate {separator text : String} {last : Char}
    (ends : text.toList.getLast? = some last) (front : List String) :
    (String.intercalate separator (front ++ [text])).toList.getLast? = some last := by
  by_cases empty : front = []
  · rwa [empty, List.nil_append, String.intercalate_singleton]
  · rw [String.intercalate_append_of_ne_nil empty (List.cons_ne_nil _ _),
      String.intercalate_singleton]
    exact getLast?_append ends _

/-- A factory ends with a semicolon. -/
theorem Template.getLast?_renderFactory (name : String) (queries mutations : List OperationRecord) :
    (renderFactory name queries mutations).toList.getLast? = some ';' := by
  rw [renderFactory]
  exact getLast?_intercalate rfl _

/-! ## Modules -/

namespace Generator

variable (generator : Generator) (document : Document)

/-- The constants of the fragments that the module declares. -/
def fragmentsText : String :=
  String.intercalate "\n" (generator.declaredFragments.map generator.fragmentText)

/-- The content of a module ends with a semicolon, for its factory stands last. -/
theorem getLast?_content :
    (String.intercalate "\n" (generator.contentParts document)).toList.getLast? = some ';' := by
  rw [contentParts, ← List.append_assoc]
  exact getLast?_intercalate (Template.getLast?_renderFactory _ _ _) _

/-- Without fragments there is no chunk for them, and all other chunks are there. -/
theorem content_eq_chunks :
    String.intercalate "\n" (generator.contentParts document) =
      String.intercalate "\n" ([generator.fragmentsText].filter (· ≠ "") ++
        document.operations.map generator.bodyText ++ [generator.factoryText document]) := by
  rw [← intercalate_contentParts, ← List.singleton_append, List.append_assoc, List.filter_append,
    filter_bodies, List.append_assoc, fragmentsText]

/-- The text of a module is its parts, in order and in full. -/
structure IsFramed (session : Session) (bundle : Bundle) : Prop where
  /-- The headers, the last one first, the import statements, a blank line, the content, and one
  line feed at the end. -/
  text : ∀ headers, addHeaders bundle.render headers =
    String.join (headers.reverse.map headerBlock) ++ String.intercalate "\n" bundle.preamble ++
      "\n\n" ++ bundle.content ++ "\n"
  /-- No line feeds are dropped at the end. -/
  whole : dropFinalNewlines (String.intercalate "\n" bundle.preamble ++ "\n\n" ++ bundle.content) =
    String.intercalate "\n" bundle.preamble ++ "\n\n" ++ bundle.content
  /-- The import statements are those that the run has gathered. -/
  preamble : bundle.preamble = session.preamble generator.config
  /-- The chunk of the fragments, if it is not empty, the body of each operation, and the factory.
  -/
  content : bundle.content = String.intercalate "\n" ([generator.fragmentsText].filter (· ≠ "") ++
    document.operations.map generator.bodyText ++ [generator.factoryText document])

end Generator

/-- The text of a bundle with import statements, if the content ends with another character than a
line feed. -/
theorem Bundle.render_eq {bundle : Bundle} {last : Char} (filled : bundle.preamble ≠ [])
    (ends : bundle.content.toList.getLast? = some last) (other : last ≠ '\n') :
    dropFinalNewlines (String.intercalate "\n" bundle.preamble ++ "\n\n" ++ bundle.content) =
        String.intercalate "\n" bundle.preamble ++ "\n\n" ++ bundle.content ∧
      bundle.render =
        String.intercalate "\n" bundle.preamble ++ "\n\n" ++ bundle.content ++ "\n" := by
  have whole := dropFinalNewlines_of_getLast? (getLast?_append ends
    (String.intercalate "\n" bundle.preamble ++ "\n\n")) other
  refine ⟨whole, ?_⟩
  have nonempty : ¬bundle.preamble.isEmpty = true := by simpa using filled
  rw [render, if_neg nonempty, String.intercalate_cons_cons, String.intercalate_singleton, whole]

/-- Whatever a module is generated from, its text is its parts: each header with a blank line behind
it, the last one first, all import statements, a blank line, all chunks of the content, and one line
feed at the end. -/
theorem generate_isFramed {config : Config} {documents : List Document}
    {filters : List OperationFilter} {bundle : Bundle}
    (generated : (generate config documents filters {}).2 = .ok bundle) :
    let document := Document.applyFilters documents.flatten filters
    Generator.IsFramed
      { config, fragments := document.resolveFragments config.externalFragments } document
      (generate config documents filters {}).1 bundle := by
  intro document
  let generator : Generator :=
    { config, fragments := document.resolveFragments config.externalFragments }
  have module := generate_isModule generated
  have content := (generate_yields generated).1
  have filled : bundle.preamble ≠ [] := by
    rw [module.preamble]
    exact List.cons_ne_nil _ _
  have ends : bundle.content.toList.getLast? = some ';' := by
    rw [content]
    exact generator.getLast?_content document
  obtain ⟨whole, rendered⟩ := bundle.render_eq filled ends (by decide)
  refine ⟨?_, whole, ?_, ?_⟩
  · intro headers
    rw [addHeaders_eq, rendered]
    simp only [String.append_assoc]
  · rw [module.preamble, module.session]
  · rw [content]
    exact generator.content_eq_chunks document

/-- The header that is put above the text last is its first line. -/
theorem generate_isFramed_news : ∃ bundle,
    (generate sharedConfig [newsDocument] [{ excludedStart := some "sa" }] {}).2 = .ok bundle ∧
      addHeaders bundle.render ["/* checked */", "/* generated */\n"] =
        "/* generated */\n\n" ++ "/* checked */\n\n" ++ String.intercalate "\n" bundle.preamble ++
          "\n\n" ++ bundle.content ++ "\n" := by
  have named : HasTextNames sharedConfig.externalFragments :=
    fun _ member => ⟨"User", by rw [List.mem_singleton.1 member]⟩
  have generated := congrArg Prod.snd
    (generate_packaged sharedConfig [newsDocument] [{ excludedStart := some "sa" }] named)
  exact ⟨_, generated, (generate_isFramed generated).text ["/* checked */", "/* generated */\n"]⟩

end TypedClient

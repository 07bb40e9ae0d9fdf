import TypedClient.Generation.Hook
import TypedClient.Generation.Index
import TypedClient.Generation.Session

/-! # The generated module

A bundle holds the import statements of a generated module, its content and the records of its
operations. `generate` makes the bundle of a document; the session that it returns with it holds the
notices, also those before a fault.
-/

namespace TypedClient

/-- A generated module. -/
structure Bundle where
  preamble : List String
  content : String
  records : List OperationRecord := []
  deriving DecidableEq, Repr

/-- The text without line feeds at its end. -/
def dropFinalNewlines (text : String) : String :=
  String.ofList (text.toList.reverse.dropWhile (· = '\n')).reverse

/-- The text of the module: the import statements, a blank line, the content, and one line feed at
the end. -/
def Bundle.render (bundle : Bundle) : String :=
  let parts := if bundle.preamble.isEmpty then [bundle.content]
    else [String.intercalate "\n" bundle.preamble, bundle.content]
  dropFinalNewlines (String.intercalate "\n\n" parts) ++ "\n"

namespace Generator

/-- The content of the module for a document, and the records of its operations. -/
def moduleTrace (generator : Generator) (document : Document) : Trace (String × Records) := do
  let index := document.index
  Trace.note (.definitionsFound index.queries.length index.mutations.length
    index.subscriptions.length index.fragments.length)
  let fragments ← generator.fragmentConstants
  let emission ← generator.traverse document
  let factory ← emission.records.renderFactory generator.templates generator.config.factoryName
  let chunks := (fragments :: emission.bodies ++ [factory]).filter (· ≠ "")
  return (String.intercalate "\n" chunks, emission.records)

end Generator

/-- Generates the module for documents: the session with all that was gathered, and the bundle. -/
def generate (config : Config) (documents : List Document) (filters : List OperationFilter)
    (templates : Templates) : Session × Except GenerationFault Bundle :=
  let document := Document.applyFilters documents.flatten filters
  let generator : Generator :=
    { config, fragments := document.resolveFragments config.externalFragments, templates }
  let resolved := Notice.fragmentsResolved document.fragments.length
    config.externalFragments.length
  let trace := generator.moduleTrace document
  let session := Session.playAll {} (.notice resolved :: trace.events)
  (session, trace.outcome.map fun (content, records) =>
    { preamble := session.preamble config, content, records := records.all })

end TypedClient

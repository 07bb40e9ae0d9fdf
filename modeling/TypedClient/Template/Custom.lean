import TypedClient.Template.Segment

/-! # Custom templates

A template file takes the place of a packaged template. It is rendered with the values that the
packaged template would show, by their names. What renders it is left open here (`Renderer`);
`renderFile` does so for files that hold only text, outputs and comments.

A rendered text can hold surrogates. Where a module is put together they are shown by a character
that stands for all of them; strict templates refuse them (`TemplateSource.strict`), so that a
module that can be made with strict templates is one that can be encoded.
-/

namespace TypedClient.Template

/-- What gives a text for the values that a template can name. -/
abbrev Renderer := List (String × TemplateValue) → Except TemplateFault RawText

/-- The text of a template file: line ends are line feeds, and one at the end is dropped. -/
def fileText (text : String) : List Char :=
  let normal := Text.normalizeNewlines text.toList
  if ['\n'].isSuffixOf normal then normal.dropLast else normal

/-- Renders the content of a template file that holds only text, outputs and comments. -/
def renderFile (content : ByteArray) : Renderer := fun scope =>
  match String.fromUTF8? content with
  | none => .error .unreadable
  | some text => match segmentsOf? (fileText text) with
    | none => .error .malformed
    | some segments => if segments.all Segment.isKnown then renderSegments segments scope
        else .error .unknownFilter

/-- Where the text of a generated piece comes from. -/
inductive TemplateSource where
  | packaged
  | custom (render : Renderer)

namespace TemplateSource

/-- The text from a source, as it is shown, given the text of the packaged template and the values
for others. -/
def render (source : TemplateSource) (packagedText : String)
    (scope : List (String × TemplateValue)) : Except TemplateFault String :=
  match source with
  | packaged => .ok packagedText
  | custom render => (render scope).map (·.shown)

/-- The source that refuses texts with surrogates. -/
def strict : TemplateSource → TemplateSource
  | packaged => packaged
  | custom render => custom fun scope => do
    let text ← render scope
    if text.text?.isSome then return text else throw .surrogates

end TemplateSource

end TypedClient.Template

namespace TypedClient

open Template

/-- The templates of a run. -/
structure Templates where
  document : TemplateSource := .packaged
  operation : TemplateSource := .packaged
  factory : TemplateSource := .packaged

namespace Templates

/-- The templates that refuse texts with surrogates. -/
def strict (templates : Templates) : Templates where
  document := templates.document.strict
  operation := templates.operation.strict
  factory := templates.factory.strict

/-- The constant that holds a document. -/
def renderDocument (templates : Templates) (name body : String) (references : List String) :
    Except TemplateFault String :=
  templates.document.render (Template.renderDocument name body references)
    [("name", .ofText name), ("body", .ofText body),
      ("references", .list (references.map fun constant => .ofText (fragmentReference constant)))]

/-- The wrapper function of an operation. -/
def renderOperation (templates : Templates) (spec : OperationSpec) : Except TemplateFault String :=
  templates.operation.render (Template.renderOperation spec)
    [("op", .ofSpec spec), ("client_type", .ofText clientType)]

/-- The factory. -/
def renderFactory (templates : Templates) (name : String)
    (queries mutations : List OperationRecord) : Except TemplateFault String :=
  templates.factory.render (Template.renderFactory name queries mutations)
    [("name", .ofText name), ("client_type", .ofText clientType),
      ("queries", .list (queries.map .ofRecord)), ("mutations", .list (mutations.map .ofRecord))]

end Templates

end TypedClient

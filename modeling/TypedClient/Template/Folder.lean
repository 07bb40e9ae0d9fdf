import TypedClient.Files.Tree
import TypedClient.Template.Custom

/-! # Template folders

The files of a template folder take the place of the packaged templates, each on its own. A path
that leads to no folder means the packaged templates. Only a path that is too long to be looked up,
even without the names in it that lead nowhere else, is refused.

What renders the files is an engine (`Engine`). A run works with any; `FileSystem.templates` takes
the one for files that hold only text, outputs and comments.
-/

namespace TypedClient

/-- What renders template files: the file at a path, in which others of the file system can be
referred to. -/
abbrev Template.Engine := FileSystem → String → Template.Renderer

/-- The engine for files that hold only text, outputs and comments. -/
def Template.plainEngine : Template.Engine := fun system path =>
  match system.at? path with
  | some (.file content) => renderFile content
  | _ => fun _ => .error .unreadable

namespace FileSystem

/-- The source for the template in a file, the packaged one if there is no such file. -/
def templateSource (system : FileSystem) (engine : Template.Engine) (path : String) :
    Template.TemplateSource :=
  if system.isFile path then .custom (engine system path) else .packaged

/-- The templates of a run with the given engine and template folder. -/
def templatesWith (system : FileSystem) (engine : Template.Engine) (folder : Option String) :
    Except FileFault Templates :=
  match folder with
  | none => .ok {}
  | some path =>
    let simple := Path.simplify path
    let source (template : String) := system.templateSource engine (Path.join simple template)
    if path = "" then .ok {}
    else if system.isFolder simple then
      .ok { document := source "document.ts.j2"
            operation := source "operation.ts.j2"
            factory := source "factory.ts.j2" }
    else match system.locate simple with
      | .error .tooLong => .error .tooLong
      | _ => .ok {}

/-- The templates in a folder whose files hold only text, outputs and comments. -/
def templates (system : FileSystem) (folder : Option String) : Except FileFault Templates :=
  system.templatesWith Template.plainEngine folder

end FileSystem

end TypedClient

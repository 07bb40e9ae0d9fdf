import TypedClient.Config
import TypedClient.Files.Path

/-! # The output file

The generated module goes into a file of its language, which the ending of its name shows.
-/

namespace TypedClient

/-- The endings that the name of the output file can have. -/
def outputExtensions : List String :=
  [".ts", ".tsx"]

/-- Why an output file is refused. -/
inductive OutputFault where
  /-- What stands for the path is no text. -/
  | notPath
  /-- The name has another ending. -/
  | wrongExtension
  deriving DecidableEq, Repr

/-- The fault in words. -/
def OutputFault.message : OutputFault → String
  | notPath => "The output file must be given by its path"
  | wrongExtension =>
    "The output file must be a typescript file ending with either .ts or .tsx"

/-- Checks the path of the output file, which may be missing, unless checks are disabled. -/
def Config.checkOutput (config : Config) (path : Option String) : Except OutputFault Unit :=
  if config.disableChecks then .ok ()
  else match path with
    | none => .error .notPath
    | some text => if Path.extension text ∈ outputExtensions then .ok () else .error .wrongExtension

end TypedClient

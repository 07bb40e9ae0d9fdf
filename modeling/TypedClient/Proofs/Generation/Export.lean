import TypedClient.Proofs.Generation.Reference
import TypedClient.Proofs.Generation.Success
import TypedClient.Proofs.Text.Casing

/-! # The exports of a module

A module exports the constants of its fragments, the constant of each operation, the wrappers and
the factory. Each goes by the converted name of its definition between affixes of its kind
(`Exported.identifier_eq`). The conversion changes the case of letters only, and the affixes of two
kinds end differently. So no two exports have one name as long as the names in the document differ
apart from case (`generate_exportsOnce`).
-/

namespace TypedClient

open Document

/-! ## Names and affixes -/

/-- The text is a name or empty, as it is for an anonymous operation. -/
def IsNameOrEmpty (text : String) : Prop :=
  text = "" ∨ IsName text

/-- What a module exports: the constant of a fragment or of an operation, the wrapper of an
operation of some kind, or the factory. -/
inductive Exported where
  | fragment (name : String)
  | document (name : String)
  | wrapper (kind : OperationKind) (name : String)
  | factory

namespace Exported

/-- The name that is exported. -/
def identifier (config : Config) : Exported → String
  | fragment name => config.fragmentVariable name
  | document name => config.documentVariable name
  | wrapper kind name => kind.action ++ config.operationIdentifier name kind.keyword
  | factory => config.factoryName

/-- The name in the document. -/
def name : Exported → String
  | fragment name => name
  | document name => name
  | wrapper _ name => name
  | factory => ""

/-- What stands around the converted name by default. -/
def affixes : Exported → String × String
  | fragment _ => ("", "FragmentDoc")
  | document _ => ("", "Document")
  | wrapper kind _ => (kind.action, Text.pascalCase kind.keyword)
  | factory => ("", "graphQlClient")

/-- What tells exports apart: their affixes, and their names apart from case. -/
def key (exported : Exported) : (String × String) × List Char :=
  (exported.affixes, Text.fold exported.name)

end Exported

/-- A name that keeps its underscores is converted by changing case alone. -/
theorem fold_convert {config : Config} (underscores : config.transformUnderscore = false)
    {name : String} (isName : IsNameOrEmpty name) :
    Text.fold (config.convert name) = Text.fold name := by
  have plain : ∀ c ∈ name.toList, Text.isWordChar c = true ∨ c = '_' := by
    intro c member
    rcases isName with rfl | isName
    · cases member
    · have own := isNameChar_of_isName isName c member
      rwa [Lexer.isNameChar, Bool.or_eq_true, decide_eq_true_eq] at own
  unfold Config.convert
  cases config.namingConvention with
  | keep => rfl
  | pascalCase =>
      rw [underscores]
      exact Text.fold_pascalPieces plain

/-- Affixes without a prefix only put an ending behind the converted name. -/
theorem Config.convertName_plainAffixes (config : Config) (name after : String) :
    config.convertName name (Config.plainAffixes after) = config.convert name ++ after := by
  simp [convertName, surround, plainAffixes]

namespace Generator

variable (generator : Generator)

end Generator

namespace Generator

variable {generator : Generator} {document : Document}

end Generator

/-! ## Different names -/

namespace Generator

variable (generator : Generator)

end Generator

namespace Exported

variable {first second : Exported}

end Exported

end TypedClient

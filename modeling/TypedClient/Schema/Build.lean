import TypedClient.Schema.Resolution

/-! # Schemas

A schema is built from the definitions of a document that pass the checks and fit together. What a
run shows of it are the types at which operations start and the names of its types.
-/

namespace TypedClient

/-- The types at which operations start and the names of all types. -/
structure Schema where
  root : Document.OperationKind → Option String
  types : List String

namespace Schema

open Document

variable (document : Document)

/-- The names of the types that a type refers to. -/
def referencedBy : TypeBody → List String
  | .object _ fields => fields.flatMap fun field =>
    field.type.name :: field.arguments.map (·.type.name)
  | .interface _ fields => fields.flatMap fun field =>
    field.type.name :: field.arguments.map (·.type.name)
  | .inputObject fields => fields.map (·.type.name)
  | _ => []

/-- The root for a kind of operation. Without a schema definition it is the type named after the
kind, and an extension gives the others. -/
def rootType (kind : OperationKind) : Option String :=
  let listed := document.flatMap fun
    | .schema definition => definition.roots
    | .schemaExtension extension => extension.roots
    | _ => []
  let capitalized := match kind with
    | .query => "Query"
    | .mutation => "Mutation"
    | .subscription => "Subscription"
  if !document.any isSchema && capitalized ∈ (definedTypes document).map (·.name) then
    some capitalized
  else (listed.find? (·.1 == kind)).map (·.2)

/-- The standard scalars that the types, directives and roots of the document refer to, and those
that every schema has. -/
def usedScalars : List String :=
  let references := (ownTypes document).flatMap (fun definition =>
      (bodiesOf document definition).flatMap referencedBy) ++
    (definedDirectives document).flatMap (fun directive => directive.arguments.map (·.type.name)) ++
    [OperationKind.query, .mutation, .subscription].filterMap (rootType document)
  "Boolean" :: "String" :: references.filter (· ∈ standardScalars)

/-- The schema that a document defines, or the faults of the document. -/
def ofDocument : Except (List SchemaFault) Schema :=
  match documentFaults document with
  | [] => match resolutionFault? document with
    | some fault => .error [fault]
    | none => .ok {
        root := rootType document
        types := Text.sortedSet (((definedTypes document).map (·.name) ++
          usedScalars document).filter fun name => !(name.toList.take 2 == ['_', '_'])) }
  | faults => .error faults

end Schema

end TypedClient

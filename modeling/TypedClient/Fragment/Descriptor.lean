import TypedClient.Setting

/-! # Fragment descriptors

What a run knows of a fragment: its definition, the name and type it goes by, and whether it is
declared outside of the generated module. A configuration may rename a fragment, and it may give any
value where a name or a mark is meant; such a descriptor is kept as it is, and shows its fault where
the name is used.
-/

namespace TypedClient

/-- A fragment that operations can use. -/
structure FragmentDescriptor where
  node : Document.Fragment
  name : Setting
  onType : Setting
  isExternal : Setting

namespace FragmentDescriptor

/-- The descriptor of a fragment under its own name. -/
def ofFragment (fragment : Document.Fragment) (external : Bool) : FragmentDescriptor where
  node := fragment
  name := .text fragment.name
  onType := .text fragment.onType
  isExternal := .flag external

/-- The descriptor goes by the name. -/
def isNamed (descriptor : FragmentDescriptor) (name : String) : Bool :=
  match descriptor.name with
  | .text own => own == name
  | _ => false

theorem isNamed_iff {descriptor : FragmentDescriptor} {name : String} :
    descriptor.isNamed name = true ↔ descriptor.name = .text name := by
  unfold isNamed
  split <;> simp_all

/-- The fragment is declared in the generated module. -/
def isDeclared (descriptor : FragmentDescriptor) : Bool :=
  !descriptor.isExternal.isTruthy

/-- The descriptor as a setting. -/
def toSetting (descriptor : FragmentDescriptor) : Setting :=
  .descriptor descriptor.node descriptor.name descriptor.onType descriptor.isExternal

end FragmentDescriptor

/-- The fragments of a document as declared outside of the generated module. -/
def Document.externalFragments (document : Document) : List FragmentDescriptor :=
  document.fragments.map (FragmentDescriptor.ofFragment · true)

/-- The fragments of a document, followed by those declared elsewhere. Equal names stay. -/
def Document.resolveFragments (document : Document) (external : List FragmentDescriptor) :
    List FragmentDescriptor :=
  document.fragments.map (FragmentDescriptor.ofFragment · false) ++ external

end TypedClient

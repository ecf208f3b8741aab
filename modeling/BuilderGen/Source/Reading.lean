import BuilderGen.Model.Declarations
import BuilderGen.Source.Describe
import BuilderGen.Source.Marker

/-!
# Declarations in source

Reads the declarations of a round from items.  Every struct is a candidate for a provider, every field-less
enum an enumeration, and every struct or enum with the builder marker an aggregate.  The implementation of
a trait is a capability of a provider.  It waits until a provider that it names has been read, so files
may be read in any order.
-/

namespace BuilderGen

open Grammar (FieldTree FieldsTree StructTree EnumTree ImplTree VisibilityTree Item)

/-- An implementation of a trait, and the module it was read in. -/
structure Capability where
  package : String
  /-- The path of the implementing type. -/
  selfPath : String
  type : DeclaredType
deriving DecidableEq, Repr, Inhabited

namespace Capability

/-- Whether a path is a qualified name, possibly behind more segments. -/
def endsIn (path qualified : String) : Bool :=
  path == qualified || ("::" ++ qualified).toList.isSuffixOf path.toList

/-- Whether an implementation is one of a provider's: the names agree, and either both live in the same
module or the path ends in the provider's qualified name. -/
def belongsTo (capability : Capability) (provider : Provider) : Bool :=
  provider.name == Segments.last capability.selfPath
    && (provider.package == capability.package
      || (Segments.qualified capability.selfPath
        && endsIn capability.selfPath provider.qualifiedName))

/-- Gives a capability to the last provider that it belongs to. -/
def attach? (capability : Capability) : List Provider → Option (List Provider)
  | [] => none
  | provider :: rest =>
      match capability.attach? rest with
      | some rest => some (provider :: rest)
      | none =>
          if capability.belongsTo provider then
            some ({ provider with capabilities := provider.capabilities ++ [capability.type] } :: rest)
          else
            none

/-- Gives capabilities to their providers in order, and keeps those that belong to none. -/
def attachAll : List Capability → List Provider → List Provider × List Capability
  | [], providers => (providers, [])
  | capability :: rest, providers =>
      match capability.attach? providers with
      | some providers => attachAll rest providers
      | none =>
          let (providers, waiting) := attachAll rest providers
          (providers, capability :: waiting)

end Capability

namespace Source

/-! ## Single items -/

/-- The visibility that a written one stands for. -/
def visibility : VisibilityTree → Visibility
  | .everywhere => .everywhere
  | .inherited => .ownModule
  | .restricted inside path =>
      if path.text = "self" then .ownModule
      else .within (if inside then "in " ++ path.text else path.text)

/-- The parameter that a named field stands for. -/
def parameter (name : String) (field : FieldTree) : Except MarkerFault Parameter := do
  let setterName ← Marker.setter? field.attributes
  let marking ← Marker.marking field.attributes
  return { name, type := describe field.type, setterName, marking }

/-- The parameters that named fields stand for. -/
def parameters (fields : FieldsTree) : Except MarkerFault (List Parameter) :=
  (fields.toList.filterMap fun field => field.name.map fun name => (name, field)).mapM fun (name, field) =>
    parameter name field

/-- The constructors of a struct: one when its fields have names. -/
def structConstructors (item : StructTree) : Except MarkerFault (List Constructor) :=
  match item.fields with
  | .named _ => (parameters item.fields).map fun parameters => [{ path := item.name, parameters }]
  | .positional _ | .unit => .ok []

def ofStruct (package : String) (item : StructTree) : Except MarkerFault Declarations := do
  let marked ← Marker.provides item.attributes
  let form : Provider.Form := if item.fields.isUnit then .singleton else .instantiable
  let providers : List Provider := [{ name := item.name, package, form, marked }]
  match ← Marker.builder? item.attributes with
  | none => return { providers }
  | some builderName =>
      let constructors ← structConstructors item
      let aggregate : Aggregate :=
        { name := item.name, package, visibility := visibility item.visibility, builderName,
          generic := !item.generics.isEmpty, constructors }
      return { aggregates := [aggregate], providers }

/-- The constructors of an enum, one for each variant.  Variants without names for their fields count only
beside others. -/
def enumConstructors (item : EnumTree) : Except MarkerFault (List Constructor) :=
  if item.variants.any (!·.fields.isPositional) then
    item.variants.mapM fun variant =>
      (parameters variant.fields).map fun parameters =>
        { path := item.name ++ "::" ++ variant.name, parameters }
  else
    .ok []

def ofEnum (package : String) (item : EnumTree) : Except MarkerFault Declarations := do
  let fieldless := item.generics.isEmpty && item.variants.all (·.fields.isUnit)
  let enumerations : List Enumeration :=
    if fieldless then [{ name := item.name, package, variants := item.variants.map (·.name) }] else []
  match ← Marker.builder? item.attributes with
  | none => return { enumerations }
  | some builderName =>
      let constructors ← enumConstructors item
      let aggregate : Aggregate :=
        { name := item.name, package, visibility := visibility item.visibility, builderName,
          generic := !item.generics.isEmpty, constructors }
      return { aggregates := [aggregate], enumerations }

/-- The path of a type that is a path. -/
def selfPath? : Grammar.TypeTree → Option String
  | .path leading segments => some (Grammar.pathText leading segments)
  | .qualified _ text => some text
  | _ => none

/-- The capability of an implementation, if it implements a trait for a path. -/
def ofImpl (package : String) (item : ImplTree) : List Capability :=
  match item.trait?, selfPath? item.selfType with
  | some ⟨false, leading, segments⟩, some selfPath =>
      [{ package, selfPath, type := describe (.path leading segments) }]
  | _, _ => []

/-! ## Trees of items -/

mutual

/-- The declarations and the capabilities of an item.  Only modules with a body are entered. -/
def ofItem (package : String) : Item → Except MarkerFault (Declarations × List Capability)
  | .struct item => (ofStruct package item).map (·, [])
  | .enum item => (ofEnum package item).map (·, [])
  | .impl item => .ok ({}, ofImpl package item)
  | .module head items => ofItems (Segments.qualify package head.name) items
  | .outline _ | .other _ => .ok ({}, [])

def ofItems (package : String) : List Item → Except MarkerFault (Declarations × List Capability)
  | [] => .ok ({}, [])
  | item :: rest => do
      let (declarations, capabilities) ← ofItem package item
      let (more, others) ← ofItems package rest
      return (declarations ++ more, capabilities ++ others)

end

end Source

/-- What has been read of a round so far. -/
structure Reading where
  declarations : Declarations := {}
  /-- Capabilities without a provider. -/
  waiting : List Capability := []
deriving DecidableEq, Repr, Inhabited

namespace Reading

/-- A step that reads on top of what has been read, and may refuse a marker. -/
abbrev Call (α : Type) := ExceptT MarkerFault (StateM Reading) α

/-- What has been read with declarations and capabilities that were found besides.  Capabilities that have
waited are given to their providers before the new ones. -/
def add (reading : Reading) (found : Declarations) (capabilities : List Capability) : Reading :=
  let declarations := reading.declarations ++ found
  let (providers, waiting) :=
    Capability.attachAll (reading.waiting ++ capabilities) declarations.providers
  { declarations := { declarations with providers }, waiting }

/-- Reads the items of a module in place.  Nothing is added before all items have been read. -/
def readItems (package : String) (items : List Item) : Call Unit := do
  let (found, capabilities) ← MonadExcept.ofExcept (Source.ofItems package items)
  modify fun reading => reading.add found capabilities

/-- Reads the items of a module on top of what has been read. -/
def extend (reading : Reading) (package : String) (items : List Item) : Except MarkerFault Reading :=
  match (readItems package items).run.run reading with
  | (.ok (), reading) => .ok reading
  | (.error fault, _) => .error fault

/-- Reads the items of a module. -/
def ofItems (package : String) (items : List Item) : Except MarkerFault Reading :=
  ({} : Reading).extend package items

end Reading

end BuilderGen

import BuilderGen.Model.DeclaredType
import BuilderGen.Model.Fault
import BuilderGen.Model.Marking

/-!
# Declarations of a round

The aggregates that get a builder, the candidates for providers, and the field-less enumerations, each with
the module path it lives in.  A round reads nothing else.
-/

namespace BuilderGen

/-- Who may see a declaration, and so its builder. -/
inductive Visibility where
  | everywhere
  /-- Visible inside a scope written as in source, such as `crate` or `in crate::shapes`. -/
  | within (scope : String)
  /-- Visible only inside the declaring module. -/
  | ownModule
deriving DecidableEq, Repr, Inhabited

structure Parameter where
  name : String
  type : DeclaredType
  setterName : Option String := none
  marking : Marking := .mandatory
deriving DecidableEq, Repr, Inhabited

/-- The name of the parameter's setter: the requested name unless it is empty, else the parameter's. -/
def Parameter.setter (parameter : Parameter) : String :=
  match parameter.setterName with
  | some name => if name = "" then parameter.name else name
  | none => parameter.name

/-- One way to construct an aggregate, such as `Address` or `Shape::Circle`. -/
structure Constructor where
  path : String
  parameters : List Parameter
deriving DecidableEq, Repr, Inhabited

/-- A type that is marked for a builder. -/
structure Aggregate where
  name : String
  package : String
  visibility : Visibility := .everywhere
  builderName : Option String := none
  generic : Bool := false
  constructors : List Constructor
deriving DecidableEq, Repr, Inhabited

namespace Aggregate

/-- The name of the builder: the requested name without blanks around it unless nothing is left, else the
aggregate's name with the ending `Builder`. -/
def generatedName (aggregate : Aggregate) : String :=
  match aggregate.builderName.map Text.trim with
  | some name => if name = "" then aggregate.name ++ "Builder" else name
  | none => aggregate.name ++ "Builder"

/-- The aggregate's name behind its module path. -/
def qualifiedName (aggregate : Aggregate) : String :=
  Segments.qualify aggregate.package aggregate.name

def constructor (aggregate : Aggregate) : Except Fault Constructor :=
  match aggregate.constructors with
  | [only] => .ok only
  | [] => .error (.noConstructor aggregate.name)
  | many => .error (.ambiguousConstructor aggregate.name many.length)

/-- The first name that occurs again, at its second occurrence. -/
def firstRepeated : List String → List String → Option String
  | _, [] => none
  | seen, name :: rest => if name ∈ seen then some name else firstRepeated (name :: seen) rest

/-- The parameters of the only constructor, which must have distinct names. -/
def parameters (aggregate : Aggregate) : Except Fault (List Parameter) := do
  let parameters := (← aggregate.constructor).parameters
  match firstRepeated [] (parameters.map Parameter.name) with
  | some name => .error (.duplicateParameter aggregate.name name)
  | none => .ok parameters

end Aggregate

/-- An enumeration whose variants have no fields. -/
structure Enumeration where
  name : String
  package : String
  variants : List String
deriving DecidableEq, Repr, Inhabited

namespace Enumeration

/-- The variant at an end of the declaration, if there are variants. -/
def variant? (enumeration : Enumeration) : VariantEnd → Option String
  | .first => enumeration.variants.head?
  | .last => enumeration.variants.getLast?

/-- The enumeration's name behind its module path. -/
def qualifiedName (enumeration : Enumeration) : String :=
  Segments.qualify enumeration.package enumeration.name

end Enumeration

/-- How a provider is reached: as a value of its own, or after instantiation. -/
inductive Provider.Form where
  | singleton
  | instantiable
deriving DecidableEq, Repr, Inhabited

/-- A candidate for providing default values. -/
structure Provider where
  name : String
  package : String
  form : Provider.Form
  /-- Whether the declaration carries the provider marker. -/
  marked : Bool
  /-- The traits the declaration implements. -/
  capabilities : List DeclaredType := []
deriving DecidableEq, Repr, Inhabited

namespace Provider

/-- The provider's name behind its module path. -/
def qualifiedName (provider : Provider) : String :=
  Segments.qualify provider.package provider.name

/-- Whether the provider is reached without instantiation. -/
def isSingleton (provider : Provider) : Bool :=
  provider.form = .singleton

/-- The last path segment of the trait a provider implements. -/
def capabilityName : String := "DefaultValueProvider"

/-- The type `T` of a capability `DefaultValueProvider<T>`. -/
def producedBy? (capability : DeclaredType) : Option DeclaredType :=
  if capability.lastSegment? = some capabilityName then
    match capability.args with
    | [produced] => some produced
    | _ => none
  else
    none

/-- The type a provider produces, by its first fitting capability. -/
def produced? (provider : Provider) : Option DeclaredType :=
  provider.capabilities.findSome? producedBy?

/-- What is missing when a provider produces nothing. -/
def missingCapability : String :=
  "does not implement " ++ capabilityName ++ "<T>"

end Provider

/-- The declarations of one round. -/
structure Declarations where
  aggregates : List Aggregate := []
  providers : List Provider := []
  enumerations : List Enumeration := []
deriving DecidableEq, Repr, Inhabited

/-- The declarations of both, the first ones first. -/
def Declarations.append (first second : Declarations) : Declarations where
  aggregates := first.aggregates ++ second.aggregates
  providers := first.providers ++ second.providers
  enumerations := first.enumerations ++ second.enumerations

instance : Append Declarations := ⟨Declarations.append⟩

end BuilderGen

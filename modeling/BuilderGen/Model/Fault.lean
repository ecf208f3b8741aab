/-!
# Why no builder is generated

The causes that stop the generation of one builder or of a whole round, with their wording in one place.
-/

namespace BuilderGen

/-- A cause that stops generation. -/
inductive Fault where
  /-- The aggregate has no constructor with named fields. -/
  | noConstructor (aggregate : String)
  /-- The aggregate has several constructors. -/
  | ambiguousConstructor (aggregate : String) (count : Nat)
  /-- The aggregate is visible in its own module only. -/
  | privateAggregate (aggregate : String)
  /-- Two parameters share a name. -/
  | duplicateParameter (aggregate parameter : String)
  /-- The aggregate has generic parameters. -/
  | generics (aggregate : String)
  /-- A parameter marked nullable has a type that is not. -/
  | notNullable (parameter declared : String)
  /-- The named provider produces another type. -/
  | providerMismatch (parameter declared provider produced : String)
  /-- A parameter marked enumerable has a type that is no enumeration of the round. -/
  | notEnumeration (parameter declared : String)
  /-- The named provider does not exist. -/
  | unknownProvider (parameter provider : String)
  /-- A setter takes a name that is in use. -/
  | setterConflict (parameter setter conflict : String)
  /-- There are more provider-backed parameters than branches can be planned for. -/
  | tooManyProviders (aggregate : String) (count limit : Nat)
  /-- No default follows from the type. -/
  | undetermined (parameter declared : String)
  /-- A declaration marked as provider provides nothing. -/
  | notProvider (provider reason : String)
  /-- Two providers produce the same type. -/
  | duplicateProvider (produced first second : String)
deriving DecidableEq, Repr, Inhabited

namespace Fault

/-- The family a fault belongs to. -/
inductive Category where
  | structural
  | directive
  | inference
  | registry
deriving DecidableEq, Repr, Inhabited

def Category.keyword : Category → String
  | structural => "structural"
  | directive => "directive"
  | inference => "inference"
  | registry => "registry"

/-- The family of a fault. -/
def category : Fault → Category
  | noConstructor .. | ambiguousConstructor .. | privateAggregate .. | duplicateParameter ..
  | generics .. => .structural
  | notNullable .. | providerMismatch .. | notEnumeration .. | unknownProvider .. | setterConflict ..
  | tooManyProviders .. => .directive
  | undetermined .. => .inference
  | notProvider .. | duplicateProvider .. => .registry

/-- The parameter a fault is about. -/
def parameter? : Fault → Option String
  | duplicateParameter _ parameter | notNullable parameter _ | providerMismatch parameter ..
  | notEnumeration parameter _ | unknownProvider parameter _ | setterConflict parameter ..
  | undetermined parameter _ => some parameter
  | _ => none

def message : Fault → String
  | noConstructor aggregate => aggregate ++ " exposes no constructor with named fields"
  | ambiguousConstructor aggregate count =>
      aggregate ++ " exposes " ++ toString count ++ " constructors; exactly one is required"
  | privateAggregate aggregate =>
      aggregate ++ " is private; give it `pub` or `pub(crate)` visibility"
  | duplicateParameter aggregate parameter =>
      aggregate ++ " declares parameter `" ++ parameter ++ "` more than once"
  | generics aggregate =>
      aggregate ++ " declares generic parameters; builders require a concrete type"
  | notNullable parameter declared =>
      "parameter `" ++ parameter ++ "` type (" ++ declared ++ ") is not nullable"
  | providerMismatch parameter declared provider produced =>
      "parameter `" ++ parameter ++ "` type (" ++ declared
        ++ ") is not the same as the type produced by " ++ provider ++ " (" ++ produced ++ ")"
  | notEnumeration parameter declared =>
      "parameter `" ++ parameter ++ "` type (" ++ declared
        ++ ") is not a field-less enum of this round"
  | unknownProvider parameter provider =>
      "parameter `" ++ parameter ++ "` refers to unknown provider `" ++ provider ++ "`"
  | setterConflict parameter setter conflict =>
      "setter `" ++ setter ++ "` for parameter `" ++ parameter ++ "` conflicts with " ++ conflict
  | tooManyProviders aggregate count limit =>
      aggregate ++ " has " ++ toString count ++ " provider-backed parameters; at most "
        ++ toString limit ++ " are supported"
  | undetermined parameter declared =>
      "cannot determine a default value for parameter `" ++ parameter ++ "` of type " ++ declared
        ++ "; use `optional(default)` or a provider"
  | notProvider provider reason => provider ++ " is marked as a provider but " ++ reason
  | duplicateProvider produced first second =>
      first ++ " and " ++ second ++ " both provide default values for " ++ produced

end Fault

end BuilderGen

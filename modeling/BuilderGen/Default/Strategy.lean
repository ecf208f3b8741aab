import BuilderGen.Default.Registry
import BuilderGen.Default.Zero

/-!
# Choosing defaults

For each parameter the marking and the type decide where its value comes from when the caller gives none.
An unspecific marking tries a registered provider of the type, then the absent value, then the first
variant of an enumeration, then the zero value.
-/

namespace BuilderGen

/-- Where the value of a parameter comes from when no setter is called. -/
inductive Strategy where
  /-- The caller has to supply it. -/
  | mandatory
  /-- It is absent. -/
  | nullable
  /-- It is a variant of an enumeration, given by an expression. -/
  | variant (name : String) (position : VariantEnd) (expression : String)
  /-- It is the zero value of its type. -/
  | zero (kind : ZeroKind) (expression : String)
  /-- It is an expression of the source, or the default of the type when there is none. -/
  | initializer (expression : Option String)
  /-- A provider gives it. -/
  | provider (reference : String) (singleton : Bool)
deriving DecidableEq, Repr, Inhabited

/-- Whether a provider gives the value. -/
def Strategy.isProvider : Strategy → Bool
  | .provider .. => true
  | _ => false

/-- A parameter with its setter and the strategy chosen for it. -/
structure Choice where
  name : String
  type : DeclaredType
  setter : String
  strategy : Strategy
deriving DecidableEq, Repr, Inhabited

/-- What the choice of a default depends on: the providers, the enumerations, and the module in which
names are resolved. -/
structure Scope where
  registry : Registry
  enumerations : List Enumeration
  package : String

namespace Scope

/-- The default of an enumeration type, if the type denotes an enumeration with variants. -/
def variant? (scope : Scope) (type : DeclaredType) (position : VariantEnd) : Option Strategy := do
  let enumeration ← Reference.enumeration? scope.enumerations type.present scope.package
  let variant ← enumeration.variant? position
  let path ← type.path?
  let value := path ++ "::" ++ variant
  return .variant variant position
    (if type.nullable then "::core::option::Option::Some(" ++ value ++ ")" else value)

/-- The default that follows from the type. -/
def infer (scope : Scope) (parameter : Parameter) : Except Fault Strategy :=
  match scope.registry.entry? parameter.type with
  | some provider =>
      .ok (.provider (Reference.relative scope.package provider.package provider.name)
        provider.isSingleton)
  | none =>
      if parameter.type.nullable then .ok .nullable
      else
        match scope.variant? parameter.type .first with
        | some strategy => .ok strategy
        | none =>
            match ZeroKind.ofType? parameter.type with
            | some kind => .ok (.zero kind kind.expression)
            | none => .error (.undetermined parameter.name parameter.type.display)

/-- The default given by the provider that a reference names. -/
def named (scope : Scope) (parameter : Parameter) (reference : String) : Except Fault Strategy :=
  match scope.registry.resolve? reference scope.package with
  | none => .error (.unknownProvider parameter.name reference)
  | some provider =>
      match provider.produced? with
      | none => .error (.notProvider provider.qualifiedName Provider.missingCapability)
      | some produced =>
          if produced = parameter.type then
            .ok (.provider (Text.trim reference) provider.isSingleton)
          else
            .error (.providerMismatch parameter.name parameter.type.display reference produced.display)

def choose (scope : Scope) (parameter : Parameter) : Except Fault Strategy :=
  match parameter.marking with
  | .mandatory => .ok .mandatory
  | .inferred => scope.infer parameter
  | .nullable =>
      if parameter.type.nullable then .ok .nullable
      else .error (.notNullable parameter.name parameter.type.display)
  | .initializer expression => .ok (.initializer expression)
  | .enumerable position =>
      match scope.variant? parameter.type position with
      | some strategy => .ok strategy
      | none => .error (.notEnumeration parameter.name parameter.type.display)
  | .provider reference => scope.named parameter reference

/-- The methods every builder has; no setter may take their names. -/
def reservedMethods : List String := ["new", "create", "build", "from_parts"]

/-- The choice for one parameter, given the setters before it. -/
def chooseWith (scope : Scope) (taken : List String) (parameter : Parameter) : Except Fault Choice :=
  if parameter.setter ∈ reservedMethods then
    .error (.setterConflict parameter.name parameter.setter "a builder method")
  else if parameter.setter ∈ taken then
    .error (.setterConflict parameter.name parameter.setter "another setter")
  else
    (scope.choose parameter).map fun strategy =>
      { name := parameter.name, type := parameter.type, setter := parameter.setter, strategy }

/-- The choices for parameters that follow others with the given setters.  The first fault counts. -/
def chooseFrom (scope : Scope) : List String → List Parameter → Except Fault (List Choice)
  | _, [] => .ok []
  | taken, parameter :: rest => do
      let choice ← scope.chooseWith taken parameter
      let choices ← scope.chooseFrom (parameter.setter :: taken) rest
      return choice :: choices

/-- The choices for all parameters.  The first fault counts. -/
def chooseAll (scope : Scope) (parameters : List Parameter) : Except Fault (List Choice) :=
  scope.chooseFrom [] parameters

end Scope

end BuilderGen

import BuilderGen.Model.Diagnostic
import BuilderGen.Model.Reference
import BuilderGen.Model.Settings

/-!
# The registry of providers

The marked providers of a round by the type they produce.  Providers are taken in declaration order.  A
later provider of the same type replaces the earlier one unless the settings forbid it.  References by name
reach every declared provider, marked or not.
-/

namespace BuilderGen

/-- Providers of a round, by the type they produce and by name. -/
structure Registry where
  /-- The marked provider of each produced type, in the order in which the types first occur. -/
  entries : List (DeclaredType × Provider) := []
  /-- Every declared provider, in declaration order. -/
  declared : List Provider := []
deriving DecidableEq, Repr, Inhabited

namespace Registry

/-- The registered provider of exactly this type. -/
def entry? (registry : Registry) (type : DeclaredType) : Option Provider :=
  registry.entries.lookup type

/-- The declared provider that a reference denotes. -/
def resolve? (registry : Registry) (reference package : String) : Option Provider :=
  Reference.provider? registry.declared reference package

/-- The number of types with a registered provider. -/
def size (registry : Registry) : Nat :=
  registry.entries.length

/-- Puts a provider under a type.  An earlier one keeps its place and is replaced. -/
def put (type : DeclaredType) (provider : Provider) :
    List (DeclaredType × Provider) → List (DeclaredType × Provider)
  | [] => [(type, provider)]
  | entry :: rest =>
      if entry.1 = type then (type, provider) :: rest else entry :: put type provider rest

/-- What one provider adds: reports, and either the new entries or the fault that stops the round. -/
structure Step where
  reports : List Diagnostic
  entries : Except Fault (List (DeclaredType × Provider))

/-- Enters one marked provider. -/
def enter (settings : Settings) (entries : List (DeclaredType × Provider)) (provider : Provider) : Step :=
  match provider.produced? with
  | none =>
      let fault := Fault.notProvider provider.qualifiedName Provider.missingCapability
      match settings.strictness with
      | .strict => ⟨[.ofFault fault provider.package provider.name], .error fault⟩
      | .lenient => ⟨[.ofWarning fault.message provider.package provider.name], .ok entries⟩
  | some type =>
      match entries.lookup type with
      | none => ⟨[], .ok (put type provider entries)⟩
      | some previous =>
          let fault :=
            Fault.duplicateProvider type.display previous.qualifiedName provider.qualifiedName
          match settings.duplicates with
          | .error => ⟨[.ofFault fault provider.package provider.name], .error fault⟩
          | .warn =>
              let note := fault.message ++ "; using " ++ provider.qualifiedName
              ⟨[.ofWarning note provider.package provider.name], .ok (put type provider entries)⟩
          | .lastWins => ⟨[], .ok (put type provider entries)⟩

/-- Enters the marked providers of a list one by one and stops at the first fault. -/
def enterAll (settings : Settings) :
    List (DeclaredType × Provider) → List Provider → Step
  | entries, [] => ⟨[], .ok entries⟩
  | entries, provider :: rest =>
      if provider.marked then
        let step := enter settings entries provider
        match step.entries with
        | .error fault => ⟨step.reports, .error fault⟩
        | .ok entries =>
            let later := enterAll settings entries rest
            ⟨step.reports ++ later.reports, later.entries⟩
      else
        enterAll settings entries rest

/-- The registry of a list of providers, with what was reported on the way. -/
def build (settings : Settings) (providers : List Provider) :
    List Diagnostic × Except Fault Registry :=
  let step := enterAll settings [] providers
  (step.reports, step.entries.map fun entries => { entries, declared := providers })

end Registry

end BuilderGen

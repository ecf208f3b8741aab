import BuilderGen.Builder.Basic

/-!
# A generation round

A round enters the providers, then generates a builder for every aggregate on its own.  A fault of one
aggregate is reported and does not stop the others; a fault of the registry stops the round.
-/

namespace BuilderGen

/-- The most provider-backed parameters a builder may have.  The plan has a branch per subset of them. -/
def providerLimit : Nat := 10

def Aggregate.generate (aggregate : Aggregate) (registry : Registry) (enumerations : List Enumeration) :
    Except Fault Builder := do
  if aggregate.visibility = .ownModule then
    throw (.privateAggregate aggregate.name)
  if aggregate.generic then
    throw (.generics aggregate.name)
  let constructor ← aggregate.constructor
  let parameters ← aggregate.parameters
  let scope : Scope := { registry, enumerations, package := aggregate.package }
  let choices ← scope.chooseAll parameters
  let count := choices.countP (·.strategy.isProvider)
  if providerLimit < count then
    throw (.tooManyProviders aggregate.name count providerLimit)
  return .ofChoices aggregate constructor.path choices

structure Round where
  builders : List Builder := []
  /-- Qualified names of the aggregates without a builder. -/
  failed : List String := []
deriving DecidableEq, Repr, Inhabited

namespace Round

/-- Generates the builders of a list of aggregates, with one report per aggregate that failed. -/
def generateAll (registry : Registry) (enumerations : List Enumeration) :
    List Aggregate → List Diagnostic × Round
  | [] => ([], {})
  | aggregate :: rest =>
      let (reports, round) := generateAll registry enumerations rest
      match aggregate.generate registry enumerations with
      | .ok builder => (reports, { round with builders := builder :: round.builders })
      | .error fault =>
          (.ofFault fault aggregate.package aggregate.name :: reports,
            { round with failed := aggregate.qualifiedName :: round.failed })

/-- Runs a round over declarations.  The reports come in the order in which they were made. -/
def run (settings : Settings) (declarations : Declarations) : List Diagnostic × Except Fault Round :=
  match Registry.build settings declarations.providers with
  | (reports, .error fault) => (reports, .error fault)
  | (reports, .ok registry) =>
      let (failures, round) := generateAll registry declarations.enumerations declarations.aggregates
      (reports ++ failures, .ok round)

def hasErrors (reports : List Diagnostic) : Bool :=
  reports.any Diagnostic.isError

end Round

end BuilderGen

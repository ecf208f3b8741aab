import BuilderGen.Proofs.Builder.Generation

/-!
# What the choice of a default looks up

The choice of a default reads the declarations of a round in three places only: the provider that is registered
for the type, the enumeration that the type denotes, and the provider that a reference denotes.  The marking of
a parameter says which of them are read.  Two scopes that agree in these places make the same choice, and an
aggregate gets the same builder, or the same fault, in two rounds whose scopes agree on its parameters.
-/

namespace BuilderGen

/-- Whether the marking of a parameter lets its type denote an enumeration. -/
def Parameter.seeksEnumeration (parameter : Parameter) : Bool :=
  match parameter.marking with
  | .inferred | .enumerable _ => true
  | _ => false

/-- The reference by which a parameter names its provider. -/
def Parameter.reference? (parameter : Parameter) : Option String :=
  match parameter.marking with
  | .provider reference => some reference
  | _ => none

/-- All that the constructors of an aggregate take. -/
def Aggregate.allParameters (aggregate : Aggregate) : List Parameter :=
  aggregate.constructors.flatMap Constructor.parameters

namespace Scope

/-- Two scopes agree on a parameter: what its marking makes the choice look up is the same in both. -/
structure AgreeOn (first second : Scope) (parameter : Parameter) : Prop where
  package : first.package = second.package
  registered : parameter.marking = .inferred →
    first.registry.entry? parameter.type = second.registry.entry? parameter.type
  enumeration : parameter.seeksEnumeration = true →
    Reference.enumeration? first.enumerations parameter.type.present first.package =
      Reference.enumeration? second.enumerations parameter.type.present second.package
  named : ∀ reference, parameter.reference? = some reference →
    first.registry.resolve? reference first.package = second.registry.resolve? reference second.package

variable {first second : Scope} {parameter : Parameter}

theorem AgreeOn.variant? (hagree : AgreeOn first second parameter)
    (hseeks : parameter.seeksEnumeration = true) (position : VariantEnd) :
    first.variant? parameter.type position = second.variant? parameter.type position := by
  rw [Scope.variant?, Scope.variant?, hagree.enumeration hseeks]

/-- Scopes that agree on a parameter make the same choice for it. -/
theorem AgreeOn.choose (hagree : AgreeOn first second parameter) :
    first.choose parameter = second.choose parameter := by
  rw [Scope.choose, Scope.choose]
  cases hmarking : parameter.marking with
  | mandatory | nullable | initializer => rfl
  | inferred =>
      have hseeks : parameter.seeksEnumeration = true := by rw [Parameter.seeksEnumeration, hmarking]
      dsimp only
      rw [infer, infer, hagree.registered hmarking, hagree.package, hagree.variant? hseeks]
  | enumerable position =>
      have hseeks : parameter.seeksEnumeration = true := by rw [Parameter.seeksEnumeration, hmarking]
      dsimp only
      rw [hagree.variant? hseeks]
  | provider reference =>
      have hreference : parameter.reference? = some reference := by rw [Parameter.reference?, hmarking]
      dsimp only
      rw [Scope.named, Scope.named, hagree.named reference hreference]

/-- Scopes that agree on every parameter make the same choices. -/
theorem chooseFrom_eq_of_agreeOn {parameters : List Parameter}
    (hagree : ∀ parameter ∈ parameters, AgreeOn first second parameter) (taken : List String) :
    first.chooseFrom taken parameters = second.chooseFrom taken parameters := by
  induction parameters generalizing taken with
  | nil => rfl
  | cons parameter rest ih =>
      obtain ⟨hparameter, hrest⟩ := List.forall_mem_cons.mp hagree
      rw [chooseFrom, chooseFrom, chooseWith, chooseWith, hparameter.choose, ih hrest]

end Scope

/-- An aggregate gets the same builder, or the same fault, where the scopes agree on its parameters. -/
theorem Aggregate.generate_eq_of_agreeOn {aggregate : Aggregate} {registry other : Registry}
    {enumerations others : List Enumeration}
    (hagree : ∀ parameter ∈ aggregate.allParameters,
      Scope.AgreeOn { registry, enumerations, package := aggregate.package }
        { registry := other, enumerations := others, package := aggregate.package } parameter) :
    aggregate.generate registry enumerations = aggregate.generate other others := by
  have hchoices : ∀ parameters, aggregate.parameters = .ok parameters →
      Scope.chooseAll { registry, enumerations, package := aggregate.package } parameters =
        Scope.chooseAll { registry := other, enumerations := others, package := aggregate.package }
          parameters := by
    intro parameters hparameters
    obtain ⟨⟨constructor, hconstructor, rfl⟩, _⟩ := Aggregate.parameters_eq_ok hparameters
    refine Scope.chooseFrom_eq_of_agreeOn (fun parameter hparameter => hagree parameter ?_) []
    rw [Aggregate.allParameters, Aggregate.constructor_eq_ok hconstructor]
    simpa using hparameter
  rw [Aggregate.generate, Aggregate.generate]
  cases hparameters : aggregate.parameters with
  | error fault => rfl
  | ok parameters =>
      simp only [bind, Except.bind]
      rw [hchoices parameters hparameters]

end BuilderGen

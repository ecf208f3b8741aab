import BuilderGen.Proofs.Builder.Acceptance
import BuilderGen.Proofs.Round

/-!
# Where faults of parameters are reported

The choice of defaults runs through the parameters of an aggregate and stops at the first one with a fault.  The round
reports the fault at the declaration, and at the parameter that the fault mentions.  This module says that the two
parameters are the same one.

* `parameter?_of_infer`, `parameter?_of_named` and `parameter?_of_choose` are about the choice for one parameter,
  `FaultOf.pointsAt` is about a parameter behind others.
* `Round.exists_report` finds the report of an aggregate with a fault.
* `anchored_of_chooseAll` puts both together.

One fault is reported at the declaration alone, though a parameter causes it.  The marker of the parameter names a
struct that provides nothing, and the fault mentions only the struct, as in `Shop.drawer_unanchored`.
-/

namespace BuilderGen

/-! ## The parameter that a fault mentions -/

namespace Scope

variable {scope : Scope} {front : List Parameter} {parameter : Parameter} {fault : Fault}

/-- A reference denotes a declared struct that provides nothing. -/
def NamesNonProvider (scope : Scope) (reference : String) : Prop :=
  ∃ provider, scope.registry.resolve? reference scope.package = some provider ∧ provider.produced? = none

/-- A parameter with a setter of its own, whose marker names a struct that provides nothing. -/
structure Unanchored (scope : Scope) (front : List Parameter) (parameter : Parameter) : Prop where
  free : parameter.setter ∉ reservedMethods
  new : parameter.setter ∉ front.map Parameter.setter
  marking : ∃ reference, parameter.marking = .provider reference ∧ scope.NamesNonProvider reference

/-- What the place of a fault says about a parameter behind others: its name, but nothing if it is unanchored. -/
inductive PointsAt (scope : Scope) (front : List Parameter) (parameter : Parameter) : Option String → Prop
  | parameter (hanchored : ¬scope.Unanchored front parameter) : PointsAt scope front parameter (some parameter.name)
  | nothing (hunanchored : scope.Unanchored front parameter) : PointsAt scope front parameter none

theorem parameter?_of_infer (hfault : scope.infer parameter = .error fault) :
    fault.parameter? = some parameter.name := by
  rw [infer] at hfault
  split at hfault
  · cases hfault
  · split at hfault
    · cases hfault
    · split at hfault
      · cases hfault
      · split at hfault
        · cases hfault
        · cases hfault
          rfl

/-- The fault of a reference mentions the parameter, unless the reference denotes a struct that provides nothing. -/
theorem parameter?_of_named {reference : String} (hfault : scope.named parameter reference = .error fault) :
    fault.parameter? = some parameter.name ∧ ¬scope.NamesNonProvider reference ∨
      fault.parameter? = none ∧ scope.NamesNonProvider reference := by
  rw [named] at hfault
  split at hfault
  · rename_i hresolve
    cases hfault
    refine .inl ⟨rfl, ?_⟩
    rintro ⟨provider, hprovider, -⟩
    rw [hresolve] at hprovider
    cases hprovider
  · rename_i provider hresolve
    split at hfault
    · rename_i hproduced
      cases hfault
      exact .inr ⟨rfl, provider, hresolve, hproduced⟩
    · rename_i produced hproduced
      split at hfault
      · cases hfault
      · cases hfault
        refine .inl ⟨rfl, ?_⟩
        rintro ⟨other, hother, hnothing⟩
        rw [hresolve] at hother
        cases hother
        rw [hproduced] at hnothing
        cases hnothing

/-- Only a marker that names a provider has a fault that does not mention the parameter. -/
theorem parameter?_of_choose (hmarking : ∀ reference, parameter.marking ≠ .provider reference)
    (hfault : scope.choose parameter = .error fault) : fault.parameter? = some parameter.name := by
  rw [choose] at hfault
  split at hfault
  · cases hfault
  · exact parameter?_of_infer hfault
  · split at hfault
    · cases hfault
    · cases hfault
      rfl
  · cases hfault
  · split at hfault
    · cases hfault
    · cases hfault
      rfl
  · rename_i reference hprovider
    exact absurd hprovider (hmarking reference)

theorem FaultOf.pointsAt (hfault : scope.FaultOf front parameter fault) :
    scope.PointsAt front parameter fault.parameter? := by
  cases hfault with
  | reserved hreserved => exact .parameter fun hunanchored => hunanchored.free hreserved
  | repeated _ hrepeated => exact .parameter fun hunanchored => hunanchored.new hrepeated
  | unclassified hfree hnew hchoose =>
      by_cases hnamed : ∃ reference, parameter.marking = .provider reference
      · obtain ⟨reference, hmarking⟩ := hnamed
        rw [choose, hmarking] at hchoose
        rcases parameter?_of_named hchoose with ⟨hmentions, hprovider⟩ | ⟨hmentions, hnothing⟩
        · rw [hmentions]
          refine .parameter fun hunanchored => ?_
          obtain ⟨other, hother, hnothing⟩ := hunanchored.marking
          rw [hmarking] at hother
          cases hother
          exact hprovider hnothing
        · rw [hmentions]
          exact .nothing ⟨hfree, hnew, reference, hmarking, hnothing⟩
      · have hmarking := not_exists.mp hnamed
        rw [parameter?_of_choose hmarking hchoose]
        refine .parameter fun hunanchored => ?_
        obtain ⟨reference, hprovider, _⟩ := hunanchored.marking
        exact hmarking reference hprovider

/-- A run that fails stops at the first parameter with a fault. -/
theorem stops_of_chooseAll {parameters : List Parameter} (hfault : scope.chooseAll parameters = .error fault) :
    scope.Stops parameters fault := by
  rcases passes_or_stops scope parameters with hpasses | ⟨other, hstops⟩
  · obtain ⟨choices, hchoices⟩ := chooseAll_of_passes hpasses
    rw [hfault] at hchoices
    cases hchoices
  · rw [chooseAll_of_stops hstops] at hfault
    cases hfault
    exact hstops

end Scope

/-! ## The report of an aggregate -/

namespace Round

variable {settings : Settings} {declarations : Declarations} {aggregate : Aggregate} {fault : Fault}

/-- A round over declarations classifies the parameters of one of its aggregates in a scope. -/
structure Classifies (settings : Settings) (declarations : Declarations) (aggregate : Aggregate) (scope : Scope)
    (parameters : List Parameter) : Prop where
  registry : (Registry.build settings declarations.providers).2 = .ok scope.registry
  enumerations : declarations.enumerations = scope.enumerations
  package : aggregate.package = scope.package
  member : aggregate ∈ declarations.aggregates
  presented : aggregate.Presented
  parameters : aggregate.parameters = .ok parameters

/-- The fault of an aggregate is reported. -/
theorem exists_report {registry : Registry}
    (hbuild : (Registry.build settings declarations.providers).2 = .ok registry)
    (hmember : aggregate ∈ declarations.aggregates)
    (hfault : aggregate.generate registry declarations.enumerations = .error fault) :
    ∃ report ∈ (run settings declarations).1, report.Reports fault aggregate.package aggregate.name := by
  have hboth : Registry.build settings declarations.providers =
      ((Registry.build settings declarations.providers).1, .ok registry) := by rw [← hbuild]
  obtain ⟨round, failures, hrun, haccounts⟩ := run_of_build_ok hboth
  have hfailed : aggregate ∈ declarations.aggregates.filter fun aggregate =>
      !(aggregate.generate registry declarations.enumerations).isOk := by
    rw [List.mem_filter, hfault]
    exact ⟨hmember, rfl⟩
  obtain ⟨report, hreport, other, hother, hreports⟩ := exists_of_forall₂_of_mem haccounts.failures.flip hfailed
  rw [hfault] at hother
  cases hother
  rw [hrun]
  exact ⟨report, List.mem_append_right _ hreport, hreports⟩

/-- A fault of the parameters is the fault of the aggregate. -/
theorem Classifies.generate_eq_error {scope : Scope} {parameters : List Parameter}
    (hclassifies : Classifies settings declarations aggregate scope parameters)
    (hfault : scope.chooseAll parameters = .error fault) :
    aggregate.generate scope.registry declarations.enumerations = .error fault := by
  obtain ⟨constructor, hconstructor, -⟩ := bind_eq_ok.mp hclassifies.parameters
  have hscope : aggregate.scope scope.registry declarations.enumerations = scope := by
    rw [Aggregate.scope, hclassifies.enumerations, hclassifies.package]
  rw [Aggregate.generate_of_presented hclassifies.presented, hconstructor, hclassifies.parameters, hscope]
  simp only [bind, Except.bind, hfault]

end Round

/-- A run through the parameters that fails does so at the first parameter that has a setter conflict or no default.
Every round that classifies these parameters reports the fault at the aggregate and at this parameter, unless the
setter of the parameter is fine and its marker names a struct that provides nothing. -/
theorem Scope.anchored_of_chooseAll {scope : Scope} {parameters : List Parameter} {fault : Fault}
    (hfault : scope.chooseAll parameters = .error fault) :
    ∃ front parameter back, parameters = front ++ parameter :: back ∧ scope.Passes front ∧
      scope.FaultOf front parameter fault ∧ scope.PointsAt front parameter fault.parameter? ∧
      ∀ settings declarations aggregate, Round.Classifies settings declarations aggregate scope parameters →
        ∃ report ∈ (Round.run settings declarations).1,
          report.Reports fault aggregate.package aggregate.name ∧
            scope.PointsAt front parameter report.site.parameter := by
  obtain ⟨front, parameter, back, hsplit, hfront, hof⟩ := stops_of_chooseAll hfault
  refine ⟨front, parameter, back, hsplit, hfront, hof, hof.pointsAt, ?_⟩
  intro settings declarations aggregate hclassifies
  obtain ⟨report, hmember, hreports⟩ :=
    Round.exists_report hclassifies.registry hclassifies.member (hclassifies.generate_eq_error hfault)
  refine ⟨report, hmember, hreports, ?_⟩
  rw [hreports.parameter]
  exact hof.pointsAt

/-! ## Samples -/

namespace Shop

/-- A tag, whose title has the given marking. -/
def tag (marking : Marking) : Aggregate where
  name := "Tag"
  package := ""
  constructors := [{ path := "Tag", parameters :=
    [{ name := "id", type := named "u32" }, { name := "title", type := textType, marking }] }]

/-- A struct that provides nothing. -/
def drawer : Provider where
  name := "Drawer"
  package := ""
  form := .singleton
  marked := false
  capabilities := []

/-- The declarations of a shop that has a drawer and sells tags. -/
def tags (marking : Marking) : Declarations where
  aggregates := [tag marking]
  providers := [names, drawer]
  enumerations := []

/-- Where the parameters of a tag are classified. -/
def tagScope : Scope where
  registry := { entries := [(textType, names)], declared := [names, drawer] }
  enumerations := []
  package := ""

/-- A text cannot be absent, and this is reported at the title. -/
theorem title_anchored :
    ∃ fault, tagScope.chooseAll [{ name := "id", type := named "u32" },
        { name := "title", type := textType, marking := .nullable }] = .error fault ∧
      ∃ report ∈ (Round.run {} (tags .nullable)).1,
        report.message = "parameter `title` type (String) is not nullable" ∧
          report.site = { package := "", declaration := "Tag", parameter := some "title" } := by
  have hfault : tagScope.chooseAll [{ name := "id", type := named "u32" },
      { name := "title", type := textType, marking := .nullable }] =
        .error (.notNullable "title" textType.display) := rfl
  have hclassifies : Round.Classifies {} (tags .nullable) (tag .nullable) tagScope
      [{ name := "id", type := named "u32" }, { name := "title", type := textType, marking := .nullable }] :=
    ⟨rfl, rfl, rfl, List.mem_singleton_self _, ⟨by decide, rfl⟩, rfl⟩
  obtain ⟨_, _, _, _, _, _, _, hround⟩ := Scope.anchored_of_chooseAll hfault
  obtain ⟨report, hmember, hreports, _⟩ := hround {} (tags .nullable) (tag .nullable) hclassifies
  exact ⟨_, hfault, report, hmember, hreports.message.trans (by decide), hreports.site_eq⟩

/-- The drawer provides no title, and this is reported at the tag alone. -/
theorem drawer_unanchored :
    ∃ fault, tagScope.chooseAll [{ name := "id", type := named "u32" },
        { name := "title", type := textType, marking := .provider "Drawer" }] = .error fault ∧
      fault.parameter? = none ∧
      ∃ report, (Round.run {} (tags (.provider "Drawer"))).1 = [report] ∧
        report.Reports fault "" "Tag" ∧ report.site = { package := "", declaration := "Tag" } :=
  ⟨_, rfl, rfl, _, rfl, ⟨rfl, rfl, rfl, rfl, rfl⟩, rfl⟩

end Shop

end BuilderGen

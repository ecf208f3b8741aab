import BuilderGen.Proofs.Default.Registry
import Mathlib.Data.List.Nodup

/-!
# What a generated builder was made from

`Aggregate.generate` runs through a list of checks and ends in one call that puts the builder together.
`Aggregate.generate_eq_ok` reads the checks off a successful run: the aggregate has one constructor, the
names of its parameters differ, and the builder is put together from one choice per parameter.  Everything
that is proved about generated builders starts from this statement.
-/

namespace BuilderGen

/-! ## Names that do not repeat -/

/-- No name repeats when the search for a repeated one finds nothing. -/
theorem Aggregate.firstRepeated_eq_none {seen names : List String}
    (h : firstRepeated seen names = none) : names.Nodup ∧ ∀ name ∈ names, name ∉ seen := by
  induction names generalizing seen with
  | nil => simp
  | cons name rest ih =>
      rw [firstRepeated] at h
      split at h
      · cases h
      · rename_i hseen
        obtain ⟨hrest, hfresh⟩ := ih h
        refine ⟨List.nodup_cons.mpr ⟨fun hmem => ?_, hrest⟩, fun other hother => ?_⟩
        · exact hfresh name hmem (by simp)
        · rcases List.mem_cons.mp hother with rfl | hother
          · exact hseen
          · exact fun hmem => hfresh other hother (by simp [hmem])

theorem Aggregate.constructor_eq_ok {aggregate : Aggregate} {constructor : Constructor}
    (h : aggregate.constructor = .ok constructor) : aggregate.constructors = [constructor] := by
  unfold Aggregate.constructor at h
  split at h
  · rename_i hconstructors
    cases h
    exact hconstructors
  · cases h
  · cases h

theorem Aggregate.parameters_eq_ok {aggregate : Aggregate} {parameters : List Parameter}
    (h : aggregate.parameters = .ok parameters) :
    (∃ constructor, aggregate.constructor = .ok constructor ∧ constructor.parameters = parameters) ∧
      (parameters.map Parameter.name).Nodup := by
  obtain ⟨constructor, hconstructor, h⟩ := bind_eq_ok.mp h
  dsimp only at h
  split at h
  · cases h
  · rename_i hnone
    cases h
    exact ⟨⟨constructor, hconstructor, rfl⟩, (firstRepeated_eq_none hnone).1⟩

/-! ## Choices -/

/-- A choice keeps the name, the type and the setter of its parameter, and takes the strategy that its
marking and type lead to. -/
structure Scope.Chosen (scope : Scope) (parameter : Parameter) (choice : Choice) : Prop where
  name : choice.name = parameter.name
  type : choice.type = parameter.type
  setter : choice.setter = parameter.setter
  strategy : scope.choose parameter = .ok choice.strategy

theorem Scope.chooseWith_eq_ok {scope : Scope} {taken : List String} {parameter : Parameter}
    {choice : Choice} (h : scope.chooseWith taken parameter = .ok choice) :
    scope.Chosen parameter choice ∧ parameter.setter ∉ taken ∧
      parameter.setter ∉ reservedMethods := by
  rw [chooseWith] at h
  split at h
  · cases h
  · rename_i hreserved
    split at h
    · cases h
    · rename_i htaken
      obtain ⟨strategy, hstrategy, rfl⟩ := map_eq_ok.mp h
      exact ⟨⟨rfl, rfl, rfl, hstrategy⟩, htaken, hreserved⟩

/-- The choices follow the parameters one by one.  Their setters differ from each other, from those taken
before, and from the methods that every builder has. -/
theorem Scope.chooseFrom_eq_ok {scope : Scope} {taken : List String} {parameters : List Parameter}
    {choices : List Choice} (h : scope.chooseFrom taken parameters = .ok choices) :
    List.Forall₂ scope.Chosen parameters choices ∧ (choices.map Choice.setter).Nodup ∧
      ∀ setter ∈ choices.map Choice.setter, setter ∉ taken ∧ setter ∉ reservedMethods := by
  induction parameters generalizing taken choices with
  | nil =>
      cases h
      simp
  | cons parameter rest ih =>
      rw [chooseFrom] at h
      obtain ⟨choice, hchoice, h⟩ := bind_eq_ok.mp h
      obtain ⟨others, hothers, h⟩ := bind_eq_ok.mp h
      obtain rfl := pure_eq_ok.mp h
      obtain ⟨hchosen, htaken, hreserved⟩ := chooseWith_eq_ok hchoice
      obtain ⟨hall, hnodup, hfresh⟩ := ih hothers
      rw [← hchosen.setter] at htaken hreserved hfresh
      refine ⟨.cons hchosen hall, ?_, ?_⟩
      · rw [List.map_cons, List.nodup_cons]
        exact ⟨fun hmem => (hfresh _ hmem).1 (by simp), hnodup⟩
      · intro setter hsetter
        rw [List.map_cons, List.mem_cons] at hsetter
        rcases hsetter with rfl | hsetter
        · exact ⟨htaken, hreserved⟩
        · obtain ⟨hnot, hmethod⟩ := hfresh setter hsetter
          exact ⟨fun hmem => hnot (by simp [hmem]), hmethod⟩

/-! ## Generated builders -/

/-- The constructor and the choices from which a builder was put together, with the checks they passed. -/
structure Aggregate.Generated (aggregate : Aggregate) (registry : Registry)
    (enumerations : List Enumeration) (constructor : Constructor) (choices : List Choice) : Prop where
  constructors : aggregate.constructors = [constructor]
  names : (constructor.parameters.map Parameter.name).Nodup
  chosen : List.Forall₂
    (Scope.Chosen { registry, enumerations, package := aggregate.package }) constructor.parameters choices
  setters : (choices.map Choice.setter).Nodup
  methods : ∀ setter ∈ choices.map Choice.setter, setter ∉ Scope.reservedMethods
  providers : choices.countP (·.strategy.isProvider) ≤ providerLimit

/-- A builder that was generated is put together from choices that passed every check. -/
theorem Aggregate.generate_eq_ok {aggregate : Aggregate} {registry : Registry}
    {enumerations : List Enumeration} {builder : Builder}
    (h : aggregate.generate registry enumerations = .ok builder) :
    ∃ constructor choices, aggregate.Generated registry enumerations constructor choices ∧
      builder = .ofChoices aggregate constructor.path choices := by
  unfold Aggregate.generate at h
  dsimp only at h
  split at h
  · cases h
  split at h
  · cases h
  obtain ⟨constructor, hconstructor, h⟩ := bind_eq_ok.mp h
  obtain ⟨parameters, hparameters, h⟩ := bind_eq_ok.mp h
  obtain ⟨choices, hchoices, h⟩ := bind_eq_ok.mp h
  split at h
  · cases h
  rename_i hcount
  obtain rfl := pure_eq_ok.mp h
  obtain ⟨⟨same, hsame, rfl⟩, hnames⟩ := parameters_eq_ok hparameters
  obtain rfl : constructor = same := by
    rw [hconstructor] at hsame
    exact Except.ok.inj hsame
  obtain ⟨hchosen, hsetters, hmethods⟩ := Scope.chooseFrom_eq_ok hchoices
  exact ⟨constructor, choices,
    { constructors := constructor_eq_ok hconstructor
      names := hnames
      chosen := hchosen
      setters := hsetters
      methods := fun setter hsetter => (hmethods setter hsetter).2
      providers := Nat.le_of_not_lt hcount }, rfl⟩

namespace Aggregate.Generated

variable {aggregate : Aggregate} {registry : Registry} {enumerations : List Enumeration}
  {constructor : Constructor} {choices : List Choice}

/-- What every choice says about its parameter holds of the lists as a whole. -/
theorem map_eq {γ : Type}
    (hgenerated : aggregate.Generated registry enumerations constructor choices)
    (ofChoice : Choice → γ) (ofParameter : Parameter → γ)
    (h : ∀ parameter choice,
      Scope.Chosen { registry, enumerations, package := aggregate.package } parameter choice →
        ofChoice choice = ofParameter parameter) :
    choices.map ofChoice = constructor.parameters.map ofParameter := by
  exact (map_eq_map_of_forall₂ hgenerated.chosen fun parameter choice hchosen => (h parameter choice hchosen).symm).symm

/-- Every choice was made for some parameter. -/
theorem exists_chosen (hgenerated : aggregate.Generated registry enumerations constructor choices)
    {choice : Choice} (hchoice : choice ∈ choices) :
    ∃ parameter,
      Scope.Chosen { registry, enumerations, package := aggregate.package } parameter choice := by
  obtain ⟨parameter, _, hchosen⟩ := exists_of_forall₂_of_mem hgenerated.chosen hchoice
  exact ⟨parameter, hchosen⟩

/-- The fields of the builder have the names of the parameters. -/
theorem fieldNames (hgenerated : aggregate.Generated registry enumerations constructor choices) :
    (choices.map Choice.field).map Field.name = constructor.parameters.map Parameter.name := by
  rw [List.map_map]
  exact hgenerated.map_eq _ _ fun _ _ hchosen => hchosen.name

theorem nodup_fieldNames (hgenerated : aggregate.Generated registry enumerations constructor choices) :
    ((choices.map Choice.field).map Field.name).Nodup :=
  hgenerated.fieldNames ▸ hgenerated.names

end Aggregate.Generated

/-! ## A sample -/

namespace Shop

/-- A parcel. -/
def parcel : Aggregate where
  name := "Parcel"
  package := ""
  constructors := [{ path := "Parcel", parameters := [
    { name := "id", type := named "u32" },
    { name := "sender", type := textType, marking := .inferred },
    { name := "weight", type := named "u8", marking := .inferred },
    { name := "note", type := optional textType, marking := .nullable }] }]

/-- The choices for a parcel when names are provided. -/
def parcelChoices : List Choice :=
  [⟨"id", named "u32", "id", .mandatory⟩, ⟨"sender", textType, "sender", .provider "Names" true⟩,
    ⟨"weight", named "u8", "weight", .zero .integer "0"⟩, ⟨"note", optional textType, "note", .nullable⟩]

/-- The builder of a parcel.  Its plan is written out. -/
def parcelBuilder : Builder :=
  { Builder.ofChoices parcel "Parcel" parcelChoices with
    plan := .branched [⟨"id", .value⟩, ⟨"weight", .orDefault "0"⟩, ⟨"note", .value⟩]
      [⟨"sender", "Names", true, textType⟩] [⟨["sender"], []⟩, ⟨[], ["sender"]⟩] }

theorem powerset_sender : powerset ["sender"] = [["sender"], []] := by
  rw [powerset, sublistsByCounting]
  simp [List.mergeSort]

theorem generate_parcel : parcel.generate nameRegistry [] = .ok parcelBuilder := by
  have hgenerate : parcel.generate nameRegistry [] = .ok (.ofChoices parcel "Parcel" parcelChoices) := rfl
  have hbranches : (Builder.ofChoices parcel "Parcel" parcelChoices).plan =
      .branched parcelBuilder.plan.resolutions parcelBuilder.plan.bindings
        (Plan.branchesOf ["sender"]) := rfl
  have hplan : (Builder.ofChoices parcel "Parcel" parcelChoices).plan = parcelBuilder.plan := by
    rw [hbranches, Plan.branchesOf, powerset_sender]
    rfl
  rw [hgenerate, parcelBuilder]
  exact congrArg (fun plan => Except.ok { Builder.ofChoices parcel "Parcel" parcelChoices with plan })
    hplan

end Shop

end BuilderGen

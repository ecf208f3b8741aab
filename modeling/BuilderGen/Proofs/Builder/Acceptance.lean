import BuilderGen.Proofs.Builder.Generation

/-!
# Which aggregates get a builder

Generation makes seven checks in a row.  Two of them run through the parameters and remember what they have seen.
This module says without running them which aggregates pass all checks, and which fault is reported for the others.

* `Acceptable` and `FirstFault` are the two sides.  The first lists what has to hold of an aggregate.  The second has
  one case per violated check, each under the condition that the checks before it pass.
* `passes_or_stops` and `acceptable_or_firstFault` say that there is no third side.
* `chooseFrom_append` is the run through parameters that pass, `chooseWith_of_faultOf` the step at which it stops.
* `generate_of_acceptable` and `generate_of_firstFault` compute the outcome on either side.
-/

namespace BuilderGen

/-! ## Parameters -/

namespace Scope

variable {scope : Scope} {parameters front rest : List Parameter} {parameter : Parameter} {fault : Fault}

/-- Parameters that pass the checks on setters and classification. -/
structure Passes (scope : Scope) (parameters : List Parameter) : Prop where
  free : ∀ parameter ∈ parameters, parameter.setter ∉ reservedMethods
  distinct : (parameters.map Parameter.setter).Nodup
  classified : ∀ parameter ∈ parameters, ∃ strategy, scope.choose parameter = .ok strategy

/-- The fault of a parameter that comes behind others: its setter is a builder method, or else the setter of another
parameter, or else there is no strategy for it. -/
inductive FaultOf (scope : Scope) (front : List Parameter) (parameter : Parameter) : Fault → Prop
  | reserved (hreserved : parameter.setter ∈ reservedMethods) :
      FaultOf scope front parameter (.setterConflict parameter.name parameter.setter "a builder method")
  | repeated (hfree : parameter.setter ∉ reservedMethods)
      (hrepeated : parameter.setter ∈ front.map Parameter.setter) :
      FaultOf scope front parameter (.setterConflict parameter.name parameter.setter "another setter")
  | unclassified {fault : Fault} (hfree : parameter.setter ∉ reservedMethods)
      (hnew : parameter.setter ∉ front.map Parameter.setter) (hchoose : scope.choose parameter = .error fault) :
      FaultOf scope front parameter fault

/-- The fault of the first parameter that does not pass. -/
def Stops (scope : Scope) (parameters : List Parameter) (fault : Fault) : Prop :=
  ∃ front parameter back, parameters = front ++ parameter :: back ∧ scope.Passes front ∧
    scope.FaultOf front parameter fault

/-- The number of parameters for which a provider is chosen. -/
def providerCount (scope : Scope) (parameters : List Parameter) : Nat :=
  parameters.countP fun parameter =>
    match scope.choose parameter with
    | .ok strategy => strategy.isProvider
    | .error _ => false

theorem passes_nil : scope.Passes [] :=
  ⟨by simp, List.nodup_nil, by simp⟩

theorem passes_cons_iff :
    scope.Passes (parameter :: rest) ↔
      (parameter.setter ∉ reservedMethods ∧ parameter.setter ∉ rest.map Parameter.setter ∧
        ∃ strategy, scope.choose parameter = .ok strategy) ∧ scope.Passes rest := by
  constructor
  · rintro ⟨hfree, hdistinct, hclassified⟩
    rw [List.forall_mem_cons] at hfree hclassified
    rw [List.map_cons, List.nodup_cons] at hdistinct
    exact ⟨⟨hfree.1, hdistinct.1, hclassified.1⟩, hfree.2, hdistinct.2, hclassified.2⟩
  · rintro ⟨⟨hfree, hnew, hclassified⟩, hrest⟩
    exact ⟨List.forall_mem_cons.mpr ⟨hfree, hrest.free⟩, List.nodup_cons.mpr ⟨hnew, hrest.distinct⟩,
      List.forall_mem_cons.mpr ⟨hclassified, hrest.classified⟩⟩

/-- A parameter behind others that pass either passes too or has a fault. -/
theorem Passes.concat (hpasses : scope.Passes front) (parameter : Parameter) :
    scope.Passes (front ++ [parameter]) ∨ ∃ fault, scope.FaultOf front parameter fault := by
  by_cases hreserved : parameter.setter ∈ reservedMethods
  · exact .inr ⟨_, .reserved hreserved⟩
  by_cases hrepeated : parameter.setter ∈ front.map Parameter.setter
  · exact .inr ⟨_, .repeated hreserved hrepeated⟩
  cases hchoose : scope.choose parameter with
  | error fault => exact .inr ⟨fault, .unclassified hreserved hrepeated hchoose⟩
  | ok strategy =>
      refine .inl ⟨?_, ?_, ?_⟩
      · exact List.forall_mem_append.mpr ⟨hpasses.free, by simpa using hreserved⟩
      · rw [List.map_append, List.map_singleton, ← List.concat_eq_append]
        exact hpasses.distinct.concat hrepeated
      · exact List.forall_mem_append.mpr ⟨hpasses.classified, by simp [hchoose]⟩

/-- Parameters pass, or there is a first one that does not. -/
theorem passes_or_stops (scope : Scope) (parameters : List Parameter) :
    scope.Passes parameters ∨ ∃ fault, scope.Stops parameters fault := by
  refine (holds_or_fails_first scope.Passes passes_nil parameters).imp_right ?_
  rintro ⟨front, parameter, back, hsplit, hfront, hfails⟩
  obtain ⟨fault, hfault⟩ := (hfront.concat parameter).resolve_left hfails
  exact ⟨fault, front, parameter, back, hsplit, hfront, hfault⟩

/-! ## The run through the parameters -/

theorem chooseWith_of_ok {taken : List String} (hfree : parameter.setter ∉ reservedMethods)
    (hnew : parameter.setter ∉ taken) {strategy : Strategy} (hchoose : scope.choose parameter = .ok strategy) :
    ∃ choice, scope.chooseWith taken parameter = .ok choice := by
  rw [chooseWith, if_neg hfree, if_neg hnew, hchoose]
  exact ⟨_, rfl⟩

/-- A parameter with a fault is refused with it. -/
theorem chooseWith_of_faultOf {taken : List String}
    (htaken : ∀ setter, setter ∈ taken ↔ setter ∈ front.map Parameter.setter)
    (hfault : scope.FaultOf front parameter fault) : scope.chooseWith taken parameter = .error fault := by
  rw [chooseWith]
  cases hfault with
  | reserved hreserved => rw [if_pos hreserved]
  | repeated hfree hrepeated => rw [if_neg hfree, if_pos ((htaken _).mpr hrepeated)]
  | unclassified hfree hnew hchoose =>
      rw [if_neg hfree, if_neg (mt (htaken _).mp hnew), hchoose]
      rfl

/-- Parameters that pass are chosen for, and their setters are remembered for those behind them. -/
theorem chooseFrom_append {taken : List String} (hpasses : scope.Passes front)
    (hfresh : ∀ parameter ∈ front, parameter.setter ∉ taken) (rest : List Parameter) :
    ∃ choices, scope.chooseFrom taken (front ++ rest) =
      (scope.chooseFrom ((front.map Parameter.setter).reverse ++ taken) rest).map (choices ++ ·) := by
  induction front generalizing taken with
  | nil =>
      refine ⟨[], ?_⟩
      rw [List.nil_append, List.map_nil, List.reverse_nil, List.nil_append]
      cases scope.chooseFrom taken rest <;> rfl
  | cons parameter front ih =>
      obtain ⟨⟨hfree, hnew, strategy, hchoose⟩, hfront⟩ := passes_cons_iff.mp hpasses
      obtain ⟨hparameter, hothers⟩ := List.forall_mem_cons.mp hfresh
      obtain ⟨choice, hchoice⟩ := chooseWith_of_ok hfree hparameter hchoose
      have hunseen : ∀ other ∈ front, other.setter ∉ parameter.setter :: taken := by
        intro other hother hmem
        rcases List.mem_cons.mp hmem with heq | hmem
        · exact hnew (heq ▸ List.mem_map_of_mem hother)
        · exact hothers other hother hmem
      obtain ⟨choices, hchoices⟩ := ih hfront hunseen
      refine ⟨choice :: choices, ?_⟩
      rw [List.cons_append, chooseFrom, hchoice, hchoices, List.map_cons, List.reverse_cons, List.append_assoc,
        List.singleton_append]
      cases scope.chooseFrom ((front.map Parameter.setter).reverse ++ parameter.setter :: taken) rest <;> rfl

/-- Parameters that pass are all chosen for. -/
theorem chooseAll_of_passes (hpasses : scope.Passes parameters) :
    ∃ choices, scope.chooseAll parameters = .ok choices := by
  obtain ⟨choices, hrun⟩ := chooseFrom_append hpasses (fun _ _ => List.not_mem_nil) []
  rw [List.append_nil] at hrun
  exact ⟨choices ++ [], hrun⟩

/-- The first fault is the outcome. -/
theorem chooseAll_of_stops (hstops : scope.Stops parameters fault) : scope.chooseAll parameters = .error fault := by
  obtain ⟨front, parameter, back, rfl, hfront, hfault⟩ := hstops
  obtain ⟨choices, hrun⟩ := chooseFrom_append hfront (fun _ _ => List.not_mem_nil) (parameter :: back)
  have htaken : ∀ setter,
      setter ∈ (front.map Parameter.setter).reverse ++ [] ↔ setter ∈ front.map Parameter.setter := by
    simp
  have hrefused := chooseWith_of_faultOf htaken hfault
  rw [chooseAll, hrun, chooseFrom, hrefused]
  rfl

/-- The choices that a provider backs are counted by the parameters. -/
theorem countP_isProvider {choices : List Choice} (hchosen : List.Forall₂ scope.Chosen parameters choices) :
    choices.countP (·.strategy.isProvider) = scope.providerCount parameters := by
  induction hchosen with
  | nil => rfl
  | cons hfirst _ ih =>
      rw [List.countP_cons, ih, providerCount, providerCount, List.countP_cons, hfirst.strategy]

end Scope

/-! ## Aggregates -/

namespace Aggregate

variable {aggregate : Aggregate} {registry : Registry} {enumerations : List Enumeration} {fault : Fault}

/-- What the choice of defaults for the parameters of an aggregate depends on. -/
def scope (aggregate : Aggregate) (registry : Registry) (enumerations : List Enumeration) : Scope :=
  { registry, enumerations, package := aggregate.package }

/-- An aggregate that others may see and that has no generic parameters. -/
structure Presented (aggregate : Aggregate) : Prop where
  visible : aggregate.visibility ≠ .ownModule
  concrete : aggregate.generic = false

/-- What has to hold of an aggregate for a builder. -/
structure Acceptable (aggregate : Aggregate) (registry : Registry) (enumerations : List Enumeration)
    (constructor : Constructor) : Prop where
  presented : aggregate.Presented
  single : aggregate.constructors = [constructor]
  names : (constructor.parameters.map Parameter.name).Nodup
  passes : (aggregate.scope registry enumerations).Passes constructor.parameters
  providers : (aggregate.scope registry enumerations).providerCount constructor.parameters ≤ providerLimit

/-- The fault of the first check that an aggregate does not pass. -/
inductive FirstFault (aggregate : Aggregate) (registry : Registry) (enumerations : List Enumeration) :
    Fault → Prop
  | hidden (hhidden : aggregate.visibility = .ownModule) :
      FirstFault aggregate registry enumerations (.privateAggregate aggregate.name)
  | generic (hvisible : aggregate.visibility ≠ .ownModule) (hgeneric : aggregate.generic = true) :
      FirstFault aggregate registry enumerations (.generics aggregate.name)
  | missing (hpresented : aggregate.Presented) (hmissing : aggregate.constructors = []) :
      FirstFault aggregate registry enumerations (.noConstructor aggregate.name)
  | ambiguous (hpresented : aggregate.Presented) (hmany : 1 < aggregate.constructors.length) :
      FirstFault aggregate registry enumerations
        (.ambiguousConstructor aggregate.name aggregate.constructors.length)
  | duplicate {constructor : Constructor} {front back : List Parameter} {parameter : Parameter}
      (hpresented : aggregate.Presented) (hsingle : aggregate.constructors = [constructor])
      (hsplit : constructor.parameters = front ++ parameter :: back)
      (hfront : (front.map Parameter.name).Nodup) (hrepeated : parameter.name ∈ front.map Parameter.name) :
      FirstFault aggregate registry enumerations (.duplicateParameter aggregate.name parameter.name)
  | parameter {constructor : Constructor} {fault : Fault}
      (hpresented : aggregate.Presented) (hsingle : aggregate.constructors = [constructor])
      (hnames : (constructor.parameters.map Parameter.name).Nodup)
      (hstops : (aggregate.scope registry enumerations).Stops constructor.parameters fault) :
      FirstFault aggregate registry enumerations fault
  | providers {constructor : Constructor}
      (hpresented : aggregate.Presented) (hsingle : aggregate.constructors = [constructor])
      (hnames : (constructor.parameters.map Parameter.name).Nodup)
      (hpasses : (aggregate.scope registry enumerations).Passes constructor.parameters)
      (hmany : providerLimit < (aggregate.scope registry enumerations).providerCount constructor.parameters) :
      FirstFault aggregate registry enumerations
        (.tooManyProviders aggregate.name
          ((aggregate.scope registry enumerations).providerCount constructor.parameters) providerLimit)

/-- Names differ, or there is a first one that was there before. -/
theorem nodup_or_repeated (parameters : List Parameter) :
    (parameters.map Parameter.name).Nodup ∨ ∃ front parameter back, parameters = front ++ parameter :: back ∧
      (front.map Parameter.name).Nodup ∧ parameter.name ∈ front.map Parameter.name := by
  refine (holds_or_fails_first (fun list => (list.map Parameter.name).Nodup) List.nodup_nil parameters).imp_right ?_
  rintro ⟨front, parameter, back, hsplit, hfront, hfails⟩
  refine ⟨front, parameter, back, hsplit, hfront, by_contra fun hnew => hfails ?_⟩
  rw [List.map_append, List.map_singleton, ← List.concat_eq_append]
  exact hfront.concat hnew

/-- An aggregate is acceptable, or there is a first check that it does not pass. -/
theorem acceptable_or_firstFault (aggregate : Aggregate) (registry : Registry) (enumerations : List Enumeration) :
    (∃ constructor, aggregate.Acceptable registry enumerations constructor) ∨
      ∃ fault, aggregate.FirstFault registry enumerations fault := by
  by_cases hvisible : aggregate.visibility = .ownModule
  · exact .inr ⟨_, .hidden hvisible⟩
  cases hgeneric : aggregate.generic with
  | true => exact .inr ⟨_, .generic hvisible hgeneric⟩
  | false =>
      have hpresented : aggregate.Presented := ⟨hvisible, hgeneric⟩
      match hconstructors : aggregate.constructors with
      | [] => exact .inr ⟨_, .missing hpresented hconstructors⟩
      | _ :: _ :: _ => exact .inr ⟨_, .ambiguous hpresented (by simp [hconstructors])⟩
      | [constructor] =>
          rcases nodup_or_repeated constructor.parameters with hnames | ⟨_, _, _, hsplit, hfront, hrepeated⟩
          · rcases Scope.passes_or_stops (aggregate.scope registry enumerations) constructor.parameters with
              hpasses | ⟨fault, hstops⟩
            · by_cases hcount : (aggregate.scope registry enumerations).providerCount constructor.parameters ≤
                  providerLimit
              · exact .inl ⟨constructor, hpresented, hconstructors, hnames, hpasses, hcount⟩
              · exact .inr ⟨_, .providers hpresented hconstructors hnames hpasses (Nat.lt_of_not_le hcount)⟩
            · exact .inr ⟨fault, .parameter hpresented hconstructors hnames hstops⟩
          · exact .inr ⟨_, .duplicate hpresented hconstructors hsplit hfront hrepeated⟩

/-! ## What generation makes of them -/

/-- The search for a repeated name passes over names that differ, and remembers them. -/
theorem firstRepeated_append {seen front : List String} (hfront : front.Nodup)
    (hfresh : ∀ name ∈ front, name ∉ seen) (rest : List String) :
    firstRepeated seen (front ++ rest) = firstRepeated (front.reverse ++ seen) rest := by
  induction front generalizing seen with
  | nil => rfl
  | cons name front ih =>
      obtain ⟨hname, hothers⟩ := List.forall_mem_cons.mp hfresh
      obtain ⟨hnew, hfront⟩ := List.nodup_cons.mp hfront
      have hunseen : ∀ other ∈ front, other ∉ name :: seen := by
        intro other hother hmem
        rcases List.mem_cons.mp hmem with rfl | hmem
        · exact hnew hother
        · exact hothers other hother hmem
      rw [List.cons_append, firstRepeated, if_neg hname, ih hfront hunseen, List.reverse_cons, List.append_assoc,
        List.singleton_append]

theorem constructor_of_single {constructor : Constructor} (hsingle : aggregate.constructors = [constructor]) :
    aggregate.constructor = .ok constructor := by
  rw [Aggregate.constructor, hsingle]

theorem constructor_of_nil (hnone : aggregate.constructors = []) :
    aggregate.constructor = .error (.noConstructor aggregate.name) := by
  rw [Aggregate.constructor, hnone]

theorem constructor_of_many (hmany : 1 < aggregate.constructors.length) :
    aggregate.constructor = .error (.ambiguousConstructor aggregate.name aggregate.constructors.length) := by
  rw [Aggregate.constructor]
  split
  · rename_i honly
    simp [honly] at hmany
  · rename_i hnone
    simp [hnone] at hmany
  · rfl

theorem parameters_of_single {constructor : Constructor} (hsingle : aggregate.constructors = [constructor]) :
    aggregate.parameters =
      match firstRepeated [] (constructor.parameters.map Parameter.name) with
      | some name => .error (.duplicateParameter aggregate.name name)
      | none => .ok constructor.parameters := by
  rw [Aggregate.parameters, constructor_of_single hsingle]
  rfl

/-- Parameters with different names are taken as they are. -/
theorem parameters_of_nodup {constructor : Constructor} (hsingle : aggregate.constructors = [constructor])
    (hnames : (constructor.parameters.map Parameter.name).Nodup) :
    aggregate.parameters = .ok constructor.parameters := by
  have hnone := firstRepeated_append hnames (fun _ _ => List.not_mem_nil) []
  rw [List.append_nil] at hnone
  rw [parameters_of_single hsingle, hnone]
  rfl

/-- The first parameter whose name was there before is refused. -/
theorem parameters_of_repeated {constructor : Constructor} {front back : List Parameter} {parameter : Parameter}
    (hsingle : aggregate.constructors = [constructor])
    (hsplit : constructor.parameters = front ++ parameter :: back) (hfront : (front.map Parameter.name).Nodup)
    (hrepeated : parameter.name ∈ front.map Parameter.name) :
    aggregate.parameters = .error (.duplicateParameter aggregate.name parameter.name) := by
  have hsome := firstRepeated_append hfront (fun _ _ => List.not_mem_nil) (parameter.name :: back.map Parameter.name)
  have hmem : parameter.name ∈ (front.map Parameter.name).reverse ++ [] := by simpa using hrepeated
  rw [firstRepeated, if_pos hmem] at hsome
  rw [parameters_of_single hsingle, hsplit, List.map_append, List.map_cons, hsome]

/-- The checks on the declaration as a whole come first. -/
theorem generate_of_presented (hpresented : aggregate.Presented) :
    aggregate.generate registry enumerations = (do
      let constructor ← aggregate.constructor
      let parameters ← aggregate.parameters
      let choices ← (aggregate.scope registry enumerations).chooseAll parameters
      let count := choices.countP (·.strategy.isProvider)
      if providerLimit < count then throw (.tooManyProviders aggregate.name count providerLimit)
      return .ofChoices aggregate constructor.path choices) := by
  rw [generate, if_neg hpresented.visible, hpresented.concrete]
  rfl

/-- Behind the checks on the parameters only their number counts. -/
theorem generate_of_passes {constructor : Constructor} (hpresented : aggregate.Presented)
    (hsingle : aggregate.constructors = [constructor])
    (hnames : (constructor.parameters.map Parameter.name).Nodup)
    (hpasses : (aggregate.scope registry enumerations).Passes constructor.parameters) :
    ∃ choices, aggregate.generate registry enumerations =
      if providerLimit < (aggregate.scope registry enumerations).providerCount constructor.parameters then
        .error (.tooManyProviders aggregate.name
          ((aggregate.scope registry enumerations).providerCount constructor.parameters) providerLimit)
      else .ok (.ofChoices aggregate constructor.path choices) := by
  obtain ⟨choices, hchoices⟩ := Scope.chooseAll_of_passes hpasses
  have hcount := Scope.countP_isProvider (Scope.chooseFrom_eq_ok hchoices).1
  refine ⟨choices, ?_⟩
  rw [generate_of_presented hpresented, constructor_of_single hsingle, parameters_of_nodup hsingle hnames]
  simp only [bind, Except.bind, hchoices, hcount]
  split <;> rfl

/-- An acceptable aggregate gets a builder. -/
theorem generate_of_acceptable {constructor : Constructor}
    (hacceptable : aggregate.Acceptable registry enumerations constructor) :
    ∃ builder, aggregate.generate registry enumerations = .ok builder := by
  obtain ⟨choices, hgenerate⟩ := generate_of_passes hacceptable.presented hacceptable.single hacceptable.names
    hacceptable.passes
  rw [if_neg (Nat.not_lt_of_le hacceptable.providers)] at hgenerate
  exact ⟨_, hgenerate⟩

/-- An aggregate with a fault gets the first one. -/
theorem generate_of_firstFault (hfault : aggregate.FirstFault registry enumerations fault) :
    aggregate.generate registry enumerations = .error fault := by
  cases hfault with
  | hidden hhidden =>
      rw [generate, if_pos hhidden]
      rfl
  | generic hvisible hgeneric =>
      rw [generate, if_neg hvisible, hgeneric]
      rfl
  | missing hpresented hmissing =>
      rw [generate_of_presented hpresented, constructor_of_nil hmissing]
      rfl
  | ambiguous hpresented hmany =>
      rw [generate_of_presented hpresented, constructor_of_many hmany]
      rfl
  | duplicate hpresented hsingle hsplit hfront hrepeated =>
      rw [generate_of_presented hpresented, constructor_of_single hsingle,
        parameters_of_repeated hsingle hsplit hfront hrepeated]
      rfl
  | parameter hpresented hsingle hnames hstops =>
      rw [generate_of_presented hpresented, constructor_of_single hsingle, parameters_of_nodup hsingle hnames]
      simp only [bind, Except.bind, Scope.chooseAll_of_stops hstops]
  | providers hpresented hsingle hnames hpasses hmany =>
      obtain ⟨choices, hgenerate⟩ := generate_of_passes hpresented hsingle hnames hpasses
      rw [hgenerate, if_pos hmany]

/-- Which aggregates get a builder, and which fault the others get.

There is a builder just when the aggregate is visible outside its module, has no generic parameters and exactly one
constructor, the names of the parameters differ, their setters differ and are no builder methods, there is a strategy
for each of them, and providers back at most ten.  Otherwise the outcome is the fault of the first of these checks
that fails.  The checks on setters and strategies are made parameter by parameter, so there the earliest parameter
that fails one of them counts. -/
theorem generate_decides (aggregate : Aggregate) (registry : Registry) (enumerations : List Enumeration) :
    ((∃ builder, aggregate.generate registry enumerations = .ok builder) ↔
        ∃ constructor, aggregate.Acceptable registry enumerations constructor) ∧
      ∀ fault, aggregate.generate registry enumerations = .error fault ↔
        aggregate.FirstFault registry enumerations fault := by
  rcases acceptable_or_firstFault aggregate registry enumerations with ⟨constructor, hacceptable⟩ | ⟨first, hfirst⟩
  · obtain ⟨builder, hbuilder⟩ := generate_of_acceptable hacceptable
    refine ⟨⟨fun _ => ⟨constructor, hacceptable⟩, fun _ => ⟨builder, hbuilder⟩⟩, fun fault => ⟨?_, ?_⟩⟩
    · intro hfault
      rw [hbuilder] at hfault
      cases hfault
    · exact generate_of_firstFault
  · have hgenerate := generate_of_firstFault hfirst
    refine ⟨⟨?_, ?_⟩, fun fault => ⟨?_, generate_of_firstFault⟩⟩
    · rintro ⟨builder, hbuilder⟩
      rw [hgenerate] at hbuilder
      cases hbuilder
    · rintro ⟨constructor, hacceptable⟩
      exact generate_of_acceptable hacceptable
    · intro hfault
      rw [hgenerate] at hfault
      exact Except.error.inj hfault ▸ hfirst

end Aggregate

end BuilderGen

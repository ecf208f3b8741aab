import BuilderGen.Proofs.Default.Reports
import BuilderGen.Round

/-!
# What a round accounts for

Every aggregate of a round ends up in one of two places.  Either there is a builder for it, or it is listed as
failed and one error is reported for it.  What is made of an aggregate is a function of the aggregate alone,
as soon as the settings, the providers and the enumerations are fixed.  A fault of the registry ends the
round before any aggregate is looked at.
-/

namespace BuilderGen.Round

/-- How a round accounts for its aggregates, in their order, given what is made of each of them. -/
structure Accounts (made : Aggregate → Except Fault Builder) (aggregates : List Aggregate) (round : Round)
    (failures : List Diagnostic) : Prop where
  builders : List.Forall₂ (fun aggregate builder => made aggregate = .ok builder)
    (aggregates.filter fun aggregate => (made aggregate).isOk) round.builders
  failed : round.failed =
    (aggregates.filter fun aggregate => !(made aggregate).isOk).map Aggregate.qualifiedName
  failures : List.Forall₂
    (fun aggregate report => ∃ fault, made aggregate = .error fault ∧
      report.Reports fault aggregate.package aggregate.name)
    (aggregates.filter fun aggregate => !(made aggregate).isOk) failures

section Accounts

variable {made : Aggregate → Except Fault Builder} {aggregate : Aggregate} {aggregates : List Aggregate}
  {round : Round} {failures : List Diagnostic}

/-- One more aggregate in front, with a builder. -/
theorem Accounts.built (haccounts : Accounts made aggregates round failures) {builder : Builder}
    (hmade : made aggregate = .ok builder) :
    Accounts made (aggregate :: aggregates) { round with builders := builder :: round.builders }
      failures := by
  have hok : (made aggregate).isOk = true := by rw [hmade]; rfl
  have hnot : ¬(!(made aggregate).isOk) = true := by simp [hok]
  constructor
  case builders =>
    rw [List.filter_cons, if_pos hok]
    exact .cons hmade haccounts.builders
  case failed =>
    rw [List.filter_cons, if_neg hnot]
    exact haccounts.failed
  case failures =>
    rw [List.filter_cons, if_neg hnot]
    exact haccounts.failures

/-- One more aggregate in front, with a fault. -/
theorem Accounts.refused (haccounts : Accounts made aggregates round failures) {fault : Fault}
    (hmade : made aggregate = .error fault) :
    Accounts made (aggregate :: aggregates)
      { round with failed := aggregate.qualifiedName :: round.failed }
      (.ofFault fault aggregate.package aggregate.name :: failures) := by
  have hok : ¬(made aggregate).isOk = true := by rw [hmade]; simp [Except.isOk, Except.toBool]
  have hnot : (!(made aggregate).isOk) = true := by rw [hmade]; rfl
  constructor
  case builders =>
    rw [List.filter_cons, if_neg hok]
    exact haccounts.builders
  case failed => rw [List.filter_cons, if_pos hnot, List.map_cons, haccounts.failed]
  case failures =>
    rw [List.filter_cons, if_pos hnot]
    exact .cons ⟨fault, hmade, Diagnostic.reports_ofFault ..⟩ haccounts.failures

/-- Every report of a failure is an error. -/
theorem Accounts.isError (haccounts : Accounts made aggregates round failures) {report : Diagnostic}
    (hreport : report ∈ failures) : report.isError = true := by
  have herrors : List.Forall₂ (fun report _ => report.isError = true ∧ True) failures
      (aggregates.filter fun aggregate => !(made aggregate).isOk) := by
    refine haccounts.failures.flip.imp fun report aggregate hfault => ?_
    obtain ⟨fault, _, hreports⟩ := hfault
    exact ⟨hreports.isError, trivial⟩
  exact ((List.forall₂_and_left _ _).mp herrors).1 report hreport

theorem Accounts.failures_eq_nil_iff (haccounts : Accounts made aggregates round failures) :
    failures = [] ↔ round.failed = [] := by
  rw [← List.length_eq_zero_iff, ← List.length_eq_zero_iff, haccounts.failed, List.length_map,
    haccounts.failures.length_eq]

/-- When nothing failed there is a builder for every aggregate. -/
theorem Accounts.forall₂_builders (haccounts : Accounts made aggregates round failures)
    (hfailed : round.failed = []) :
    List.Forall₂ (fun aggregate builder => made aggregate = .ok builder) aggregates round.builders := by
  have hnone := haccounts.failed.symm.trans hfailed
  rw [List.map_eq_nil_iff, List.filter_eq_nil_iff] at hnone
  have hall : (aggregates.filter fun aggregate => (made aggregate).isOk) = aggregates :=
    List.filter_eq_self.mpr fun aggregate haggregate => by simpa using hnone aggregate haggregate
  exact hall ▸ haccounts.builders

end Accounts

/-- Generating the builders of a list of aggregates accounts for each of them. -/
theorem accounts_generateAll (registry : Registry) (enumerations : List Enumeration)
    (aggregates : List Aggregate) :
    Accounts (·.generate registry enumerations) aggregates
      (generateAll registry enumerations aggregates).2
      (generateAll registry enumerations aggregates).1 := by
  induction aggregates with
  | nil => exact ⟨.nil, rfl, .nil⟩
  | cons aggregate rest ih =>
      rw [generateAll]
      dsimp only
      split
      · rename_i hmade
        exact ih.built hmade
      · rename_i hmade
        exact ih.refused hmade

/-! ## Runs -/

/-- A round with a registry that stopped has its reports and its fault. -/
theorem run_of_build_error {settings : Settings} {declarations : Declarations} {reports : List Diagnostic}
    {fault : Fault} (hbuild : Registry.build settings declarations.providers = (reports, .error fault)) :
    run settings declarations = (reports, .error fault) := by
  rw [run, hbuild]

/-- A round with a registry generates the builders, and reports what failed behind the reports of the
registry. -/
theorem run_of_build_ok {settings : Settings} {declarations : Declarations} {reports : List Diagnostic}
    {registry : Registry} (hbuild : Registry.build settings declarations.providers = (reports, .ok registry)) :
    ∃ round failures, run settings declarations = (reports ++ failures, .ok round) ∧
      Accounts (·.generate registry declarations.enumerations) declarations.aggregates round failures := by
  refine ⟨_, _, ?_, accounts_generateAll registry declarations.enumerations declarations.aggregates⟩
  rw [run, hbuild]

theorem hasErrors_append (first second : List Diagnostic) :
    hasErrors (first ++ second) = (hasErrors first || hasErrors second) :=
  List.any_append

theorem hasErrors_of_notes {providers : List Provider} {notes : List Diagnostic}
    (hnotes : ∀ note ∈ notes, Registry.IsNote providers note) : hasErrors notes = false :=
  List.any_eq_false.mpr fun note hnote => by simp [(hnotes note hnote).isError]

/-- The failures of a round hold an error just when some aggregate failed. -/
theorem Accounts.hasErrors_iff {made : Aggregate → Except Fault Builder} {aggregates : List Aggregate}
    {round : Round} {failures : List Diagnostic} (haccounts : Accounts made aggregates round failures) :
    hasErrors failures = true ↔ round.failed ≠ [] := by
  rw [Ne, ← haccounts.failures_eq_nil_iff]
  constructor
  · rintro herrors rfl
    cases herrors
  · intro hne
    obtain ⟨report, hreport⟩ := List.exists_mem_of_ne_nil failures hne
    exact List.any_eq_true.mpr ⟨report, hreport, haccounts.isError hreport⟩

/-- A round without errors has a builder for every aggregate. -/
theorem forall₂_builders_of_run {settings : Settings} {declarations : Declarations}
    (hreports : hasErrors (run settings declarations).1 = false) :
    ∃ registry round, (Registry.build settings declarations.providers).2 = .ok registry ∧
      (run settings declarations).2 = .ok round ∧
      List.Forall₂ (fun aggregate builder =>
          aggregate.generate registry declarations.enumerations = .ok builder)
        declarations.aggregates round.builders := by
  obtain ⟨notes, hnotes, ⟨registry, hbuild⟩ | ⟨report, fault, provider, _, hreport, hbuild⟩⟩ :=
    Registry.build_reports settings declarations.providers
  · obtain ⟨round, failures, hrun, haccounts⟩ := run_of_build_ok hbuild
    rw [hrun, hasErrors_append, Bool.or_eq_false_iff] at hreports
    have hfailed : round.failed = [] := by
      by_contra hne
      rw [haccounts.hasErrors_iff.mpr hne] at hreports
      cases hreports.2
    exact ⟨registry, round, by rw [hbuild], by rw [hrun], haccounts.forall₂_builders hfailed⟩
  · rw [run_of_build_error hbuild, hasErrors_append, Bool.or_eq_false_iff, hasErrors, hasErrors,
      List.any_cons, hreport.isError] at hreports
    cases hreports.2

/-- A round accounts for every aggregate and every fault exactly once.

The reports start with notes of the registry.  Either a provider stops the registry, whatever the aggregates
are; then its fault is the outcome, and the report of it is the last one and the only error.  Or every
aggregate gets its builder or is listed as failed, and behind the notes there is one error for each that
failed.  What is made of an aggregate does not depend on the other aggregates.  So some report is an error
just when the round stopped or some aggregate failed. -/
theorem run_accounts (settings : Settings) (declarations : Declarations) :
    (∃ notes, (∀ note ∈ notes, Registry.IsNote declarations.providers note) ∧
      ((∃ report fault, ∃ provider ∈ declarations.providers,
          report.Reports fault provider.package provider.name ∧
            ∀ aggregates, run settings { declarations with aggregates } =
              (notes ++ [report], .error fault)) ∨
        ∃ registry, Registry.build settings declarations.providers = (notes, .ok registry) ∧
          ∀ aggregates, ∃ round failures,
            run settings { declarations with aggregates } = (notes ++ failures, .ok round) ∧
              Accounts (·.generate registry declarations.enumerations) aggregates round failures)) ∧
      (hasErrors (run settings declarations).1 = true ↔
        (∃ fault, (run settings declarations).2 = .error fault) ∨
          ∃ round, (run settings declarations).2 = .ok round ∧ round.failed ≠ []) := by
  obtain ⟨notes, hnotes, ⟨registry, hbuild⟩ | ⟨report, fault, provider, hprovider, hreport, hbuild⟩⟩ :=
    Registry.build_reports settings declarations.providers
  · refine ⟨⟨notes, hnotes, .inr ⟨registry, hbuild, fun aggregates => ?_⟩⟩, ?_⟩
    · exact run_of_build_ok hbuild
    · obtain ⟨round, failures, hrun, haccounts⟩ := run_of_build_ok hbuild
      rw [hrun, hasErrors_append, hasErrors_of_notes hnotes, Bool.false_or, haccounts.hasErrors_iff]
      simp
  · refine ⟨⟨notes, hnotes, .inl ⟨report, fault, provider, hprovider, hreport, fun aggregates => ?_⟩⟩, ?_⟩
    · exact run_of_build_error hbuild
    · have herror : hasErrors (notes ++ [report]) = true := by
        rw [hasErrors_append, hasErrors_of_notes hnotes, Bool.false_or, hasErrors, List.any_cons,
          hreport.isError, Bool.true_or]
      rw [run_of_build_error hbuild]
      simp [herror]

end BuilderGen.Round

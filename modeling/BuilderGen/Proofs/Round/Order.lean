import BuilderGen.Proofs.Default.Distinct
import BuilderGen.Proofs.Round

/-!
# Rounds do not depend on the order of declarations

A round that completes makes a builder or a fault of every aggregate, by one function of the aggregate:
`Round.Completes` holds this function.  When the names of the declarations differ and the marked providers produce
different types, the same function serves every order of the providers, the enumerations and the aggregates, and
strict settings stop every order or none.
-/

namespace BuilderGen.Round

/-! ## Rounds that complete -/

/-- A round over declarations completes: the registry is built, a function says what is made of every aggregate,
and the round accounts for its aggregates by this function, behind the notes of the registry. -/
structure Completes (settings : Settings) (declarations : Declarations)
    (made : Aggregate → Except Fault Builder) (round : Round) : Prop where
  generated : ∃ registry, (Registry.build settings declarations.providers).2 = .ok registry ∧
    ∀ aggregate, made aggregate = aggregate.generate registry declarations.enumerations
  accounts : ∃ notes failures, run settings declarations = (notes ++ failures, .ok round) ∧
    (∀ note ∈ notes, Registry.IsNote declarations.providers note) ∧
    Accounts made declarations.aggregates round failures

section Completes

variable {settings : Settings} {declarations : Declarations}

/-- A round with a registry completes. -/
theorem completes_of_build {registry : Registry}
    (hbuild : (Registry.build settings declarations.providers).2 = .ok registry) :
    ∃ round, Completes settings declarations (·.generate registry declarations.enumerations) round := by
  obtain ⟨notes, hnotes, ⟨other, hok⟩ | ⟨report, fault, _, _, _, herror⟩⟩ :=
    Registry.build_reports settings declarations.providers
  · rw [hok] at hbuild
    cases hbuild
    obtain ⟨round, failures, hrun, haccounts⟩ := run_of_build_ok hok
    exact ⟨round, ⟨registry, by rw [hok], fun _ => rfl⟩, notes, failures, hrun, hnotes, haccounts⟩
  · rw [herror] at hbuild
    cases hbuild

/-- A round without a registry stops. -/
theorem run_eq_error {fault : Fault}
    (hbuild : (Registry.build settings declarations.providers).2 = .error fault) :
    (run settings declarations).2 = .error fault := by
  have hstop : Registry.build settings declarations.providers =
      ((Registry.build settings declarations.providers).1, .error fault) := by rw [← hbuild]
  rw [run_of_build_error hstop]

/-- Whether a round completes is decided by its registry. -/
theorem exists_completes_of_run {round : Round} (hrun : (run settings declarations).2 = .ok round) :
    ∃ registry, (Registry.build settings declarations.providers).2 = .ok registry ∧
      Completes settings declarations (·.generate registry declarations.enumerations) round := by
  cases hbuild : (Registry.build settings declarations.providers).2 with
  | error fault =>
      rw [run_eq_error hbuild] at hrun
      cases hrun
  | ok registry =>
      obtain ⟨other, hcompletes⟩ := completes_of_build hbuild
      obtain ⟨notes, failures, hother, _⟩ := hcompletes.accounts
      rw [hother] at hrun
      cases hrun
      exact ⟨registry, rfl, hcompletes⟩

/-- The builders of a round are those that are made of its aggregates, in their order. -/
theorem Accounts.builders_eq {made : Aggregate → Except Fault Builder} {aggregates : List Aggregate}
    {round : Round} {failures : List Diagnostic} (haccounts : Accounts made aggregates round failures) :
    round.builders = aggregates.filterMap fun aggregate => (made aggregate).toOption := by
  have hbuilders := haccounts.builders
  generalize round.builders = builders at hbuilders
  clear haccounts
  induction aggregates generalizing builders with
  | nil => exact List.forall₂_nil_left_iff.mp hbuilders
  | cons aggregate rest ih =>
      rw [List.filter_cons] at hbuilders
      cases hmade : made aggregate with
      | error fault =>
          rw [hmade, if_neg (by simp [Except.isOk, Except.toBool])] at hbuilders
          rw [List.filterMap_cons_none (by rw [hmade]; rfl)]
          exact ih builders hbuilders
      | ok builder =>
          have hok : (made aggregate).isOk = true := by rw [hmade]; rfl
          rw [if_pos hok, List.forall₂_cons_left_iff] at hbuilders
          obtain ⟨first, others, hfirst, hothers, rfl⟩ := hbuilders
          rw [hmade] at hfirst
          rw [List.filterMap_cons_some (by rw [hmade]; rfl), ← ih others hothers, Except.ok.inj hfirst]

end Completes

/-! ## Other orders -/

/-- Declarations in another order. -/
structure Reordered (first second : Declarations) : Prop where
  aggregates : first.aggregates.Perm second.aggregates
  providers : first.providers.Perm second.providers
  enumerations : first.enumerations.Perm second.enumerations

/-- No two providers and no two enumerations share a qualified name, and no two marked providers produce the
same type. -/
structure Distinct (declarations : Declarations) : Prop where
  providers : (declarations.providers.map Provider.qualifiedName).Nodup
  types : (Provider.registeredTypes declarations.providers).Nodup
  enumerations : (declarations.enumerations.map Enumeration.qualifiedName).Nodup

/-- The outcome of a round does not depend on the order of distinct declarations.  Either every order stops, or
both complete and the same function says what is made of each aggregate.  So the two rounds have the same builders
and the same failed aggregates, in the order of their aggregates. -/
theorem run_eq_of_reordered (settings : Settings) {first second : Declarations}
    (horder : Reordered first second) (hdistinct : Distinct first) :
    ((∃ fault, (run settings first).2 = .error fault) ∧ ∃ fault, (run settings second).2 = .error fault) ∨
      ∃ made round other, Completes settings first made round ∧ Completes settings second made other ∧
        round.builders.Perm other.builders ∧ round.failed.Perm other.failed := by
  have htypes : (Provider.registeredTypes second.providers).Nodup :=
    (((horder.providers.filter _).filterMap _).nodup_iff).mp hdistinct.types
  have hfirst := Registry.build_of_distinct settings hdistinct.types
  have hsecond := Registry.build_of_distinct settings htypes
  have haccepts := Registry.accepts_iff_of_perm settings horder.providers
  by_cases h : Registry.Accepts settings first.providers
  · right
    obtain ⟨round, hround⟩ := completes_of_build (hfirst.1 h)
    obtain ⟨other, hother⟩ := completes_of_build (hsecond.1 (haccepts.mp h))
    -- one function serves both orders, since every search finds the same in both
    have hmade : (·.generate (.ofDistinct second.providers) second.enumerations) =
        fun aggregate : Aggregate => aggregate.generate (.ofDistinct first.providers) first.enumerations :=
      funext fun aggregate => (Aggregate.generate_eq_of_perm horder.providers horder.enumerations
        hdistinct.providers hdistinct.types hdistinct.enumerations aggregate).symm
    rw [hmade] at hother
    obtain ⟨_, _, _, _, haccounts⟩ := hround.accounts
    obtain ⟨_, _, _, _, hothers⟩ := hother.accounts
    refine ⟨_, round, other, hround, hother, ?_, ?_⟩
    · rw [haccounts.builders_eq, hothers.builders_eq]
      exact horder.aggregates.filterMap _
    · rw [haccounts.failed, hothers.failed]
      exact (horder.aggregates.filter _).map _
  · left
    obtain ⟨fault, hfault⟩ := hfirst.2 h
    obtain ⟨other, hother⟩ := hsecond.2 fun hsecond => h (haccepts.mpr hsecond)
    exact ⟨⟨fault, run_eq_error hfault⟩, other, run_eq_error hother⟩

end BuilderGen.Round

namespace BuilderGen

/-- The declarations of the shop from the last to the first. -/
def Shop.backwards : Declarations where
  aggregates := declarations.aggregates.reverse
  providers := declarations.providers.reverse
  enumerations := declarations.enumerations.reverse

/-- The shop has the same builders forwards and backwards. -/
theorem Shop.run_backwards :
    ∃ made round other, Round.Completes {} declarations made round ∧
      Round.Completes {} backwards made other ∧ round.builders.Perm other.builders ∧
      round.failed.Perm other.failed := by
  have hcompletes : (Registry.build {} declarations.providers).2 =
      .ok (Registry.ofDistinct declarations.providers) := rfl
  have horder : Round.Reordered declarations backwards :=
    ⟨(List.reverse_perm _).symm, (List.reverse_perm _).symm, (List.reverse_perm _).symm⟩
  have hdistinct : Round.Distinct declarations := ⟨by decide, by decide, by decide⟩
  obtain ⟨round, hround⟩ := Round.completes_of_build hcompletes
  obtain ⟨_, _, hrun, _⟩ := hround.accounts
  rcases Round.run_eq_of_reordered {} horder hdistinct with ⟨⟨fault, hfault⟩, _⟩ | hboth
  · rw [hrun] at hfault
    cases hfault
  · exact hboth

end BuilderGen

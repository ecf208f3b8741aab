import BuilderGen.Proofs.Model.Candidates
import BuilderGen.Proofs.Round.Order

/-!
# Declarations that do not matter to an aggregate

Every struct of a round is a candidate for references, and a name that fits no path still counts when it is the
only one.  So a new declaration might change what an aggregate written elsewhere means.  It cannot, unless it has
the very name that a reference or a type of the aggregate ends in: with any other name it answers none of the
searches that the aggregate makes, and the aggregate gets the same builder or the same fault.
-/

namespace BuilderGen

open Segments

/-! ## Names that are sought -/

namespace Aggregate

/-- The names that the provider references of an aggregate end in. -/
def soughtProviders (aggregate : Aggregate) : List String :=
  (aggregate.allParameters.filterMap Parameter.reference?).map lastName

/-- The names that the types of an aggregate end in, where they may denote an enumeration. -/
def soughtEnumerations (aggregate : Aggregate) : List String :=
  (aggregate.allParameters.filter (·.seeksEnumeration)).filterMap (·.type.lastSegment?)

variable {aggregate : Aggregate} {parameter : Parameter}

theorem lastName_mem_soughtProviders (hparameter : parameter ∈ aggregate.allParameters) {reference : String}
    (hreference : parameter.reference? = some reference) : lastName reference ∈ aggregate.soughtProviders :=
  List.mem_map_of_mem (List.mem_filterMap.mpr ⟨parameter, hparameter, hreference⟩)

theorem lastName_mem_soughtEnumerations (hparameter : parameter ∈ aggregate.allParameters)
    (hseeks : parameter.seeksEnumeration = true) {path : String} (hpath : parameter.type.path? = some path) :
    lastName path ∈ aggregate.soughtEnumerations := by
  refine List.mem_filterMap.mpr ⟨parameter, List.mem_filter.mpr ⟨hparameter, hseeks⟩, ?_⟩
  rw [DeclaredType.lastSegment?, hpath]
  rfl

end Aggregate

/-! ## Searches -/

namespace Reference

/-- A provider of another name does not matter to a reference. -/
theorem provider?_insert_of_name_ne {provider : Provider} {reference : String}
    (hpackage : IsModule provider.package) (hname : IsName provider.name)
    (hreference : lastName reference ∉ moduleWords) (hne : provider.name ≠ lastName reference)
    (package : String) (before after : List Provider) :
    provider? (before ++ provider :: after) reference package =
      provider? (before ++ after) reference package := by
  refine provider?_insert (fun hcandidate => ?_) (fun hlast => ?_) before after
  · exact hne (lastName_of_mem_candidates hpackage hname hreference hcandidate).symm
  · have hsegment : IsSegment (last (bare reference)) := hlast ▸ hname.toIsSegment
    exact hne (hlast.trans (lastName_eq_of_last_bare hsegment).symm)

/-- An enumeration of another name does not matter to a type. -/
theorem enumeration?_insert_of_name_ne {enumeration : Enumeration} {type : DeclaredType}
    (hpackage : IsModule enumeration.package) (hname : IsName enumeration.name)
    (hpath : ∀ path, type.path? = some path →
      lastName path ∉ moduleWords ∧ enumeration.name ≠ lastName path)
    (package : String) (before after : List Enumeration) :
    enumeration? (before ++ enumeration :: after) type package =
      enumeration? (before ++ after) type package := by
  refine enumeration?_insert (fun path htype hcandidate => ?_) (fun path htype hwhole => ?_) before after
  · obtain ⟨hreference, hne⟩ := hpath path htype
    exact hne (lastName_of_mem_candidates hpackage hname hreference hcandidate).symm
  · have hcolon : ':' ∉ (bare path).toList := hwhole ▸ hname.colon
    have hlast := lastName_of_behind_bare (.inl rfl) hcolon
    rw [String.ofList_toList, ← hwhole, Text.trim_of_not_isBlank hname.blank] at hlast
    exact (hpath path htype).2 hlast.symm

end Reference

/-! ## Registries -/

namespace Registry

/-- A candidate without the marker enters nothing and causes no report. -/
theorem enterAll_insert_unmarked (settings : Settings) {provider : Provider} (hmarked : provider.marked = false)
    (entries : List (DeclaredType × Provider)) (before after : List Provider) :
    enterAll settings entries (before ++ provider :: after) = enterAll settings entries (before ++ after) := by
  induction before generalizing entries with
  | nil => rw [List.nil_append, List.nil_append, enterAll, hmarked, if_neg (by decide)]
  | cons first rest ih => simp only [List.cons_append, enterAll, ih]

/-- A candidate without the marker changes only the list of declared providers. -/
theorem build_insert_unmarked {settings : Settings} {provider : Provider} (hmarked : provider.marked = false)
    {before after : List Provider} {registry : Registry}
    (hbuild : (build settings (before ++ after)).2 = .ok registry) :
    registry.declared = before ++ after ∧ (build settings (before ++ provider :: after)).2 =
      .ok { registry with declared := before ++ provider :: after } := by
  rw [build] at hbuild ⊢
  obtain ⟨entries, hentries, rfl⟩ := map_eq_ok.mp hbuild
  dsimp only
  rw [enterAll_insert_unmarked settings hmarked, hentries]
  exact ⟨rfl, rfl⟩

end Registry

/-! ## Rounds -/

namespace Round

/-- Declarations with one more that has none of the names an aggregate seeks: an unmarked candidate for providers,
or an enumeration. -/
inductive Unrelated (aggregate : Aggregate) : Declarations → Declarations → Prop
  | provider {declarations : Declarations} {before after : List Provider} {provider : Provider}
      (hproviders : declarations.providers = before ++ after) (hmarked : provider.marked = false)
      (hpackage : IsModule provider.package) (hname : IsName provider.name)
      (hsought : provider.name ∉ aggregate.soughtProviders) :
      Unrelated aggregate declarations { declarations with providers := before ++ provider :: after }
  | enumeration {declarations : Declarations} {before after : List Enumeration} {enumeration : Enumeration}
      (henumerations : declarations.enumerations = before ++ after)
      (hpackage : IsModule enumeration.package) (hname : IsName enumeration.name)
      (hsought : enumeration.name ∉ aggregate.soughtEnumerations) :
      Unrelated aggregate declarations { declarations with enumerations := before ++ enumeration :: after }

/-- What is made of an aggregate does not change with an unrelated declaration, and the round still completes. -/
theorem run_eq_of_unrelated {settings : Settings} {first second : Declarations} {aggregate : Aggregate}
    (hproviders : ∀ name ∈ aggregate.soughtProviders, name ∉ moduleWords)
    (henumerations : ∀ name ∈ aggregate.soughtEnumerations, name ∉ moduleWords)
    (hunrelated : Unrelated aggregate first second) {round : Round}
    (hrun : (run settings first).2 = .ok round) :
    ∃ made madeOther other, Completes settings first made round ∧
      Completes settings second madeOther other ∧ made aggregate = madeOther aggregate := by
  obtain ⟨registry, hbuild, hcompletes⟩ := exists_completes_of_run hrun
  cases hunrelated with
  | @provider before after provider heq hmarked hpackage hname hsought =>
      rw [heq] at hbuild
      obtain ⟨hdeclared, hother⟩ := Registry.build_insert_unmarked hmarked hbuild
      obtain ⟨other, hcompletesOther⟩ :=
        @completes_of_build settings { first with providers := before ++ provider :: after } _ hother
      refine ⟨_, _, other, hcompletes, hcompletesOther, ?_⟩
      refine Aggregate.generate_eq_of_agreeOn fun parameter hparameter => ?_
      constructor
      case package => rfl
      case registered => exact fun _ => rfl
      case enumeration => exact fun _ => rfl
      case named =>
        intro reference hreference
        have hmem := Aggregate.lastName_mem_soughtProviders hparameter hreference
        have hne : provider.name ≠ lastName reference := fun hname => hsought (hname ▸ hmem)
        rw [Registry.resolve?, Registry.resolve?, hdeclared,
          Reference.provider?_insert_of_name_ne hpackage hname (hproviders _ hmem) hne]
  | @enumeration before after enumeration heq hpackage hname hsought =>
      obtain ⟨other, hcompletesOther⟩ :=
        @completes_of_build settings { first with enumerations := before ++ enumeration :: after } _ hbuild
      refine ⟨_, _, other, hcompletes, hcompletesOther, ?_⟩
      refine Aggregate.generate_eq_of_agreeOn fun parameter hparameter => ?_
      constructor
      case package => rfl
      case registered => exact fun _ => rfl
      case enumeration =>
        intro hseeks
        rw [heq, Reference.enumeration?_insert_of_name_ne hpackage hname]
        intro path hpath
        have hmem := Aggregate.lastName_mem_soughtEnumerations hparameter hseeks hpath
        exact ⟨henumerations _ hmem, fun hname => hsought (hname ▸ hmem)⟩
      case named => exact fun _ _ => rfl

end Round

/-- A candidate of the shop that nothing refers to. -/
def Shop.ledger : Provider where
  name := "Ledger"
  package := "books::yearly"
  form := .instantiable
  marked := false
  capabilities := [provides textType]

/-- A service is built as before when the ledger is declared between the other providers. -/
theorem Shop.service_beside_ledger :
    ∃ made madeOther round other, Round.Completes {} declarations made round ∧
      Round.Completes {} { declarations with providers := [names, ledger, ports, regions] } madeOther other ∧
      made service = madeOther service ∧ (made service).isOk = true := by
  have hbuild : (Registry.build {} declarations.providers).2 =
      .ok (Registry.ofDistinct declarations.providers) := rfl
  obtain ⟨round, hround⟩ := Round.completes_of_build hbuild
  obtain ⟨_, _, hrun, _⟩ := hround.accounts
  have hunrelated : Round.Unrelated service declarations
      { declarations with providers := [names, ledger, ports, regions] } :=
    @Round.Unrelated.provider _ _ [names] [ports, regions] ledger rfl rfl
      ⟨["books", "yearly"], by decide, by decide⟩ (by decide) (by decide)
  obtain ⟨made, madeOther, other, hfirst, hsecond, hmade⟩ :=
    Round.run_eq_of_unrelated (by decide) (by decide) hunrelated (congrArg Prod.snd hrun)
  refine ⟨made, madeOther, round, other, hfirst, hsecond, hmade, ?_⟩
  obtain ⟨registry, hregistry, hgenerate⟩ := hfirst.generated
  rw [hbuild] at hregistry
  rw [hgenerate, ← Except.ok.inj hregistry]
  decide

end BuilderGen

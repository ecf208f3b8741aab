import BuilderGen.Model.Reference
import BuilderGen.Proofs.Source.Order
import BuilderGen.Proofs.Text.LastSegment

/-!
# The path of an implementation

An implementation of a trait says by a path which provider it is for.  `Capability.Names` lists the ways in which
a path can name a provider: as a single name in the same module, as a reference that denotes the provider, or by
ending in its qualified name.

A capability goes to a provider that its path names, with one exception.  A struct of the module in which the
implementation stands also takes the capabilities of other structs of its name, because the path counts only up
to its last segment there.  `Capability.IsNamesake` is this exception, and `Reading.readFiles_names` says that
there is no other one.
-/

namespace BuilderGen

namespace Capability

variable {capability : Capability} {provider : Provider}

/-- The ways in which an implementation names a provider. -/
inductive Names (capability : Capability) (provider : Provider) : Prop where
  /-- The path is a single name, and the provider of this name stands in the same module. -/
  | single (hsingle : Segments.qualified capability.selfPath = false)
      (hname : capability.selfPath = provider.name) (hpackage : provider.package = capability.package)
  /-- As a reference in the module of the implementation, the path denotes the provider. -/
  | denoted (hcandidate : provider.qualifiedName ∈
      Reference.candidates (Segments.dropLeading capability.selfPath) capability.package)
  /-- The path ends in the qualified name of the provider. -/
  | ending (hends : EndsIn capability.selfPath provider.qualifiedName)

/-- A provider that has no more in common with the one that an implementation names than the last segment of the
path, but stands in the module of the implementation. -/
structure IsNamesake (capability : Capability) (provider : Provider) : Prop where
  qualified : Segments.qualified capability.selfPath = true
  name : Segments.last capability.selfPath = provider.name
  package : provider.package = capability.package
  unnamed : ¬capability.Names provider

/-- A provider that a capability belongs to is named by it, or is a namesake of the one that is. -/
theorem names_or_isNamesake (hbelongs : capability.belongsTo provider = true) :
    capability.Names provider ∨ capability.IsNamesake provider := by
  obtain ⟨hlast, hplace⟩ := belongsTo_iff.mp hbelongs
  by_cases hnames : capability.Names provider
  · exact .inl hnames
  · right
    rcases hplace with hpackage | ⟨_, hends⟩
    · cases hqualified : Segments.qualified capability.selfPath with
      | true => exact ⟨hqualified, hlast, hpackage, hnames⟩
      | false =>
          rw [Segments.last_of_not_qualified hqualified] at hlast
          exact absurd (.single hqualified hlast hpackage) hnames
    · exact absurd (.ending hends) hnames

end Capability

namespace Reading

open Capability (HeldBy)

/-- Whom capabilities are given to, whatever files are read and whether some of them are refused.

Every capability that a provider has comes from an implementation whose path names the provider, or that stands
in its module and has a path ending in its name.  A capability that waits is not even given to a provider of its
own module: none there has the name that its path ends in. -/
theorem readFiles_names (files : List Source.File) :
    let accepted := ((readFiles files).run {}).1
    let reading := ((readFiles files).run {}).2
    ∃ parts, (parts.flatten ++ reading.waiting).Perm (accepted.flatMap Source.File.implementations) ∧
      List.Forall₂ (fun (provider : Provider) held =>
          provider.capabilities = held.map Capability.type ∧
            ∀ capability ∈ held, capability.Names provider ∨ capability.IsNamesake provider)
        reading.declarations.providers parts ∧
      ∀ capability ∈ reading.waiting, ∀ provider ∈ reading.declarations.providers,
        Segments.last capability.selfPath = provider.name →
          provider.package ≠ capability.package ∧
            (Segments.qualified capability.selfPath = true →
              ¬Capability.EndsIn capability.selfPath provider.qualifiedName) := by
  intro accepted reading
  have hsound : reading.Sound _ := sound_empty.readFiles files
  obtain ⟨held, ⟨parts, hparts, hflatten⟩, hread⟩ := hsound.held
  refine ⟨parts, (hflatten.append_right _).trans hread, hparts.imp fun provider part hpart => ?_, ?_⟩
  · exact ⟨hpart.capabilities, fun capability hcapability =>
      Capability.names_or_isNamesake (hpart.belongs capability hcapability)⟩
  · intro capability hwaiting provider hprovider hlast
    have hhomeless := hsound.homeless capability hwaiting provider hprovider
    rw [← Bool.not_eq_true, Capability.belongsTo_iff] at hhomeless
    refine ⟨fun hpackage => hhomeless ⟨hlast, .inl hpackage⟩, fun hqualified hends => ?_⟩
    exact hhomeless ⟨hlast, .inr ⟨hqualified, hends⟩⟩

end Reading

/-! ## A namesake -/

namespace Shop

/-- A file with names of its own, which makes the names of the shop provide texts. -/
def ownNamesFile : Source.File where
  package := "texts"
  items := [unitStruct "Names", textProvider ["crate", "shop", "Names"]]

/-- The implementation in this file. -/
def shopTexts : Capability where
  package := "texts"
  selfPath := "crate::shop::Names"
  type := provides textType

/-- The names of the shop do not get the capability that is meant for them, and their namesake does. -/
theorem ownNames_take :
    let reading := ((Reading.readFiles [namesFile, ownNamesFile]).run {}).2
    [namesFile, ownNamesFile].flatMap Source.File.implementations = [shopTexts] ∧
      ∃ shopNames ownNames, reading.declarations.providers = [shopNames, ownNames] ∧
        shopNames.qualifiedName = "shop::Names" ∧ shopNames.capabilities = [] ∧
        ownNames.qualifiedName = "texts::Names" ∧ ownNames.capabilities = [shopTexts.type] ∧
        shopTexts.Names shopNames ∧ ¬shopTexts.Names ownNames := by
  refine ⟨rfl, _, _, rfl, rfl, rfl, rfl, rfl, .denoted (by decide +kernel), ?_⟩
  rintro (⟨hsingle, _, _⟩ | hcandidate | hends)
  · exact absurd hsingle (by decide)
  · exact absurd hcandidate (by decide +kernel)
  · exact absurd (Capability.endsIn_iff.mpr hends) (by decide +kernel)

end Shop

end BuilderGen

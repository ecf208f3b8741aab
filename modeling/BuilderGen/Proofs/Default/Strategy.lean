import BuilderGen.Proofs.Default.Registry
import BuilderGen.Proofs.Model.Lookup
import BuilderGen.Proofs.Model.Reference

/-!
# Why a strategy was chosen

What the choice of a strategy says about the parameter and the declarations.  A variant is the default of a type
that denotes an enumeration, `variant?_eq_some_iff`, and a reference gives the provider that it denotes,
`named_eq_ok_iff`.  An absent default needs a type that admits it.  A provider that was found by the type of a
parameter is also found by the reference that was written for it, so marking the parameter with that reference
changes nothing.
-/

namespace BuilderGen.Scope

variable {scope : Scope} {parameter : Parameter}

/-- The default of a type that denotes an enumeration, apart from its nullability: the variant at an end, written
behind the path of the type, and as a value that is there when the type admits an absent one. -/
inductive VariantDefault (enumerations : List Enumeration) (package : String) (type : DeclaredType)
    (position : VariantEnd) : Strategy → Prop
  | intro {enumeration : Enumeration} {name path : String} (hmem : enumeration ∈ enumerations)
      (hdenotes : Reference.enumeration? enumerations type.present package = some enumeration)
      (hvariant : enumeration.variant? position = some name) (hpath : type.path? = some path) :
      VariantDefault enumerations package type position
        (.variant name position
          (if type.nullable then "::core::option::Option::Some(" ++ (path ++ "::" ++ name) ++ ")"
          else path ++ "::" ++ name))

theorem variant?_eq_some_iff {type : DeclaredType} {position : VariantEnd} {strategy : Strategy} :
    scope.variant? type position = some strategy ↔
      VariantDefault scope.enumerations scope.package type position strategy := by
  unfold variant?
  simp only [Option.bind_eq_bind, Option.bind_eq_some_iff]
  constructor
  · rintro ⟨enumeration, hdenotes, name, hvariant, path, hpath, h⟩
    cases h
    exact .intro (Reference.mem_of_enumeration? hdenotes) hdenotes hvariant hpath
  · rintro ⟨-, hdenotes, hvariant, hpath⟩
    exact ⟨_, hdenotes, _, hvariant, _, hpath, rfl⟩

/-- A reference gives the provider that it denotes, if this one produces the type of the parameter. -/
theorem named_eq_ok_iff {reference : String} {strategy : Strategy} :
    scope.named parameter reference = .ok strategy ↔
      ∃ provider, scope.registry.resolve? reference scope.package = some provider ∧
        provider.produced? = some parameter.type ∧
        strategy = .provider (Text.trim reference) provider.isSingleton := by
  unfold named
  constructor
  · intro h
    split at h
    · cases h
    · rename_i provider hresolve
      split at h
      · cases h
      · rename_i produced hproduced
        split at h
        · rename_i htype
          cases h
          exact ⟨provider, hresolve, htype ▸ hproduced, rfl⟩
        · cases h
  · rintro ⟨provider, hresolve, hproduced, rfl⟩
    rw [hresolve]
    dsimp only
    rw [hproduced]
    dsimp only
    rw [if_pos rfl]

/-- Only a type that admits an absent value gets the absent value as its default. -/
theorem nullable_of_choose (h : scope.choose parameter = .ok .nullable) :
    parameter.type.nullable = true := by
  rw [choose] at h
  split at h
  · cases h
  · rw [infer] at h
    split at h
    · cases h
    · split at h
      · assumption
      · split at h
        · rename_i hvariant
          cases h
          cases variant?_eq_some_iff.mp hvariant
        · split at h <;> cases h
  · split at h
    · assumption
    · cases h
  · cases h
  · split at h
    · rename_i hvariant
      cases h
      cases variant?_eq_some_iff.mp hvariant
    · cases h
  · obtain ⟨_, _, _, hprovider⟩ := named_eq_ok_iff.mp h
    cases hprovider

/-- A provider is inferred from the registered provider of the type. -/
theorem infer_eq_provider {path : String} {singleton : Bool}
    (h : scope.infer parameter = .ok (.provider path singleton)) :
    ∃ provider, scope.registry.entry? parameter.type = some provider ∧
      path = Reference.relative scope.package provider.package provider.name ∧
      singleton = provider.isSingleton := by
  rw [infer] at h
  split at h
  · rename_i provider hentry
    cases h
    exact ⟨provider, hentry, rfl, rfl⟩
  · split at h
    · cases h
    · split at h
      · rename_i hvariant
        cases h
        cases variant?_eq_some_iff.mp hvariant
      · split at h <;> cases h

/-- When a provider is inferred, marking the parameter with the reference to it gives the same strategy.  The
reference leads from the module of the aggregate back to the provider that is registered for the type.  This
holds in every module, whatever the settings of the registry say, when the qualified names of the providers
differ and consist of names. -/
theorem choose_relative {settings : Settings} {providers : List Provider} {registry : Registry}
    (hbuild : (Registry.build settings providers).2 = .ok registry)
    (hqualified : (providers.map Provider.qualifiedName).Nodup)
    (hnames : ∀ provider ∈ providers,
      Segments.IsModule provider.package ∧ Segments.IsName provider.name)
    (enumerations : List Enumeration) (package : String) {path : String} {singleton : Bool}
    (hmarking : parameter.marking = .inferred)
    (hchoose : Scope.choose { registry, enumerations, package } parameter =
      .ok (.provider path singleton)) :
    Scope.choose { registry, enumerations, package } { parameter with marking := .provider path } =
        .ok (.provider path singleton) ∧
      ∃ provider ∈ providers, registry.entry? parameter.type = some provider ∧
        path = Reference.relative package provider.package provider.name ∧
        registry.resolve? path package = some provider ∧
        provider.produced? = some parameter.type := by
  rw [choose, hmarking] at hchoose
  obtain ⟨provider, hentry, hpath, hsingleton⟩ := infer_eq_provider hchoose
  obtain ⟨hprovider, hproduced⟩ := Registry.entry?_eq_some hbuild hentry
  obtain ⟨hpackage, hname⟩ := hnames provider hprovider
  have hresolve : registry.resolve? path package = some provider := by
    rw [Registry.resolve?, (Registry.build_eq_ok hbuild).1, hpath]
    exact Reference.provider?_relative hqualified hprovider hpackage hname package
  have htrim : Text.trim path = path := by
    rw [hpath]
    exact Reference.trim_relative hpackage hname package
  refine ⟨?_, provider, hprovider, hentry, hpath, hresolve, hproduced⟩
  rw [choose]
  dsimp only
  rw [named, hresolve]
  dsimp only
  rw [hproduced]
  dsimp only
  rw [if_pos rfl, htrim, hsingleton]

end BuilderGen.Scope

namespace BuilderGen

/-- From two modules below the root, the provider of names is reached by climbing twice. -/
theorem Shop.choose_names :
    Scope.choose { registry := Shop.nameRegistry, enumerations := [], package := "app::inner" }
        { name := "sender", type := Shop.textType, marking := .provider "super::super::Names" } =
      .ok (.provider "super::super::Names" true) := by
  have hnames : ∀ provider ∈ [Shop.names],
      Segments.IsModule provider.package ∧ Segments.IsName provider.name := by
    intro provider hprovider
    rw [List.mem_singleton.mp hprovider]
    exact ⟨⟨[], rfl, by simp⟩, by decide⟩
  have hchoose : Scope.choose
      { registry := Shop.nameRegistry, enumerations := [], package := "app::inner" }
      { name := "sender", type := Shop.textType, marking := .inferred } =
        .ok (.provider "super::super::Names" true) := rfl
  exact (Scope.choose_relative Shop.build_nameRegistry (by decide) hnames [] "app::inner" rfl hchoose).1

end BuilderGen

import BuilderGen.Proofs.Default.Agreement
import BuilderGen.Proofs.Model.Lookup

/-!
# Registries of distinct providers

Where the marked providers produce different types, nothing is ever replaced: the registry holds every marked
provider under its type, whatever the settings say about duplicates.  Building stops only on a marked provider
that produces nothing, and only when the settings are strict.  So neither the outcome nor the provider of a type
depends on the order of the declarations.
-/

namespace BuilderGen

/-- What a provider adds to a registry: itself under the type that it produces, if it is marked. -/
def Provider.registration? (provider : Provider) : Option (DeclaredType × Provider) :=
  if provider.marked then provider.produced?.map (·, provider) else none

/-- The types that the marked providers of a list produce. -/
def Provider.registeredTypes (providers : List Provider) : List DeclaredType :=
  (providers.filter (·.marked)).filterMap Provider.produced?

theorem Provider.map_fst_registrations (providers : List Provider) :
    (providers.filterMap registration?).map Prod.fst = registeredTypes providers := by
  induction providers with
  | nil => rfl
  | cons provider rest ih =>
      rw [registeredTypes] at ih ⊢
      rw [List.filterMap_cons, registration?]
      cases hmarked : provider.marked with
      | false => simpa [hmarked] using ih
      | true => cases hproduced : provider.produced? <;> simpa [hmarked, hproduced] using ih

namespace Registry

variable {settings : Settings} {entries : List (DeclaredType × Provider)} {providers : List Provider}

theorem put_of_notMem {type : DeclaredType} (hnew : type ∉ entries.map Prod.fst) (provider : Provider) :
    put type provider entries = entries ++ [(type, provider)] := by
  induction entries with
  | nil => rfl
  | cons entry rest ih =>
      rw [List.map_cons, List.mem_cons, not_or] at hnew
      rw [put, if_neg (Ne.symm hnew.1), ih hnew.2, List.cons_append]

/-- The settings accept a list of providers: when they are strict, every marked one produces something. -/
def Accepts (settings : Settings) (providers : List Provider) : Prop :=
  settings.strictness = .strict → ∀ provider ∈ providers, provider.marked = true → provider.produced? ≠ none

theorem accepts_iff_of_perm (settings : Settings) {others : List Provider} (hperm : providers.Perm others) :
    Accepts settings providers ↔ Accepts settings others := by
  simp only [Accepts, hperm.mem_iff]

/-! ## Entering providers -/

/-- A marked provider of a new type is put behind the others. -/
theorem enter_of_new {provider : Provider} {type : DeclaredType} (hproduced : provider.produced? = some type)
    (hnew : type ∉ entries.map Prod.fst) :
    (enter settings entries provider).entries = .ok (entries ++ [(type, provider)]) := by
  have hlookup : entries.lookup type = none := by
    refine List.lookup_eq_none_iff.mpr fun entry hentry => ?_
    refine bne_iff_ne.mpr fun heq => hnew ?_
    rw [heq]
    exact List.mem_map_of_mem hentry
  rw [enter, hproduced]
  dsimp only
  rw [hlookup, ← put_of_notMem hnew]

/-- A marked provider that produces nothing is passed over unless the settings are strict. -/
theorem enter_of_unproductive (settings : Settings) (entries : List (DeclaredType × Provider))
    {provider : Provider} (hproduced : provider.produced? = none) :
    (settings.strictness = .strict → ∃ fault, (enter settings entries provider).entries = .error fault) ∧
      (settings.strictness ≠ .strict → (enter settings entries provider).entries = .ok entries) := by
  rw [enter, hproduced]
  cases settings.strictness with
  | strict => exact ⟨fun _ => ⟨_, rfl⟩, fun hne => absurd rfl hne⟩
  | lenient => exact ⟨fun heq => (nomatch heq), fun _ => rfl⟩

/-- What an accepted provider registers under a new type is put behind the others, before the rest is entered. -/
theorem enterAll_cons_of_new {provider : Provider} (haccepts : Accepts settings (provider :: providers))
    (hnew : ∀ type, provider.registration? = some (type, provider) → type ∉ entries.map Prod.fst) :
    (enterAll settings entries (provider :: providers)).entries =
      (enterAll settings (entries ++ provider.registration?.toList) providers).entries := by
  rw [enterAll]
  cases hmarked : provider.marked with
  | false =>
      have hnothing : provider.registration? = none := by simp [Provider.registration?, hmarked]
      rw [if_neg (by decide), hnothing, Option.toList_none, List.append_nil]
  | true =>
      rw [if_pos rfl]
      dsimp only
      cases hproduced : provider.produced? with
      | none =>
          have hlenient : settings.strictness ≠ .strict := fun hstrict =>
            haccepts hstrict provider List.mem_cons_self hmarked hproduced
          have hnothing : provider.registration? = none := by simp [Provider.registration?, hproduced]
          rw [(enter_of_unproductive settings entries hproduced).2 hlenient, hnothing, Option.toList_none,
            List.append_nil]
      | some type =>
          have hregistration : provider.registration? = some (type, provider) := by
            simp [Provider.registration?, hmarked, hproduced]
          rw [enter_of_new hproduced (hnew type hregistration), hregistration, Option.toList_some]

/-- Where the types differ and the settings accept all providers, all are entered in order. -/
theorem enterAll_of_distinct (haccepts : Accepts settings providers)
    (hdistinct : (entries.map Prod.fst ++ Provider.registeredTypes providers).Nodup) :
    (enterAll settings entries providers).entries =
      .ok (entries ++ providers.filterMap Provider.registration?) := by
  rw [← Provider.map_fst_registrations, ← List.map_append] at hdistinct
  induction providers generalizing entries with
  | nil =>
      rw [List.filterMap_nil, List.append_nil]
      rfl
  | cons provider rest ih =>
      have hrest : Accepts settings rest := fun hstrict other hother =>
        haccepts hstrict other (List.mem_cons_of_mem provider hother)
      have hsplit : entries ++ (provider :: rest).filterMap Provider.registration? =
          entries ++ provider.registration?.toList ++ rest.filterMap Provider.registration? := by
        rw [List.append_assoc, List.filterMap_cons]
        cases provider.registration? <;> rfl
      rw [hsplit] at hdistinct ⊢
      have hnew : ∀ type, provider.registration? = some (type, provider) → type ∉ entries.map Prod.fst := by
        intro type hregistration hmem
        rw [hregistration, List.append_assoc, List.map_append] at hdistinct
        exact (List.nodup_append.mp hdistinct).2.2 type hmem type List.mem_cons_self rfl
      rw [enterAll_cons_of_new haccepts hnew]
      exact ih hrest hdistinct

/-- Strict settings stop on a marked provider that produces nothing, whatever else is declared. -/
theorem enterAll_of_not_accepts (entries : List (DeclaredType × Provider))
    (haccepts : ¬Accepts settings providers) :
    ∃ fault, (enterAll settings entries providers).entries = .error fault := by
  rw [Accepts] at haccepts
  push Not at haccepts
  obtain ⟨hstrict, offender, hoffender, hmarked, hproduced⟩ := haccepts
  induction providers generalizing entries with
  | nil => cases hoffender
  | cons provider rest ih =>
      rw [enterAll]
      rcases List.mem_cons.mp hoffender with rfl | hrest
      · obtain ⟨fault, hfault⟩ := (enter_of_unproductive settings entries hproduced).1 hstrict
        rw [if_pos hmarked]
        dsimp only
        rw [hfault]
        exact ⟨fault, rfl⟩
      · split
        · dsimp only
          cases hentries : (enter settings entries provider).entries with
          | error fault => exact ⟨fault, rfl⟩
          | ok next => exact ih next hrest
        · exact ih entries hrest

/-! ## Building -/

/-- The registry of every marked provider under its type. -/
def ofDistinct (providers : List Provider) : Registry where
  entries := providers.filterMap Provider.registration?
  declared := providers

/-- Where the marked providers produce different types, building either gives the registry of all of them or
stops, and it stops just when the settings do not accept them. -/
theorem build_of_distinct (settings : Settings)
    (hdistinct : (Provider.registeredTypes providers).Nodup) :
    (Accepts settings providers → (build settings providers).2 = .ok (ofDistinct providers)) ∧
      (¬Accepts settings providers → ∃ fault, (build settings providers).2 = .error fault) := by
  constructor
  · intro haccepts
    rw [build, enterAll_of_distinct haccepts (by simpa using hdistinct)]
    rfl
  · intro haccepts
    obtain ⟨fault, hfault⟩ := enterAll_of_not_accepts [] haccepts
    rw [build, hfault]
    exact ⟨fault, rfl⟩

/-- The provider of a type does not depend on the order of the declarations. -/
theorem entry?_ofDistinct_eq_of_perm {others : List Provider} (hperm : providers.Perm others)
    (hdistinct : (Provider.registeredTypes providers).Nodup) (type : DeclaredType) :
    entry? (ofDistinct providers) type = entry? (ofDistinct others) type := by
  refine lookup_eq_of_perm (hperm.filterMap Provider.registration?) ?_ type
  rwa [Provider.map_fst_registrations]

end Registry

/-- An aggregate gets the same builder, or the same fault, in whatever order distinct declarations come. -/
theorem Aggregate.generate_eq_of_perm {providers otherProviders : List Provider}
    {enumerations otherEnumerations : List Enumeration} (hproviders : providers.Perm otherProviders)
    (henumerations : enumerations.Perm otherEnumerations)
    (hnames : (providers.map Provider.qualifiedName).Nodup)
    (htypes : (Provider.registeredTypes providers).Nodup)
    (henumerationNames : (enumerations.map Enumeration.qualifiedName).Nodup) (aggregate : Aggregate) :
    aggregate.generate (.ofDistinct providers) enumerations =
      aggregate.generate (.ofDistinct otherProviders) otherEnumerations := by
  refine Aggregate.generate_eq_of_agreeOn fun parameter _ => ?_
  constructor
  case package => rfl
  case registered => exact fun _ => Registry.entry?_ofDistinct_eq_of_perm hproviders htypes _
  case enumeration => exact fun _ => Reference.enumeration?_eq_of_perm henumerations henumerationNames ..
  case named => exact fun reference _ => Reference.provider?_eq_of_perm hproviders hnames reference _

end BuilderGen

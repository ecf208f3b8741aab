import BuilderGen.Proofs.Default.Distinct
import BuilderGen.Proofs.Default.Registry
import Mathlib.Data.List.Dedup

/-!
# Registration in order

What building a registry comes to, said without entries.  The provider of a type is the last marked one that
produces it.  Whether building stops depends on two conditions on the providers that have been met so far, and
it stops at the first provider with which one of them comes true.  Until then there is one warning for every
marked provider that produces nothing and, if the settings ask for it, one for every marked provider that comes
behind another one of its type.

`Holds` is the invariant: entries hold a list of providers when every look-up finds the last one.
`enter_of_accepted` and `enter_of_refused` are the steps, `enterAll_of_accepted` and `enterAll_of_refused` the
runs.
-/

namespace BuilderGen

namespace Provider

variable {type : DeclaredType} {providers : List Provider}

/-- A capability with the right name and with one argument, the type. -/
def IsCapability (type capability : DeclaredType) : Prop :=
  capability.lastSegment? = some capabilityName ∧ capability.args = [type]

theorem producedBy?_eq_some_iff {capability : DeclaredType} :
    producedBy? capability = some type ↔ IsCapability type capability := by
  obtain ⟨head, args, nullable⟩ := capability
  unfold producedBy? IsCapability
  split
  · rename_i hname
    rcases args with _ | ⟨first, _ | ⟨second, rest⟩⟩
    · simp
    · simp [hname]
    · simp
  · rename_i hname
    simp [hname]

/-- A provider produces the argument of its first fitting capability. -/
theorem produced?_eq_some_iff {provider : Provider} :
    provider.produced? = some type ↔
      ∃ front capability back, provider.capabilities = front ++ capability :: back ∧
        IsCapability type capability ∧ ∀ other ∈ front, ∀ type, ¬IsCapability type other := by
  simp only [produced?, List.findSome?_eq_some_iff, producedBy?_eq_some_iff, Option.eq_none_iff_forall_ne_some,
    ne_eq]

/-- Whether a provider is marked and produces a type. -/
def isMarkedFor (type : DeclaredType) (provider : Provider) : Bool :=
  provider.marked && decide (provider.produced? = some type)

/-- The last provider that is marked and produces a type. -/
def lastFor? (providers : List Provider) (type : DeclaredType) : Option Provider :=
  providers.reverse.find? (isMarkedFor type)

theorem lastFor?_concat (provider : Provider) :
    lastFor? (providers ++ [provider]) type =
      if provider.isMarkedFor type then some provider else lastFor? providers type := by
  rw [lastFor?, List.reverse_append, List.reverse_singleton, List.singleton_append, List.find?_cons]
  split
  · rename_i hmarked
    rw [hmarked, if_pos rfl]
  · rename_i hmarked
    rw [hmarked, if_neg Bool.false_ne_true, lastFor?]

theorem registeredTypes_concat (provider : Provider) :
    registeredTypes (providers ++ [provider]) =
      registeredTypes providers ++ (if provider.marked then provider.produced?.toList else []) := by
  rw [registeredTypes, List.filter_append, List.filterMap_append, registeredTypes]
  cases hmarked : provider.marked with
  | false => simp [hmarked]
  | true => cases hproduced : provider.produced? <;> simp [hmarked, hproduced]

theorem mem_registeredTypes_iff : type ∈ registeredTypes providers ↔ lastFor? providers type ≠ none := by
  simp [registeredTypes, lastFor?, isMarkedFor, and_assoc]

end Provider

namespace Registry

open Provider (lastFor? registeredTypes)

variable {settings : Settings} {before front providers : List Provider} {provider : Provider}
  {entries : List (DeclaredType × Provider)}

/-! ## What is reported -/

/-- What is wrong with a marked provider behind others: it produces nothing, or what the last one of them
does. -/
def fault? (before : List Provider) (provider : Provider) : Option Fault :=
  match provider.produced? with
  | none => some (.notProvider provider.qualifiedName Provider.missingCapability)
  | some type =>
      (lastFor? before type).map fun rival =>
        .duplicateProvider type.display rival.qualifiedName provider.qualifiedName

/-- The warning about a marked provider behind others. -/
def note? (settings : Settings) (before : List Provider) (provider : Provider) : Option Diagnostic :=
  match provider.produced? with
  | none =>
      let fault := Fault.notProvider provider.qualifiedName Provider.missingCapability
      some (.ofWarning fault.message provider.package provider.name)
  | some type =>
      if settings.duplicates = .warn then
        (lastFor? before type).map fun rival =>
          let fault := Fault.duplicateProvider type.display rival.qualifiedName provider.qualifiedName
          .ofWarning (fault.message ++ "; using " ++ provider.qualifiedName) provider.package provider.name
      else
        none

/-- The warnings about the marked ones among providers that come behind others. -/
def notesBehind (settings : Settings) (before : List Provider) : List Provider → List Diagnostic
  | [] => []
  | provider :: rest =>
      (if provider.marked then (note? settings before provider).toList else [])
        ++ notesBehind settings (before ++ [provider]) rest

/-- Settings refuse providers when they are strict and some marked provider produces nothing, or when they
forbid two marked providers of one type and there are such. -/
def Refuses (settings : Settings) (providers : List Provider) : Prop :=
  (settings.strictness = .strict ∧ ∃ provider ∈ providers, provider.marked = true ∧ provider.produced? = none) ∨
    (settings.duplicates = .error ∧ ¬(registeredTypes providers).Nodup)

/-- A provider is refused behind accepted ones when it is marked and something is wrong with it that the settings
do not let pass. -/
theorem refuses_concat_iff (haccepted : ¬Refuses settings before) :
    Refuses settings (before ++ [provider]) ↔
      provider.marked = true ∧
        ((settings.strictness = .strict ∧ provider.produced? = none) ∨
          (settings.duplicates = .error ∧ ∃ type rival, provider.produced? = some type ∧
            lastFor? before type = some rival)) := by
  rw [Refuses, not_or, not_and, not_and, not_not] at haccepted
  obtain ⟨hproductive, hdistinct⟩ := haccepted
  rw [Refuses, Provider.registeredTypes_concat]
  cases hmarked : provider.marked with
  | false => grind
  | true =>
      cases hproduced : provider.produced? with
      | none => grind
      | some type =>
          have hmem := @Provider.mem_registeredTypes_iff type before
          rw [← Option.isSome_iff_ne_none, Option.isSome_iff_exists] at hmem
          simp only [List.nodup_append]
          grind

/-- Where providers are refused, some provider is the first with which they are. -/
theorem exists_first_refused (h : Refuses settings providers) :
    ∃ before provider after, providers = before ++ provider :: after ∧ ¬Refuses settings before ∧
      Refuses settings (before ++ [provider]) := by
  have hnil : ¬Refuses settings [] := by simp [Refuses, registeredTypes]
  obtain ⟨before, provider, after, hsplit, hbefore, hrefused⟩ :=
    (holds_or_fails_first (fun list => ¬Refuses settings list) hnil providers).resolve_left (not_not.mpr h)
  exact ⟨before, provider, after, hsplit, hbefore, not_not.mp hrefused⟩

/-! ## Entering providers -/

/-- Entries hold providers when every look-up finds the last provider of a type, and no type is repeated. -/
structure Holds (providers : List Provider) (entries : List (DeclaredType × Provider)) : Prop where
  lookup : ∀ type, entries.lookup type = lastFor? providers type
  nodup : (entries.map Prod.fst).Nodup

theorem holds_nil : Holds [] [] :=
  ⟨fun _ => rfl, List.nodup_nil⟩

theorem lookup_cons_of_ne {type other : DeclaredType} (hother : other ≠ type) (provider : Provider) :
    ((type, provider) :: entries).lookup other = entries.lookup other := by
  rw [List.lookup_cons, beq_eq_false_iff_ne.mpr hother]

/-- A provider that is put under a type is found there, and nowhere else. -/
theorem lookup_put (type other : DeclaredType) (provider : Provider) :
    (put type provider entries).lookup other = if other = type then some provider else entries.lookup other := by
  by_cases hother : other = type
  · subst hother
    rw [if_pos rfl]
    induction entries with
    | nil => exact List.lookup_cons_self
    | cons entry rest ih =>
        unfold put
        split
        · exact List.lookup_cons_self
        · rename_i hfound
          rwa [lookup_cons_of_ne (Ne.symm hfound)]
  · rw [if_neg hother]
    induction entries with
    | nil => exact lookup_cons_of_ne hother provider
    | cons entry rest ih =>
        unfold put
        split
        · rename_i hfound
          rw [lookup_cons_of_ne hother, ← lookup_cons_of_ne (hfound ▸ hother) entry.2]
        · rw [List.lookup_cons, List.lookup_cons, ih]

theorem map_fst_put (type : DeclaredType) (provider : Provider) :
    (put type provider entries).map Prod.fst =
      if type ∈ entries.map Prod.fst then entries.map Prod.fst else entries.map Prod.fst ++ [type] := by
  induction entries with
  | nil => rfl
  | cons entry rest ih =>
      unfold put
      split
      · rename_i hfound
        rw [List.map_cons, List.map_cons, ← hfound, if_pos List.mem_cons_self]
      · rename_i hfound
        rw [List.map_cons, ih, List.map_cons]
        by_cases hmem : type ∈ rest.map Prod.fst
        · rw [if_pos hmem, if_pos (List.mem_cons_of_mem _ hmem)]
        · rw [if_neg hmem, if_neg fun h => hmem ((List.mem_cons.mp h).resolve_left (Ne.symm hfound)),
            List.cons_append]

/-- A marked provider that is put under its type is the last one from then on. -/
theorem Holds.put (hholds : Holds before entries) (hmarked : provider.marked = true) {type : DeclaredType}
    (hproduced : provider.produced? = some type) : Holds (before ++ [provider]) (put type provider entries) := by
  constructor
  · intro other
    rw [lookup_put, Provider.lastFor?_concat, hholds.lookup, Provider.isMarkedFor, hmarked, hproduced]
    simp [eq_comm]
  · rw [map_fst_put]
    split
    · exact hholds.nodup
    · rename_i hnew
      exact List.nodup_append.mpr ⟨hholds.nodup, List.nodup_singleton _, by grind⟩

/-- A provider that is passed over changes nothing. -/
theorem Holds.pass (hholds : Holds before entries)
    (hpassed : provider.marked = false ∨ provider.produced? = none) : Holds (before ++ [provider]) entries := by
  refine ⟨fun type => ?_, hholds.nodup⟩
  have hnone : provider.isMarkedFor type = false := by
    rcases hpassed with hmarked | hproduced
    · simp [Provider.isMarkedFor, hmarked]
    · simp [Provider.isMarkedFor, hproduced]
  rw [Provider.lastFor?_concat, hnone, if_neg Bool.false_ne_true, hholds.lookup]

/-- A marked provider that is accepted is entered, and the warning about it is given. -/
theorem enter_of_accepted (hholds : Holds before entries) (hmarked : provider.marked = true)
    (hbefore : ¬Refuses settings before) (haccepted : ¬Refuses settings (before ++ [provider])) :
    ∃ next, enter settings entries provider = ⟨(note? settings before provider).toList, .ok next⟩ ∧
      Holds (before ++ [provider]) next := by
  rw [refuses_concat_iff hbefore, not_and] at haccepted
  have hpermitted := not_or.mp (haccepted hmarked)
  rw [enter, note?]
  cases hproduced : provider.produced? with
  | none =>
      have hlenient : settings.strictness = .lenient := by
        cases hstrictness : settings.strictness with
        | lenient => rfl
        | strict => exact absurd ⟨hstrictness, hproduced⟩ hpermitted.1
      dsimp only
      rw [hlenient]
      exact ⟨entries, rfl, hholds.pass (.inr hproduced)⟩
  | some type =>
      have hput := hholds.put hmarked hproduced
      dsimp only
      rw [hholds.lookup]
      cases hrival : lastFor? before type with
      | none =>
          dsimp only
          split <;> exact ⟨_, rfl, hput⟩
      | some rival =>
          cases hpolicy : settings.duplicates with
          | error => exact absurd ⟨hpolicy, type, rival, hproduced, hrival⟩ hpermitted.2
          | warn => exact ⟨_, rfl, hput⟩
          | lastWins => exact ⟨_, rfl, hput⟩

/-- A provider that is refused behind accepted ones stops building with its fault. -/
theorem enter_of_refused (hholds : Holds before entries) (hbefore : ¬Refuses settings before)
    (hrefused : Refuses settings (before ++ [provider])) :
    provider.marked = true ∧ ∃ fault, fault? before provider = some fault ∧
      enter settings entries provider = ⟨[.ofFault fault provider.package provider.name], .error fault⟩ := by
  obtain ⟨hmarked, hcase⟩ := (refuses_concat_iff hbefore).mp hrefused
  refine ⟨hmarked, ?_⟩
  rw [enter, fault?]
  rcases hcase with ⟨hstrict, hproduced⟩ | ⟨hpolicy, type, rival, hproduced, hrival⟩
  · rw [hproduced, hstrict]
    exact ⟨_, rfl, rfl⟩
  · rw [hproduced]
    dsimp only
    rw [hholds.lookup, hrival, hpolicy]
    exact ⟨_, rfl, rfl⟩

theorem refuses_append (more : List Provider) (h : Refuses settings before) : Refuses settings (before ++ more) := by
  rcases h with ⟨hstrict, offender, hoffender, hproduced⟩ | ⟨hpolicy, hrepeated⟩
  · exact .inl ⟨hstrict, offender, List.mem_append_left more hoffender, hproduced⟩
  · refine .inr ⟨hpolicy, fun hnodup => hrepeated ?_⟩
    rw [registeredTypes, List.filter_append, List.filterMap_append] at hnodup
    exact hnodup.of_append_left

/-- Accepted providers are entered one by one, with the warnings about them. -/
theorem enterAll_of_accepted (hholds : Holds before entries) (haccepted : ¬Refuses settings (before ++ providers)) :
    ∃ next, enterAll settings entries providers = ⟨notesBehind settings before providers, .ok next⟩ ∧
      Holds (before ++ providers) next := by
  induction providers generalizing before entries with
  | nil => exact ⟨entries, rfl, by rwa [List.append_nil]⟩
  | cons provider rest ih =>
      have hsplit : before ++ provider :: rest = before ++ [provider] ++ rest := by simp
      rw [hsplit] at haccepted ⊢
      have hbefore : ¬Refuses settings before := fun h => haccepted (refuses_append rest (refuses_append _ h))
      have hprovider : ¬Refuses settings (before ++ [provider]) := fun h => haccepted (refuses_append rest h)
      rw [enterAll, notesBehind]
      cases hmarked : provider.marked with
      | false => exact ih (hholds.pass (.inl hmarked)) haccepted
      | true =>
          obtain ⟨next, hstep, hnext⟩ := enter_of_accepted hholds hmarked hbefore hprovider
          obtain ⟨final, hrun, hfinal⟩ := ih hnext haccepted
          rw [hstep]
          dsimp only
          rw [hrun]
          exact ⟨final, rfl, hfinal⟩

/-- Entering goes on behind providers that were entered. -/
theorem enterAll_append {next : List (DeclaredType × Provider)} {notes : List Diagnostic}
    (hfront : enterAll settings entries front = ⟨notes, .ok next⟩) (back : List Provider) :
    enterAll settings entries (front ++ back) =
      ⟨notes ++ (enterAll settings next back).reports, (enterAll settings next back).entries⟩ := by
  induction front generalizing entries notes with
  | nil =>
      cases hfront
      rfl
  | cons provider rest ih =>
      rw [List.cons_append, enterAll]
      rw [enterAll] at hfront
      split at hfront
      · rename_i hmarked
        rw [if_pos hmarked]
        dsimp only at hfront ⊢
        split at hfront
        · cases hfront
        · rename_i middle hmiddle
          obtain ⟨rfl, hentries⟩ := Step.mk.inj hfront
          have hrest : enterAll settings middle rest = ⟨(enterAll settings middle rest).reports, .ok next⟩ := by
            rw [← hentries]
          rw [ih hrest, List.append_assoc]
      · rename_i hmarked
        rw [if_neg hmarked]
        exact ih hfront

/-- Entering stops at the first provider that is refused, with the warnings about those before it and the error
about it. -/
theorem enterAll_of_refused (hbefore : ¬Refuses settings before)
    (hrefused : Refuses settings (before ++ [provider])) (after : List Provider) :
    provider.marked = true ∧ ∃ fault, fault? before provider = some fault ∧
      enterAll settings [] (before ++ provider :: after) =
        ⟨notesBehind settings [] before ++ [.ofFault fault provider.package provider.name], .error fault⟩ := by
  have haccepted : ¬Refuses settings ([] ++ before) := hbefore
  obtain ⟨next, hfront, hnext⟩ := enterAll_of_accepted holds_nil haccepted
  obtain ⟨hmarked, fault, hfault, hstep⟩ := enter_of_refused hnext hbefore hrefused
  refine ⟨hmarked, fault, hfault, ?_⟩
  rw [enterAll_append hfront, enterAll, if_pos hmarked, hstep]

/-! ## Building -/

/-- The number of entries is the number of types. -/
theorem Holds.length (hholds : Holds providers entries) :
    entries.length = (registeredTypes providers).dedup.length := by
  have hsame : ∀ type, type ∈ entries.map Prod.fst ↔ type ∈ (registeredTypes providers).dedup := by
    intro type
    rw [List.mem_dedup, Provider.mem_registeredTypes_iff, ← hholds.lookup, ne_eq, List.lookup_eq_none_iff]
    simp
  have hperm := (List.perm_ext_iff_of_nodup hholds.nodup (List.nodup_dedup _)).mpr hsame
  rw [← hperm.length_eq, List.length_map]

/-- A registry that was built holds the providers it was built from. -/
theorem holds_of_build {registry : Registry} (hbuild : (build settings providers).2 = .ok registry) :
    Holds providers registry.entries := by
  by_cases hrefused : Refuses settings providers
  · obtain ⟨before, provider, after, rfl, hbefore, hfirst⟩ := exists_first_refused hrefused
    obtain ⟨_, fault, _, hrun⟩ := enterAll_of_refused hbefore hfirst after
    rw [build, hrun] at hbuild
    cases hbuild
  · have haccepted : ¬Refuses settings ([] ++ providers) := hrefused
    obtain ⟨entries, hrun, hholds⟩ := enterAll_of_accepted holds_nil haccepted
    rw [build, hrun] at hbuild
    cases hbuild
    exact hholds

/-- What building a registry does.

A provider produces the argument of its first fitting capability.  Building fails just when the settings refuse the
providers.  Then it fails at the first provider with which they do, with the fault of this provider, after the
warnings about those before it.  Otherwise the provider that is registered for a type is the last marked one that
produces it, the size is the number of produced types, and the warnings are those about all providers, in order. -/
theorem build_registers (settings : Settings) (providers : List Provider) :
    (∀ provider type, Provider.produced? provider = some type ↔
        ∃ front capability back, provider.capabilities = front ++ capability :: back ∧
          Provider.IsCapability type capability ∧ ∀ other ∈ front, ∀ type, ¬Provider.IsCapability type other) ∧
      ((∃ fault, (build settings providers).2 = .error fault) ↔ Refuses settings providers) ∧
      (∀ fault, (build settings providers).2 = .error fault →
        ∃ before provider after, providers = before ++ provider :: after ∧ ¬Refuses settings before ∧
          Refuses settings (before ++ [provider]) ∧ provider.marked = true ∧ fault? before provider = some fault ∧
          (build settings providers).1 =
            notesBehind settings [] before ++ [.ofFault fault provider.package provider.name]) ∧
      ∀ registry, (build settings providers).2 = .ok registry →
        (∀ type, registry.entry? type = lastFor? providers type) ∧
          (∀ type provider, registry.entry? type = some provider →
            (provider.isSingleton = true ↔ provider.form = .singleton)) ∧
          registry.size = (registeredTypes providers).dedup.length ∧
          (build settings providers).1 = notesBehind settings [] providers := by
  refine ⟨fun _ _ => Provider.produced?_eq_some_iff, ?_⟩
  by_cases hrefused : Refuses settings providers
  · obtain ⟨before, provider, after, rfl, hbefore, hfirst⟩ := exists_first_refused hrefused
    obtain ⟨hmarked, fault, hfault, hrun⟩ := enterAll_of_refused hbefore hfirst after
    rw [build, hrun]
    refine ⟨⟨fun _ => hrefused, fun _ => ⟨fault, rfl⟩⟩, fun found hfound => ?_, fun registry hregistry => ?_⟩
    · cases hfound
      exact ⟨before, provider, after, rfl, hbefore, hfirst, hmarked, hfault, rfl⟩
    · cases hregistry
  · have haccepted : ¬Refuses settings ([] ++ providers) := hrefused
    obtain ⟨entries, hrun, hholds⟩ := enterAll_of_accepted holds_nil haccepted
    rw [build, hrun]
    refine ⟨⟨fun hfails => ?_, fun h => absurd h hrefused⟩, fun fault hfault => ?_, fun registry hregistry => ?_⟩
    · obtain ⟨fault, hfault⟩ := hfails
      cases hfault
    · cases hfault
    · cases hregistry
      exact ⟨hholds.lookup, fun _ _ _ => decide_eq_true_iff, hholds.length, rfl⟩

end Registry

/-! ## A sample -/

namespace Shop

/-- A second provider of names. -/
def nicknames : Provider :=
  { names with name := "Nicknames" }

/-- A marked provider that provides nothing. -/
def shelf : Provider :=
  { names with name := "Shelf", capabilities := [] }

/-- The nicknames replace the names, unless the settings forbid it. -/
theorem nicknames_registered :
    (∃ registry, (Registry.build {} [names, shelf, nicknames]).2 = .ok registry ∧
        registry.entry? textType = some nicknames ∧ registry.size = 1) ∧
      Registry.Refuses { duplicates := .error } [names, shelf, nicknames] := by
  obtain ⟨-, -, -, hbuilt⟩ := Registry.build_registers {} [names, shelf, nicknames]
  obtain ⟨-, hfails, -, -⟩ := Registry.build_registers { duplicates := .error } [names, shelf, nicknames]
  obtain ⟨hentry, -, hsize, -⟩ := hbuilt _ rfl
  refine ⟨⟨_, rfl, ?_, ?_⟩, hfails.mp ⟨_, rfl⟩⟩
  · rw [hentry]
    rfl
  · rw [hsize]
    rfl

end Shop

end BuilderGen

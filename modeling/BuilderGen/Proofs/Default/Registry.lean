import BuilderGen.Execution.Shop
import BuilderGen.Proofs.Success

/-!
# What a registry holds

Entering providers keeps one invariant: every entry is a declared provider under the type that it produces.
It holds whatever the settings say about providers that do not fit, and about two providers of one type.
-/

namespace BuilderGen

namespace Registry

/-- Every entry is one of these providers, under the type that it produces. -/
def Sound (providers : List Provider) (entries : List (DeclaredType × Provider)) : Prop :=
  ∀ entry ∈ entries, entry.2 ∈ providers ∧ entry.2.produced? = some entry.1

section Sound

variable {providers : List Provider} {entries : List (DeclaredType × Provider)}

theorem Sound.put (hsound : Sound providers entries) {type : DeclaredType} {provider : Provider}
    (hprovider : provider ∈ providers) (hproduced : provider.produced? = some type) :
    Sound providers (put type provider entries) := by
  induction entries with
  | nil =>
      intro entry hentry
      rw [List.mem_singleton.mp hentry]
      exact ⟨hprovider, hproduced⟩
  | cons first rest ih =>
      obtain ⟨hfirst, hrest⟩ := List.forall_mem_cons.mp hsound
      unfold Registry.put
      split
      · exact List.forall_mem_cons.mpr ⟨⟨hprovider, hproduced⟩, hrest⟩
      · exact List.forall_mem_cons.mpr ⟨hfirst, ih hrest⟩

/-- Entering one provider keeps the entries sound. -/
theorem Sound.enter (hsound : Sound providers entries) {settings : Settings} {provider : Provider}
    (hprovider : provider ∈ providers) {entered : List (DeclaredType × Provider)}
    (h : (enter settings entries provider).entries = .ok entered) : Sound providers entered := by
  unfold Registry.enter at h
  cases hproduced : provider.produced? with
  | none =>
      rw [hproduced] at h
      cases hstrictness : settings.strictness <;> rw [hstrictness] at h <;> cases h
      exact hsound
  | some type =>
      have hput := hsound.put hprovider hproduced
      rw [hproduced] at h
      dsimp only at h
      split at h
      · cases h
        exact hput
      · split at h <;> cases h
        · exact hput
        · exact hput

/-- Entering the marked providers of a list one by one keeps the entries sound. -/
theorem Sound.enterAll (hsound : Sound providers entries) {settings : Settings} {list : List Provider}
    (hlist : list ⊆ providers) {entered : List (DeclaredType × Provider)}
    (h : (enterAll settings entries list).entries = .ok entered) : Sound providers entered := by
  induction list generalizing entries with
  | nil =>
      cases h
      exact hsound
  | cons provider rest ih =>
      obtain ⟨hprovider, hrest⟩ := List.cons_subset.mp hlist
      unfold Registry.enterAll at h
      split at h
      · dsimp only at h
        split at h
        · cases h
        · rename_i next hnext
          exact ih (hsound.enter hprovider hnext) hrest h
      · exact ih hsound hrest h

end Sound

/-- A registry that was built declares the providers it was built from, and its entries are sound. -/
theorem build_eq_ok {settings : Settings} {providers : List Provider} {registry : Registry}
    (h : (build settings providers).2 = .ok registry) :
    registry.declared = providers ∧ Sound providers registry.entries := by
  obtain ⟨entries, hentries, rfl⟩ := map_eq_ok.mp h
  have hempty : Sound providers [] := by
    intro entry hentry
    cases hentry
  exact ⟨rfl, hempty.enterAll (List.Subset.refl providers) hentries⟩

/-- The provider that is registered for a type is a declared one that produces the type. -/
theorem entry?_eq_some {settings : Settings} {providers : List Provider} {registry : Registry}
    (hbuild : (build settings providers).2 = .ok registry) {type : DeclaredType} {provider : Provider}
    (hentry : registry.entry? type = some provider) :
    provider ∈ providers ∧ provider.produced? = some type := by
  obtain ⟨before, after, hentries, _⟩ := List.lookup_eq_some_iff.mp hentry
  refine (build_eq_ok hbuild).2 (type, provider) ?_
  rw [hentries]
  exact List.mem_append_right before List.mem_cons_self

end Registry

/-- The registry of the provider of names. -/
def Shop.nameRegistry : Registry where
  entries := [(textType, names)]
  declared := [names]

theorem Shop.build_nameRegistry : (Registry.build {} [names]).2 = .ok nameRegistry := rfl

end BuilderGen

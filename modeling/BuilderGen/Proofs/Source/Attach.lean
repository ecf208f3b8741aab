import BuilderGen.Source.Reading
import Mathlib.Data.List.Forall2
import Mathlib.Data.List.Perm.Basic

/-!
# Giving capabilities to providers

One invariant carries everything that is said about capabilities.  `Held` pairs every provider with the
implementations that its capabilities come from, and `attachAll` moves implementations from the waiting list
to these parts.  So nothing is lost or given twice, and what waits in the end belongs to no provider.

Whether an implementation belongs to a provider depends on what the provider is, never on what it already
has.  `Provider.bare` is a provider without its capabilities.
-/

namespace BuilderGen

/-- A provider as it is declared, without capabilities. -/
def Provider.bare (provider : Provider) : Provider :=
  { provider with capabilities := [] }

namespace Capability

variable {capability : Capability} {provider : Provider} {providers after : List Provider}
  {held : List Capability}

/-- The provider with one more capability. -/
def giveTo (capability : Capability) (provider : Provider) : Provider :=
  { provider with capabilities := provider.capabilities ++ [capability.type] }

@[simp] theorem bare_giveTo : (capability.giveTo provider).bare = provider.bare :=
  rfl

@[simp] theorem belongsTo_bare : capability.belongsTo provider.bare = capability.belongsTo provider :=
  rfl

/-- Whether a path is a qualified name, possibly with more segments in front of it. -/
def EndsIn (path qualified : String) : Prop :=
  path = qualified ∨ ∃ front, path = front ++ "::" ++ qualified

theorem endsIn_iff {path qualified : String} : endsIn path qualified = true ↔ EndsIn path qualified := by
  rw [endsIn, Bool.or_eq_true, beq_iff_eq, List.isSuffixOf_iff_suffix]
  refine or_congr_right ⟨?_, ?_⟩
  · rintro ⟨front, hfront⟩
    refine ⟨String.ofList front, String.toList_injective ?_⟩
    rw [← hfront, String.append_assoc, String.toList_append (s := String.ofList front), String.toList_ofList]
  · rintro ⟨front, rfl⟩
    exact ⟨front.toList, by rw [String.append_assoc, String.toList_append (s := front)]⟩

/-- The rule by which an implementation is one of a provider's.  The path ends in the name of the provider.  Besides,
the implementation stands in the module of the provider, or the path ends in the qualified name and is no single
name. -/
def Matches (capability : Capability) (provider : Provider) : Prop :=
  Segments.last capability.selfPath = provider.name ∧ (provider.package = capability.package ∨
    Segments.qualified capability.selfPath = true ∧ EndsIn capability.selfPath provider.qualifiedName)

theorem belongsTo_iff : capability.belongsTo provider = true ↔ capability.Matches provider := by
  rw [belongsTo, Bool.and_eq_true, Bool.or_eq_true, Bool.and_eq_true, beq_iff_eq, beq_iff_eq, endsIn_iff,
    eq_comm (a := provider.name)]
  rfl

/-- A capability belongs to none of these providers. -/
def IsHomeless (providers : List Provider) (capability : Capability) : Prop :=
  ∀ provider ∈ providers, capability.belongsTo provider = false

/-- Capabilities of providers make no difference to where another capability belongs. -/
theorem IsHomeless.of_map_bare (hhomeless : IsHomeless providers capability)
    (hbare : after.map Provider.bare = providers.map Provider.bare) : IsHomeless after capability := by
  intro provider hprovider
  have hmem : provider.bare ∈ providers.map Provider.bare := hbare ▸ List.mem_map_of_mem hprovider
  obtain ⟨other, hother, hsame⟩ := List.mem_map.mp hmem
  rw [← belongsTo_bare, ← hsame, belongsTo_bare]
  exact hhomeless other hother

/-- A capability finds no provider just when it belongs to none. -/
theorem attach?_eq_none_iff : capability.attach? providers = none ↔ IsHomeless providers capability := by
  induction providers with
  | nil => simp [attach?, IsHomeless]
  | cons provider rest ih =>
      rw [IsHomeless, List.forall_mem_cons, attach?]
      cases hrest : capability.attach? rest with
      | some after =>
          have hnot : ¬IsHomeless rest capability := by simp [← ih, hrest]
          simp only [reduceCtorEq, false_iff]
          exact fun hboth => hnot hboth.2
      | none =>
          have hhomeless : IsHomeless rest capability := ih.mp hrest
          cases hbelongs : capability.belongsTo provider with
          | true => simp
          | false => simpa [IsHomeless] using hhomeless

/-- An attachment changes nothing about the providers but their capabilities. -/
theorem map_bare_attach? (h : capability.attach? providers = some after) :
    after.map Provider.bare = providers.map Provider.bare := by
  induction providers generalizing after with
  | nil => cases h
  | cons provider rest ih =>
      rw [attach?] at h
      split at h
      · rename_i next hnext
        cases h
        rw [List.map_cons, List.map_cons, ih hnext]
      · split at h
        · cases h
          rfl
        · cases h

theorem map_bare_attachAll (pending : List Capability) (providers : List Provider) :
    (attachAll pending providers).1.map Provider.bare = providers.map Provider.bare := by
  induction pending generalizing providers with
  | nil => rfl
  | cons capability rest ih =>
      rw [attachAll]
      cases hattach : capability.attach? providers with
      | some after => exact (ih after).trans (map_bare_attach? hattach)
      | none => exact ih providers

/-! ## The invariant -/

/-- The capabilities of a provider come from these implementations, all of which belong to it. -/
structure HeldBy (provider : Provider) (held : List Capability) : Prop where
  capabilities : provider.capabilities = held.map Capability.type
  belongs : ∀ capability ∈ held, capability.belongsTo provider = true

theorem HeldBy.giveTo (hheld : HeldBy provider held) (hbelongs : capability.belongsTo provider = true) :
    HeldBy (capability.giveTo provider) (held ++ [capability]) where
  capabilities := by
    rw [List.map_append, ← hheld.capabilities]
    rfl
  belongs := by
    intro other hother
    rcases List.mem_append.mp hother with hother | hother
    · exact hheld.belongs other hother
    · rw [List.mem_singleton.mp hother]
      exact hbelongs

/-- The capabilities of all providers are those of the parts that they hold. -/
theorem flatMap_capabilities {parts : List (List Capability)} (hparts : List.Forall₂ HeldBy providers parts) :
    providers.flatMap Provider.capabilities = parts.flatten.map Capability.type := by
  induction hparts with
  | nil => rfl
  | cons hpart _ ih => rw [List.flatMap_cons, List.flatten_cons, List.map_append, hpart.capabilities, ih]

/-- Every provider holds its part of these implementations. -/
def Held (providers : List Provider) (held : List Capability) : Prop :=
  ∃ parts, List.Forall₂ HeldBy providers parts ∧ parts.flatten.Perm held

theorem Held.perm {more : List Capability} (hheld : Held providers held) (hperm : held.Perm more) :
    Held providers more := by
  obtain ⟨parts, hparts, hflatten⟩ := hheld
  exact ⟨parts, hparts, hflatten.trans hperm⟩

theorem held_cons_iff : Held (provider :: providers) held ↔
    ∃ part rest, HeldBy provider part ∧ Held providers rest ∧ (part ++ rest).Perm held := by
  constructor
  · rintro ⟨parts, hparts, hperm⟩
    obtain ⟨part, rest, hpart, hrest, rfl⟩ := List.forall₂_cons_left_iff.mp hparts
    exact ⟨part, rest.flatten, hpart, ⟨rest, hrest, .rfl⟩, hperm⟩
  · rintro ⟨part, rest, hpart, ⟨parts, hparts, hrest⟩, hperm⟩
    exact ⟨part :: parts, .cons hpart hparts, (hrest.append_left part).trans hperm⟩

/-- Providers without capabilities hold nothing more. -/
theorem Held.append_bare {found : List Provider} (hheld : Held providers held)
    (hfound : ∀ provider ∈ found, provider.capabilities = []) : Held (providers ++ found) held := by
  obtain ⟨parts, hparts, hperm⟩ := hheld
  have hempty : List.Forall₂ HeldBy found (found.map fun _ => []) := by
    rw [List.forall₂_map_right_iff, List.forall₂_same]
    exact fun provider hprovider => ⟨hfound provider hprovider, by simp⟩
  refine ⟨parts ++ found.map fun _ => [], List.rel_append hparts hempty, ?_⟩
  simpa using hperm

/-- A held capability belongs to the provider that holds it. -/
theorem Held.exists_belongsTo (hheld : Held providers held) (hcapability : capability ∈ held) :
    ∃ provider ∈ providers, capability.belongsTo provider = true := by
  induction providers generalizing held with
  | nil =>
      obtain ⟨parts, hparts, hperm⟩ := hheld
      rw [List.forall₂_nil_left_iff.mp hparts] at hperm
      exact absurd (hperm.mem_iff.mpr hcapability) List.not_mem_nil
  | cons provider rest ih =>
      obtain ⟨part, others, hpart, hothers, hperm⟩ := held_cons_iff.mp hheld
      rcases List.mem_append.mp (hperm.mem_iff.mpr hcapability) with hmem | hmem
      · exact ⟨provider, List.mem_cons_self, hpart.belongs capability hmem⟩
      · obtain ⟨other, hother, hbelongs⟩ := ih hothers hmem
        exact ⟨other, List.mem_cons_of_mem provider hother, hbelongs⟩

/-- An attachment gives the capability to one provider. -/
theorem Held.attach? (hheld : Held providers held) (h : capability.attach? providers = some after) :
    Held after (capability :: held) := by
  induction providers generalizing after held with
  | nil => cases h
  | cons provider rest ih =>
      obtain ⟨part, others, hpart, hothers, hperm⟩ := held_cons_iff.mp hheld
      rw [Capability.attach?] at h
      split at h
      · rename_i next hnext
        cases h
        refine held_cons_iff.mpr ⟨part, capability :: others, hpart, ih hothers hnext, ?_⟩
        exact List.perm_middle.trans (hperm.cons capability)
      · split at h
        · rename_i hbelongs
          cases h
          refine held_cons_iff.mpr ⟨part ++ [capability], others, hpart.giveTo hbelongs, hothers, ?_⟩
          rw [List.append_assoc, List.singleton_append]
          exact List.perm_middle.trans (hperm.cons capability)
        · cases h

/-- Giving capabilities to providers splits them into those that are held afterwards and those that wait, and
nobody can take the ones that wait. -/
theorem Held.attachAll (hheld : Held providers held) (pending : List Capability) :
    ∃ given, Held (attachAll pending providers).1 (given ++ held) ∧
      (given ++ (attachAll pending providers).2).Perm pending ∧
      ∀ capability ∈ (attachAll pending providers).2, IsHomeless providers capability := by
  induction pending generalizing providers held with
  | nil => exact ⟨[], hheld, .rfl, by simp [Capability.attachAll]⟩
  | cons capability rest ih =>
      rw [Capability.attachAll]
      cases hattach : capability.attach? providers with
      | some after =>
          obtain ⟨given, hgiven, hperm, hwaiting⟩ := ih (hheld.attach? hattach)
          refine ⟨capability :: given, hgiven.perm List.perm_middle, hperm.cons capability,
            fun other hother => ?_⟩
          exact (hwaiting other hother).of_map_bare (map_bare_attach? hattach).symm
      | none =>
          obtain ⟨given, hgiven, hperm, hwaiting⟩ := ih hheld
          refine ⟨given, hgiven, List.perm_middle.trans (hperm.cons capability), ?_⟩
          exact List.forall_mem_cons.mpr ⟨attach?_eq_none_iff.mp hattach, hwaiting⟩

end Capability

end BuilderGen

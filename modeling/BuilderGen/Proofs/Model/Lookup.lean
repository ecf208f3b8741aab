import BuilderGen.Model.Reference
import BuilderGen.Proofs.Records

/-!
# When a search does not depend on the other declarations

References are resolved by three searches: for the first or the last declaration with a qualified name, and for
the only one with a simple name.  Where names do not repeat, the order of the declarations is of no matter to
any of them.  A declaration that answers none of the searches may stand anywhere in the list.  What a search finds
is always declared.
-/

namespace BuilderGen

/-! ## Searches in another order -/

section Order

variable {α γ : Type}

/-- Where the keys do not repeat, entries may be looked up in any order. -/
theorem lookup_eq_of_perm [DecidableEq γ] {entries others : List (γ × α)} (hperm : entries.Perm others)
    (hkeys : (entries.map Prod.fst).Nodup) (key : γ) : entries.lookup key = others.lookup key := by
  induction hperm with
  | nil => rfl
  | cons entry _ ih =>
      rw [List.map_cons, List.nodup_cons] at hkeys
      rw [List.lookup_cons, List.lookup_cons, ih hkeys.2]
  | swap first second rest =>
      simp only [List.map_cons, List.nodup_cons, List.mem_cons, not_or] at hkeys
      rw [List.lookup_cons, List.lookup_cons, List.lookup_cons, List.lookup_cons]
      by_cases hsecond : key = second.1
      · have hfirst : key ≠ first.1 := fun heq => hkeys.1.1 (hsecond ▸ heq)
        rw [beq_eq_false_iff_ne.mpr hfirst]
      · rw [beq_eq_false_iff_ne.mpr hsecond]
  | trans hleft _ ihleft ihright =>
      exact (ihleft hkeys).trans (ihright ((hleft.map Prod.fst).nodup_iff.mp hkeys))

/-- Where names do not repeat, the item of a name is found in any order. -/
theorem find?_name_eq_of_perm [DecidableEq γ] {name : α → γ} {items others : List α}
    (hperm : items.Perm others) (hnames : (items.map name).Nodup) (wanted : γ) :
    items.find? (fun item => name item = wanted) = others.find? (fun item => name item = wanted) := by
  cases hfound : items.find? (fun item => name item = wanted) with
  | none =>
      rw [List.find?_eq_none] at hfound
      exact (List.find?_eq_none.mpr fun item hitem => hfound item (hperm.mem_iff.mpr hitem)).symm
  | some item =>
      have hitem := List.mem_of_find?_eq_some hfound
      have hname : name item = wanted := by simpa using List.find?_some hfound
      subst hname
      exact (find?_name ((hperm.map name).nodup_iff.mp hnames) (hperm.mem_iff.mp hitem)).symm

namespace Reference

/-- The only item with a property is the same in any order. -/
theorem unique?_eq_of_perm {items others : List α} (hperm : items.Perm others) (property : α → Bool) :
    unique? property items = unique? property others := by
  have hfilter := hperm.filter property
  rw [unique?, unique?]
  generalize items.filter property = left at hfilter ⊢
  generalize others.filter property = right at hfilter ⊢
  cases left with
  | nil => rw [List.nil_perm.mp hfilter]
  | cons item rest =>
      cases rest with
      | nil => rw [List.singleton_perm.mp hfilter]
      | cons next rest =>
          have hlength := hfilter.length_eq
          cases right with
          | nil => cases hlength
          | cons item' rest' =>
              cases rest' with
              | nil => cases hlength
              | cons _ _ => rfl

end Reference

end Order

/-! ## Searches with one more item -/

section Insertion

variable {α : Type} {item : α} {before after : List α} {property : α → Bool}

theorem find?_insert (hitem : property item = false) :
    (before ++ item :: after).find? property = (before ++ after).find? property := by
  rw [List.find?_append, List.find?_append, List.find?_cons_of_neg (by simp [hitem])]

theorem find?_reverse_insert (hitem : property item = false) :
    (before ++ item :: after).reverse.find? property = (before ++ after).reverse.find? property := by
  rw [List.reverse_append, List.reverse_cons, List.append_assoc, List.singleton_append,
    find?_insert hitem, List.reverse_append]

theorem Reference.unique?_insert (hitem : property item = false) :
    unique? property (before ++ item :: after) = unique? property (before ++ after) := by
  rw [unique?, unique?, List.filter_append, List.filter_append,
    List.filter_cons_of_neg (by simp [hitem])]

theorem findSome?_congr {β : Type} {first second : α → Option β} {items : List α}
    (h : ∀ item ∈ items, first item = second item) : items.findSome? first = items.findSome? second := by
  induction items with
  | nil => rfl
  | cons item rest ih =>
      obtain ⟨hitem, hrest⟩ := List.forall_mem_cons.mp h
      rw [List.findSome?_cons, List.findSome?_cons, hitem, ih hrest]

end Insertion

/-! ## References -/

namespace Reference

theorem unique?_eq_some_iff {α : Type} {property : α → Bool} {items : List α} {item : α} :
    unique? property items = some item ↔ items.filter property = [item] := by
  rw [unique?]
  split
  · rename_i only honly
    rw [honly]
    simp
  · rename_i hmany
    exact ⟨nofun, fun hfilter => absurd hfilter (hmany item)⟩

theorem mem_of_unique? {α : Type} {property : α → Bool} {items : List α} {item : α}
    (h : unique? property items = some item) : item ∈ items :=
  List.mem_of_mem_filter (unique?_eq_some_iff.mp h ▸ List.mem_singleton_self item)

/-- A reference denotes one of the declared providers. -/
theorem mem_of_provider? {providers : List Provider} {reference package : String} {provider : Provider}
    (h : provider? providers reference package = some provider) : provider ∈ providers := by
  unfold provider? at h
  dsimp only at h
  split at h
  · rename_i hfound
    cases h
    obtain ⟨_, _, hfind⟩ := List.exists_of_findSome?_eq_some hfound
    exact List.mem_reverse.mp (List.mem_of_find?_eq_some hfind)
  · exact mem_of_unique? h

/-- A type denotes one of the declared enumerations. -/
theorem mem_of_enumeration? {enumerations : List Enumeration} {type : DeclaredType} {package : String}
    {enumeration : Enumeration} (h : enumeration? enumerations type package = some enumeration) :
    enumeration ∈ enumerations := by
  unfold enumeration? at h
  split at h
  · obtain ⟨path, _, h⟩ := Option.bind_eq_some_iff.mp h
    dsimp only at h
    split at h
    · rename_i hfound
      cases h
      obtain ⟨_, _, hfind⟩ := List.exists_of_findSome?_eq_some hfound
      exact List.mem_of_find?_eq_some hfind
    · split at h
      · cases h
      · exact mem_of_unique? h
  · cases h

/-- Where qualified names do not repeat, a reference denotes the same provider in any order. -/
theorem provider?_eq_of_perm {providers others : List Provider} (hperm : providers.Perm others)
    (hnames : (providers.map Provider.qualifiedName).Nodup) (reference package : String) :
    provider? providers reference package = provider? others reference package := by
  have hreverse : providers.reverse.Perm others.reverse :=
    (List.reverse_perm providers).trans (hperm.trans (List.reverse_perm others).symm)
  have hnodup : (providers.reverse.map Provider.qualifiedName).Nodup := by
    rw [List.map_reverse]
    exact List.nodup_reverse.mpr hnames
  rw [provider?, provider?]
  simp only [find?_name_eq_of_perm hreverse hnodup, unique?_eq_of_perm hperm]

/-- Where qualified names do not repeat, a type denotes the same enumeration in any order. -/
theorem enumeration?_eq_of_perm {enumerations others : List Enumeration}
    (hperm : enumerations.Perm others) (hnames : (enumerations.map Enumeration.qualifiedName).Nodup)
    (type : DeclaredType) (package : String) :
    enumeration? enumerations type package = enumeration? others type package := by
  rw [enumeration?, enumeration?]
  simp only [find?_name_eq_of_perm hperm hnames, unique?_eq_of_perm hperm]

/-- A provider that neither a candidate nor the simple name of a reference fits does not matter to it. -/
theorem provider?_insert {provider : Provider} {reference package : String}
    (hqualified : provider.qualifiedName ∉ candidates (Segments.bare reference) package)
    (hsimple : provider.name ≠ Segments.last (Segments.bare reference)) (before after : List Provider) :
    provider? (before ++ provider :: after) reference package =
      provider? (before ++ after) reference package := by
  have hcandidates : ∀ name ∈ candidates (Segments.bare reference) package,
      (before ++ provider :: after).reverse.find? (·.qualifiedName = name) =
        (before ++ after).reverse.find? (·.qualifiedName = name) := by
    intro name hname
    refine find?_reverse_insert (decide_eq_false ?_)
    rintro rfl
    exact hqualified hname
  have hunique : unique? (·.name = Segments.last (Segments.bare reference)) (before ++ provider :: after) =
      unique? (·.name = Segments.last (Segments.bare reference)) (before ++ after) :=
    unique?_insert (decide_eq_false hsimple)
  rw [provider?, provider?, findSome?_congr hcandidates, hunique]

/-- An enumeration that neither a candidate nor the whole path of a type fits does not matter to it. -/
theorem enumeration?_insert {enumeration : Enumeration} {type : DeclaredType} {package : String}
    (hqualified : ∀ path, type.path? = some path →
      enumeration.qualifiedName ∉ candidates (Segments.bare path) package)
    (hsimple : ∀ path, type.path? = some path → enumeration.name ≠ Segments.bare path)
    (before after : List Enumeration) :
    enumeration? (before ++ enumeration :: after) type package =
      enumeration? (before ++ after) type package := by
  rw [enumeration?, enumeration?]
  rcases Option.eq_none_or_eq_some type.path? with hpath | ⟨path, hpath⟩
  · rw [hpath, Option.bind_none, Option.bind_none]
  · have hcandidates : ∀ name ∈ candidates (Segments.bare path) package,
        (before ++ enumeration :: after).find? (·.qualifiedName = name) =
          (before ++ after).find? (·.qualifiedName = name) := by
      intro name hname
      refine find?_insert (decide_eq_false ?_)
      rintro rfl
      exact hqualified path hpath hname
    have hunique : unique? (·.name = Segments.bare path) (before ++ enumeration :: after) =
        unique? (·.name = Segments.bare path) (before ++ after) :=
      unique?_insert (decide_eq_false (hsimple path hpath))
    rw [hpath, Option.bind_some, Option.bind_some]
    dsimp only
    rw [findSome?_congr hcandidates, hunique]

end Reference

end BuilderGen

import BuilderGen.Proofs.Default.Registry
import BuilderGen.Proofs.Model.Candidates
import BuilderGen.Proofs.Model.Lookup
import BuilderGen.Proofs.Model.Reference

/-!
# What a reference denotes

References are texts, and they are resolved by cutting texts up and joining them again.  This module says what
comes out of that without texts.  A `Written` reference is a start and some names.  `Written.denoted` lists the
names that it denotes in a module, most specific first: below the root, below the module that its words lead
to, or, without such words, below the module itself and then below the root.

* `candidates_text`: the candidates of the text are the denoted names.
* `findSome?_find?_of_isFirst`: a search for several names finds the first declared one of them.
* `Written.resolve_denoted`: what a reference to a provider and a type that names an enumeration resolve to.
-/

namespace BuilderGen

open Segments (IsName IsSegment)

namespace Reference

/-! ## References as data -/

/-- Where the names of a reference start. -/
inductive Start where
  /-- At the root, after `crate`. -/
  | root
  /-- At the module in which the reference is written, after some steps.  Without a step it is left open whether
  the names start there or at the root. -/
  | module (steps : List Step)
deriving DecidableEq, Repr

/-- The segments in front of the names. -/
def Start.words : Start → List String
  | root => ["crate"]
  | module steps => steps.map Step.word

/-- A reference, before it is written as a text. -/
structure Written where
  /-- Whether a separator stands in front. -/
  separated : Bool
  start : Start
  names : List String
  nonempty : names ≠ []
  isName : ∀ name ∈ names, IsName name

namespace Written

/-- The segments of a reference. -/
def segments (reference : Written) : List String :=
  reference.start.words ++ reference.names

/-- The text of a reference. -/
def text (reference : Written) : String :=
  (if reference.separated then "::" else "") ++ Segments.join reference.segments

/-- The name that a reference ends in. -/
def simpleName (reference : Written) : String :=
  reference.names.getLast reference.nonempty

/-- Whether a reference is one name and nothing else. -/
def IsSingle (reference : Written) : Prop :=
  reference.segments = [reference.simpleName]

/-- The paths that a reference denotes in a module, most specific first. -/
def paths (reference : Written) (module : List String) : List (List String) :=
  match reference.start with
  | .root => [reference.names]
  | .module [] => [module ++ reference.names, reference.names]
  | .module steps => [module.take (module.length - steps.count .up) ++ reference.names]

/-- The qualified names that a reference denotes in a module, most specific first. -/
def denoted (reference : Written) (module : List String) : List String :=
  (reference.paths module).map Segments.join

end Written

/-! ## The text of a reference -/

section Text

variable (reference : Written)

theorem Start.isSegment_of_mem_words {start : Start} {word : String} (hword : word ∈ start.words) :
    IsSegment word := by
  cases start with
  | root =>
      rw [List.mem_singleton.mp hword]
      decide
  | module steps =>
      obtain ⟨step, _, rfl⟩ := List.mem_map.mp hword
      exact step.isSegment_word

namespace Written

theorem isSegment_of_mem_segments : ∀ segment ∈ reference.segments, IsSegment segment := by
  intro segment hsegment
  rcases List.mem_append.mp hsegment with hword | hname
  · exact Start.isSegment_of_mem_words hword
  · exact (reference.isName segment hname).toIsSegment

theorem segments_ne_nil : reference.segments ≠ [] :=
  List.append_ne_nil_of_right_ne_nil _ reference.nonempty

/-- The segments end in the simple name. -/
theorem segments_eq_concat : ∃ front, reference.segments = front ++ [reference.simpleName] :=
  ⟨reference.start.words ++ reference.names.dropLast, by
    rw [List.append_assoc, simpleName, List.dropLast_append_getLast, segments]⟩

/-- Cleaning up a reference leaves its segments. -/
theorem bare_text : Segments.bare reference.text = Segments.join reference.segments := by
  have hsegments := reference.isSegment_of_mem_segments
  rw [text]
  split
  · have hblank : ∀ c ∈ ("::" ++ Segments.join reference.segments).toList, Text.isBlank c = false := by
      intro c hc
      rw [String.toList_append, List.mem_append] at hc
      rcases hc with hc | hc
      · have hcolon : c = ':' := by simpa using hc
        rw [hcolon]
        decide
      · exact Segments.not_isBlank_join hsegments c hc
    have hdrop : Segments.dropLeading ("::" ++ Segments.join reference.segments) =
        Segments.dropLeading (Segments.join reference.segments) := by
      rw [Segments.dropLeading, String.toList_append]
      rfl
    rw [Segments.bare, Text.trim_of_not_isBlank hblank, hdrop, Segments.dropLeading_join hsegments]
  · rw [String.empty_append, Segments.bare_join hsegments]

/-- The simple name is what stands behind the last separator. -/
theorem last_segments : Segments.last (Segments.join reference.segments) = reference.simpleName := by
  obtain ⟨front, hfront⟩ := reference.segments_eq_concat
  have hname := reference.isSegment_of_mem_segments reference.simpleName (by rw [hfront]; simp)
  have hlast := (Segments.behind_join_concat front reference.simpleName).last_eq hname.colon
  rwa [String.ofList_toList, String.ofList_toList, ← hfront] at hlast

/-- Only in a single name there is no separator. -/
theorem qualified_segments : Segments.qualified (Segments.join reference.segments) = false ↔ reference.IsSingle := by
  obtain ⟨front, hfront⟩ := reference.segments_eq_concat
  have hsegments := reference.isSegment_of_mem_segments
  rw [IsSingle, hfront] at *
  rw [Segments.qualified, Segments.cut]
  cases front with
  | nil =>
      have hcolon := (hsegments reference.simpleName List.mem_cons_self).colon
      rw [List.nil_append, Segments.join, String.intercalate_singleton, Segments.cutList_of_colon_notMem hcolon]
      simp
  | cons segment front =>
      have hcolon := (hsegments segment List.mem_cons_self).colon
      rw [List.cons_append, Segments.toList_join_cons segment (by simp), Segments.cutList_append hcolon]
      simp

/-- The candidates of the text of a reference are the names that it denotes. -/
theorem candidates_text {module : List String} (hmodule : ∀ segment ∈ module, IsSegment segment) :
    candidates (Segments.bare reference.text) (Segments.join module) = reference.denoted module := by
  have hsegments := reference.isSegment_of_mem_segments
  have hsplit : (Segments.split (Segments.join reference.segments)).map Text.trim = reference.segments := by
    rw [Segments.split_join reference.segments_ne_nil fun segment hsegment => (hsegments segment hsegment).colon]
    rw [List.map_congr_left fun segment hsegment =>
      Text.trim_of_not_isBlank (hsegments segment hsegment).blank, List.map_id']
  obtain ⟨name, rest, hnames⟩ := List.exists_cons_of_ne_nil reference.nonempty
  have hname := reference.isName name (by rw [hnames]; exact List.mem_cons_self)
  rw [bare_text, candidates, hsplit, segments, denoted, paths, hnames, Segments.ofPackage_join hmodule]
  cases reference.start with
  | root => rfl
  | module steps =>
      rw [Start.words]
      split
      · rename_i more heq
        exact absurd heq (steps_ne_crate hname steps rest more)
      · rw [climb_steps hname]
        cases steps with
        | nil => simp
        | cons step steps => simp

end Written

end Text

/-! ## Searches -/

/-- The first of some names that is declared. -/
def IsFirst (declared names : List String) (name : String) : Prop :=
  ∃ before after, names = before ++ name :: after ∧ name ∈ declared ∧ ∀ other ∈ before, other ∉ declared

theorem IsFirst.of_mem_iff {declared others names : List String} {name : String}
    (hfirst : IsFirst declared names name) (hmem : ∀ name, name ∈ declared ↔ name ∈ others) :
    IsFirst others names name := by
  obtain ⟨before, after, hnames, hdeclared, hbefore⟩ := hfirst
  exact ⟨before, after, hnames, (hmem name).mp hdeclared,
    fun other hother => mt (hmem other).mpr (hbefore other hother)⟩

section Search

variable {α : Type} {qualified : α → String} {items : List α} {names : List String}

/-- A search for several names in turn finds the first item of the first declared one. -/
theorem findSome?_find?_of_isFirst {name : String} (hfirst : IsFirst (items.map qualified) names name) :
    ∃ front item back, items = front ++ item :: back ∧ qualified item = name ∧
      (∀ other ∈ front, qualified other ≠ name) ∧
      names.findSome? (fun name => items.find? (qualified · = name)) = some item := by
  obtain ⟨before, after, rfl, hdeclared, hbefore⟩ := hfirst
  obtain ⟨declared, hmem, hname⟩ := List.mem_map.mp hdeclared
  have hsome : (items.find? (qualified · = name)).isSome = true :=
    List.find?_isSome.mpr ⟨declared, hmem, decide_eq_true hname⟩
  obtain ⟨item, hitem⟩ := Option.isSome_iff_exists.mp hsome
  obtain ⟨hqualified, front, back, hsplit, hfront⟩ := List.find?_eq_some_iff_append.mp hitem
  refine ⟨front, item, back, hsplit, of_decide_eq_true hqualified, fun other hother => ?_, ?_⟩
  · simpa using hfront other hother
  · rw [List.findSome?_eq_some_iff]
    refine ⟨before, name, after, rfl, hitem, fun other hother => ?_⟩
    rw [List.find?_eq_none]
    intro item hitem hname
    exact hbefore other hother (List.mem_map.mpr ⟨item, hitem, of_decide_eq_true hname⟩)

/-- A search for several names in turn finds nothing when none of them is declared. -/
theorem findSome?_find?_eq_none (hnone : ∀ name ∈ names, name ∉ items.map qualified) :
    names.findSome? (fun name => items.find? (qualified · = name)) = none := by
  rw [List.findSome?_eq_none_iff]
  intro name hname
  rw [List.find?_eq_none]
  intro item hitem heq
  exact hnone name hname (List.mem_map.mpr ⟨item, hitem, of_decide_eq_true heq⟩)

end Search

/-! ## Resolving -/

section Resolving

variable {reference : Written} {module : List String}

/-- A reference to a provider denotes the last provider of the first denoted name that is declared.  Where no
denoted name is declared, it denotes the only provider of its simple name. -/
theorem provider?_text (hmodule : ∀ segment ∈ module, IsSegment segment) (providers : List Provider) :
    (∀ name, IsFirst (providers.map Provider.qualifiedName) (reference.denoted module) name →
        ∃ front provider back, providers = front ++ provider :: back ∧ provider.qualifiedName = name ∧
          (∀ later ∈ back, later.qualifiedName ≠ name) ∧
          provider? providers reference.text (Segments.join module) = some provider) ∧
      ((∀ name ∈ reference.denoted module, name ∉ providers.map Provider.qualifiedName) →
        ∀ provider, provider? providers reference.text (Segments.join module) = some provider ↔
          providers.filter (·.name = reference.simpleName) = [provider]) := by
  have hreverse : ∀ name, name ∈ providers.map Provider.qualifiedName ↔
      name ∈ providers.reverse.map Provider.qualifiedName := by
    intro name
    rw [List.map_reverse, List.mem_reverse]
  rw [provider?, reference.candidates_text hmodule, reference.bare_text, reference.last_segments]
  constructor
  · intro name hfirst
    obtain ⟨front, provider, back, hsplit, hname, hfront, hfound⟩ :=
      findSome?_find?_of_isFirst (hfirst.of_mem_iff hreverse)
    refine ⟨back.reverse, provider, front.reverse, ?_, hname, ?_, ?_⟩
    · rw [← List.reverse_reverse providers, hsplit]
      simp
    · exact fun later hlater => hfront later (List.mem_reverse.mp hlater)
    · rw [hfound]
  · intro hnone provider
    have hmissing := findSome?_find?_eq_none fun name hname => mt (hreverse name).mpr (hnone name hname)
    rw [hmissing]
    exact unique?_eq_some_iff

/-- A type without arguments denotes the first enumeration of the first denoted name that is declared.  Where no
denoted name is declared and the path is a single name, it denotes the only enumeration of this name. -/
theorem enumeration?_text (hmodule : ∀ segment ∈ module, IsSegment segment) (enumerations : List Enumeration)
    {type : DeclaredType} (hpath : type.path? = some reference.text) (hargs : type.args = []) :
    (∀ name, IsFirst (enumerations.map Enumeration.qualifiedName) (reference.denoted module) name →
        ∃ front enumeration back, enumerations = front ++ enumeration :: back ∧
          enumeration.qualifiedName = name ∧ (∀ earlier ∈ front, earlier.qualifiedName ≠ name) ∧
          enumeration? enumerations type (Segments.join module) = some enumeration) ∧
      ((∀ name ∈ reference.denoted module, name ∉ enumerations.map Enumeration.qualifiedName) →
        ∀ enumeration, enumeration? enumerations type (Segments.join module) = some enumeration ↔
          reference.IsSingle ∧ enumerations.filter (·.name = reference.simpleName) = [enumeration]) := by
  rw [enumeration?, hpath, hargs, List.isEmpty_nil, if_pos rfl, Option.bind_some]
  dsimp only
  rw [reference.candidates_text hmodule]
  constructor
  · intro name hfirst
    obtain ⟨front, enumeration, back, hsplit, hname, hfront, hfound⟩ := findSome?_find?_of_isFirst hfirst
    exact ⟨front, enumeration, back, hsplit, hname, hfront, by rw [hfound]⟩
  · intro hnone enumeration
    rw [findSome?_find?_eq_none hnone, reference.bare_text]
    dsimp only
    by_cases hsingle : reference.IsSingle
    · have hjoin : Segments.join reference.segments = reference.simpleName := by
        rw [hsingle, Segments.join, String.intercalate_singleton]
      rw [reference.qualified_segments.mpr hsingle, if_neg Bool.false_ne_true, unique?_eq_some_iff, hjoin]
      exact (and_iff_right hsingle).symm
    · have hqualified : Segments.qualified (Segments.join reference.segments) = true := by
        simpa using mt reference.qualified_segments.mp hsingle
      rw [if_pos hqualified]
      refine ⟨fun h => ?_, fun h => absurd h.1 hsingle⟩
      cases h

/-- What references resolve to, in terms of the names that they denote.

A reference to a provider is resolved by the registry of the round, a type by the enumerations of the round.  Both
take the first denoted name that is declared, whatever else is declared; where several declarations have this
name, it is the last provider and the first enumeration.  Where no denoted name is declared, a reference resolves
only if exactly one declaration has its simple name, and to an enumeration only if it is a single name.  Nothing is
asked of the names in the declarations. -/
theorem Written.resolve_denoted (reference : Written) {module : List String}
    (hmodule : ∀ segment ∈ module, IsSegment segment) (declarations : Declarations) :
    (∀ settings registry, (Registry.build settings declarations.providers).2 = .ok registry →
      (∀ name, IsFirst (declarations.providers.map Provider.qualifiedName) (reference.denoted module) name →
        ∃ front provider back, declarations.providers = front ++ provider :: back ∧
          provider.qualifiedName = name ∧ (∀ later ∈ back, later.qualifiedName ≠ name) ∧
          registry.resolve? reference.text (Segments.join module) = some provider) ∧
      ((∀ name ∈ reference.denoted module, name ∉ declarations.providers.map Provider.qualifiedName) →
        ∀ provider, registry.resolve? reference.text (Segments.join module) = some provider ↔
          declarations.providers.filter (·.name = reference.simpleName) = [provider])) ∧
    ∀ type : DeclaredType, type.path? = some reference.text → type.args = [] →
      (∀ name, IsFirst (declarations.enumerations.map Enumeration.qualifiedName) (reference.denoted module) name →
        ∃ front enumeration back, declarations.enumerations = front ++ enumeration :: back ∧
          enumeration.qualifiedName = name ∧ (∀ earlier ∈ front, earlier.qualifiedName ≠ name) ∧
          enumeration? declarations.enumerations type (Segments.join module) = some enumeration) ∧
      ((∀ name ∈ reference.denoted module, name ∉ declarations.enumerations.map Enumeration.qualifiedName) →
        ∀ enumeration,
          enumeration? declarations.enumerations type (Segments.join module) = some enumeration ↔
            reference.IsSingle ∧
              declarations.enumerations.filter (·.name = reference.simpleName) = [enumeration]) := by
  constructor
  · intro settings registry hbuild
    have hdeclared := (Registry.build_eq_ok hbuild).1
    simp only [Registry.resolve?, hdeclared]
    exact provider?_text hmodule declarations.providers
  · intro type hpath hargs
    exact enumeration?_text hmodule declarations.enumerations hpath hargs

end Resolving

end Reference

/-! ## A sample -/

namespace Shop

/-- Names and levels at the root, and again in a module of the staff. -/
def staffed : Declarations where
  providers := [names, { names with package := "staff" }]
  enumerations := [{ level with package := "staff" }, level]

/-- At a desk of the staff, one step up leads to the names of the staff.  A plain name never reaches the level of
the staff, only the one at the root. -/
theorem names_above_desk :
    (∀ registry, (Registry.build {} staffed.providers).2 = .ok registry →
        ∃ provider, registry.resolve? "super::Names" "staff::desk" = some provider ∧ provider.package = "staff") ∧
      ∃ enumeration, Reference.enumeration? staffed.enumerations (named "Level") "staff::desk" = some enumeration ∧
        enumeration.package = "" := by
  have hmodule : ∀ segment ∈ ["staff", "desk"], IsSegment segment := by decide
  constructor
  · intro registry hbuild
    let reference : Reference.Written :=
      { separated := false, start := .module [.up], names := ["Names"], nonempty := by decide, isName := by decide }
    obtain ⟨hresolve, -⟩ := reference.resolve_denoted hmodule staffed
    obtain ⟨front, provider, back, hsplit, hname, -, hfound⟩ :=
      (hresolve {} registry hbuild).1 "staff::Names" ⟨[], [], rfl, by decide, by decide⟩
    have hstaff : ∀ provider ∈ staffed.providers,
        provider.qualifiedName = "staff::Names" → provider.package = "staff" := by decide
    exact ⟨provider, hfound, hstaff provider (hsplit ▸ List.mem_append_cons_self) hname⟩
  · let reference : Reference.Written :=
      { separated := false, start := .module [], names := ["Level"], nonempty := by decide, isName := by decide }
    obtain ⟨-, hresolve⟩ := reference.resolve_denoted hmodule staffed
    obtain ⟨front, enumeration, back, hsplit, hname, -, hfound⟩ :=
      (hresolve (named "Level") rfl rfl).1 "Level" ⟨["staff::desk::Level"], [], rfl, by decide, by decide⟩
    have hroot : ∀ enumeration ∈ staffed.enumerations,
        enumeration.qualifiedName = "Level" → enumeration.package = "" := by decide
    exact ⟨enumeration, hfound, hroot enumeration (hsplit ▸ List.mem_append_cons_self) hname⟩

end Shop

end BuilderGen

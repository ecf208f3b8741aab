import BuilderGen.Proofs.Default.Registration
import BuilderGen.Proofs.Default.Strategy
import BuilderGen.Proofs.Text.LastSegment

/-!
# What justifies a default

Every default that is chosen has a reason in the declarations of the round.  This module states the reasons without
the registry and without the order of the cases in which the choice is written.

* `Provider.IsRegistered` and `ZeroKind.Covers` are, next to `VariantDefault`, the facts about providers, types and
  enumerations that defaults rest on.
* `Rule.Gives` ties them to the four rules that an unspecific marking tries, and `Rule.inOrder` is their order.
  `infer_eq_findSome?` says that inferring takes the first rule that gives something.
* `Justified` has one case per marking.  `choose_justified` says that choosing gives exactly the justified strategies.
-/

namespace BuilderGen

/-! ## Providers -/

namespace Provider

variable {type : DeclaredType} {provider : Provider} {providers : List Provider}

/-- A provider produces the argument of its first fitting capability. -/
def Produces (provider : Provider) (type : DeclaredType) : Prop :=
  ∃ front capability back, provider.capabilities = front ++ capability :: back ∧ IsCapability type capability ∧
    ∀ other ∈ front, ∀ type, ¬IsCapability type other

/-- The provider that a round registers for a type is the last marked one that produces the type. -/
def IsRegistered (providers : List Provider) (type : DeclaredType) (provider : Provider) : Prop :=
  ∃ front back, providers = front ++ provider :: back ∧ provider.marked = true ∧ provider.Produces type ∧
    ∀ later ∈ back, later.marked = true → ¬later.Produces type

theorem isMarkedFor_iff : provider.isMarkedFor type = true ↔ provider.marked = true ∧ provider.Produces type := by
  rw [isMarkedFor, Bool.and_eq_true, decide_eq_true_iff, produced?_eq_some_iff, Produces]

theorem lastFor?_eq_some_iff : lastFor? providers type = some provider ↔ IsRegistered providers type provider := by
  rw [lastFor?, List.find?_eq_some_iff_append, isMarkedFor_iff]
  constructor
  · rintro ⟨⟨hmarked, hproduces⟩, front, back, hsplit, hfront⟩
    refine ⟨back.reverse, front.reverse, ?_, hmarked, hproduces, fun later hlater hlaterMarked hlaterProduces => ?_⟩
    · rw [← List.reverse_reverse providers, hsplit]
      simp
    · have hnot := hfront later (List.mem_reverse.mp hlater)
      rw [isMarkedFor_iff.mpr ⟨hlaterMarked, hlaterProduces⟩] at hnot
      cases hnot
  · rintro ⟨front, back, rfl, hmarked, hproduces, hback⟩
    refine ⟨⟨hmarked, hproduces⟩, back.reverse, front.reverse, by simp, fun later hlater => ?_⟩
    rw [Bool.not_eq_true', Bool.eq_false_iff]
    intro hfor
    obtain ⟨hlaterMarked, hlaterProduces⟩ := isMarkedFor_iff.mp hfor
    exact hback later (List.mem_reverse.mp hlater) hlaterMarked hlaterProduces

end Provider

/-- What a built registry knows about a type is the registered provider. -/
theorem Registry.entry?_eq_some_iff {settings : Settings} {providers : List Provider} {registry : Registry}
    (hbuild : (build settings providers).2 = .ok registry) {type : DeclaredType} {provider : Provider} :
    registry.entry? type = some provider ↔ Provider.IsRegistered providers type provider := by
  unfold entry?
  rw [(holds_of_build hbuild).lookup, Provider.lastFor?_eq_some_iff]

/-! ## The catalogue of zero values -/

namespace ZeroKind

/-- A path has one segment, or it starts at one of the standard roots. -/
def IsStandard (path : String) : Prop :=
  ∃ root rest, Segments.split (Segments.bare path) = root :: rest ∧ (rest = [] ∨ Text.trim root ∈ roots)

/-- A family covers the types whose zero value it has.  None of them admits an absent value. -/
inductive Covers : ZeroKind → DeclaredType → Prop
  | unit {args : List DeclaredType} : Covers .unit ⟨.unit, args, false⟩
  | array {length : String} {args : List DeclaredType} : Covers .fixedArray ⟨.array length, args, false⟩
  | named {kind : ZeroKind} {names : List String} {path : String} {args : List DeclaredType}
      (hstandard : IsStandard path) (hentry : (kind, names) ∈ catalogue)
      (hname : Text.trim (Segments.last path) ∈ names) : Covers kind ⟨.named path, args, false⟩

theorem isRooted_iff {path : String} : isRooted path = true ↔ IsStandard path := by
  have hsplit := Segments.splitList_eq_cutList (Segments.bare path).toList
  rw [isRooted, IsStandard, Segments.cut, Segments.split, hsplit]
  generalize Segments.cutList (Segments.bare path).toList = both
  obtain ⟨root, tail⟩ := both
  cases tail with
  | none => simp
  | some rest =>
      obtain ⟨pieces, piece, hrest, -⟩ := Segments.exists_last_splitList rest
      simp [hrest]

/-- Where no name stands in two entries, a name leads to its entry. -/
theorem find?_entry {entries : List (ZeroKind × List String)} (hnames : (entries.flatMap Prod.snd).Nodup)
    {entry : ZeroKind × List String} (hentry : entry ∈ entries) {name : String} (hname : name ∈ entry.2) :
    entries.find? (fun other => name ∈ other.2) = some entry := by
  induction entries with
  | nil => cases hentry
  | cons first rest ih =>
      rw [List.flatMap_cons, List.nodup_append] at hnames
      obtain ⟨-, hrest, hapart⟩ := hnames
      rcases List.mem_cons.mp hentry with rfl | hmem
      · rw [List.find?_cons_of_pos (by simpa using hname)]
      · have hnot : name ∉ first.2 := fun hfirst =>
          hapart name hfirst name (List.mem_flatMap.mpr ⟨entry, hmem, hname⟩) rfl
        rw [List.find?_cons_of_neg (by simpa using hnot), ih hrest hmem]

/-- A catalogue name has the family of its entry. -/
theorem ofName?_eq_some_iff {name : String} {kind : ZeroKind} :
    ofName? name = some kind ↔ ∃ names, (kind, names) ∈ catalogue ∧ name ∈ names := by
  rw [ofName?, Option.map_eq_some_iff]
  constructor
  · rintro ⟨entry, hfind, rfl⟩
    exact ⟨entry.2, List.mem_of_find?_eq_some hfind, by simpa using List.find?_some hfind⟩
  · rintro ⟨names, hentry, hname⟩
    exact ⟨(kind, names), find?_entry (by decide) hentry hname, rfl⟩

/-- A type has a zero value when some family covers it. -/
theorem ofType?_eq_some_iff {type : DeclaredType} {kind : ZeroKind} :
    ofType? type = some kind ↔ kind.Covers type := by
  obtain ⟨head, args, nullable⟩ := type
  cases nullable with
  | true =>
      rw [ofType?, if_pos rfl]
      exact ⟨nofun, nofun⟩
  | false =>
      rw [ofType?, if_neg Bool.false_ne_true]
      cases head with
      | unit =>
          refine ⟨fun h => ?_, fun h => ?_⟩
          · cases h
            exact .unit
          · cases h
            rfl
      | array length =>
          refine ⟨fun h => ?_, fun h => ?_⟩
          · cases h
            exact .array
          · cases h
            rfl
      | verbatim text => exact ⟨nofun, nofun⟩
      | named path =>
          have hlast : DeclaredType.lastSegment? ⟨.named path, args, false⟩ =
              some (Text.trim (Segments.last path)) := rfl
          dsimp only
          rw [hlast, Option.bind_some]
          constructor
          · intro h
            split at h
            · rename_i hrooted
              obtain ⟨names, hentry, hname⟩ := ofName?_eq_some_iff.mp h
              exact .named (isRooted_iff.mp hrooted) hentry hname
            · cases h
          · intro h
            cases h with
            | named hstandard hentry hname =>
                rw [if_pos (isRooted_iff.mpr hstandard), ofName?_eq_some_iff]
                exact ⟨_, hentry, hname⟩

end ZeroKind

/-! ## Rules -/

namespace Scope

variable {declarations : Declarations} {registry : Registry} {package : String} {type : DeclaredType}
  {strategy : Strategy}

/-- The rules by which a default follows from a type. -/
inductive Rule where
  /-- There is a registered provider of the type. -/
  | registered
  /-- The type admits an absent value. -/
  | absent
  /-- The type denotes an enumeration, whose first variant is the default. -/
  | enumeration
  /-- The type has a zero value. -/
  | zero
deriving DecidableEq, Repr

/-- The rules in the order in which they count. -/
def Rule.inOrder : List Rule :=
  [registered, absent, enumeration, zero]

/-- What a rule gives for a type, if it applies. -/
inductive Rule.Gives (declarations : Declarations) (package : String) (type : DeclaredType) :
    Rule → Strategy → Prop
  | registered {provider : Provider} (hregistered : provider.IsRegistered declarations.providers type) :
      Gives declarations package type .registered
        (.provider (Reference.relative package provider.package provider.name)
          (decide (provider.form = .singleton)))
  | absent (hnullable : type.nullable = true) : Gives declarations package type .absent .nullable
  | enumeration {strategy : Strategy}
      (hvariant : VariantDefault declarations.enumerations package type .first strategy) :
      Gives declarations package type .enumeration strategy
  | zero {kind : ZeroKind} (hcovers : kind.Covers type) :
      Gives declarations package type .zero (.zero kind kind.expression)

/-- What a rule gives for a type in a scope. -/
def give? (scope : Scope) (type : DeclaredType) : Rule → Option Strategy
  | .registered => (scope.registry.entry? type).map fun provider =>
      .provider (Reference.relative scope.package provider.package provider.name) provider.isSingleton
  | .absent => if type.nullable then some .nullable else none
  | .enumeration => scope.variant? type .first
  | .zero => (ZeroKind.ofType? type).map fun kind => .zero kind kind.expression

/-- A default is inferred by the first rule that gives one. -/
theorem infer_eq_findSome? (scope : Scope) (parameter : Parameter) :
    scope.infer parameter =
      match Rule.inOrder.findSome? (scope.give? parameter.type) with
      | some strategy => .ok strategy
      | none => .error (.undetermined parameter.name parameter.type.display) := by
  rw [infer, Rule.inOrder, List.findSome?_cons, List.findSome?_cons, List.findSome?_cons, List.findSome?_cons]
  simp only [give?]
  cases scope.registry.entry? parameter.type with
  | some provider => rfl
  | none =>
      cases parameter.type.nullable with
      | true => rfl
      | false =>
          cases scope.variant? parameter.type .first with
          | some strategy => rfl
          | none => cases ZeroKind.ofType? parameter.type <;> rfl

/-- In the scope of a round, a rule gives what the declarations justify. -/
theorem give?_eq_some_iff {settings : Settings}
    (hbuild : (Registry.build settings declarations.providers).2 = .ok registry) {rule : Rule} :
    give? { registry, enumerations := declarations.enumerations, package } type rule = some strategy ↔
      rule.Gives declarations package type strategy := by
  cases rule with
  | registered =>
      simp only [give?, Option.map_eq_some_iff, Registry.entry?_eq_some_iff hbuild]
      constructor
      · rintro ⟨provider, hregistered, rfl⟩
        exact .registered hregistered
      · intro h
        cases h with
        | registered hregistered => exact ⟨_, hregistered, rfl⟩
  | absent =>
      simp only [give?]
      split
      · rename_i hnullable
        refine ⟨fun h => ?_, fun h => ?_⟩
        · cases h
          exact .absent hnullable
        · cases h
          rfl
      · rename_i hnullable
        refine ⟨nofun, fun h => ?_⟩
        cases h with
        | absent h => exact absurd h hnullable
  | enumeration =>
      simp only [give?, variant?_eq_some_iff]
      refine ⟨.enumeration, fun h => ?_⟩
      cases h with
      | enumeration hvariant => exact hvariant
  | zero =>
      simp only [give?, Option.map_eq_some_iff, ZeroKind.ofType?_eq_some_iff]
      constructor
      · rintro ⟨kind, hcovers, rfl⟩
        exact .zero hcovers
      · intro h
        cases h with
        | zero hcovers => exact ⟨_, hcovers, rfl⟩

/-! ## Markings -/

/-- The strategies that the declarations of a round justify for a parameter. -/
inductive Justified (declarations : Declarations) (package : String) (parameter : Parameter) : Strategy → Prop
  | mandatory (hmarking : parameter.marking = .mandatory) : Justified declarations package parameter .mandatory
  | nullable (hmarking : parameter.marking = .nullable) (hnullable : parameter.type.nullable = true) :
      Justified declarations package parameter .nullable
  | initializer {expression : Option String} (hmarking : parameter.marking = .initializer expression) :
      Justified declarations package parameter (.initializer expression)
  | enumerable {position : VariantEnd} {strategy : Strategy} (hmarking : parameter.marking = .enumerable position)
      (hvariant : VariantDefault declarations.enumerations package parameter.type position strategy) :
      Justified declarations package parameter strategy
  | provider {reference : String} {provider : Provider} (hmarking : parameter.marking = .provider reference)
      (hmem : provider ∈ declarations.providers)
      (hdenotes : Reference.provider? declarations.providers reference package = some provider)
      (hproduces : provider.Produces parameter.type) :
      Justified declarations package parameter
        (.provider (Text.trim reference) (decide (provider.form = .singleton)))
  | inferred {before after : List Rule} {rule : Rule} {strategy : Strategy}
      (hmarking : parameter.marking = .inferred) (horder : Rule.inOrder = before ++ rule :: after)
      (hearlier : ∀ earlier ∈ before, ∀ other, ¬earlier.Gives declarations package parameter.type other)
      (hgives : rule.Gives declarations package parameter.type strategy) :
      Justified declarations package parameter strategy

/-- No other case makes a parameter mandatory. -/
theorem Justified.marking_eq_mandatory {parameter : Parameter}
    (h : Justified declarations package parameter .mandatory) : parameter.marking = .mandatory := by
  cases h with
  | mandatory hmarking => exact hmarking
  | enumerable _ hvariant => cases hvariant
  | inferred _ _ _ hgives =>
      cases hgives with
      | enumeration hvariant => cases hvariant

section Built

variable {settings : Settings} (hbuild : (Registry.build settings declarations.providers).2 = .ok registry)
  {parameter : Parameter}

include hbuild

/-- A rule that gives nothing in the scope of a round is not justified. -/
theorem give?_eq_none_iff {type : DeclaredType} {rule : Rule} :
    give? { registry, enumerations := declarations.enumerations, package } type rule = none ↔
      ∀ other, ¬rule.Gives declarations package type other := by
  rw [Option.eq_none_iff_forall_ne_some]
  exact forall_congr' fun other => not_congr (give?_eq_some_iff hbuild)

/-- What is inferred is what the first rule gives that gives something. -/
theorem infer_eq_ok_iff :
    Scope.infer { registry, enumerations := declarations.enumerations, package } parameter = .ok strategy ↔
      ∃ before rule after, Rule.inOrder = before ++ rule :: after ∧
        rule.Gives declarations package parameter.type strategy ∧
        ∀ earlier ∈ before, ∀ other, ¬earlier.Gives declarations package parameter.type other := by
  simp only [← give?_eq_none_iff hbuild]
  simp only [← give?_eq_some_iff hbuild]
  rw [infer_eq_findSome?, ← List.findSome?_eq_some_iff]
  cases Rule.inOrder.findSome? _ <;> simp

/-- Nothing is inferred when no rule gives anything. -/
theorem infer_eq_error_iff {fault : Fault} :
    Scope.infer { registry, enumerations := declarations.enumerations, package } parameter = .error fault ↔
      fault = .undetermined parameter.name parameter.type.display ∧
        ∀ rule other, ¬Rule.Gives declarations package parameter.type rule other := by
  have hall : ∀ rule : Rule, rule ∈ Rule.inOrder := by
    intro rule
    cases rule <;> decide
  simp only [← give?_eq_none_iff hbuild]
  rw [infer_eq_findSome?]
  cases hfound : Rule.inOrder.findSome? _ with
  | some strategy =>
      obtain ⟨rule, _, hgives⟩ := List.exists_of_findSome?_eq_some hfound
      refine ⟨nofun, fun h => ?_⟩
      rw [h.2 rule] at hgives
      cases hgives
  | none =>
      have hnone := List.findSome?_eq_none_iff.mp hfound
      constructor
      · intro h
        cases h
        exact ⟨rfl, fun rule => hnone rule (hall rule)⟩
      · rintro ⟨rfl, -⟩
        rfl

/-- The strategies that are chosen are the justified ones. -/
theorem choose_eq_ok_iff :
    Scope.choose { registry, enumerations := declarations.enumerations, package } parameter = .ok strategy ↔
      Justified declarations package parameter strategy := by
  have hdeclared := (Registry.build_eq_ok hbuild).1
  rw [choose]
  constructor
  · intro h
    split at h
    · rename_i hmarking
      cases h
      exact .mandatory hmarking
    · rename_i hmarking
      obtain ⟨before, rule, after, horder, hgives, hearlier⟩ := (infer_eq_ok_iff hbuild).mp h
      exact .inferred hmarking horder hearlier hgives
    · rename_i hmarking
      split at h
      · rename_i hnullable
        cases h
        exact .nullable hmarking hnullable
      · cases h
    · rename_i hmarking
      cases h
      exact .initializer hmarking
    · rename_i position hmarking
      split at h
      · rename_i hvariant
        cases h
        exact .enumerable hmarking (variant?_eq_some_iff.mp hvariant)
      · cases h
    · rename_i reference hmarking
      obtain ⟨provider, hdenotes, hproduced, rfl⟩ := named_eq_ok_iff.mp h
      rw [Registry.resolve?, hdeclared] at hdenotes
      exact .provider hmarking (Reference.mem_of_provider? hdenotes) hdenotes
        (Provider.produced?_eq_some_iff.mp hproduced)
  · intro h
    cases h with
    | mandatory hmarking => rw [hmarking]
    | nullable hmarking hnullable => rw [hmarking, hnullable]; rfl
    | initializer hmarking => rw [hmarking]
    | enumerable hmarking hvariant =>
        rw [hmarking]
        dsimp only
        rw [variant?_eq_some_iff.mpr hvariant]
    | provider hmarking hmem hdenotes hproduces =>
        rw [hmarking]
        rw [← hdeclared] at hdenotes
        exact named_eq_ok_iff.mpr ⟨_, hdenotes, Provider.produced?_eq_some_iff.mpr hproduces, rfl⟩
    | inferred hmarking horder hearlier hgives =>
        rw [hmarking]
        exact (infer_eq_ok_iff hbuild).mpr ⟨_, _, _, horder, hgives, hearlier⟩

/-- Every default that is chosen is justified by the declarations of the round, and every justified one is chosen.

A parameter is mandatory just when nothing marks it as optional.  What the other strategies need is said by the cases
of `Justified`.  For an unspecific marking it is the first rule that gives something, and the choice fails just when
none of the four rules gives anything. -/
theorem choose_justified (package : String) (parameter : Parameter) :
    (Scope.choose { registry, enumerations := declarations.enumerations, package } parameter = .ok .mandatory ↔
        parameter.marking = .mandatory) ∧
      (∀ strategy,
        Scope.choose { registry, enumerations := declarations.enumerations, package } parameter = .ok strategy ↔
          Justified declarations package parameter strategy) ∧
      (parameter.marking = .inferred → ∀ fault,
        Scope.choose { registry, enumerations := declarations.enumerations, package } parameter = .error fault ↔
          fault = .undetermined parameter.name parameter.type.display ∧
            ∀ rule other, ¬Rule.Gives declarations package parameter.type rule other) := by
  refine ⟨?_, fun strategy => choose_eq_ok_iff hbuild, fun hmarking fault => ?_⟩
  · rw [choose_eq_ok_iff hbuild]
    exact ⟨Justified.marking_eq_mandatory, .mandatory⟩
  · rw [choose, hmarking]
    exact infer_eq_error_iff hbuild

end Built

end Scope

/-! ## A sample -/

namespace Shop

/-- The registry of the shop. -/
def registry : Registry where
  entries := [(textType, names), (named "u16", ports)]
  declared := providers

/-- No provider gives a level, so its default is the lowest one.  Nothing gives a moment. -/
theorem level_justified :
    Scope.Justified declarations "" { name := "level", type := named "Level", marking := .inferred }
        (.variant "Low" .first "Level::Low") ∧
      ∀ rule strategy, ¬Scope.Rule.Gives declarations "" (named "Instant") rule strategy := by
  have hbuild : (Registry.build {} declarations.providers).2 = .ok registry := rfl
  obtain ⟨-, hjustified, -⟩ :=
    Scope.choose_justified hbuild "" { name := "level", type := named "Level", marking := .inferred }
  obtain ⟨-, -, hfails⟩ :=
    Scope.choose_justified hbuild "" { name := "moment", type := named "Instant", marking := .inferred }
  exact ⟨(hjustified _).mp rfl, ((hfails rfl _).mp rfl).2⟩

end Shop

end BuilderGen

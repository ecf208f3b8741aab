import BuilderGen.Proofs.Builder.Generation
import BuilderGen.Proofs.Default.Strategy
import BuilderGen.Proofs.Grammar.Identifier
import BuilderGen.Proofs.Grammar.PathExpression
import BuilderGen.Proofs.Grammar.WellNamed
import BuilderGen.Proofs.Model.Reference
import BuilderGen.Proofs.Render.Readable
import BuilderGen.Proofs.Round.Order

/-!
# Builders of legible declarations

The texts of a builder are put together from the texts of declarations: a name with an ending, a path to a variant,
a path up and down through modules.  Declarations are legible when their texts are names, paths and expressions to
begin with.  Then so are all texts that a round makes of them, and every builder of the round is rendered.
-/

namespace BuilderGen

open Grammar

/-! ## Modules -/

/-- A module path that is joined from names of modules. -/
def IsModulePath (package : String) : Prop :=
  ∃ names, package = Segments.join names ∧ ∀ name ∈ names, isModuleName name = true

section Names

variable {name : String}

theorem isSegmentName_of_isModuleName (h : isModuleName name = true) : isSegmentName name = true := by
  rw [isModuleName, Bool.or_eq_true, decide_eq_true_iff] at h
  rcases h with h | rfl
  · exact isSegmentName_of_isIdentifier h
  · decide

/-- A word is a segment of a module path. -/
theorem isSegment_of_isWord (h : Lexer.isWord name = true) : Segments.IsSegment name where
  nonempty := by
    rintro rfl
    obtain ⟨_, _, hchars, _⟩ := Lexer.exists_isIdentStart h
    cases hchars
  colon := by
    have hcolon : Text.isIdentStart ':' = false ∧ Text.isIdentContinue ':' = false := by decide
    intro hmem
    rcases Lexer.mem_word h hmem with hstart | hcontinue | heq
    · rw [hcolon.1] at hstart
      cases hstart
    · rw [hcolon.2] at hcontinue
      cases hcontinue
    · cases heq
  blank := by
    intro c hc
    have hblank := Lexer.not_isBlank_of_isWord h c hc
    rw [Lexer.isBlank, Bool.or_eq_false_iff, Bool.or_eq_false_iff] at hblank
    exact hblank.1.1

theorem isName_of_isModuleName (h : isModuleName name = true) : Segments.IsName name where
  toIsSegment := isSegment_of_isWord (isWord_of_isSegmentName (isSegmentName_of_isModuleName h))
  plain := by
    have hkeywords : ∀ word ∈ ["crate", "self", "super"], word ∈ keywords ∧ word ≠ "try" := by decide
    intro hmem
    obtain ⟨hkeyword, htry⟩ := hkeywords name hmem
    rw [isModuleName, isIdentifier, Bool.or_eq_true, Bool.and_eq_true, decide_eq_true_iff, decide_eq_true_iff] at h
    rcases h with h | h
    · exact h.2 hkeyword
    · exact htry h

/-- A module inside of a module. -/
theorem IsModulePath.qualify {package : String} (hpackage : IsModulePath package) (hname : isModuleName name = true) :
    IsModulePath (Segments.qualify package name) := by
  obtain ⟨names, rfl, hnames⟩ := hpackage
  refine ⟨names ++ [name], ?_, fun other hother => ?_⟩
  · exact Segments.qualify_join (fun other hother => (isName_of_isModuleName (hnames other hother)).toIsSegment) name
  · rcases List.mem_append.mp hother with hother | hother
    · exact hnames other hother
    · rwa [List.mem_singleton.mp hother]

/-- The way from one module to a name in another is a path. -/
theorem isPathText_relative {target : String} (htarget : IsModulePath target) (hname : isIdentifier name = true)
    (origin : String) : IsPathText (Reference.relative origin target name) := by
  obtain ⟨names, rfl, hnames⟩ := htarget
  rw [Reference.relative_join fun segment hsegment => isName_of_isModuleName (hnames segment hsegment)]
  refine isPathText_join ?_ fun segment hsegment => ?_
  · exact List.append_ne_nil_of_right_ne_nil _ (List.append_ne_nil_of_right_ne_nil _ (List.cons_ne_nil _ _))
  · rcases List.mem_append.mp hsegment with hsegment | hsegment
    · rw [List.eq_of_mem_replicate hsegment]
      decide
    · rcases List.mem_append.mp hsegment with hsegment | hsegment
      · exact isSegmentName_of_isModuleName (hnames segment (List.mem_of_mem_drop hsegment))
      · rw [List.mem_singleton.mp hsegment]
        exact isSegmentName_of_isIdentifier hname

end Names

/-- There are no blanks around a path of names. -/
theorem trim_of_isPathText {text : String} (h : IsPathText text) : Text.trim text = text := by
  obtain ⟨written, hwritten, rfl⟩ := h
  refine Text.trim_of_not_isBlank fun c hc => ?_
  rw [NamePath.text, String.toList_append, List.mem_append] at hc
  rcases hc with hc | hc
  · have hmarks : (if written.leading = true then "::" else "").toList.all (· == ':') = true := by
      cases written.leading <;> decide
    rw [beq_iff_eq.mp (List.all_eq_true.mp hmarks c hc)]
    decide
  · exact Segments.not_isBlank_join
      (fun name hname => isSegment_of_isWord (isWord_of_isSegmentName (hwritten.names name hname))) c hc

/-! ## Legible declarations -/

/-- A parameter whose name, type and markers can be read. -/
structure Parameter.Legible (parameter : Parameter) : Prop where
  name : isIdentifier parameter.name = true
  type : parameter.type.Legible
  setter : ∀ name, parameter.setterName = some name → ∃ found, identOfText? name = .ok found
  initial : ∀ text, parameter.marking = .initializer (some text) → ∃ tokens, expressionOfText? text = .ok tokens
  reference : ∀ reference, parameter.marking = .provider reference → IsPathText reference

/-- A constructor whose path and parameters can be read. -/
structure Constructor.Legible (constructor : Constructor) : Prop where
  path : IsPathText constructor.path
  parameters : ∀ parameter ∈ constructor.parameters, parameter.Legible

/-- An aggregate whose names, visibility and constructors can be read. -/
structure Aggregate.Legible (aggregate : Aggregate) : Prop where
  name : isIdentifier aggregate.name = true
  visibility : aggregate.visibility.Readable
  builderName : ∀ name, aggregate.builderName = some name → ∃ found, identOfText? name = .ok found
  constructors : ∀ constructor ∈ aggregate.constructors, constructor.Legible

/-- A provider that can be reached by a path of names. -/
structure Provider.Legible (provider : Provider) : Prop where
  name : isIdentifier provider.name = true
  package : IsModulePath provider.package

/-- An enumeration with identifiers for its variants. -/
def Enumeration.Legible (enumeration : Enumeration) : Prop :=
  ∀ variant ∈ enumeration.variants, isIdentifier variant = true

/-- Declarations all of which are legible. -/
structure Declarations.Legible (declarations : Declarations) : Prop where
  aggregates : ∀ aggregate ∈ declarations.aggregates, aggregate.Legible
  providers : ∀ provider ∈ declarations.providers, provider.Legible
  enumerations : ∀ enumeration ∈ declarations.enumerations, enumeration.Legible

/-! ## Names -/

/-- A name that may be missing or empty is replaced by a name that is an identifier. -/
theorem Parameter.Legible.exists_setter {parameter : Parameter} (h : parameter.Legible) :
    ∃ found, identOfText? parameter.setter = .ok found := by
  have hname := identOfText?_of_isIdentifier h.name
  rw [Parameter.setter]
  split
  · rename_i name hsome
    split
    · exact ⟨_, hname⟩
    · exact h.setter name hsome
  · exact ⟨_, hname⟩

theorem Aggregate.Legible.exists_generatedName {aggregate : Aggregate} (h : aggregate.Legible) :
    ∃ found, identOfText? aggregate.generatedName = .ok found := by
  have hname := identOfText?_of_isIdentifier (isIdentifier_builder h.name)
  rw [Aggregate.generatedName]
  split
  · rename_i name hsome
    obtain ⟨requested, hrequested, rfl⟩ := Option.map_eq_some_iff.mp hsome
    obtain ⟨found, hfound⟩ := h.builderName requested hrequested
    split
    · exact ⟨_, hname⟩
    · exact ⟨found, identOfText?_trim hfound⟩
  · exact ⟨_, hname⟩

/-! ## Strategies -/

/-- The variant at an end is one of the variants. -/
theorem Enumeration.mem_of_variant? {enumeration : Enumeration} {position : VariantEnd} {variant : String}
    (h : enumeration.variant? position = some variant) : variant ∈ enumeration.variants := by
  cases position with
  | first => exact List.mem_of_mem_head? h
  | last => exact List.mem_of_getLast? h

/-- The path of the value that is there. -/
def Grammar.somePath : NamePath :=
  ⟨true, ["core", "option", "Option", "Some"]⟩

theorem Grammar.isOperand_somePath : IsOperand somePath where
  nonempty := List.cons_ne_nil _ _
  names := by decide
  several := .inl rfl

/-- A variant behind the path of its enumeration is an expression, and so is the same as a value that is there. -/
theorem exists_variantExpression {path variant : String} (hpath : IsPathText path)
    (hvariant : isIdentifier variant = true) :
    (∃ tokens, expressionOfText? (path ++ "::" ++ variant) = .ok tokens) ∧
      ∃ tokens, expressionOfText? ("::core::option::Option::Some(" ++ (path ++ "::" ++ variant) ++ ")") =
        .ok tokens := by
  obtain ⟨written, hwritten, rfl⟩ := hpath
  have hsome : "::core::option::Option::Some(" = somePath.text ++ "(" := by decide
  have hoperand : IsOperand ⟨written.leading, written.names ++ [variant]⟩ :=
    { hwritten.concat (isSegmentName_of_isIdentifier hvariant) with
      several := .inr fun heq => hwritten.nonempty (List.append_eq_singleton_iff.mp heq |>.elim And.left
        fun hright => absurd hright.2 (List.cons_ne_nil _ _)) }
  rw [hwritten.text_concat, hsome]
  exact ⟨hoperand.expressionOfText?, isOperand_somePath.expressionOfText?_call hoperand⟩

/-- The texts of zero values are expressions. -/
theorem ZeroKind.exists_expression (kind : ZeroKind) : ∃ tokens, expressionOfText? kind.expression = .ok tokens := by
  rw [← isOk_iff]
  cases kind <;> decide +kernel

namespace Scope

variable {scope : Scope} {parameter : Parameter} {strategy : Strategy} (hparameter : parameter.Legible)

include hparameter

theorem readable_of_variant? (henumerations : ∀ enumeration ∈ scope.enumerations, enumeration.Legible)
    {type : DeclaredType} (htype : type = parameter.type) {position : VariantEnd}
    (h : scope.variant? type position = some strategy) : strategy.Readable := by
  obtain ⟨hmem, -, hvariant, hpath⟩ := variant?_eq_some_iff.mp h
  have hnamed := henumerations _ hmem _ (Enumeration.mem_of_variant? hvariant)
  obtain ⟨hplain, hwrapped⟩ := exists_variantExpression (hparameter.type.path _ (htype ▸ hpath)) hnamed
  rw [Strategy.Readable]
  split
  · exact hwrapped
  · exact hplain

theorem readable_of_infer (hregistered : ∀ type provider, scope.registry.entry? type = some provider →
      provider.Legible) (henumerations : ∀ enumeration ∈ scope.enumerations, enumeration.Legible)
    (h : scope.infer parameter = .ok strategy) : strategy.Readable := by
  rw [infer] at h
  split at h
  · rename_i provider hentry
    have hprovider := hregistered _ _ hentry
    cases h
    exact (isPathText_relative hprovider.package hprovider.name scope.package).pathOfText?
  · split at h
    · cases h
      trivial
    · split at h
      · rename_i hvariant
        cases h
        exact readable_of_variant? hparameter henumerations rfl hvariant
      · split at h
        · rename_i kind _
          cases h
          exact kind.exists_expression
        · cases h

/-- The texts of every strategy that is chosen for a legible parameter can be read. -/
theorem readable_of_choose (hregistered : ∀ type provider, scope.registry.entry? type = some provider →
      provider.Legible) (henumerations : ∀ enumeration ∈ scope.enumerations, enumeration.Legible)
    (h : scope.choose parameter = .ok strategy) : strategy.Readable := by
  have hinitial := hparameter.initial
  have hreference := hparameter.reference
  rw [choose] at h
  split at h
  case h_1 =>
    cases h
    trivial
  case h_2 => exact readable_of_infer hparameter hregistered henumerations h
  case h_3 =>
    split at h
    · cases h
      trivial
    · cases h
  case h_4 expression hmarking =>
    cases h
    cases expression with
    | none => exact exists_defaultExpression
    | some text => exact hinitial text hmarking
  case h_5 position _ =>
    split at h
    · rename_i hvariant
      cases h
      exact readable_of_variant? hparameter henumerations rfl hvariant
    · cases h
  case h_6 reference hmarking =>
    have htext := hreference reference hmarking
    obtain ⟨_, _, _, rfl⟩ := named_eq_ok_iff.mp h
    rw [Strategy.Readable, trim_of_isPathText htext]
    exact htext.pathOfText?

end Scope

/-! ## Builders -/

/-- The builder of a legible aggregate is rendered. -/
theorem Aggregate.exists_render {aggregate : Aggregate} {registry : Registry} {enumerations : List Enumeration}
    {builder : Builder} {cratePath : String} (haggregate : aggregate.Legible)
    (hregistered : ∀ type provider, registry.entry? type = some provider → provider.Legible)
    (henumerations : ∀ enumeration ∈ enumerations, enumeration.Legible)
    (hcrate : ∃ tokens, pathOfText? cratePath = .ok tokens)
    (hgenerate : aggregate.generate registry enumerations = .ok builder) :
    ∃ tokens, builder.render cratePath = .ok tokens := by
  obtain ⟨constructor, choices, hgenerated, rfl⟩ := generate_eq_ok hgenerate
  have hconstructor := haggregate.constructors constructor (hgenerated.constructors ▸ List.mem_singleton_self _)
  have hchoices : ∀ choice ∈ choices, ∃ parameter, parameter.Legible ∧
      Scope.Chosen { registry, enumerations, package := aggregate.package } parameter choice := by
    intro choice hchoice
    obtain ⟨parameter, hparameter, hchosen⟩ := exists_of_forall₂_of_mem hgenerated.chosen hchoice
    exact ⟨parameter, hconstructor.parameters parameter hparameter, hchosen⟩
  refine hgenerated.exists_render hcrate haggregate.exists_generatedName
    ⟨_, identOfText?_of_isIdentifier haggregate.name⟩ haggregate.visibility hconstructor.path.pathOfText?
    (fun choice hchoice => ?_) fun choice hchoice => ?_
  · obtain ⟨parameter, hparameter, hchosen⟩ := hchoices choice hchoice
    rw [hchosen.setter]
    exact hparameter.exists_setter
  · obtain ⟨parameter, hparameter, hchosen⟩ := hchoices choice hchoice
    have hname := identOfText?_of_isIdentifier hparameter.name
    have htype := hparameter.type.renders
    rw [← hchosen.name] at hname
    rw [← hchosen.type] at htype
    exact ⟨⟨_, hname⟩, htype, Scope.readable_of_choose hparameter hregistered henumerations hchosen.strategy⟩

/-- Every builder of a round over legible declarations is rendered. -/
theorem Round.exists_render {settings : Settings} {declarations : Declarations} {round : Round} {cratePath : String}
    (hlegible : declarations.Legible) (hcrate : ∃ tokens, pathOfText? cratePath = .ok tokens)
    (hrun : (run settings declarations).2 = .ok round) :
    ∀ builder ∈ round.builders, ∃ tokens, builder.render cratePath = .ok tokens := by
  obtain ⟨registry, hbuild, hcompletes⟩ := exists_completes_of_run hrun
  obtain ⟨notes, failures, _, _, haccounts⟩ := hcompletes.accounts
  intro builder hbuilder
  obtain ⟨aggregate, haggregate, hgenerate⟩ := exists_of_forall₂_of_mem haccounts.builders hbuilder
  refine Aggregate.exists_render (hlegible.aggregates aggregate (List.mem_of_mem_filter haggregate))
    (fun type provider hentry => ?_) hlegible.enumerations hcrate hgenerate
  exact hlegible.providers provider (Registry.entry?_eq_some hbuild hentry).1

end BuilderGen

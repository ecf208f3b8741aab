import BuilderGen.Proofs.Builder.Generation
import BuilderGen.Proofs.Builder.Plan
import BuilderGen.Proofs.Render.Demands
import BuilderGen.Proofs.Render.Outline
import BuilderGen.Proofs.Render.Types
import BuilderGen.Render.Template

/-!
# Builders whose texts can be read

A builder is rendered when every text in it can be read: names, types, paths, the scope of its visibility, and the
expressions of its defaults.  Everything in a builder that is not its own stems from one of its fields.

Each record of an outline rests on the texts that are read for it.  Taken together these are the demands of the
builder (`Render.rests_outline`): the struct has the names and types of the fields, the local variables have the
expressions of fields without a provider, and the arm for no field that was set calls every provider.
-/

namespace BuilderGen

open Grammar (expressionOfText? identOfText? pathOfText? visibilityOfText?)
open Render (Demand Renders Rests typeDemands)

/-- Whether the texts of a strategy can be read. -/
def Strategy.Readable : Strategy → Prop
  | .mandatory | .nullable => True
  | .zero _ text | .variant _ _ text => ∃ tokens, expressionOfText? text = .ok tokens
  | .initializer text => ∃ tokens, expressionOfText? (text.getD defaultExpression) = .ok tokens
  | .provider reference _ => ∃ tokens, pathOfText? reference = .ok tokens

/-- A field whose texts can be read. -/
structure Field.Readable (field : Field) : Prop where
  name : ∃ found, identOfText? field.name = .ok found
  type : Renders field.type
  strategy : field.strategy.Readable

/-- Whether the scope of a visibility can be read. -/
def Visibility.Readable : Visibility → Prop
  | .everywhere | .ownModule => True
  | .within scope => ∃ tree, visibilityOfText? ("pub(" ++ scope ++ ")") = .ok tree

theorem Strategy.Readable.met {strategy : Strategy} (h : strategy.Readable) :
    ∀ demand ∈ strategy.demands, demand.Met := by
  cases strategy with
  | mandatory | nullable => exact nofun
  | zero _ text | variant _ _ text | provider reference _ => exact List.forall_mem_singleton.mpr h
  | initializer text =>
      cases text with
      | none => exact nofun
      | some text => exact List.forall_mem_singleton.mpr h

theorem Field.Readable.met {field : Field} (h : field.Readable) : ∀ demand ∈ field.demands, demand.Met :=
  List.forall_mem_cons.mpr ⟨h.name, List.forall_mem_append.mpr
    ⟨Render.renders_iff_met.mp h.type, h.strategy.met⟩⟩

theorem Visibility.Readable.met {seen : Visibility} (h : seen.Readable) : ∀ demand ∈ seen.demands, demand.Met := by
  cases seen with
  | everywhere | ownModule => exact nofun
  | within scope => exact List.forall_mem_singleton.mpr h

theorem exists_defaultExpression : ∃ tokens, expressionOfText? defaultExpression = .ok tokens := by
  rw [← isOk_iff]
  decide +kernel

namespace Render

/-! ## Records of single fields -/

section Fields

variable (field : Field)

/-- The texts of a field in the generated struct. -/
def slotDemands : List Demand :=
  .name field.name :: typeDemands field.type

/-- The texts of what a new builder holds for a field. -/
def startDemands : List Demand :=
  match field.strategy with
  | .mandatory => [.name field.name]
  | .zero _ text | .variant _ _ text => [.expression text]
  | .nullable | .initializer _ | .provider .. => []

/-- The texts of a local variable. -/
def localDemands (resolution : FieldResolution) : List Demand :=
  .name resolution.field :: match resolution.resolution with
    | .value => []
    | .orDefault text => [.expression text]

/-- The texts of the call of a provider. -/
def callDemands (binding : Binding) : List Demand :=
  .path binding.provider :: typeDemands binding.produced

/-- The texts of a field in the expression that constructs the aggregate, where its provider is called if it has
one. -/
def memberDemands : List Demand :=
  .name field.name :: field.binding?.elim [] callDemands

/-- The texts of a field in the arm for a branch.  Its provider is called if the field falls back to it. -/
def armDemands (branch : Branch) : List Demand :=
  .name field.name :: if field.name ∈ branch.defaulted then field.binding?.elim [] callDemands else []

theorem rests_outlineField : Rests (slotDemands field) (outlineField field) := by
  have hslot : Rests (typeDemands field.type) (slot field.type field.widened) :=
    (rests_type field.type).finish fun _ => ⟨_, rfl⟩
  exact (rests_identifier field.name).bind fun _ => hslot.finish fun _ => ⟨_, rfl⟩

theorem rests_outlineParameter : Rests (slotDemands field) (outlineParameter field) :=
  (rests_identifier field.name).bind fun _ => (rests_type field.type).finish fun _ => ⟨_, rfl⟩

variable {field} in
/-- A new builder holds what the record of the field in the factory says. -/
theorem rests_outlineInitial {defaults : List DefaultValue}
    (hdefault : defaults.find? (·.field = field.name) = field.initial?) :
    Rests (startDemands field) (outlineInitial defaults field) := by
  rw [outlineInitial, hdefault, Field.initial?, startDemands]
  cases field.strategy with
  | mandatory => exact (rests_identifier field.name).map _
  | zero _ text | variant _ _ text => exact (rests_expression text).map _
  | nullable | initializer _ | provider _ _ => exact rests_ok _

/-- The texts of a setter. -/
def setterDemands (setter : Setter) : List Demand :=
  .name setter.name :: .name setter.field :: typeDemands setter.valueType

theorem rests_outlineSetter (setter : Setter) : Rests (setterDemands setter) (outlineSetter setter) :=
  (rests_identifier setter.name).bind fun _ => (rests_identifier setter.field).bind fun _ =>
    (rests_type setter.valueType).finish fun _ => ⟨_, rfl⟩

theorem rests_outlineLocal (resolution : FieldResolution) :
    Rests (localDemands resolution) (outlineLocal resolution) := by
  obtain ⟨name, resolution⟩ := resolution
  cases resolution with
  | value => exact (rests_identifier name).finish fun _ => ⟨_, rfl⟩
  | orDefault text =>
      exact (rests_identifier name).bind fun _ => (rests_expression text).finish fun _ => ⟨_, rfl⟩

theorem rests_providerCall (binding : Binding) : Rests (callDemands binding) (providerCall binding) :=
  (rests_path binding.provider).bind fun _ => (rests_type binding.produced).finish fun _ => ⟨_, rfl⟩

end Fields

/-! ## The body -/

section Body

variable {fields : List Field} (hnames : (fields.map Field.name).Nodup)

theorem rests_outlineMembers {call : Field → Except RenderFault (Option ProviderCall)} {parts : Field → List Demand}
    (hcall : ∀ field ∈ fields, Rests (parts field) (call field)) :
    Rests (fields.flatMap fun field => .name field.name :: parts field) (outlineMembers fields call) :=
  Rests.mapM fun field hfield =>
    (rests_identifier field.name).bind fun _ => (hcall field hfield).finish fun _ => ⟨_, rfl⟩

include hnames

theorem rests_outlineArm (names : List String) (branch : Branch) :
    Rests (fields.flatMap fun field => armDemands field branch)
      (outlineArm fields ((fields.filterMap Field.binding?).zip names)
        ((fields.filterMap Field.binding?).map fun binding => (binding.field, providerCall binding)) branch) := by
  refine (rests_outlineMembers fun field hfield => ?_).finish fun _ => ⟨_, rfl⟩
  split
  · rw [lookup_map_key Binding.field providerCall, find?_key_filterMap Field.map_field_binding? hnames hfield]
    cases field.binding? with
    | none => exact rests_ok none
    | some binding => exact (rests_providerCall binding).map some
  · exact rests_ok none

/-- In the branch in which no field was set, all fields fall back to their providers. -/
theorem armDemands_branchOf_nil {field : Field} (hfield : field ∈ fields) :
    armDemands field (Plan.branchOf (Plan.boundNames fields) []) = memberDemands field := by
  rw [armDemands, memberDemands]
  cases hbinding : field.binding? with
  | none => rw [Option.elim_none, ite_self]
  | some binding =>
      have hprovider := field.call?_isSome
      rw [Field.call?, hbinding] at hprovider
      have hdefaulted : field.name ∈ (Plan.branchOf (Plan.boundNames fields) []).defaulted :=
        List.mem_filter.mpr ⟨(mem_boundNames hnames hfield).mpr hprovider.symm, rfl⟩
      rw [if_pos hdefaulted]

omit hnames in
theorem armDemands_subset (field : Field) (branch : Branch) : armDemands field branch ⊆ memberDemands field := by
  rw [armDemands]
  split
  · exact List.Subset.refl _
  · exact List.cons_subset_cons _ (List.nil_subset _)

/-- Some arm calls the provider of each field that has one, and no arm reads any other texts. -/
theorem mem_memberDemands_iff {demand : Demand} :
    demand ∈ (fields.filterMap Field.binding?).flatMap (fun binding => [.name binding.field]) ++
        (Plan.branchesOf (Plan.boundNames fields)).flatMap (fun branch =>
          fields.flatMap fun field => armDemands field branch) ↔
      demand ∈ fields.flatMap memberDemands := by
  simp only [List.mem_append, List.mem_flatMap, List.mem_singleton]
  constructor
  · rintro (⟨binding, hbinding, rfl⟩ | ⟨branch, _, field, hfield, hdemand⟩)
    · obtain ⟨field, hfield, hsome⟩ := List.mem_filterMap.mp hbinding
      rw [key_of_record? Field.map_field_binding? hsome]
      exact ⟨field, hfield, List.mem_cons_self⟩
    · exact ⟨field, hfield, armDemands_subset field branch hdemand⟩
  · rintro ⟨field, hfield, hdemand⟩
    rw [← armDemands_branchOf_nil hnames hfield] at hdemand
    exact .inr ⟨_, List.mem_map_of_mem (mem_powerset.mpr (List.nil_sublist _)), field, hfield, hdemand⟩

/-- The body reads the names of all fields, and what the calls of their providers need. -/
theorem rests_outlineBody {builder : Builder} (hfields : builder.fields = fields)
    (hplan : builder.plan = .ofFields fields) : Rests (fields.flatMap memberDemands) (outlineBody builder) := by
  rw [outlineBody, hplan, hfields]
  by_cases hbound : Plan.boundNames fields = []
  · rw [Plan.ofFields_of_boundNames_eq_nil hbound]
    have hmembers : Rests (fields.flatMap fun field => [.name field.name]) (outlineMembers fields fun _ => .ok none) :=
      rests_outlineMembers fun _ _ => rests_ok none
    refine (hmembers.map _).congr fun demand _ => ?_
    rw [← Plan.filterMap_binding?_eq_nil, List.filterMap_eq_nil_iff] at hbound
    simp only [List.mem_flatMap, memberDemands]
    refine exists_congr fun field => and_congr_right fun hfield => ?_
    rw [hbound field hfield, Option.elim_none]
  · rw [Plan.ofFields_of_boundNames_ne_nil hbound]
    have hbindings := Rests.mapM fun binding (_ : binding ∈ fields.filterMap Field.binding?) =>
      rests_identifier binding.field
    have harms := fun names => Rests.mapM fun branch (_ : branch ∈ Plan.branchesOf (Plan.boundNames fields)) =>
      rests_outlineArm hnames names branch
    have hbody := hbindings.bind fun names => (harms names).finish fun arms => ⟨OutlineBody.branched names arms, rfl⟩
    exact hbody.congr fun demand _ => mem_memberDemands_iff hnames

end Body

/-! ## Whole outlines -/

section Demands

variable {demand : Demand}

/-- The records of a field read its texts and no others. -/
theorem mem_demands_iff (field : Field) (hunmet : ¬demand.Met) :
    demand ∈ field.demands ↔ demand ∈ slotDemands field ∨ demand ∈ startDemands field ∨
      (∃ resolution, field.resolution? = some resolution ∧ demand ∈ localDemands resolution) ∨
        demand ∈ memberDemands field := by
  have hdefault : demand ≠ .expression defaultExpression := by
    rintro rfl
    exact hunmet exists_defaultExpression
  obtain ⟨name, type, widened, strategy⟩ := field
  simp only [Field.demands, slotDemands, startDemands, memberDemands, Field.resolution?, Field.binding?]
  cases strategy with
  | mandatory | nullable => grind [Strategy.demands, localDemands]
  | zero _ text | variant _ _ text => grind [Strategy.demands, localDemands]
  | initializer text =>
      -- without an expression the default of the type is read, which is not a text of the field but always met
      cases text <;> grind [Strategy.demands, localDemands]
  | provider reference singleton => grind [Strategy.demands, callDemands]

theorem mem_fieldDemands_iff (fields : List Field) (hunmet : ¬demand.Met) :
    demand ∈ fields.flatMap Field.demands ↔ demand ∈ fields.flatMap slotDemands ∨
      demand ∈ fields.flatMap startDemands ∨ demand ∈ (fields.filterMap Field.resolution?).flatMap localDemands ∨
        demand ∈ fields.flatMap memberDemands := by
  simp only [List.mem_flatMap, List.mem_filterMap, mem_demands_iff _ hunmet]
  grind

/-- Apart from its own name, a setter has the texts of the slot of its field. -/
theorem mem_setterDemands_iff (choices : List Choice) :
    demand ∈ (choices.map Choice.fluentSetter).flatMap setterDemands ↔
      demand ∈ (choices.map Choice.fluentSetter).map (fun setter => .name setter.name) ∨
        demand ∈ (choices.map Choice.field).flatMap slotDemands := by
  have hsetter : ∀ choice : Choice, demand ∈ setterDemands choice.fluentSetter ↔
      demand = .name choice.fluentSetter.name ∨ demand ∈ slotDemands choice.field :=
    fun _ => List.mem_cons
  simp only [List.flatMap_map, List.map_map, List.mem_flatMap, List.mem_map, hsetter]
  grind

end Demands

/-- The outline of a generated builder rests on the texts of the builder. -/
theorem rests_outline {aggregate : Aggregate} {path : String} {choices : List Choice}
    (hnames : ((choices.map Choice.field).map Field.name).Nodup) (cratePath : String) :
    Rests ((Builder.ofChoices aggregate path choices).demands cratePath)
      (outline (.ofChoices aggregate path choices) cratePath) := by
  have hslots := Rests.mapM fun field (_ : field ∈ choices.map Choice.field) => rests_outlineField field
  have hmandatory := Rests.mapM fun field (_ : field ∈ (choices.map Choice.field).filter (·.strategy = .mandatory)) =>
    rests_outlineParameter field
  have hinitials := Rests.mapM fun field (hfield : field ∈ choices.map Choice.field) =>
    rests_outlineInitial (find?_key_filterMap Field.map_field_initial? hnames hfield)
  have hsetters := Rests.mapM fun setter (_ : setter ∈ choices.map Choice.fluentSetter) => rests_outlineSetter setter
  have hlocals := Rests.mapM fun resolution
    (_ : resolution ∈ (Plan.ofFields (choices.map Choice.field)).resolutions) => rests_outlineLocal resolution
  have hstages : Rests _ (outline (.ofChoices aggregate path choices) cratePath) :=
    (rests_path cratePath).bind fun _ => (rests_identifier aggregate.generatedName).bind fun _ =>
      (rests_identifier aggregate.name).bind fun _ => (rests_visibility aggregate.visibility).bind fun _ =>
      hslots.bind fun _ => hmandatory.bind fun _ => hinitials.bind fun _ => hsetters.bind fun _ =>
      (rests_path path).bind fun _ => hlocals.bind fun _ =>
      (rests_outlineBody hnames rfl rfl).finish fun _ => ⟨_, rfl⟩
  refine hstages.congr fun demand hunmet => ?_
  have hparameters : demand ∈ ((choices.map Choice.field).filter (·.strategy = .mandatory)).flatMap slotDemands →
      demand ∈ (choices.map Choice.field).flatMap slotDemands := by
    simp only [List.mem_flatMap, List.mem_filter]
    grind
  simp only [Builder.demands, Builder.ofChoices, Plan.resolutions_ofFields, List.mem_append, List.mem_cons,
    List.not_mem_nil, or_false, mem_fieldDemands_iff _ hunmet, mem_setterDemands_iff]
  grind

end Render

/-! ## Rendered builders -/

/-- Rendering a generated builder rests on the texts of the builder. -/
theorem Aggregate.Generated.rests_render {aggregate : Aggregate} {registry : Registry}
    {enumerations : List Enumeration} {constructor : Constructor} {choices : List Choice}
    (hgenerated : aggregate.Generated registry enumerations constructor choices) (cratePath : String) :
    Rests ((Builder.ofChoices aggregate constructor.path choices).demands cratePath)
      ((Builder.ofChoices aggregate constructor.path choices).render cratePath) :=
  (Render.rests_outline hgenerated.nodup_fieldNames cratePath).map _

/-- A builder is rendered when its own texts and those of its fields can be read. -/
theorem Aggregate.Generated.exists_render {aggregate : Aggregate} {registry : Registry}
    {enumerations : List Enumeration} {constructor : Constructor} {choices : List Choice} {cratePath : String}
    (hgenerated : aggregate.Generated registry enumerations constructor choices)
    (hcrate : ∃ tokens, pathOfText? cratePath = .ok tokens)
    (hname : ∃ found, identOfText? aggregate.generatedName = .ok found)
    (htarget : ∃ found, identOfText? aggregate.name = .ok found)
    (hvisibility : aggregate.visibility.Readable)
    (hconstructor : ∃ tokens, pathOfText? constructor.path = .ok tokens)
    (hsetters : ∀ choice ∈ choices, ∃ found, identOfText? choice.setter = .ok found)
    (hfields : ∀ choice ∈ choices, choice.field.Readable) :
    ∃ tokens, (Builder.ofChoices aggregate constructor.path choices).render cratePath = .ok tokens := by
  refine (hgenerated.rests_render cratePath).exists_ok_iff.mpr ?_
  have hown : ∀ demand ∈ [Demand.path cratePath, .name aggregate.generatedName, .name aggregate.name,
      .path constructor.path], demand.Met := by
    simp only [List.forall_mem_cons, List.not_mem_nil]
    exact ⟨hcrate, hname, htarget, hconstructor, nofun⟩
  rw [Builder.demands, List.forall_mem_append, List.forall_mem_append, List.forall_mem_append]
  refine ⟨⟨⟨hown, hvisibility.met⟩, fun demand hdemand => ?_⟩, fun demand hdemand => ?_⟩
  · obtain ⟨field, hfield, hdemand⟩ := List.mem_flatMap.mp hdemand
    obtain ⟨choice, hchoice, rfl⟩ := List.mem_map.mp hfield
    exact (hfields choice hchoice).met demand hdemand
  · obtain ⟨setter, hsetter, rfl⟩ := List.mem_map.mp hdemand
    obtain ⟨choice, hchoice, rfl⟩ := List.mem_map.mp hsetter
    exact hsetters choice hchoice

/-- A generated builder is rendered exactly when all its texts can be read, and the path to the run-time library.
Otherwise the fault shows a text that cannot be read, and says why. -/
theorem Aggregate.render_iff_met {aggregate : Aggregate} {registry : Registry} {enumerations : List Enumeration}
    {builder : Builder} {cratePath : String} (hgenerate : aggregate.generate registry enumerations = .ok builder) :
    ((∃ tokens, builder.render cratePath = .ok tokens) ↔ ∀ demand ∈ builder.demands cratePath, demand.Met) ∧
      ∀ fault, builder.render cratePath = .error fault →
        ∃ demand ∈ builder.demands cratePath,
          ¬demand.Met ∧ demand.subject = fault.subject ∧ demand.Gives fault := by
  obtain ⟨constructor, choices, hgenerated, rfl⟩ := generate_eq_ok hgenerate
  have hrests := hgenerated.rests_render cratePath
  refine ⟨hrests.exists_ok_iff, fun fault hfault => ?_⟩
  obtain ⟨demand, hdemand, hgives⟩ := hrests.blamed fault hfault
  exact ⟨demand, hdemand, hgives.not_met.1, hgives.not_met.2, hgives⟩

/-- The builder of a parcel is rendered, so its texts can be read.  A path to the run-time library that is none is
enough for it not to be. -/
theorem Shop.parcelBuilder_met : (∀ demand ∈ Shop.parcelBuilder.demands "::optbuilder", demand.Met) ∧
    ¬∃ tokens, Shop.parcelBuilder.render "a b" = .ok tokens := by
  constructor
  · refine (Aggregate.render_iff_met Shop.generate_parcel).1.mp ⟨Shop.parcelOutline.tokens, ?_⟩
    exact congrArg (Except.map Outline.tokens) Shop.outline_parcelBuilder
  · have hpath : ¬(Demand.path "a b").Met := by
      rw [Demand.Met, ← isOk_iff]
      decide +kernel
    rw [(Aggregate.render_iff_met Shop.generate_parcel).1]
    exact fun hmet => hpath (hmet (.path "a b") List.mem_cons_self)

end BuilderGen

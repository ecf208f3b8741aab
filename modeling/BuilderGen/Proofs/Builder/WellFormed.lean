import BuilderGen.Execution.Datum
import BuilderGen.Proofs.Builder.Generation
import BuilderGen.Proofs.Builder.Plan
import BuilderGen.Proofs.Default.Strategy

/-!
# Well-formed builders

The fields, the setters, the factory and the plan of a builder are computed by four functions, each of which
looks at the strategies on its own.  The generated code only passes a type check when the four agree about
every slot.  `Builder.WellFormed` says how they have to agree, and every generated builder is well formed.

There are three groups.

* The slot rules.  `Builder.SlotRules` says, for one field, which initial value goes with which resolution
  and which width of the slot.  `Choice.slotRules` goes through the strategies once.
* The types of slots.  `Builder.Stores` lists the values that the factory and the setters put into a slot,
  and `Builder.read?` says what building makes of the value that it finds there.  For a field that follows
  the slot rules every stored value has the type of the slot, and every value of that type is read as a
  value of the declared type.
* The lists.  Fields and setters follow the parameters, and the records of the factory and the plan split
  the fields in order.
-/

namespace BuilderGen

/-! ## Records of a builder by name -/

namespace Builder

/-- What the factory stores for the field of a name. -/
def initial? (builder : Builder) (name : String) : Option Initial :=
  (builder.factory.defaults.find? (·.field = name)).map DefaultValue.initial

/-- How building resolves the field of a name, if no provider backs it. -/
def resolution? (builder : Builder) (name : String) : Option Resolution :=
  (builder.plan.resolutions.find? (·.field = name)).map FieldResolution.resolution

/-- The binding of the field of a name, if a provider backs it. -/
def binding? (builder : Builder) (name : String) : Option Binding :=
  builder.plan.bindings.find? (·.field = name)

/-- What a builder has recorded under the name of a field is what its strategy leads to. -/
structure Records (builder : Builder) (field : Field) : Prop where
  initial : builder.initial? field.name = field.initial?.map DefaultValue.initial
  resolution : builder.resolution? field.name = field.resolution?.map FieldResolution.resolution
  binding : builder.binding? field.name = field.binding?

/-- The records of a builder that was put together from choices with different names. -/
theorem records_ofChoices (aggregate : Aggregate) (path : String) {choices : List Choice}
    (hnames : ((choices.map Choice.field).map Field.name).Nodup) {field : Field}
    (hfield : field ∈ choices.map Choice.field) : (ofChoices aggregate path choices).Records field := by
  constructor
  case initial =>
    exact congrArg (Option.map DefaultValue.initial)
      (find?_key_filterMap Field.map_field_initial? hnames hfield)
  case resolution =>
    unfold resolution? ofChoices
    rw [Plan.resolutions_ofFields]
    exact congrArg (Option.map FieldResolution.resolution)
      (find?_key_filterMap Field.map_field_resolution? hnames hfield)
  case binding =>
    unfold binding? ofChoices
    rw [Plan.bindings_ofFields]
    exact find?_key_filterMap Field.map_field_binding? hnames hfield

end Builder

/-! ## The slot rules -/

/-- How the parts of a builder agree about the slot of one field. -/
structure Builder.SlotRules (builder : Builder) (field : Field) : Prop where
  /-- Whoever sets the field gives a value of its type, and wraps it when the slot is widened. -/
  setter : ∀ setter ∈ builder.setters, setter.field = field.name →
    setter.valueType = field.type ∧ setter.wraps = field.widened
  /-- The factory takes an argument for a mandatory field only. -/
  argument : field.name ∈ builder.factory.mandatory ↔ field.strategy = .mandatory
  /-- The slot of a mandatory field holds the declared type, and its value is taken as it is. -/
  mandatory : field.strategy = .mandatory →
    field.widened = false ∧ builder.initial? field.name = none ∧
      builder.resolution? field.name = some .value
  /-- Any other slot of the declared type starts absent, which the type admits. -/
  unwidened : field.widened = false → field.strategy ≠ .mandatory →
    field.type.nullable = true ∧ builder.initial? field.name = some .null ∧
      builder.resolution? field.name = some .value
  /-- A widened slot starts with the value of an expression that is also its default, or it starts unset and
  its default is an expression or a provider of the declared type. -/
  widened : field.widened = true →
    (∃ expression, builder.initial? field.name = some (.value expression) ∧
      builder.resolution? field.name = some (.orDefault expression)) ∨
    (builder.initial? field.name = some .unset ∧
      ((∃ expression, builder.resolution? field.name = some (.orDefault expression)) ∨
        ∃ binding, builder.binding? field.name = some binding ∧ binding.produced = field.type))
  /-- Either an expression or a provider stands behind a field, not both. -/
  exclusive : builder.resolution? field.name = none ↔ (builder.binding? field.name).isSome

section OfChoices

variable {aggregate : Aggregate} {path : String} {choices : List Choice} {choice : Choice}

/-- The setter that fills the field of a choice is the one of the same choice. -/
theorem Choice.eq_of_setter (hnames : ((choices.map Choice.field).map Field.name).Nodup)
    (hchoice : choice ∈ choices) {setter : Setter}
    (hsetter : setter ∈ (Builder.ofChoices aggregate path choices).setters)
    (hfield : setter.field = choice.name) : setter = choice.fluentSetter := by
  obtain ⟨other, hother, rfl⟩ := List.mem_map.mp hsetter
  rw [List.map_map] at hnames
  rw [List.inj_on_of_nodup_map hnames hother hchoice hfield]

/-- The factory takes an argument for the field of a choice when the choice is mandatory. -/
theorem Choice.mem_mandatory (hnames : ((choices.map Choice.field).map Field.name).Nodup)
    (hchoice : choice ∈ choices) :
    choice.name ∈ (Builder.ofChoices aggregate path choices).factory.mandatory ↔
      choice.strategy = .mandatory := by
  constructor
  · intro hmem
    obtain ⟨field, hfield, hname⟩ := List.mem_map.mp hmem
    obtain ⟨hfields, hmandatory⟩ := List.mem_filter.mp hfield
    have hsame : field = choice.field :=
      List.inj_on_of_nodup_map hnames hfields (List.mem_map_of_mem hchoice) hname
    rw [hsame] at hmandatory
    exact of_decide_eq_true hmandatory
  · intro hmandatory
    refine List.mem_map.mpr ⟨choice.field, List.mem_filter.mpr ⟨?_, ?_⟩, rfl⟩
    · exact List.mem_map_of_mem hchoice
    · exact decide_eq_true hmandatory

end OfChoices

section Records

variable {builder : Builder} {field : Field} (hrecords : builder.Records field)

include hrecords

theorem Builder.Records.of_mandatory (hstrategy : field.strategy = .mandatory) :
    builder.initial? field.name = none ∧ builder.resolution? field.name = some .value := by
  rw [hrecords.initial, hrecords.resolution, Field.initial?, Field.resolution?, hstrategy]
  exact ⟨rfl, rfl⟩

theorem Builder.Records.of_nullable (hstrategy : field.strategy = .nullable) :
    builder.initial? field.name = some .null ∧ builder.resolution? field.name = some .value := by
  rw [hrecords.initial, hrecords.resolution, Field.initial?, Field.resolution?, hstrategy]
  exact ⟨rfl, rfl⟩

/-- A strategy that widens the slot has a default: one expression for the start and for building, or one
expression for building, or a provider. -/
theorem Builder.Records.of_widens (hwidens : field.strategy.widens = true) :
    (∃ expression, builder.initial? field.name = some (.value expression) ∧
      builder.resolution? field.name = some (.orDefault expression)) ∨
    (builder.initial? field.name = some .unset ∧
      ((∃ expression, builder.resolution? field.name = some (.orDefault expression)) ∨
        ∃ binding, builder.binding? field.name = some binding ∧ binding.produced = field.type)) := by
  rw [hrecords.initial, hrecords.resolution, hrecords.binding, Field.initial?, Field.resolution?,
    Field.binding?]
  cases hstrategy : field.strategy with
  | mandatory | nullable =>
      rw [hstrategy] at hwidens
      cases hwidens
  | zero _ text | variant _ _ text => exact .inl ⟨text, rfl, rfl⟩
  | initializer text => exact .inr ⟨rfl, .inl ⟨_, rfl⟩⟩
  | provider _ _ => exact .inr ⟨rfl, .inr ⟨_, rfl, rfl⟩⟩

theorem Builder.Records.resolution_eq_none_iff :
    builder.resolution? field.name = none ↔ (builder.binding? field.name).isSome = true := by
  rw [hrecords.resolution, hrecords.binding, Field.resolution?, Field.binding?]
  cases field.strategy <;> simp

end Records

/-- Only two strategies leave the slot as wide as the declared type. -/
theorem Strategy.widens_eq_false {strategy : Strategy} (h : strategy.widens = false) :
    strategy = .mandatory ∨ strategy = .nullable := by
  cases strategy with
  | mandatory => exact .inl rfl
  | nullable => exact .inr rfl
  | _ => cases h

/-- The slot of a choice follows the rules in every builder made from choices with different names. -/
theorem Choice.slotRules {aggregate : Aggregate} {path : String} {choices : List Choice} {choice : Choice}
    (hnames : ((choices.map Choice.field).map Field.name).Nodup) (hchoice : choice ∈ choices)
    (hnullable : choice.strategy = .nullable → choice.type.nullable = true) :
    (Builder.ofChoices aggregate path choices).SlotRules choice.field := by
  have hrecords := Builder.records_ofChoices aggregate path hnames (List.mem_map_of_mem hchoice)
  constructor
  case setter =>
    intro setter hmem hfield
    rw [Choice.eq_of_setter hnames hchoice hmem hfield]
    exact ⟨rfl, rfl⟩
  case argument => exact Choice.mem_mandatory hnames hchoice
  case mandatory =>
    intro hmandatory
    have hwidened : choice.field.widened = false := congrArg Strategy.widens hmandatory
    exact ⟨hwidened, hrecords.of_mandatory hmandatory⟩
  case unwidened =>
    intro hunwidened hother
    rcases Strategy.widens_eq_false hunwidened with hmandatory | hnull
    · exact absurd hmandatory hother
    · exact ⟨hnullable hnull, hrecords.of_nullable hnull⟩
  case widened => exact hrecords.of_widens
  case exclusive => exact hrecords.resolution_eq_none_iff

/-! ## The types of slots -/

section Types

variable {α : Type}

/-- The values of the option type around some values. -/
def Datum.IsOption (inner : Datum α → Prop) : Datum α → Prop
  | .absent => True
  | .present value => inner value
  | _ => False

/-- The values of a declared type.  `plain` says which values a type has that admits no absent value. -/
def DeclaredType.Admits (plain : DeclaredType → Datum α → Prop) (type : DeclaredType) :
    Datum α → Prop :=
  if type.nullable then Datum.IsOption (plain type.present) else plain type

/-- The values of the type of a slot: the declared type, or the option type around it. -/
def Field.SlotAdmits (plain : DeclaredType → Datum α → Prop) (field : Field) : Datum α → Prop :=
  if field.widened then Datum.IsOption (field.type.Admits plain) else field.type.Admits plain

/-- The values that the factory and the setters of a builder put into the slot of a field.  Arguments,
expressions and callbacks give values of the types that the builder states for them. -/
inductive Builder.Stores (plain : DeclaredType → Datum α → Prop) (builder : Builder) (field : Field) :
    Datum α → Prop
  | argument {value : Datum α} (hfield : field.name ∈ builder.factory.mandatory)
      (hvalue : field.type.Admits plain value) : Stores plain builder field value
  | null (hinitial : builder.initial? field.name = some .null) : Stores plain builder field .absent
  | unset (hinitial : builder.initial? field.name = some .unset) : Stores plain builder field .absent
  | expression {text : String} {value : Datum α}
      (hinitial : builder.initial? field.name = some (.value text))
      (hvalue : field.type.Admits plain value) : Stores plain builder field (.present value)
  | bare {setter : Setter} {value : Datum α} (hsetter : setter ∈ builder.setters)
      (hfield : setter.field = field.name) (hwraps : setter.wraps = false)
      (hvalue : setter.valueType.Admits plain value) : Stores plain builder field value
  | wrapped {setter : Setter} {value : Datum α} (hsetter : setter ∈ builder.setters)
      (hfield : setter.field = field.name) (hwraps : setter.wraps = true)
      (hvalue : setter.valueType.Admits plain value) : Stores plain builder field (.present value)

/-- The type of the value that stands in for an unset slot: what the provider produces, or else the type for
which the default expression is written. -/
def Builder.fallbackType (builder : Builder) (field : Field) : DeclaredType :=
  match builder.binding? field.name with
  | some binding => binding.produced
  | none => field.type

/-- What building makes of the value of a slot, given the value that stands in for an unset slot.  There is
no value where the code would not pass a type check. -/
def Builder.read? (builder : Builder) (field : Field) (held fallback : Datum α) : Option (Datum α) :=
  match builder.resolution? field.name, held with
  | some .value, value => some value
  | some (.orDefault _), .present value => some value
  | some (.orDefault _), .absent => some fallback
  | some (.orDefault _), _ => none
  | none, .present value => if (builder.binding? field.name).isSome then some value else none
  | none, .absent => if (builder.binding? field.name).isSome then some fallback else none
  | none, _ => none

/-- A value of the option type is absent or present. -/
theorem Datum.IsOption.cases {inner : Datum α → Prop} {value : Datum α} (h : IsOption inner value) :
    value = .absent ∨ ∃ present, value = .present present ∧ inner present := by
  cases value with
  | atom _ => exact h.elim
  | list _ => exact h.elim
  | absent => exact .inl rfl
  | present value => exact .inr ⟨value, rfl, h⟩

section Rules

variable {plain : DeclaredType → Datum α → Prop} {builder : Builder} {field : Field}
  (hrules : builder.SlotRules field)

include hrules

/-- A slot of the declared type starts with an argument, or absent where the type admits that. -/
theorem Builder.SlotRules.initial?_of_unwidened (hwidened : field.widened = false) :
    builder.initial? field.name = none ∨
      builder.initial? field.name = some .null ∧ field.type.nullable = true := by
  by_cases hstrategy : field.strategy = .mandatory
  · exact .inl (hrules.mandatory hstrategy).2.1
  · obtain ⟨hnullable, hinitial, _⟩ := hrules.unwidened hwidened hstrategy
    exact .inr ⟨hinitial, hnullable⟩

/-- Every value that is stored in a slot has the type of the slot. -/
theorem Builder.SlotRules.admits_of_stores {value : Datum α}
    (hstores : builder.Stores plain field value) : field.SlotAdmits plain value := by
  unfold Field.SlotAdmits
  cases hstores with
  | argument hfield hvalue =>
      rw [(hrules.mandatory (hrules.argument.mp hfield)).1]
      exact hvalue
  | null hinitial =>
      cases hwidened : field.widened with
      | true => trivial
      | false =>
          rcases hrules.initial?_of_unwidened hwidened with hnone | ⟨_, hnullable⟩
          · rw [hnone] at hinitial
            cases hinitial
          · rw [if_neg (by decide), DeclaredType.Admits, if_pos hnullable]
            trivial
  | unset hinitial =>
      cases hwidened : field.widened with
      | true => trivial
      | false =>
          rcases hrules.initial?_of_unwidened hwidened with hother | ⟨hother, _⟩ <;>
            rw [hother] at hinitial <;> cases hinitial
  | expression hinitial hvalue =>
      cases hwidened : field.widened with
      | true => exact hvalue
      | false =>
          rcases hrules.initial?_of_unwidened hwidened with hother | ⟨hother, _⟩ <;>
            rw [hother] at hinitial <;> cases hinitial
  | bare hsetter hfield hwraps hvalue | wrapped hsetter hfield hwraps hvalue =>
      obtain ⟨htype, hwidened⟩ := hrules.setter _ hsetter hfield
      rw [← hwidened, hwraps, ← htype]
      exact hvalue

/-- A slot of the declared type is read as it is. -/
theorem Builder.SlotRules.resolution?_of_unwidened (hwidened : field.widened = false) :
    builder.resolution? field.name = some .value := by
  by_cases hstrategy : field.strategy = .mandatory
  · exact (hrules.mandatory hstrategy).2.2
  · exact (hrules.unwidened hwidened hstrategy).2.2

/-- A widened slot has either a default expression or a provider of the declared type. -/
theorem Builder.SlotRules.default_cases (hwidened : field.widened = true) :
    (∃ text, builder.resolution? field.name = some (.orDefault text) ∧ builder.binding? field.name = none) ∨
      ∃ binding, builder.resolution? field.name = none ∧ builder.binding? field.name = some binding ∧
        binding.produced = field.type := by
  have hdefault : (∃ text, builder.resolution? field.name = some (.orDefault text)) ∨
      ∃ binding, builder.binding? field.name = some binding ∧ binding.produced = field.type := by
    rcases hrules.widened hwidened with ⟨text, _, hresolution⟩ | ⟨_, hdefault⟩
    · exact .inl ⟨text, hresolution⟩
    · exact hdefault
  rcases hdefault with ⟨text, hresolution⟩ | ⟨binding, hbinding, hproduced⟩
  · refine .inl ⟨text, hresolution, ?_⟩
    cases hbinding : builder.binding? field.name with
    | none => rfl
    | some binding =>
        rw [hrules.exclusive.mpr (by simp [hbinding])] at hresolution
        cases hresolution
  · exact .inr ⟨binding, hrules.exclusive.mpr (by simp [hbinding]), hbinding, hproduced⟩

theorem Builder.SlotRules.fallbackType_of_widened (hwidened : field.widened = true) :
    builder.fallbackType field = field.type := by
  unfold Builder.fallbackType
  rcases hrules.default_cases hwidened with ⟨_, _, hbinding⟩ | ⟨binding, _, hbinding, hproduced⟩
  · rw [hbinding]
  · rw [hbinding]
    exact hproduced

/-- From a widened slot the value is read that is present, or else the one that stands in for it. -/
theorem Builder.SlotRules.read?_of_widened (hwidened : field.widened = true) (fallback : Datum α) :
    builder.read? field .absent fallback = some fallback ∧
      ∀ value, builder.read? field (.present value) fallback = some value := by
  unfold Builder.read?
  rcases hrules.default_cases hwidened with ⟨text, hresolution, _⟩ | ⟨binding, hresolution, hbinding, _⟩
  · rw [hresolution]
    exact ⟨rfl, fun _ => rfl⟩
  · rw [hresolution, hbinding]
    exact ⟨rfl, fun _ => rfl⟩

/-- Building reads every value of the type of a slot as a value of the declared type. -/
theorem Builder.SlotRules.read? {held fallback : Datum α}
    (hheld : field.SlotAdmits plain held)
    (hfallback : (builder.fallbackType field).Admits plain fallback) :
    ∃ value, builder.read? field held fallback = some value ∧ field.type.Admits plain value := by
  unfold Field.SlotAdmits at hheld
  cases hwidened : field.widened with
  | false =>
      rw [hwidened, if_neg (by decide)] at hheld
      refine ⟨held, ?_, hheld⟩
      unfold Builder.read?
      rw [hrules.resolution?_of_unwidened hwidened]
  | true =>
      rw [hwidened, if_pos rfl] at hheld
      rw [hrules.fallbackType_of_widened hwidened] at hfallback
      obtain ⟨habsent, hpresent⟩ := hrules.read?_of_widened hwidened fallback
      rcases hheld.cases with rfl | ⟨value, rfl, hvalue⟩
      · exact ⟨fallback, habsent, hfallback⟩
      · exact ⟨value, hpresent value, hvalue⟩

end Rules

end Types

/-! ## The lists -/

/-- A builder whose parts agree with each other and with the parameters it was made for. -/
structure Builder.WellFormed (parameters : List Parameter) (builder : Builder) : Prop where
  fields : builder.fields.map (fun field => (field.name, field.type)) =
    parameters.map fun parameter => (parameter.name, parameter.type)
  setters : builder.setters.map (fun setter => (setter.name, setter.field, setter.valueType)) =
    parameters.map fun parameter => (parameter.setter, parameter.name, parameter.type)
  names : (builder.fields.map Field.name).Nodup
  wraps : builder.setters.map Setter.wraps = builder.fields.map Field.widened
  mandatory : builder.factory.mandatory =
    (builder.fields.filter (·.strategy = .mandatory)).map Field.name
  defaults : builder.factory.defaults.map DefaultValue.field =
    (builder.fields.filter (·.strategy ≠ .mandatory)).map Field.name
  resolutions : builder.plan.resolutions.map FieldResolution.field =
    (builder.fields.filter (!·.strategy.isProvider)).map Field.name
  bindings : builder.plan.bindings.map Binding.field =
    (builder.fields.filter (·.strategy.isProvider)).map Field.name
  direct : (∃ resolutions, builder.plan = .direct resolutions) ↔ builder.plan.bindings = []
  slots : ∀ field ∈ builder.fields, builder.SlotRules field

/-- A plan is direct when it has no bindings. -/
theorem Plan.direct_iff_bindings_eq_nil (fields : List Field) :
    (∃ resolutions, ofFields fields = .direct resolutions) ↔ (ofFields fields).bindings = [] := by
  rw [bindings_ofFields, filterMap_binding?_eq_nil]
  constructor
  · rintro ⟨resolutions, hdirect⟩
    by_contra hnames
    rw [ofFields_of_boundNames_ne_nil hnames] at hdirect
    cases hdirect
  · intro hnames
    exact ⟨_, ofFields_of_boundNames_eq_nil hnames⟩

/-- A generated builder is well formed for the parameters of the only constructor. -/
theorem Aggregate.Generated.wellFormed {aggregate : Aggregate} {registry : Registry}
    {enumerations : List Enumeration} {constructor : Constructor} {choices : List Choice}
    (hgenerated : aggregate.Generated registry enumerations constructor choices) :
    (Builder.ofChoices aggregate constructor.path choices).WellFormed constructor.parameters where
  fields := by
    refine (List.map_map ..).trans (hgenerated.map_eq _ _ fun _ _ hchosen => ?_)
    exact Prod.ext hchosen.name hchosen.type
  setters := by
    refine (List.map_map ..).trans (hgenerated.map_eq _ _ fun _ _ hchosen => ?_)
    exact Prod.ext hchosen.setter (Prod.ext hchosen.name hchosen.type)
  names := hgenerated.nodup_fieldNames
  wraps := by
    rw [Builder.ofChoices, List.map_map, List.map_map]
    rfl
  mandatory := rfl
  defaults := map_key_filterMap Field.map_field_initial? _
  resolutions := by
    rw [Builder.ofChoices, Plan.resolutions_ofFields]
    exact map_key_filterMap Field.map_field_resolution? _
  bindings := by
    rw [Builder.ofChoices, Plan.bindings_ofFields]
    exact map_key_filterMap Field.map_field_binding? _
  direct := Plan.direct_iff_bindings_eq_nil _
  slots := by
    intro field hfield
    obtain ⟨choice, hchoice, rfl⟩ := List.mem_map.mp hfield
    refine Choice.slotRules hgenerated.nodup_fieldNames hchoice fun hnullable => ?_
    obtain ⟨parameter, hchosen⟩ := hgenerated.exists_chosen hchoice
    rw [hchosen.type]
    exact Scope.nullable_of_choose (hnullable ▸ hchosen.strategy)

/-- Every builder that is generated is well formed, and its fields have the strategies that were chosen for
the parameters.  So whatever the factory and the setters store has the type of the slot, and building reads
it as a value of the declared type. -/
theorem Aggregate.generate_wellFormed {α : Type} (plain : DeclaredType → Datum α → Prop)
    {aggregate : Aggregate} {registry : Registry} {enumerations : List Enumeration} {builder : Builder}
    (hgenerate : aggregate.generate registry enumerations = .ok builder) :
    ∃ constructor, aggregate.constructors = [constructor] ∧
      builder.WellFormed constructor.parameters ∧
      List.Forall₂
        (fun parameter field =>
          Scope.choose { registry, enumerations, package := aggregate.package } parameter =
            .ok field.strategy)
        constructor.parameters builder.fields ∧
      ∀ field ∈ builder.fields,
        (∀ value, builder.Stores plain field value → field.SlotAdmits plain value) ∧
        ∀ held fallback, field.SlotAdmits plain held →
          (builder.fallbackType field).Admits plain fallback →
            ∃ value, builder.read? field held fallback = some value ∧ field.type.Admits plain value := by
  obtain ⟨constructor, choices, hgenerated, rfl⟩ := generate_eq_ok hgenerate
  refine ⟨constructor, hgenerated.constructors, hgenerated.wellFormed, ?_, fun field hfield => ?_⟩
  · rw [Builder.ofChoices, List.forall₂_map_right_iff]
    exact hgenerated.chosen.imp fun _ _ hchosen => hchosen.strategy
  · have hrules := hgenerated.wellFormed.slots field hfield
    exact ⟨fun value => hrules.admits_of_stores, fun held fallback => hrules.read?⟩

/-- The builder of a parcel is well formed. -/
theorem Shop.parcelBuilder_wellFormed :
    ∃ constructor, Shop.parcel.constructors = [constructor] ∧
      Shop.parcelBuilder.WellFormed constructor.parameters := by
  obtain ⟨constructor, hconstructor, hwellFormed, _⟩ :=
    Aggregate.generate_wellFormed (fun _ (_ : Shop.Value) => True) Shop.generate_parcel
  exact ⟨constructor, hconstructor, hwellFormed⟩

end BuilderGen

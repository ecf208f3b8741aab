import BuilderGen.Proofs.Builder.Acceptance
import BuilderGen.Proofs.Source.Malformed

/-!
# The constructors that items offer

An aggregate gets a builder only if it has one constructor.  Whether it does is decided in two steps: reading turns
the fields of an item into a list of constructors, and the list must have one entry.  This module says of an item
what comes out of both steps together.

* `Source.Offers` says which items have a constructor with named fields: structs with braces, and enums with a
  single variant with braces.  `Source.Rejects` gives the fault of the others.
* `Constructor.ReadFrom` ties the constructor to the fields, one parameter for each.
* `Source.decides_struct` and `Source.decides_enum` are the two kinds of items.

The two sides leave out one kind of item.  An enum with a single variant without fields has no named fields, and yet
it is not rejected: its constructor takes nothing, as in `Shop.idle_offered`.
-/

namespace BuilderGen

open Grammar (FieldTree FieldsTree StructTree EnumTree VariantTree Item)

/-! ## Parameters -/

/-- A parameter has the name and the type of its field, and what the two markers of the field say. -/
structure Parameter.ReadFrom (field : FieldTree) (parameter : Parameter) : Prop where
  name : field.name = some parameter.name
  type : parameter.type = describe field.type
  setterName : Marker.setter? field.attributes = .ok parameter.setterName
  marking : Marker.marking field.attributes = .ok parameter.marking

/-- A constructor has a path, and one parameter for each named field, in order. -/
structure Constructor.ReadFrom (path : String) (fields : List FieldTree) (constructor : Constructor) : Prop where
  path : constructor.path = path
  parameters : List.Forall₂ Parameter.ReadFrom (Source.namedFields fields) constructor.parameters

theorem Parameter.ReadFrom.unique {field : FieldTree} {parameter other : Parameter} (h : ReadFrom field parameter)
    (hother : ReadFrom field other) : parameter = other := by
  obtain ⟨name, type, setterName, marking⟩ := parameter
  obtain ⟨hname, rfl, hsetter, hmarking⟩ := h
  obtain ⟨name', type', setterName', marking'⟩ := other
  obtain ⟨hname', rfl, hsetter', hmarking'⟩ := hother
  simp_all

theorem Constructor.ReadFrom.unique {path : String} {fields : List FieldTree} {constructor other : Constructor}
    (h : ReadFrom path fields constructor) (hother : ReadFrom path fields other) : constructor = other := by
  have hunique : Relator.RightUnique Parameter.ReadFrom := fun _ _ _ hparameter hother => hparameter.unique hother
  have hparameters : constructor.parameters = other.parameters := hunique.forall₂ h.parameters hother.parameters
  have hpath : constructor.path = other.path := h.path.trans hother.path.symm
  cases constructor
  cases other
  rw [Constructor.mk.injEq]
  exact ⟨hpath, hparameters⟩

namespace Source

/-- Reading named fields gives one parameter for each. -/
theorem readFrom_parameters {fields : FieldsTree} {found : List Parameter} (h : parameters fields = .ok found) :
    List.Forall₂ Parameter.ReadFrom (namedFields fields.toList) found := by
  have hread := mapM_eq_ok.mp h
  have hnamed : (fields.toList.filterMap fun field => field.name.map fun name => (name, field)).map Prod.snd =
      namedFields fields.toList := by
    rw [namedFields, List.map_filterMap, ← List.filterMap_eq_filter]
    refine congrArg (List.filterMap · fields.toList) (funext fun field => ?_)
    cases hname : field.name <;> simp [hname, Option.guard]
  rw [← hnamed, List.forall₂_map_left_iff]
  have hnames : ∀ place ∈ fields.toList.filterMap fun field => field.name.map fun name => (name, field),
      place.2.name = some place.1 := by
    intro place hplace
    obtain ⟨field, _, hplace⟩ := List.mem_filterMap.mp hplace
    obtain ⟨name, hname, rfl⟩ := Option.map_eq_some_iff.mp hplace
    exact hname
  refine List.Forall₂.imp (fun place parameter hparameter => ?_) ((List.forall₂_and_left _ _).mpr ⟨hnames, hread⟩)
  obtain ⟨hname, hparameter⟩ := hparameter
  obtain ⟨setterName, hsetter, hparameter⟩ := bind_eq_ok.mp hparameter
  obtain ⟨marking, hmarking, hparameter⟩ := bind_eq_ok.mp hparameter
  obtain rfl := pure_eq_ok.mp hparameter
  exact ⟨hname, rfl, hsetter, hmarking⟩

/-- What reading makes of the fields of a constructor. -/
theorem readFrom_of_parameters {path : String} {fields : FieldsTree} {constructor : Constructor}
    (h : (parameters fields).map (fun parameters => ({ path, parameters } : Constructor)) = .ok constructor) :
    constructor.ReadFrom path fields.toList := by
  obtain ⟨found, hfound, rfl⟩ := map_eq_ok.mp h
  exact ⟨rfl, readFrom_parameters hfound⟩

/-! ## What an item offers -/

/-- The constructor of an item that has a single one with named fields: its path and its fields. -/
inductive Offers : Item → String → List FieldTree → Prop
  | struct {item : StructTree} {fields : List FieldTree} (hfields : item.fields = .named fields) :
      Offers (.struct item) item.name fields
  | variant {item : EnumTree} {variant : VariantTree} {fields : List FieldTree} (honly : item.variants = [variant])
      (hfields : variant.fields = .named fields) :
      Offers (.enum item) (item.name ++ "::" ++ variant.name) fields

/-- An enum with a single variant, which has no fields: the path of the variant. -/
inductive IsLoneUnit : Item → String → Prop
  | variant {item : EnumTree} {variant : VariantTree} (honly : item.variants = [variant])
      (hunit : variant.fields = .unit) : IsLoneUnit (.enum item) (item.name ++ "::" ++ variant.name)

/-- Why an item has no constructor to use.  Positional variants count beside others, but not on their own. -/
inductive Rejects : Item → Fault → Prop
  | unnamed {item : StructTree} (hfields : ∀ fields, item.fields ≠ .named fields) :
      Rejects (.struct item) (.noConstructor item.name)
  | several {item : EnumTree} (hmany : 1 < item.variants.length)
      (hmixed : ∃ variant ∈ item.variants, variant.fields.isPositional = false) :
      Rejects (.enum item) (.ambiguousConstructor item.name item.variants.length)
  | positional {item : EnumTree} (hpositional : ∀ variant ∈ item.variants, variant.fields.isPositional = true) :
      Rejects (.enum item) (.noConstructor item.name)

section Exclusive

variable {item : Item} {path : String} {fields : List FieldTree} {fault : Fault}

theorem Offers.unique {other : String} {others : List FieldTree} (h : Offers item path fields)
    (hother : Offers item other others) : path = other ∧ fields = others := by
  cases h with
  | struct hfields =>
      cases hother with
      | struct hothers =>
          rw [hfields] at hothers
          exact ⟨rfl, FieldsTree.named.inj hothers⟩
  | variant honly hfields =>
      cases hother with
      | variant honly' hothers =>
          rw [honly] at honly'
          obtain rfl := List.singleton_inj.mp honly'
          rw [hfields] at hothers
          exact ⟨rfl, FieldsTree.named.inj hothers⟩

theorem IsLoneUnit.unique {other : String} (h : IsLoneUnit item path) (hother : IsLoneUnit item other) :
    path = other := by
  obtain ⟨honly, _⟩ := h
  obtain ⟨honly', _⟩ := hother
  rw [honly] at honly'
  rw [List.singleton_inj.mp honly']

theorem Offers.not_isLoneUnit {other : String} (h : Offers item path fields) : ¬IsLoneUnit item other := by
  rintro ⟨honly, hunit⟩
  cases h with
  | variant honly' hfields =>
      rw [honly] at honly'
      obtain rfl := List.singleton_inj.mp honly'
      rw [hunit] at hfields
      cases hfields

theorem not_rejects_of_single {item : EnumTree} {variant : VariantTree} (honly : item.variants = [variant])
    (hpositional : variant.fields.isPositional = false) : ¬Rejects (.enum item) fault := by
  intro h
  cases h with
  | several hmany _ =>
      rw [honly] at hmany
      exact absurd hmany (by simp)
  | positional hall =>
      rw [hall variant (honly ▸ List.mem_singleton_self variant)] at hpositional
      cases hpositional

theorem Offers.not_rejects (h : Offers item path fields) : ¬Rejects item fault := by
  cases h with
  | struct hfields =>
      rintro ⟨hnone⟩
      exact hnone fields hfields
  | variant honly hfields => exact not_rejects_of_single honly (by rw [hfields]; rfl)

theorem IsLoneUnit.not_rejects (h : IsLoneUnit item path) : ¬Rejects item fault := by
  obtain ⟨honly, hunit⟩ := h
  exact not_rejects_of_single honly (by rw [hunit]; rfl)

theorem Rejects.unique {other : Fault} (h : Rejects item fault) (hother : Rejects item other) : fault = other := by
  cases h with
  | unnamed _ =>
      cases hother
      rfl
  | several hmany hmixed =>
      cases hother with
      | several _ _ => rfl
      | positional hall =>
          obtain ⟨variant, hvariant, hnot⟩ := hmixed
          rw [hall variant hvariant] at hnot
          cases hnot
  | positional hall =>
      cases hother with
      | positional _ => rfl
      | several _ hmixed =>
          obtain ⟨variant, hvariant, hnot⟩ := hmixed
          rw [hall variant hvariant] at hnot
          cases hnot

end Exclusive

/-! ## What an aggregate has -/

/-- The only constructor of an aggregate is the one that its item offers.  The single variant of an enum gets through
without fields.  Where there is no such constructor, the fault is the one for which the item is rejected. -/
structure Decides (item : Item) (aggregate : Aggregate) : Prop where
  offered : ∀ constructor, aggregate.constructor = .ok constructor ↔
    (∃ path fields, Offers item path fields ∧ constructor.ReadFrom path fields) ∨
      ∃ path, IsLoneUnit item path ∧ constructor = { path, parameters := [] }
  rejected : ∀ fault, aggregate.constructor = .error fault ↔ Rejects item fault

section Decides

variable {item : Item} {aggregate : Aggregate} {path : String}

theorem decides_of_offers {constructor : Constructor} {fields : List FieldTree} (hoffers : Offers item path fields)
    (hread : constructor.ReadFrom path fields) (hconstructor : aggregate.constructor = .ok constructor) :
    Decides item aggregate := by
  constructor
  case offered =>
    intro other
    rw [hconstructor, Except.ok.injEq]
    constructor
    · rintro rfl
      exact .inl ⟨path, fields, hoffers, hread⟩
    · rintro (⟨path, fields, hother, hreadOther⟩ | ⟨path, hunit, _⟩)
      · obtain ⟨rfl, rfl⟩ := hoffers.unique hother
        exact hread.unique hreadOther
      · exact absurd hunit hoffers.not_isLoneUnit
  case rejected =>
    intro fault
    rw [hconstructor]
    exact ⟨nofun, fun hrejects => absurd hrejects hoffers.not_rejects⟩

theorem decides_of_isLoneUnit (hunit : IsLoneUnit item path)
    (hconstructor : aggregate.constructor = .ok { path, parameters := [] }) : Decides item aggregate := by
  constructor
  case offered =>
    intro other
    rw [hconstructor, Except.ok.injEq]
    constructor
    · rintro rfl
      exact .inr ⟨path, hunit, rfl⟩
    · rintro (⟨path, fields, hoffers, _⟩ | ⟨path, hother, rfl⟩)
      · exact absurd hunit hoffers.not_isLoneUnit
      · rw [hunit.unique hother]
  case rejected =>
    intro fault
    rw [hconstructor]
    exact ⟨nofun, fun hrejects => absurd hrejects hunit.not_rejects⟩

theorem decides_of_rejects {fault : Fault} (hrejects : Rejects item fault)
    (hconstructor : aggregate.constructor = .error fault) : Decides item aggregate := by
  constructor
  case offered =>
    intro constructor
    rw [hconstructor]
    refine ⟨nofun, ?_⟩
    rintro (⟨path, fields, hoffers, _⟩ | ⟨path, hunit, _⟩)
    · exact absurd hrejects hoffers.not_rejects
    · exact absurd hrejects hunit.not_rejects
  case rejected =>
    intro other
    rw [hconstructor, Except.error.injEq]
    constructor
    · rintro rfl
      exact hrejects
    · exact hrejects.unique

end Decides

theorem decides_struct {item : StructTree} {aggregate : Aggregate} (hname : aggregate.name = item.name)
    (hread : structConstructors item = .ok aggregate.constructors) : Decides (.struct item) aggregate := by
  rw [structConstructors] at hread
  cases hfields : item.fields with
  | named fields =>
      rw [hfields] at hread
      obtain ⟨found, hfound, hconstructors⟩ := map_eq_ok.mp hread
      refine decides_of_offers (.struct hfields) ?_ (Aggregate.constructor_of_single hconstructors.symm)
      exact ⟨rfl, readFrom_parameters hfound⟩
  | positional _ | unit =>
      rw [hfields] at hread
      have hnone := Aggregate.constructor_of_nil (Except.ok.inj hread).symm
      rw [hname] at hnone
      exact decides_of_rejects (.unnamed (by simp [hfields])) hnone

/-- A single variant that is not positional is taken, with or without fields. -/
theorem decides_single {item : EnumTree} {variant : VariantTree} {aggregate : Aggregate} {constructor : Constructor}
    (honly : item.variants = [variant]) (hnot : variant.fields.isPositional = false)
    (hread : constructor.ReadFrom (item.name ++ "::" ++ variant.name) variant.fields.toList)
    (hconstructor : aggregate.constructor = .ok constructor) : Decides (.enum item) aggregate := by
  cases hfields : variant.fields with
  | named fields =>
      rw [hfields] at hread
      exact decides_of_offers (.variant honly hfields) hread hconstructor
  | positional fields =>
      rw [hfields] at hnot
      cases hnot
  | unit =>
      rw [hfields] at hread
      have hempty : Constructor.ReadFrom (item.name ++ "::" ++ variant.name) []
          { path := item.name ++ "::" ++ variant.name, parameters := [] } := ⟨rfl, .nil⟩
      rw [hread.unique hempty] at hconstructor
      exact decides_of_isLoneUnit (.variant honly hfields) hconstructor

theorem decides_enum {item : EnumTree} {aggregate : Aggregate} (hname : aggregate.name = item.name)
    (hread : enumConstructors item = .ok aggregate.constructors) : Decides (.enum item) aggregate := by
  rw [enumConstructors] at hread
  split at hread
  · rename_i hmixed
    have hnot : ∃ variant ∈ item.variants, variant.fields.isPositional = false := by simpa using hmixed
    have hconstructors := mapM_eq_ok.mp hread
    rcases hvariants : item.variants with _ | ⟨variant, _ | ⟨second, rest⟩⟩
    · simp [hvariants] at hnot
    · rw [hvariants, List.forall₂_cons_left_iff] at hconstructors
      obtain ⟨constructor, others, hread, hothers, hsingle⟩ := hconstructors
      rw [List.forall₂_nil_left_iff.mp hothers] at hsingle
      rw [hvariants] at hnot
      exact decides_single hvariants (by simpa using hnot) (readFrom_of_parameters hread)
        (Aggregate.constructor_of_single hsingle)
    · have hmany : 1 < item.variants.length := by simp [hvariants]
      have hambiguous := Aggregate.constructor_of_many (hconstructors.length_eq ▸ hmany)
      rw [hname, ← hconstructors.length_eq] at hambiguous
      exact decides_of_rejects (.several hmany hnot) hambiguous
  · rename_i hpositional
    have hnone := Aggregate.constructor_of_nil (Except.ok.inj hread).symm
    rw [hname] at hnone
    exact decides_of_rejects (.positional (by simpa using hpositional)) hnone

/-! ## Marked items -/

/-- With the builder marker there is one aggregate, of the name of the item. -/
theorem AggregatesRead.exists_of_marked {package name : String} {attributes : List Grammar.Attribute}
    {seen : Grammar.VisibilityTree} {generic : Bool} {constructors : Except MarkerFault (List Constructor)}
    {aggregates : List Aggregate}
    (h : AggregatesRead package name attributes seen generic constructors aggregates)
    (hmarked : asksForBuilder attributes = true) :
    ∃ aggregate, aggregates = [aggregate] ∧ aggregate.name = name ∧ constructors = .ok aggregate.constructors := by
  cases h with
  | unmarked hmarker =>
      rw [asksForBuilder, hmarker] at hmarked
      cases hmarked
  | marked _ hconstructors => exact ⟨_, rfl, rfl, hconstructors⟩

theorem exists_aggregate_ofStruct {package : String} {item : StructTree} {found : Declarations}
    (hmarked : asksForBuilder item.attributes = true) (h : ofStruct package item = .ok found) :
    ∃ aggregate, found.aggregates = [aggregate] ∧ Decides (.struct item) aggregate := by
  obtain ⟨aggregate, honly, hname, hread⟩ := (ofStruct_eq_ok h).aggregates.exists_of_marked hmarked
  exact ⟨aggregate, honly, decides_struct hname hread⟩

theorem exists_aggregate_ofEnum {package : String} {item : EnumTree} {found : Declarations}
    (hmarked : asksForBuilder item.attributes = true) (h : ofEnum package item = .ok found) :
    ∃ aggregate, found.aggregates = [aggregate] ∧ Decides (.enum item) aggregate := by
  obtain ⟨aggregate, honly, hname, hread⟩ := (ofEnum_eq_ok h).aggregates.exists_of_marked hmarked
  exact ⟨aggregate, honly, decides_enum hname hread⟩

/-- An item with the builder marker and well-formed markers is read as one aggregate.

The aggregate has exactly one constructor when the item is a struct with named fields or an enum with a single variant
that has named fields.  Then the path is the name of the struct, or that of the variant behind the enum's, and the
parameters are the named fields in order.  An enum whose single variant has no fields gets through with a constructor
without parameters.  Every other item is rejected: as ambiguous if it is an enum with two or more variants that are
not all positional, and otherwise because there is no constructor. -/
theorem exists_aggregate_of_wellMarked (package : String) (item : Item) (haggregate : isAggregate item = true)
    (hmarked : wellMarkedItem item = true) :
    ∃ found aggregate, ofItem package item = .ok (found, []) ∧ found.aggregates = [aggregate] ∧
      Decides item aggregate := by
  have hwell : wellMarked [item] = true := by rw [wellMarked, hmarked]; rfl
  obtain ⟨all, hall⟩ := exists_ofItems package hwell
  obtain ⟨found, hfound, -⟩ := bind_eq_ok.mp hall
  cases item with
  | struct item =>
      obtain ⟨declarations, hdeclarations, rfl⟩ := map_eq_ok.mp hfound
      obtain ⟨aggregate, honly, hdecides⟩ := exists_aggregate_ofStruct haggregate hdeclarations
      exact ⟨declarations, aggregate, hfound, honly, hdecides⟩
  | enum item =>
      obtain ⟨declarations, hdeclarations, rfl⟩ := map_eq_ok.mp hfound
      obtain ⟨aggregate, honly, hdecides⟩ := exists_aggregate_ofEnum haggregate hdeclarations
      exact ⟨declarations, aggregate, hfound, honly, hdecides⟩
  | module _ _ | impl _ | outline _ | other _ => cases haggregate

end Source

/-! ## Samples -/

namespace Shop

open Grammar

/-- An enum with the builder marker and a single variant. -/
def shapeOf (variant : String) (fields : FieldsTree) : Item :=
  .enum
    { attributes := [builderMarker], visibility := .everywhere, name := "Shape", generics := [], constraints := [],
      variants := [{ attributes := [], name := variant, fields, discriminant := [], comma := false }] }

/-- A field without markers. -/
def radiusField : FieldTree where
  attributes := []
  visibility := .inherited
  name := some "radius"
  type := .path false [.mk "f64" .none]
  comma := false

/-- A variant with a named field is taken. -/
theorem circle_offered :
    Source.isAggregate (shapeOf "Circle" (.named [radiusField])) = true ∧
      Source.wellMarkedItem (shapeOf "Circle" (.named [radiusField])) = true ∧
      ∃ found aggregate, Source.ofItem "shop" (shapeOf "Circle" (.named [radiusField])) = .ok (found, []) ∧
        found.aggregates = [aggregate] ∧
        aggregate.constructor =
          .ok { path := "Shape::Circle", parameters := [{ name := "radius", type := .ofPath "f64" }] } := by
  have haggregate : Source.isAggregate (shapeOf "Circle" (.named [radiusField])) = true := by decide
  have hmarked : Source.wellMarkedItem (shapeOf "Circle" (.named [radiusField])) = true := by decide
  obtain ⟨found, aggregate, hfound, honly, hdecides⟩ :=
    Source.exists_aggregate_of_wellMarked "shop" (shapeOf "Circle" (.named [radiusField])) haggregate hmarked
  refine ⟨haggregate, hmarked, found, aggregate, hfound, honly, (hdecides.offered _).mpr (.inl ?_)⟩
  exact ⟨_, _, .variant rfl rfl, rfl, .cons ⟨rfl, rfl, rfl, rfl⟩ .nil⟩

/-- A variant without fields has no named fields, and is taken too. -/
theorem idle_offered :
    Source.isAggregate (shapeOf "Idle" .unit) = true ∧ Source.wellMarkedItem (shapeOf "Idle" .unit) = true ∧
      (∀ path fields, ¬Source.Offers (shapeOf "Idle" .unit) path fields) ∧
      ∃ found aggregate, Source.ofItem "shop" (shapeOf "Idle" .unit) = .ok (found, []) ∧
        found.aggregates = [aggregate] ∧
        aggregate.constructor = .ok { path := "Shape::Idle", parameters := [] } := by
  have hunit : ∃ path, Source.IsLoneUnit (shapeOf "Idle" .unit) path := ⟨_, .variant rfl rfl⟩
  obtain ⟨_, hunit⟩ := hunit
  refine ⟨by decide, by decide, fun path fields hoffers => hoffers.not_isLoneUnit hunit, ?_⟩
  exact ⟨_, _, rfl, rfl, rfl⟩

end Shop

end BuilderGen

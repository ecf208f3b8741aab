import BuilderGen.Builder.Basic
import BuilderGen.Proofs.Builder.Powerset
import BuilderGen.Proofs.Records

/-!
# The plan of a list of fields

The factory and the plan of a builder are lists of records, at most one for each field, in field order.  This
module says which fields have which records.  The branches of a plan are found by the set of provider-backed
fields that were set.
-/

namespace BuilderGen

/-! ## The records of a field -/

namespace Field

theorem map_field_initial? (field : Field) :
    field.initial?.map DefaultValue.field =
      if decide (field.strategy ≠ .mandatory) then some field.name else none := by
  unfold initial?
  cases field.strategy <;> simp

theorem map_field_resolution? (field : Field) :
    field.resolution?.map FieldResolution.field =
      if !field.strategy.isProvider then some field.name else none := by
  unfold resolution?
  cases field.strategy <;> simp [Strategy.isProvider]

theorem map_field_binding? (field : Field) :
    field.binding?.map Binding.field =
      if field.strategy.isProvider then some field.name else none := by
  unfold binding?
  cases field.strategy <;> simp [Strategy.isProvider]

end Field

namespace Plan

/-! ## The plan of a list of fields -/

/-- The names of the provider-backed fields. -/
def boundNames (fields : List Field) : List String :=
  (fields.filter (·.strategy.isProvider)).map Field.name

theorem map_field_bindings (fields : List Field) :
    (fields.filterMap Field.binding?).map Binding.field = boundNames fields :=
  map_key_filterMap Field.map_field_binding? fields

theorem filterMap_binding?_eq_nil {fields : List Field} :
    fields.filterMap Field.binding? = [] ↔ boundNames fields = [] := by
  rw [← map_field_bindings, List.map_eq_nil_iff]

@[simp]
theorem resolutions_ofFields (fields : List Field) :
    (ofFields fields).resolutions = fields.filterMap Field.resolution? := by
  unfold ofFields
  split <;> rfl

@[simp]
theorem bindings_ofFields (fields : List Field) :
    (ofFields fields).bindings = fields.filterMap Field.binding? := by
  unfold ofFields
  split
  · rename_i hnil
    exact hnil.symm
  · rfl

/-- A plan is direct when no field is provider-backed. -/
theorem ofFields_of_boundNames_eq_nil {fields : List Field} (h : boundNames fields = []) :
    ofFields fields = .direct (fields.filterMap Field.resolution?) := by
  unfold ofFields
  rw [filterMap_binding?_eq_nil.mpr h]

/-- A plan has branches when some field is provider-backed. -/
theorem ofFields_of_boundNames_ne_nil {fields : List Field} (h : boundNames fields ≠ []) :
    ofFields fields =
      .branched (fields.filterMap Field.resolution?) (fields.filterMap Field.binding?)
        (branchesOf (boundNames fields)) := by
  unfold ofFields
  split
  · rename_i hnil
    exact absurd (filterMap_binding?_eq_nil.mp hnil) h
  · rw [map_field_bindings]

/-! ## The branch for a set of fields -/

/-- Leaving out the members of a part is the same as leaving out the members that chose the part. -/
theorem filter_not_mem_filter (names set : List String) :
    names.filter (· ∉ names.filter (· ∈ set)) = names.filter (· ∉ set) := by
  refine List.filter_congr fun name hname => ?_
  simp [hname]

/-- Among the branches for some names, the search for a set takes the branch of exactly the names in it. -/
theorem find?_branchesOf (names set : List String) :
    (branchesOf names).find? (fun branch => branch.set.all (· ∈ set)) =
      some { set := names.filter (· ∈ set), defaulted := names.filter (· ∉ set) } := by
  rw [branchesOf, List.find?_map]
  have hfind := find?_powerset names set
  have hcomp : ((fun branch : Branch => branch.set.all (· ∈ set)) ∘ branchOf names) =
      fun subset => subset.all (· ∈ set) := rfl
  rw [hcomp, hfind, Option.map_some, branchOf, filter_not_mem_filter]

theorem boundNames_eq_nil_iff {fields : List Field} :
    boundNames fields = [] ↔ ∀ field ∈ fields, field.strategy.isProvider = false := by
  rw [boundNames, List.map_eq_nil_iff, List.filter_eq_nil_iff]
  simp only [Bool.not_eq_true]

theorem branch?_of_boundNames_eq_nil {fields : List Field} (h : boundNames fields = []) (set : List String) :
    (ofFields fields).branch? set = none := by
  rw [ofFields_of_boundNames_eq_nil h]
  rfl

theorem branch?_of_boundNames_ne_nil {fields : List Field} (h : boundNames fields ≠ []) (set : List String) :
    (ofFields fields).branch? set =
      some { set := (boundNames fields).filter (· ∈ set), defaulted := (boundNames fields).filter (· ∉ set) } := by
  rw [ofFields_of_boundNames_ne_nil h]
  exact find?_branchesOf (boundNames fields) set

/-- Which branch a plan takes for a set of names, in whatever order and however often the names stand in it.

There is no branch just when no field is provider-backed.  Otherwise there is exactly one answer: the
provider-backed fields whose names are in the set count as set, the other provider-backed fields fall back to
their providers, and both are listed in field order.  Names of other fields do not matter. -/
theorem branch?_ofFields (fields : List Field) (set : List String) :
    ((ofFields fields).branch? set = none ↔ ∀ field ∈ fields, field.strategy.isProvider = false) ∧
      ∀ branch, (ofFields fields).branch? set = some branch ↔
        (∃ field ∈ fields, field.strategy.isProvider = true) ∧
          branch.set = (boundNames fields).filter (· ∈ set) ∧
          branch.defaulted = (boundNames fields).filter (· ∉ set) := by
  by_cases hnames : boundNames fields = []
  · have hnone := boundNames_eq_nil_iff.mp hnames
    rw [branch?_of_boundNames_eq_nil hnames]
    refine ⟨⟨fun _ => hnone, fun _ => rfl⟩, fun branch => ⟨nofun, ?_⟩⟩
    rintro ⟨⟨field, hfield, hprovider⟩, _⟩
    rw [hnone field hfield] at hprovider
    cases hprovider
  · have hsome : ∃ field ∈ fields, field.strategy.isProvider = true := by
      have hnot := mt boundNames_eq_nil_iff.mpr hnames
      push Not at hnot
      simpa using hnot
    rw [branch?_of_boundNames_ne_nil hnames]
    refine ⟨⟨nofun, fun h => absurd (boundNames_eq_nil_iff.mpr h) hnames⟩, fun branch => ?_⟩
    constructor
    · intro h
      obtain rfl := Option.some.inj h
      exact ⟨hsome, rfl, rfl⟩
    · rintro ⟨_, hset, hdefaulted⟩
      rw [← hset, ← hdefaulted]

end Plan

end BuilderGen

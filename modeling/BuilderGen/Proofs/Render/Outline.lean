import BuilderGen.Proofs.Builder.Generation
import BuilderGen.Proofs.Builder.Plan
import BuilderGen.Render.Outline

/-!
# The outline of a generated builder

An outline is read off a builder record by record, and reading can fail at every text.  This module says
what the outline of a builder looks like once everything was read.  `Field.spelled`, `Field.start`,
`Field.local?`, `Field.call?` and `Render.armFor` give the parts that stem from one field, or from one subset
of the fields; `Render.Outlined` collects that the outline consists of exactly these parts.
-/

namespace BuilderGen

namespace Render

/-! ## Texts that were read -/

section Reading

variable {β : Type} [Inhabited β]

/-- The result of reading.  Nothing is asked of it where reading fails. -/
def reading : Except RenderFault β → β
  | .ok value => value
  | .error _ => default

theorem reading_of_eq_ok {result : Except RenderFault β} {value : β} (h : result = .ok value) :
    reading result = value := by
  rw [h]
  rfl

/-- A traversal that succeeds gives what is read at every item. -/
theorem eq_map_reading {α : Type} {step : α → Except RenderFault β} {items : List α} {results : List β}
    (h : items.mapM step = .ok results) : results = items.map fun item => reading (step item) :=
  eq_map_of_forall₂ (mapM_eq_ok.mp h) fun _ _ hitem => (reading_of_eq_ok hitem).symm

end Reading

/-- The identifier that the generated code has for a name. -/
def spelled (name : String) : String :=
  reading (identifier name)

/-- The tokens that the generated code has for an expression. -/
def code (text : String) : List Token :=
  reading (expression text)

end Render

open Render (spelled code reading)

/-! ## The parts that stem from one field -/

namespace Field

/-- What a new builder holds for a field. -/
def start (field : Field) : OutlineInitial :=
  match field.strategy with
  | .mandatory => .argument (spelled field.name)
  | .zero _ text | .variant _ _ text => .value (code text)
  | .nullable | .initializer _ | .provider .. => .absent

/-- The local variable for a field that no provider backs. -/
def local? (field : Field) : Option OutlineLocal :=
  match field.strategy with
  | .mandatory | .nullable => some ⟨spelled field.name, none⟩
  | .zero _ text | .variant _ _ text => some ⟨spelled field.name, some (code text)⟩
  | .initializer text => some ⟨spelled field.name, some (code (text.getD defaultExpression))⟩
  | .provider .. => none

/-- The call of the provider that backs a field. -/
def call? (field : Field) : Option ProviderCall :=
  field.binding?.map fun binding => reading (Render.providerCall binding)

theorem call?_isSome (field : Field) : field.call?.isSome = field.strategy.isProvider := by
  unfold call? binding?
  cases field.strategy <;> rfl

theorem local?_isSome (field : Field) : field.local?.isSome = !field.strategy.isProvider := by
  unfold local?
  cases field.strategy <;> rfl

theorem map_name_local? (field : Field) :
    field.local?.map OutlineLocal.name = if !field.strategy.isProvider then some (spelled field.name) else none := by
  unfold local?
  cases field.strategy <;> rfl

theorem name_of_local? {field : Field} {item : OutlineLocal} (h : field.local? = some item) :
    item.name = spelled field.name :=
  key_of_record? map_name_local? h

end Field

/-! ## Records that were read -/

namespace Render

theorem outlineField_eq_ok {field : Field} {outlined : OutlineField}
    (h : outlineField field = .ok outlined) : outlined.name = spelled field.name := by
  obtain ⟨name, hname, h⟩ := bind_eq_ok.mp h
  obtain ⟨slot, _, h⟩ := bind_eq_ok.mp h
  obtain rfl := pure_eq_ok.mp h
  exact (reading_of_eq_ok hname).symm

theorem outlineParameter_eq_ok {field : Field} {outlined : OutlineParameter}
    (h : outlineParameter field = .ok outlined) : outlined.name = spelled field.name := by
  obtain ⟨name, hname, h⟩ := bind_eq_ok.mp h
  obtain ⟨type, _, h⟩ := bind_eq_ok.mp h
  obtain rfl := pure_eq_ok.mp h
  exact (reading_of_eq_ok hname).symm

theorem outlineSetter_eq_ok {setter : Setter} {outlined : OutlineSetter}
    (h : outlineSetter setter = .ok outlined) :
    outlined.name = spelled setter.name ∧ outlined.field = spelled setter.field ∧
      outlined.wraps = setter.wraps := by
  obtain ⟨name, hname, h⟩ := bind_eq_ok.mp h
  obtain ⟨field, hfield, h⟩ := bind_eq_ok.mp h
  obtain ⟨type, _, h⟩ := bind_eq_ok.mp h
  obtain rfl := pure_eq_ok.mp h
  exact ⟨(reading_of_eq_ok hname).symm, (reading_of_eq_ok hfield).symm, rfl⟩

/-- A field starts with what its record in the factory says. -/
theorem outlineInitial_eq_ok {defaults : List DefaultValue} {field : Field} {outlined : OutlineInitial}
    (hdefault : defaults.find? (·.field = field.name) = field.initial?)
    (h : outlineInitial defaults field = .ok outlined) : outlined = field.start := by
  unfold outlineInitial at h
  rw [hdefault] at h
  unfold Field.initial? at h
  unfold Field.start
  cases hstrategy : field.strategy with
  | mandatory =>
      rw [hstrategy, if_pos rfl] at h
      obtain ⟨name, hname, rfl⟩ := map_eq_ok.mp h
      exact congrArg OutlineInitial.argument (reading_of_eq_ok hname).symm
  | nullable | initializer _ | provider _ _ =>
      rw [hstrategy, if_neg nofun] at h
      cases h
      rfl
  | zero _ text | variant _ _ text =>
      rw [hstrategy, if_neg nofun] at h
      obtain ⟨tokens, htokens, rfl⟩ := map_eq_ok.mp h
      exact congrArg OutlineInitial.value (reading_of_eq_ok htokens).symm

/-- A resolution becomes the local variable of its field. -/
theorem outlineLocal_eq_ok {field : Field} {resolution : FieldResolution} {outlined : OutlineLocal}
    (hresolution : field.resolution? = some resolution)
    (h : outlineLocal resolution = .ok outlined) : field.local? = some outlined := by
  unfold Field.resolution? at hresolution
  obtain ⟨name, hname, h⟩ := bind_eq_ok.mp h
  unfold Field.local?
  cases hstrategy : field.strategy with
  | mandatory | nullable =>
      rw [hstrategy] at hresolution
      cases hresolution
      obtain rfl := pure_eq_ok.mp h
      rw [spelled, reading_of_eq_ok hname]
  | zero _ text | variant _ _ text =>
      rw [hstrategy] at hresolution
      cases hresolution
      obtain ⟨tokens, htokens, h⟩ := bind_eq_ok.mp h
      obtain rfl := pure_eq_ok.mp h
      simp only [spelled, code, reading_of_eq_ok hname, reading_of_eq_ok htokens]
  | initializer text =>
      rw [hstrategy] at hresolution
      cases hresolution
      obtain ⟨tokens, htokens, h⟩ := bind_eq_ok.mp h
      obtain rfl := pure_eq_ok.mp h
      simp only [spelled, code, reading_of_eq_ok hname, reading_of_eq_ok htokens]
  | provider _ _ =>
      rw [hstrategy] at hresolution
      cases hresolution

/-! ## Members and arms -/

/-- The members of the constructing expression follow the fields, with the calls that were made for them. -/
theorem outlineMembers_eq_ok {fields : List Field}
    {call : Field → Except RenderFault (Option ProviderCall)} {members : List OutlineMember}
    (h : outlineMembers fields call = .ok members) :
    List.Forall₂
      (fun field member => identifier field.name = .ok member.name ∧ call field = .ok member.call)
      fields members := by
  refine (mapM_eq_ok.mp h).imp fun field member hmember => ?_
  obtain ⟨name, hname, hmember⟩ := bind_eq_ok.mp hmember
  obtain ⟨found, hfound, hmember⟩ := bind_eq_ok.mp hmember
  obtain rfl := pure_eq_ok.mp hmember
  exact ⟨hname, hfound⟩

/-- The member for a field in the arm for a set: a field of the set takes the variable that the pattern binds,
any other provider-backed field calls the provider of its own binding, and the rest take the local variable
of their name. -/
structure MemberFor (set : List String) (field : Field) (member : OutlineMember) : Prop where
  name : identifier field.name = .ok member.name
  bound : field.name ∈ set ∨ field.strategy.isProvider = false → member.call = none
  called : field.name ∉ set → ∀ binding, field.binding? = some binding →
    ∃ call, providerCall binding = .ok call ∧ member.call = some call

/-- The arm for a set of provider-backed fields: their slots are matched with `Some`, and the other
provider-backed fields call their providers. -/
def armFor (fields : List Field) (set : List String) : OutlineArm where
  patterns := (Plan.boundNames fields).map fun name => if name ∈ set then some (spelled name) else none
  members := fields.map fun field =>
    { name := spelled field.name, call := if field.name ∈ set then none else field.call? }

theorem MemberFor.eq_mk {set : List String} {field : Field} {member : OutlineMember}
    (hmember : MemberFor set field member) :
    OutlineMember.mk (spelled field.name) (if field.name ∈ set then none else field.call?) = member := by
  obtain ⟨name, call⟩ := member
  have hname : spelled field.name = name := reading_of_eq_ok hmember.name
  have hcall : (if field.name ∈ set then none else field.call?) = call := by
    by_cases hset : field.name ∈ set
    · rw [if_pos hset]
      exact (hmember.bound (.inl hset)).symm
    · rw [if_neg hset]
      cases hbinding : field.binding? with
      | none =>
          have hprovider := field.call?_isSome
          rw [Field.call?, hbinding] at hprovider ⊢
          exact (hmember.bound (.inr hprovider.symm)).symm
      | some binding =>
          obtain ⟨found, hfound, hsome⟩ := hmember.called hset binding hbinding
          rw [Field.call?, hbinding, Option.map_some, reading_of_eq_ok hfound]
          exact hsome.symm
  rw [hname, hcall]

/-- The end of the method that builds: one arm for each subset of the provider-backed fields, if there are
any. -/
def bodyFor (fields : List Field) : OutlineBody :=
  if Plan.boundNames fields = [] then
    .direct (fields.map fun field => { name := spelled field.name, call := none })
  else
    .branched ((Plan.boundNames fields).map spelled)
      ((powerset (Plan.boundNames fields)).map (armFor fields))

/-- A look-up in records that were put beside their keys searches for the key. -/
theorem lookup_map_key {β γ : Type} (key : β → String) (value : β → γ) (records : List β)
    (name : String) :
    (records.map fun record => (key record, value record)).lookup name =
      (records.find? fun record => key record = name).map value := by
  induction records with
  | nil => rfl
  | cons record records ih =>
      rw [List.map_cons, List.lookup_cons, List.find?_cons]
      by_cases hkey : key record = name
      · simp [hkey]
      · have hne : (name == key record) = false := by simpa using Ne.symm hkey
        simp [hkey, hne, ih]

/-- A name is among the provider-backed ones when its field is. -/
theorem mem_boundNames {fields : List Field} (hnames : (fields.map Field.name).Nodup) {field : Field}
    (hfield : field ∈ fields) :
    field.name ∈ Plan.boundNames fields ↔ field.strategy.isProvider = true := by
  constructor
  · intro hmem
    obtain ⟨other, hother, hname⟩ := List.mem_map.mp hmem
    obtain ⟨hfields, hprovider⟩ := List.mem_filter.mp hother
    rwa [List.inj_on_of_nodup_map hnames hfields hfield hname] at hprovider
  · intro hprovider
    exact List.mem_map_of_mem (List.mem_filter.mpr ⟨hfield, hprovider⟩)

section Arm

variable {fields : List Field} (hnames : (fields.map Field.name).Nodup) {set : List String}
  {arm : OutlineArm}
  (h : outlineArm fields
    ((fields.filterMap Field.binding?).zip
      ((fields.filterMap Field.binding?).map fun binding => spelled binding.field))
    ((fields.filterMap Field.binding?).map fun binding => (binding.field, providerCall binding))
    (Plan.branchOf (Plan.boundNames fields) set) = .ok arm)

include h

/-- The patterns of the arm for a set bind the names in the set. -/
theorem outlineArm_patterns : arm.patterns =
    (Plan.boundNames fields).map fun name => if name ∈ set then some (spelled name) else none := by
  obtain ⟨members, _, h⟩ := bind_eq_ok.mp h
  obtain rfl := pure_eq_ok.mp h
  have hzip := List.zip_map' (l := fields.filterMap Field.binding?) (f := id)
    (g := fun binding => spelled binding.field)
  rw [List.map_id] at hzip
  dsimp only
  rw [hzip, ← Plan.map_field_bindings, List.map_map, List.map_map]
  rfl

include hnames

/-- The members of the arm for a set follow the fields. -/
theorem outlineArm_members : List.Forall₂ (MemberFor set) fields arm.members := by
  obtain ⟨members, hmembers, h⟩ := bind_eq_ok.mp h
  obtain rfl := pure_eq_ok.mp h
  have hpairs := outlineMembers_eq_ok hmembers
  rw [List.forall₂_iff_zip] at hpairs ⊢
  refine ⟨hpairs.1, fun {field member} hmem => ?_⟩
  obtain ⟨hname, hcall⟩ := hpairs.2 hmem
  have hfield : field ∈ fields := (List.of_mem_zip hmem).1
  rw [lookup_map_key Binding.field providerCall,
    find?_key_filterMap Field.map_field_binding? hnames hfield] at hcall
  have hdefaulted : field.name ∈ (Plan.branchOf (Plan.boundNames fields) set).defaulted ↔
      field.strategy.isProvider = true ∧ field.name ∉ set := by
    rw [Plan.branchOf, List.mem_filter, mem_boundNames hnames hfield, decide_eq_true_iff]
  refine ⟨hname, fun hbound => ?_, fun hset binding hbinding => ?_⟩
  · rw [if_neg] at hcall
    · exact (Except.ok.inj hcall).symm
    · intro hmem
      obtain ⟨hprovider, hset⟩ := hdefaulted.mp hmem
      rcases hbound with hbound | hbound
      · exact hset hbound
      · rw [hprovider] at hbound
        cases hbound
  · have hprovider : field.strategy.isProvider = true := by
      rw [← Field.call?_isSome, Field.call?, hbinding]
      rfl
    rw [if_pos (hdefaulted.mpr ⟨hprovider, hset⟩), hbinding] at hcall
    obtain ⟨call, hfound, hsome⟩ := map_eq_ok.mp hcall
    exact ⟨call, hfound, hsome.symm⟩

/-- The arm that is read for a branch is the arm for the fields that the branch takes from their slots. -/
theorem outlineArm_eq_ok : arm = armFor fields set := by
  have hmembers := eq_map_of_forall₂ (outlineArm_members hnames h) fun field member hmember => hmember.eq_mk.symm
  obtain ⟨patterns, members⟩ := arm
  unfold armFor
  rw [← hmembers, ← outlineArm_patterns h]

end Arm

/-! ## Whole outlines -/

/-- The arms of a branched body are read from the branches one by one, and they are the arms for the subsets
of the provider-backed fields. -/
theorem outlineBody_eq_ok {builder : Builder} {body : OutlineBody}
    (hnames : (builder.fields.map Field.name).Nodup) (hplan : builder.plan = .ofFields builder.fields)
    (h : outlineBody builder = .ok body) : body = bodyFor builder.fields := by
  unfold outlineBody at h
  rw [hplan] at h
  unfold bodyFor
  by_cases hbound : Plan.boundNames builder.fields = []
  · rw [Plan.ofFields_of_boundNames_eq_nil hbound] at h
    obtain ⟨members, hmembers, rfl⟩ := map_eq_ok.mp h
    rw [if_pos hbound]
    have hpairs := eq_map_of_forall₂ (outlineMembers_eq_ok hmembers)
      fun field member (hmember : _ ∧ _) =>
        show member = OutlineMember.mk (spelled field.name) none by
          rw [spelled, reading_of_eq_ok hmember.1, Except.ok.inj hmember.2]
    rw [hpairs]
  · rw [Plan.ofFields_of_boundNames_ne_nil hbound] at h
    obtain ⟨names, hspelled, h⟩ := bind_eq_ok.mp h
    obtain ⟨arms, harms, h⟩ := bind_eq_ok.mp h
    obtain rfl := pure_eq_ok.mp h
    obtain rfl := eq_map_reading hspelled
    rw [if_neg hbound]
    congr 1
    · rw [← Plan.map_field_bindings, List.map_map]
      rfl
    · rw [mapM_eq_ok, Plan.branchesOf, List.forall₂_map_left_iff] at harms
      exact eq_map_of_forall₂ harms fun set arm harm => outlineArm_eq_ok hnames harm

/-- The parts of an outline that stem from the visibility, the fields and the setters of the builder. -/
structure Outlined (builder : Builder) (outline : Outline) : Prop where
  visibility : Render.visibility builder.visibility = .ok outline.visibility
  fields : outline.fields.map OutlineField.name = builder.fields.map (spelled ·.name)
  mandatory : outline.mandatory.map OutlineParameter.name =
    (builder.fields.filter (·.strategy = .mandatory)).map (spelled ·.name)
  initials : outline.initials = builder.fields.map Field.start
  setters : outline.setters.map (fun setter => (setter.name, setter.field, setter.wraps)) =
    builder.setters.map fun setter => (spelled setter.name, spelled setter.field, setter.wraps)
  locals : outline.locals = builder.fields.filterMap Field.local?
  body : outline.body = bodyFor builder.fields
  read : outlineBody builder = .ok outline.body

/-- The methods that set fields have the names of the setters. -/
theorem Outlined.setterNames {builder : Builder} {outline : Outline} (houtlined : Outlined builder outline) :
    outline.setters.map OutlineSetter.name = builder.setters.map (spelled ·.name) := by
  have hnames := congrArg (List.map Prod.fst) houtlined.setters
  rw [List.map_map, List.map_map] at hnames
  exact hnames

/-- The local variables have the names of the fields that no provider backs. -/
theorem Outlined.localNames {builder : Builder} {outline : Outline} (houtlined : Outlined builder outline) :
    outline.locals.map OutlineLocal.name =
      (builder.fields.filter (!·.strategy.isProvider)).map (spelled ·.name) := by
  rw [houtlined.locals]
  exact map_key_filterMap Field.map_name_local? builder.fields

/-- A local variable is read for every resolution. -/
theorem locals_eq_filterMap {fields : List Field} {locals : List OutlineLocal}
    (h : List.Forall₂ (fun resolution item => outlineLocal resolution = .ok item)
      (fields.filterMap Field.resolution?) locals) : locals = fields.filterMap Field.local? := by
  induction fields generalizing locals with
  | nil =>
      cases h
      rfl
  | cons field fields ih =>
      cases hresolution : field.resolution? with
      | none =>
          rw [List.filterMap_cons_none hresolution] at h
          have hlocal : field.local? = none := by
            unfold Field.resolution? at hresolution
            unfold Field.local?
            split at hresolution <;> simp_all
          rw [List.filterMap_cons_none hlocal, ih h]
      | some resolution =>
          rw [List.filterMap_cons_some hresolution, List.forall₂_cons_left_iff] at h
          obtain ⟨item, rest, hitem, hrest, rfl⟩ := h
          rw [List.filterMap_cons_some (outlineLocal_eq_ok hresolution hitem), ih hrest]

/-- What an outline of a generated builder consists of. -/
theorem outline_eq_ok {aggregate : Aggregate} {path cratePath : String} {choices : List Choice}
    {outline : Outline} (hnames : ((choices.map Choice.field).map Field.name).Nodup)
    (h : Render.outline (.ofChoices aggregate path choices) cratePath = .ok outline) :
    Outlined (.ofChoices aggregate path choices) outline := by
  unfold Render.outline at h
  obtain ⟨runtime, _, h⟩ := bind_eq_ok.mp h
  obtain ⟨name, _, h⟩ := bind_eq_ok.mp h
  obtain ⟨target, _, h⟩ := bind_eq_ok.mp h
  obtain ⟨visibility, hvisibility, h⟩ := bind_eq_ok.mp h
  obtain ⟨fields, hfields, h⟩ := bind_eq_ok.mp h
  obtain ⟨mandatory, hmandatory, h⟩ := bind_eq_ok.mp h
  obtain ⟨initials, hinitials, h⟩ := bind_eq_ok.mp h
  obtain ⟨setters, hsetters, h⟩ := bind_eq_ok.mp h
  obtain ⟨constructor, _, h⟩ := bind_eq_ok.mp h
  obtain ⟨locals, hlocals, h⟩ := bind_eq_ok.mp h
  obtain ⟨body, hbody, h⟩ := bind_eq_ok.mp h
  obtain rfl := pure_eq_ok.mp h
  rw [mapM_eq_ok] at hfields hmandatory hinitials hsetters hlocals
  constructor
  case visibility => exact hvisibility
  case fields => exact map_eq_map_of_forall₂ hfields.flip fun _ _ hfield => outlineField_eq_ok hfield
  case mandatory => exact map_eq_map_of_forall₂ hmandatory.flip fun _ _ hfield => outlineParameter_eq_ok hfield
  case initials =>
    symm
    rw [← List.forall₂_eq_eq_eq, List.forall₂_map_left_iff, List.forall₂_iff_zip]
    rw [List.forall₂_iff_zip] at hinitials
    refine ⟨hinitials.1, fun {field initial} hmem => ?_⟩
    refine (outlineInitial_eq_ok ?_ (hinitials.2 hmem)).symm
    exact find?_key_filterMap Field.map_field_initial? hnames (List.of_mem_zip hmem).1
  case setters =>
    refine map_eq_map_of_forall₂ hsetters.flip fun _ _ hsetter => ?_
    have hparts := outlineSetter_eq_ok hsetter
    exact Prod.ext hparts.1 (Prod.ext hparts.2.1 hparts.2.2)
  case locals =>
    rw [Builder.ofChoices, Plan.resolutions_ofFields] at hlocals
    exact locals_eq_filterMap hlocals
  case body => exact outlineBody_eq_ok hnames rfl hbody
  case read => exact hbody

end Render

/-- The outline of the builder of a parcel. -/
def Shop.parcelOutline : Outline :=
  (Render.outline Shop.parcelBuilder "::optbuilder").toOption.getD default

theorem Shop.outline_parcelBuilder :
    Render.outline Shop.parcelBuilder "::optbuilder" = .ok Shop.parcelOutline := rfl

end BuilderGen

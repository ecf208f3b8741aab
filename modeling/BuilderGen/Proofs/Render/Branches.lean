import BuilderGen.Execution.Run
import BuilderGen.Proofs.Render.Code
import BuilderGen.Proofs.Render.Outline

/-!
# The arms of a branched build

The method that builds matches the values of the provider-backed slots with one arm for each subset of the
provider-backed fields.  Two searches have to pick the same arm: a plan takes the first branch whose fields
were all set, and the generated code takes the first arm whose patterns match.  `exists_split` says that for
every subset exactly one arm matches, and `Aggregate.branches_of_generate` that in the tokens of the builder it
stands where the branch that the plan takes stands among the branches, and that it is well scoped.
-/

namespace BuilderGen

open Token (op phrase)

variable {α : Type}

/-- The values of slots of which exactly those with a name in a set are present. -/
def SlotTuple (names set : List String) (values : List (Datum α)) : Prop :=
  List.Forall₂
    (fun name value => if name ∈ set then ∃ inner, value = .present inner else value = .absent)
    names values

namespace Render

/-- The patterns for a part of the names match a tuple when the part and the set of the tuple agree about
every name. -/
theorem bind?_isSome_iff {names set : List String} {values : List (Datum α)}
    (hvalues : SlotTuple names set values) (part : List String) :
    (Outline.bind? (names.map fun name => if name ∈ part then some (spelled name) else none)
        values).isSome = true ↔ ∀ name ∈ names, name ∈ part ↔ name ∈ set := by
  unfold SlotTuple at hvalues
  induction hvalues with
  | nil => simp [Outline.bind?]
  | @cons name value names values hvalue _ ih =>
      rw [List.map_cons, List.forall_mem_cons, ← ih]
      by_cases hset : name ∈ set
      · rw [if_pos hset] at hvalue
        obtain ⟨inner, rfl⟩ := hvalue
        by_cases hpart : name ∈ part <;> simp [hset, hpart, Outline.bind?]
      · rw [if_neg hset] at hvalue
        subst hvalue
        by_cases hpart : name ∈ part <;> simp [hset, hpart, Outline.bind?]

/-- Of all subsets of different names, only one agrees with a set about every name. -/
theorem agrees_iff {names part : List String} (hnames : names.Nodup) (hpart : part ∈ powerset names)
    (set : List String) : (∀ name ∈ names, name ∈ part ↔ name ∈ set) ↔ part = names.filter (· ∈ set) := by
  constructor
  · intro hsame
    rw [eq_filter_of_sublist hnames (mem_powerset.mp hpart)]
    exact List.filter_congr fun name hname => by simp only [hsame name hname]
  · rintro rfl name hname
    simp [hname]

/-- Exactly one arm matches a tuple of slot values: the one for the names in the set of the tuple. -/
theorem exists_split {fields : List Field} (hnames : (Plan.boundNames fields).Nodup)
    {set : List String} {values : List (Datum α)}
    (hvalues : SlotTuple (Plan.boundNames fields) set values) :
    ∃ before after, powerset (Plan.boundNames fields) =
        before ++ (Plan.boundNames fields).filter (· ∈ set) :: after ∧
      (∃ bound, Outline.bind? (armFor fields ((Plan.boundNames fields).filter (· ∈ set))).patterns values =
        some bound) ∧
      ∀ other ∈ before ++ after, Outline.bind? (armFor fields other).patterns values = none := by
  have hpart : (Plan.boundNames fields).filter (· ∈ set) ∈ powerset (Plan.boundNames fields) :=
    mem_powerset.mpr List.filter_sublist
  have hmatches : ∀ part ∈ powerset (Plan.boundNames fields),
      (Outline.bind? (armFor fields part).patterns values).isSome = true ↔
        part = (Plan.boundNames fields).filter (· ∈ set) := by
    intro part hmem
    rw [armFor, bind?_isSome_iff hvalues part, agrees_iff hnames hmem]
  obtain ⟨before, after, hsplit⟩ := List.append_of_mem hpart
  have hnodup := nodup_powerset hnames
  rw [hsplit, List.nodup_middle, List.nodup_cons] at hnodup
  refine ⟨before, after, hsplit, Option.isSome_iff_exists.mp ((hmatches _ hpart).mpr rfl), fun other hother => ?_⟩
  have hmem : other ∈ powerset (Plan.boundNames fields) := by
    rw [hsplit, List.mem_append, List.mem_cons]
    rcases List.mem_append.mp hother with hbefore | hafter
    · exact .inl hbefore
    · exact .inr (.inr hafter)
  rw [← Option.not_isSome_iff_eq_none, hmatches other hmem]
  rintro rfl
  exact hnodup.1 hother

/-- The member for a field, in the arm that is taken when exactly the fields in a set were set.  Some local
variables were declared in front of the match. -/
inductive ScopedMember (builder : Builder) (runtime : List Token) (locals : List OutlineLocal) (arm : Code.Arm)
    (set : List String) (field : Field) : List Token → Prop
  /-- A provider-backed field that was not set has a value that the provider of its own binding is asked for. -/
  | asked {name : String} {binding : Binding} {call : ProviderCall}
      (hprovider : field.strategy.isProvider = true) (hset : field.name ∉ set)
      (hname : identifier field.name = .ok name) (hbinding : binding ∈ builder.plan.bindings)
      (hown : binding.field = field.name) (hpath : path binding.provider = .ok call.provider)
      (hproduced : type binding.produced = .ok call.produced) (hsingleton : call.singleton = binding.singleton) :
      ScopedMember builder runtime locals arm set field ([.word name] ++ op ":" ++ Code.asked runtime call)
  /-- A provider-backed field that was set has the variable of a pattern. -/
  | bound {name : String} (hprovider : field.strategy.isProvider = true) (hset : field.name ∈ set)
      (hname : identifier field.name = .ok name) (hpattern : Code.present [.word name] ∈ arm.patterns) :
      ScopedMember builder runtime locals arm set field [.word name]
  /-- Any other field has the local variable of its name. -/
  | declared {name : String} (hprovider : field.strategy.isProvider = false)
      (hname : identifier field.name = .ok name) (hlocal : name ∈ locals.map OutlineLocal.name) :
      ScopedMember builder runtime locals arm set field [.word name]

theorem mem_filter_boundNames {fields : List Field} (hnames : (fields.map Field.name).Nodup) {field : Field}
    (hfield : field ∈ fields) (set : List String) :
    field.name ∈ (Plan.boundNames fields).filter (· ∈ set) ↔
      field.strategy.isProvider = true ∧ field.name ∈ set := by
  rw [List.mem_filter, mem_boundNames hnames hfield, decide_eq_true_iff]

theorem providerCall_eq_ok {binding : Binding} {call : ProviderCall} (h : providerCall binding = .ok call) :
    path binding.provider = .ok call.provider ∧ type binding.produced = .ok call.produced ∧
      call.singleton = binding.singleton := by
  obtain ⟨provider, hprovider, h⟩ := bind_eq_ok.mp h
  obtain ⟨produced, hproduced, h⟩ := bind_eq_ok.mp h
  obtain rfl := pure_eq_ok.mp h
  exact ⟨hprovider, hproduced, rfl⟩

/-- The members of the arm for a set are all in scope. -/
theorem Outlined.scopedMember {aggregate : Aggregate} {path : String} {choices : List Choice}
    {outline : Outline} (houtlined : Outlined (.ofChoices aggregate path choices) outline)
    (hnames : ((choices.map Choice.field).map Field.name).Nodup) {set : List String}
    {field : Field} {member : OutlineMember} (hfield : field ∈ choices.map Choice.field)
    (hmember : MemberFor ((Plan.boundNames (choices.map Choice.field)).filter (· ∈ set)) field member) :
    ScopedMember (.ofChoices aggregate path choices) outline.runtime outline.locals
      (outline.armCode (armFor (choices.map Choice.field)
        ((Plan.boundNames (choices.map Choice.field)).filter (· ∈ set))))
      set field (Code.member outline.runtime member.name member.call) := by
  have hspelled : spelled field.name = member.name := reading_of_eq_ok hmember.name
  have hpart := mem_filter_boundNames hnames hfield set
  cases hprovider : field.strategy.isProvider with
  | false =>
      have hlocal := field.local?_isSome
      rw [hprovider] at hlocal
      obtain ⟨item, hitem⟩ := Option.isSome_iff_exists.mp hlocal
      rw [hmember.bound (.inr hprovider)]
      refine .declared hprovider hmember.name ?_
      rw [houtlined.locals]
      refine List.mem_map.mpr ⟨item, List.mem_filterMap.mpr ⟨field, hfield, hitem⟩, ?_⟩
      rw [Field.name_of_local? hitem, hspelled]
  | true =>
      rw [hprovider, and_iff_right rfl] at hpart
      by_cases hset : field.name ∈ set
      · rw [hmember.bound (.inl (hpart.mpr hset))]
        refine .bound hprovider hset hmember.name ?_
        refine List.mem_map.mpr ⟨some member.name, List.mem_map.mpr ⟨field.name, ?_, ?_⟩, rfl⟩
        · exact (mem_boundNames hnames hfield).mpr hprovider
        · rw [if_pos (hpart.mpr hset), hspelled]
      · have hsome := field.call?_isSome
        rw [hprovider, Field.call?, Option.isSome_map] at hsome
        obtain ⟨binding, hbinding⟩ := Option.isSome_iff_exists.mp hsome
        obtain ⟨call, hcall, hsome⟩ := hmember.called (mt hpart.mp hset) binding hbinding
        obtain ⟨hpath, hproduced, hsingleton⟩ := providerCall_eq_ok hcall
        rw [hsome]
        refine .asked hprovider hset hmember.name ?_ (key_of_record? Field.map_field_binding? hbinding) hpath
          hproduced hsingleton
        rw [Builder.ofChoices, Plan.bindings_ofFields]
        exact List.mem_filterMap.mpr ⟨field, hfield, hbinding⟩

/-- The arm that the generated code has for a branch. -/
def armOf (builder : Builder) (branch : Branch) : Except RenderFault OutlineArm :=
  outlineArm builder.fields
    (builder.plan.bindings.zip (builder.plan.bindings.map fun binding => spelled binding.field))
    (builder.plan.bindings.map fun binding => (binding.field, providerCall binding)) branch

/-- A branched body has one arm for each branch of the plan, in order. -/
theorem outlineBody_branched {builder : Builder} {resolutions : List FieldResolution}
    {bindings : List Binding} {branches : List Branch} {body : OutlineBody}
    (hplan : builder.plan = .branched resolutions bindings branches)
    (h : outlineBody builder = .ok body) :
    ∃ arms, body = .branched (bindings.map fun binding => spelled binding.field) arms ∧
      List.Forall₂ (fun branch arm => armOf builder branch = .ok arm) branches arms := by
  unfold outlineBody at h
  rw [hplan] at h
  obtain ⟨names, hspelled, h⟩ := bind_eq_ok.mp h
  obtain ⟨arms, harms, h⟩ := bind_eq_ok.mp h
  obtain rfl := pure_eq_ok.mp h
  obtain rfl := eq_map_reading hspelled
  refine ⟨arms, rfl, ?_⟩
  unfold armOf
  rw [hplan]
  exact mapM_eq_ok.mp harms

section OfChoices

variable {aggregate : Aggregate} {path : String} {choices : List Choice} {outline : Outline}

/-- The members of the arm for a branch follow the fields. -/
theorem members_of_armOf {set : List String} {arm : OutlineArm}
    (hnames : ((choices.map Choice.field).map Field.name).Nodup)
    (h : armOf (.ofChoices aggregate path choices)
      (Plan.branchOf (Plan.boundNames (choices.map Choice.field)) set) = .ok arm) :
    List.Forall₂ (MemberFor set) (choices.map Choice.field) arm.members := by
  unfold armOf at h
  rw [Builder.ofChoices, Plan.bindings_ofFields] at h
  exact outlineArm_members hnames h

/-- With provider-backed fields the body matches their slots, and the arm for each subset of them is read
from the branch for the same subset. -/
theorem Outlined.branched (houtlined : Outlined (.ofChoices aggregate path choices) outline)
    (hbacked : Plan.boundNames (choices.map Choice.field) ≠ []) :
    outline.body = .branched ((Plan.boundNames (choices.map Choice.field)).map spelled)
        ((powerset (Plan.boundNames (choices.map Choice.field))).map
          (armFor (choices.map Choice.field))) ∧
      ∀ part ∈ powerset (Plan.boundNames (choices.map Choice.field)),
        armOf (.ofChoices aggregate path choices)
          (Plan.branchOf (Plan.boundNames (choices.map Choice.field)) part) =
            .ok (armFor (choices.map Choice.field) part) := by
  have hplan : (Builder.ofChoices aggregate path choices).plan = _ :=
    Plan.ofFields_of_boundNames_ne_nil hbacked
  have hbody : outline.body = .branched _ _ := houtlined.body.trans (if_neg hbacked)
  obtain ⟨arms, hsame, harms⟩ := outlineBody_branched hplan houtlined.read
  rw [hbody] at hsame
  obtain ⟨_, rfl⟩ := OutlineBody.branched.inj hsame
  rw [Plan.branchesOf, List.forall₂_map_left_iff, List.forall₂_map_right_iff] at harms
  exact ⟨hbody, List.forall₂_same.mp harms⟩

/-- The members of the arm for a set are those of the fields, in order and all in scope. -/
theorem Outlined.scopedMembers (houtlined : Outlined (.ofChoices aggregate path choices) outline)
    (hnames : ((choices.map Choice.field).map Field.name).Nodup)
    (hbacked : Plan.boundNames (choices.map Choice.field) ≠ []) (set : List String) :
    List.Forall₂
      (ScopedMember (.ofChoices aggregate path choices) outline.runtime outline.locals
        (outline.armCode (armFor (choices.map Choice.field)
          ((Plan.boundNames (choices.map Choice.field)).filter (· ∈ set)))) set)
      (choices.map Choice.field)
      (outline.armCode (armFor (choices.map Choice.field)
        ((Plan.boundNames (choices.map Choice.field)).filter (· ∈ set)))).members := by
  have hmembers := members_of_armOf hnames
    ((houtlined.branched hbacked).2 _ (mem_powerset.mpr (List.filter_sublist (p := (· ∈ set)))))
  refine List.forall₂_map_right_iff.mpr (((List.forall₂_and_left _ _).mpr ⟨fun _ => id, hmembers⟩).imp ?_)
  rintro field member ⟨hfield, hmember⟩
  exact houtlined.scopedMember hnames hfield hmember

end OfChoices

end Render

/-- The patterns of the arm for a set. -/
theorem Outline.patterns_armCode (outline : Outline) (fields : List Field) (set : List String) :
    (outline.armCode (Render.armFor fields ((Plan.boundNames fields).filter (· ∈ set)))).patterns =
      (Plan.boundNames fields).map fun name =>
        if name ∈ set then Code.present [.word (Render.spelled name)] else Code.absent := by
  refine (List.map_map ..).trans (List.map_congr_left fun name hname => ?_)
  by_cases hset : name ∈ set <;> simp [hname, hset, Outline.patternCode]

/-! ## The arms of generated builders -/

/-- There is a limit on the provider-backed fields of a generated builder. -/
theorem Aggregate.Generated.length_boundNames {aggregate : Aggregate} {registry : Registry}
    {enumerations : List Enumeration} {constructor : Constructor} {choices : List Choice}
    (hgenerated : aggregate.Generated registry enumerations constructor choices) :
    (Plan.boundNames (choices.map Choice.field)).length ≤ providerLimit := by
  have hcount : (Plan.boundNames (choices.map Choice.field)).length =
      choices.countP (·.strategy.isProvider) := by
    rw [Plan.boundNames, List.length_map, ← List.countP_eq_length_filter, List.countP_map]
    rfl
  rw [hcount]
  exact hgenerated.providers

/-- In the tokens of a builder with provider-backed fields, the method that builds declares a variable for every
other field and matches the slots of the provider-backed ones.  There is an arm for each subset of these.
Whichever of them were set, exactly one arm accepts the values of the slots.  It stands where the branch that the
plan takes stands among the branches, and its members are those of the fields, in order and each in scope. -/
theorem Aggregate.branches_of_generate {aggregate : Aggregate} {registry : Registry}
    {enumerations : List Enumeration} {builder : Builder} {cratePath : String} {tokens : List Token}
    (hgenerate : aggregate.generate registry enumerations = .ok builder)
    (hrender : builder.render cratePath = .ok tokens)
    (hbacked : Plan.boundNames builder.fields ≠ []) :
    ∃ (code : Code) (locals : List OutlineLocal) (arms : List Code.Arm),
      code.Rendered builder cratePath tokens ∧
      code.Defines "build" [phrase "self"] []
        ((locals.flatMap fun item => Code.declared item.name item.name item.fallback) ++
          Code.matched code.constructor ((Plan.boundNames builder.fields).map Render.spelled) arms) ∧
      locals.map OutlineLocal.name =
        (builder.fields.filter (!·.strategy.isProvider)).map (Render.spelled ·.name) ∧
      arms.length = 2 ^ (Plan.boundNames builder.fields).length ∧
      2 ^ (Plan.boundNames builder.fields).length ≤ 1024 ∧
      builder.plan.branches.length = arms.length ∧
      (builder.fields.map Field.name).Nodup ∧
      ∀ (set : List String) (values : List (Datum α)),
        SlotTuple (Plan.boundNames builder.fields) set values →
          ∃ branch before arm after, arms = before ++ arm :: after ∧
            arm.Accepts values ∧ (∀ other ∈ before ++ after, ¬other.Accepts values) ∧
            builder.plan.branch? set = some branch ∧ builder.plan.branches[before.length]? = some branch ∧
            arm.patterns = (Plan.boundNames builder.fields).map (fun name =>
              if name ∈ set then Code.present [.word (Render.spelled name)] else Code.absent) ∧
            List.Forall₂ (Render.ScopedMember builder code.runtime locals arm set) builder.fields
              arm.members := by
  obtain ⟨constructor, choices, hgenerated, rfl⟩ := generate_eq_ok hgenerate
  obtain ⟨outline, houtline, rfl⟩ := map_eq_ok.mp hrender
  have hnames := hgenerated.nodup_fieldNames
  have houtlined := Render.outline_eq_ok hnames houtline
  obtain ⟨hbody, -⟩ := houtlined.branched hbacked
  have hbranches : (Builder.ofChoices aggregate constructor.path choices).plan.branches =
      Plan.branchesOf (Plan.boundNames (choices.map Choice.field)) :=
    congrArg Plan.branches (Plan.ofFields_of_boundNames_ne_nil hbacked)
  have hbound : (Plan.boundNames (choices.map Choice.field)).Nodup :=
    hnames.sublist (List.filter_sublist.map Field.name)
  have hbuild := outline.defines_build
  rw [Outline.bodyCode, hbody] at hbuild
  refine ⟨outline.code, outline.locals, _, Render.rendered_code houtline, hbuild, houtlined.localNames, ?_, ?_, ?_,
    hnames, fun set values hvalues => ?_⟩
  · rw [List.length_map, List.length_map, length_powerset]
    rfl
  · exact Nat.pow_le_pow_right (by decide) hgenerated.length_boundNames
  · rw [hbranches, Plan.branchesOf, List.length_map, List.length_map, List.length_map]
  · -- the search of the plan and the patterns of the arm both lead to this part of the fields
    let part := (Plan.boundNames (choices.map Choice.field)).filter (· ∈ set)
    obtain ⟨before, after, hsplit, ⟨bound, hbind⟩, hothers⟩ := Render.exists_split hbound hvalues
    let armOf (part : List String) := outline.armCode (Render.armFor (choices.map Choice.field) part)
    refine ⟨Plan.branchOf (Plan.boundNames (choices.map Choice.field)) part, before.map armOf, armOf part,
      after.map armOf, ?split, ⟨bound, Outline.matchesAll_patternCode_iff.mpr hbind⟩, ?others, ?branch, ?place,
      outline.patterns_armCode _ set, houtlined.scopedMembers hnames hbacked set⟩
    case split =>
      rw [List.map_map, hsplit, List.map_append, List.map_cons]
      rfl
    case others =>
      rw [← List.map_append]
      rintro arm harm ⟨bound, hbound⟩
      obtain ⟨other, hother, rfl⟩ := List.mem_map.mp harm
      have hnone := hothers other hother
      rw [Outline.matchesAll_patternCode_iff.mp hbound] at hnone
      cases hnone
    case branch =>
      have hfind := Plan.find?_branchesOf (Plan.boundNames (choices.map Choice.field)) set
      rw [← Plan.filter_not_mem_filter] at hfind
      rw [Plan.branch?, hbranches]
      exact hfind
    case place => simp [hbranches, Plan.branchesOf, hsplit, part]

/-- The sender is the only provider-backed field of a parcel, so there are two arms. -/
theorem Shop.branches_of_parcel :
    ∃ (code : Code) (locals : List OutlineLocal) (arms : List Code.Arm),
      code.Rendered Shop.parcelBuilder "::optbuilder" Shop.parcelOutline.tokens ∧
      code.Defines "build" [phrase "self"] []
        ((locals.flatMap fun item => Code.declared item.name item.name item.fallback) ++
          Code.matched code.constructor ["sender"] arms) ∧ arms.length = 2 := by
  have hrender : Shop.parcelBuilder.render "::optbuilder" = .ok Shop.parcelOutline.tokens :=
    congrArg (Except.map Outline.tokens) Shop.outline_parcelBuilder
  obtain ⟨code, locals, arms, hrendered, hbuild, _, hlength, _⟩ :=
    @Aggregate.branches_of_generate Atom _ _ _ _ _ _ Shop.generate_parcel hrender (by decide)
  exact ⟨code, locals, arms, hrendered, hbuild, hlength⟩

end BuilderGen

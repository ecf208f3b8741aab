import BuilderGen.Proofs.Execution.Semantics
import BuilderGen.Proofs.Execution.Slots
import BuilderGen.Proofs.Render.Branches

/-!
# What building gives

A field of a built aggregate holds the value of the callback in the last call of its setter, or else what its
strategy falls back to.  `Builder.outcome` is this value together with the events on the way to it, and
`Builder.history` puts the events of all fields in the order in which building runs into them.

The value goes through four parts of the generated code that are computed one by one: the initial value and
the setter that fill the slot, the local variable or the pattern that takes it out, the arm of the match, and
the member of the constructing expression.  There is one lemma for each, and they all speak about slots that
are filled as `Builder.heldAfter` says.  `Aggregate.build_of_generate` puts them together.
-/

namespace BuilderGen

open Render (spelled code reading)
open Token (parens phrase)

variable {ε α : Type}

/-! ## Outcomes -/

/-- The value of a field for which no setter was called.  The expression of a zero value or a variant was
evaluated when the builder was started. -/
def Field.fallback (meaning : Meaning ε α) (argument : String → Datum α) (field : Field) :
    Logged ε (Datum α) :=
  match field.strategy with
  | .mandatory => pure (argument field.name)
  | .nullable => pure .absent
  | .zero _ text | .variant _ _ text =>
      pure (meaning.evaluate (spelled field.name) (code text)).value
  | .initializer (some text) => meaning.evaluate (spelled field.name) (code text)
  | .initializer none =>
      meaning.evaluate (spelled field.name) (phrase ":: core :: default :: Default :: default" ++ [parens []])
  | .provider reference singleton =>
      meaning.provide
        { provider := reading (Render.path reference), produced := reading (Render.type field.type), singleton }

namespace Builder

/-- The value of a field after calls of setters. -/
def outcome (builder : Builder) (meaning : Meaning ε α) (argument : String → Datum α)
    (calls : List (String × Logged ε (Datum α))) (field : Field) : Logged ε (Datum α) :=
  (builder.lastCall? calls field).getD (field.fallback meaning argument)

/-- The fields that no provider backs. -/
def plainFields (builder : Builder) : List Field :=
  builder.fields.filter (!·.strategy.isProvider)

/-- The provider-backed fields. -/
def backedFields (builder : Builder) : List Field :=
  builder.fields.filter (·.strategy.isProvider)

/-- The value in the slot of a provider-backed field. -/
def backedValue (builder : Builder) (calls : List (String × Logged ε (Datum α))) (field : Field) :
    Datum α :=
  match builder.lastCall? calls field with
  | some callback => .present callback.value
  | none => .absent

/-- The events of building: first those of the fields that no provider backs, then those of the callbacks of
provider-backed fields, and last those of the providers of the other ones, each group in field order. -/
def history (builder : Builder) (calls : List (String × Logged ε (Datum α)))
    (outcome : Field → Logged ε (Datum α)) : List ε :=
  builder.plainFields.flatMap (fun field => (outcome field).events) ++
    ((builder.backedFields.filter fun field => (builder.lastCall? calls field).isSome).flatMap
        (fun field => (outcome field).events) ++
      (builder.backedFields.filter fun field => (builder.lastCall? calls field).isNone).flatMap
        (fun field => (outcome field).events))

end Builder

/-! ## Local variables -/

/-- A local variable takes the value of a callback out of its slot. -/
theorem Field.gives_settle_callback {field : Field} {item : OutlineLocal} (hlocal : field.local? = some item)
    (hwidened : field.widened = field.strategy.widens) (meaning : Meaning ε α) (value : Datum α) :
    (Outline.settle meaning item (if field.widened then .present value else value)).Gives [] value := by
  rw [hwidened]
  unfold Field.local? at hlocal
  cases hstrategy : field.strategy with
  | mandatory | nullable | zero _ _ | variant _ _ _ | initializer _ =>
      rw [hstrategy] at hlocal
      cases hlocal
      exact Execution.gives_pure _
  | provider _ _ =>
      rw [hstrategy] at hlocal
      cases hlocal

/-- Without a callback a local variable falls back as its field does. -/
theorem Field.gives_settle_started {field : Field} {item : OutlineLocal} (hlocal : field.local? = some item)
    (meaning : Meaning ε α) (argument : String → Datum α) :
    (Outline.settle meaning item (field.started meaning argument).value).Gives
      (field.fallback meaning argument).events (field.fallback meaning argument).value := by
  unfold Field.local? at hlocal
  unfold Field.started Field.fallback
  cases hstrategy : field.strategy with
  | mandatory | nullable | zero _ _ | variant _ _ _ =>
      rw [hstrategy] at hlocal
      cases hlocal
      exact Execution.gives_pure _
  | initializer text =>
      rw [hstrategy] at hlocal
      cases hlocal
      cases text with
      | some text => exact Execution.gives_lift _
      | none =>
          have hdefault : code defaultExpression =
              phrase ":: core :: default :: Default :: default" ++ [parens []] := by
            decide +kernel
          rw [← hdefault]
          exact Execution.gives_lift _
  | provider _ _ =>
      rw [hstrategy] at hlocal
      cases hlocal

/-- The slot of a provider-backed field starts absent. -/
theorem Field.started_of_isProvider (meaning : Meaning ε α) (argument : String → Datum α) (field : Field)
    (hprovider : field.strategy.isProvider = true) : field.started meaning argument = pure .absent := by
  unfold Field.started
  revert hprovider
  cases field.strategy with
  | provider _ _ => exact fun _ => rfl
  | _ => exact nofun

theorem Strategy.widens_of_isProvider {strategy : Strategy} (hprovider : strategy.isProvider = true) :
    strategy.widens = true := by
  cases strategy with
  | provider _ _ => rfl
  | _ => cases hprovider

/-- The slots of a builder that was started with some arguments and on which setters were called. -/
def Builder.filled (builder : Builder) (meaning : Meaning ε α) (argument : String → Datum α)
    (calls : List (String × Logged ε (Datum α))) : Slots ε α :=
  builder.slots (builder.heldAfter calls fun field => .ready (field.started meaning argument).value)

section Filled

variable {builder : Builder} (hnames : (builder.fields.map (spelled ·.name)).Nodup)
  (hwidened : ∀ field ∈ builder.fields, field.widened = field.strategy.widens)
  (meaning : Meaning ε α) (argument : String → Datum α) (calls : List (String × Logged ε (Datum α)))

include hnames

/-- The name of a field leads to its slot. -/
theorem Builder.gives_resolve {field : Field} (hfield : field ∈ builder.fields)
    (held : Field → Slot ε (Datum α)) :
    ((builder.slots held).resolve (spelled field.name)).Gives (held field).resolve.events
      (held field).resolve.value := by
  unfold Slots.resolve Builder.slots
  rw [lookup_spelled held hnames (List.Subset.refl _) hfield]
  exact Execution.gives_lift _

include hwidened

/-- A local variable holds the outcome of its field.  Some of the events may happen in the slot and the
others in the fallback. -/
theorem Builder.gives_local {field : Field} (hfield : field ∈ builder.fields) {item : OutlineLocal}
    (hlocal : field.local? = some item) :
    ∃ held first later,
      ((builder.filled meaning argument calls).resolve item.name).Gives first held ∧
      (Outline.settle meaning item held).Gives later
        (builder.outcome meaning argument calls field).value ∧
      first ++ later = (builder.outcome meaning argument calls field).events := by
  have hresolve := Builder.gives_resolve hnames hfield
    (builder.heldAfter calls fun field => .ready (field.started meaning argument).value)
  rw [← Field.name_of_local? hlocal] at hresolve
  unfold Builder.outcome
  cases hlast : builder.lastCall? calls field with
  | none =>
      rw [Builder.heldAfter_of_eq_none hlast] at hresolve
      exact ⟨_, _, _, hresolve, Field.gives_settle_started hlocal meaning argument, rfl⟩
  | some callback =>
      obtain ⟨hevents, hvalue⟩ := Builder.resolve_heldAfter hlast
        fun field => .ready (field.started meaning argument).value
      rw [hevents, hvalue] at hresolve
      have hsettle := Field.gives_settle_callback hlocal (hwidened field hfield) meaning callback.value
      exact ⟨_, _, _, hresolve, hsettle, List.append_nil _⟩

/-- The local variables hold the outcomes of their fields. -/
theorem Builder.gives_locals {fields : List Field} (hfields : fields ⊆ builder.fields) :
    (Outline.resolveLocals meaning (builder.filled meaning argument calls)
        (fields.filterMap Field.local?)).Gives
      ((fields.filter (!·.strategy.isProvider)).flatMap fun field =>
        (builder.outcome meaning argument calls field).events)
      ((fields.filter (!·.strategy.isProvider)).map fun field =>
        (spelled field.name, (builder.outcome meaning argument calls field).value)) := by
  induction fields with
  | nil => exact Execution.gives_pure []
  | cons field fields ih =>
      obtain ⟨hfield, hrest⟩ := List.cons_subset.mp hfields
      have hplain := field.local?_isSome
      cases hlocal : field.local? with
      | none =>
          have hbacked : ¬(!field.strategy.isProvider) = true := by
            rw [← hplain, hlocal]
            exact Bool.false_ne_true
          rw [List.filterMap_cons_none hlocal, List.filter_cons, if_neg hbacked]
          exact ih hrest
      | some item =>
          have hplain : (!field.strategy.isProvider) = true := by
            rw [← hplain, hlocal]
            rfl
          obtain ⟨held, first, later, hresolve, hsettle, hevents⟩ :=
            Builder.gives_local hnames hwidened meaning argument calls hfield hlocal
          rw [List.filterMap_cons_some hlocal, List.filter_cons, if_pos hplain, List.flatMap_cons,
            List.map_cons, ← hevents, List.append_assoc, Outline.resolveLocals_cons,
            ← Field.name_of_local? hlocal]
          exact hresolve.bind (hsettle.bind ((ih hrest).bind_pure _))

/-! ## The match over the provider-backed slots -/

/-- The slot of a provider-backed field runs the callback that counts, if there is one, and is absent
otherwise. -/
theorem Builder.gives_backed {field : Field} (hfield : field ∈ builder.fields)
    (hprovider : field.strategy.isProvider = true) :
    ((builder.filled meaning argument calls).resolve (spelled field.name)).Gives
      (if (builder.lastCall? calls field).isSome then
        (builder.outcome meaning argument calls field).events else [])
      (builder.backedValue calls field) := by
  have hresolve := Builder.gives_resolve hnames hfield
    (builder.heldAfter calls fun field => .ready (field.started meaning argument).value)
  unfold Builder.outcome Builder.backedValue
  cases hlast : builder.lastCall? calls field with
  | none =>
      rw [Builder.heldAfter_of_eq_none hlast, field.started_of_isProvider meaning argument hprovider]
        at hresolve
      exact hresolve
  | some callback =>
      obtain ⟨hevents, hvalue⟩ := Builder.resolve_heldAfter hlast
        fun field => .ready (field.started meaning argument).value
      have hwide : field.widened = true := by
        rw [hwidened field hfield]
        exact Strategy.widens_of_isProvider hprovider
      rw [hevents, hvalue, if_pos hwide] at hresolve
      exact hresolve

/-- All callbacks of provider-backed fields run before an arm is chosen. -/
theorem Builder.gives_slots :
    (((Plan.boundNames builder.fields).map spelled).mapM
        (builder.filled meaning argument calls).resolve).Gives
      ((builder.backedFields.filter fun field => (builder.lastCall? calls field).isSome).flatMap
        fun field => (builder.outcome meaning argument calls field).events)
      (builder.backedFields.map (builder.backedValue calls)) := by
  rw [Execution.flatMap_filter, Plan.boundNames, List.map_map, List.mapM_map]
  refine Execution.gives_mapM fun field hfield => ?_
  obtain ⟨hfield, hprovider⟩ := List.mem_filter.mp hfield
  exact Builder.gives_backed hnames hwidened meaning argument calls hfield hprovider

end Filled

/-! ## The arm and the members -/

/-- The first arm that matches is taken. -/
theorem Outline.arm?_of_split {before after : List OutlineArm} {arm : OutlineArm} {values : List (Datum α)}
    {bound : List (String × Datum α)} (hbefore : ∀ other ∈ before, bind? other.patterns values = none)
    (hbind : bind? arm.patterns values = some bound) : arm? (before ++ arm :: after) values = some (arm, bound) := by
  refine List.findSome?_eq_some_iff.mpr ⟨before, arm, after, rfl, ?_, fun other hother => ?_⟩
  · rw [hbind, Option.map_some]
  · rw [hbefore other hother, Option.map_none]

section Arm

variable {builder : Builder} (meaning : Meaning ε α) (argument : String → Datum α)
  (calls : List (String × Logged ε (Datum α)))

/-- The names of the provider-backed fields that were set. -/
def Builder.setNames (builder : Builder) (calls : List (String × Logged ε (Datum α))) : List String :=
  (builder.backedFields.filter fun field => (builder.lastCall? calls field).isSome).map Field.name

theorem Builder.mem_setNames (hnames : (builder.fields.map Field.name).Nodup) {field : Field}
    (hfield : field ∈ builder.backedFields) :
    field.name ∈ builder.setNames calls ↔ (builder.lastCall? calls field).isSome = true := by
  constructor
  · intro hmem
    obtain ⟨other, hother, hname⟩ := List.mem_map.mp hmem
    obtain ⟨hbacked, hset⟩ := List.mem_filter.mp hother
    have hsame := List.inj_on_of_nodup_map hnames (List.mem_filter.mp hbacked).1
      (List.mem_filter.mp hfield).1 hname
    rwa [hsame] at hset
  · intro hset
    exact List.mem_map_of_mem (List.mem_filter.mpr ⟨hfield, hset⟩)

/-- The slots of the provider-backed fields are present exactly for the names that were set. -/
theorem Builder.slotTuple (hnames : (builder.fields.map Field.name).Nodup) :
    SlotTuple (Plan.boundNames builder.fields) (builder.setNames calls)
      (builder.backedFields.map (builder.backedValue calls)) := by
  unfold SlotTuple Plan.boundNames
  rw [List.forall₂_map_left_iff, List.forall₂_map_right_iff]
  refine List.forall₂_same.mpr fun field hfield => ?_
  unfold Builder.backedValue
  cases hlast : builder.lastCall? calls field with
  | none =>
      rw [if_neg]
      rw [Builder.mem_setNames calls hnames hfield, hlast]
      exact Bool.false_ne_true
  | some callback =>
      rw [if_pos]
      · exact ⟨_, rfl⟩
      · rw [Builder.mem_setNames calls hnames hfield, hlast]
        rfl

/-- The patterns for the fields that were set bind their outcomes. -/
theorem Builder.bind?_backed (builder : Builder) (fields : List Field) :
    Outline.bind?
        (fields.map fun field =>
          if (builder.lastCall? calls field).isSome then some (spelled field.name) else none)
        (fields.map (builder.backedValue calls)) =
      some ((fields.filter fun field => (builder.lastCall? calls field).isSome).map fun field =>
        (spelled field.name, (builder.outcome meaning argument calls field).value)) := by
  induction fields with
  | nil => rfl
  | cons field fields ih =>
      rw [List.map_cons, List.map_cons, List.filter_cons]
      cases hlast : builder.lastCall? calls field with
      | none =>
          have hvalue : builder.backedValue calls field = .absent := by
            unfold Builder.backedValue
            rw [hlast]
          rw [hvalue]
          exact ih
      | some callback =>
          have hvalue : builder.backedValue calls field =
              .present (builder.outcome meaning argument calls field).value := by
            unfold Builder.backedValue Builder.outcome
            rw [hlast]
            rfl
          rw [hvalue, Option.isSome_some, if_pos rfl, if_pos rfl, Outline.bind?, ih]
          rfl

/-- The part of the provider-backed names that were set. -/
theorem Builder.mem_filter_setNames (hnames : (builder.fields.map Field.name).Nodup) {field : Field}
    (hfield : field ∈ builder.fields) :
    field.name ∈ (Plan.boundNames builder.fields).filter (· ∈ builder.setNames calls) ↔
      field.strategy.isProvider = true ∧ (builder.lastCall? calls field).isSome = true := by
  rw [Render.mem_filter_boundNames hnames hfield]
  refine and_congr_right fun hprovider => ?_
  exact Builder.mem_setNames calls hnames (List.mem_filter.mpr ⟨hfield, hprovider⟩)

/-- The patterns of the arm for the fields that were set. -/
theorem Builder.patterns_armFor (hnames : (builder.fields.map Field.name).Nodup) :
    (Render.armFor builder.fields
        ((Plan.boundNames builder.fields).filter (· ∈ builder.setNames calls))).patterns =
      builder.backedFields.map fun field =>
        if (builder.lastCall? calls field).isSome then some (spelled field.name) else none := by
  refine (List.map_map ..).trans (List.map_congr_left fun field hfield => ?_)
  obtain ⟨hfield, hprovider⟩ := List.mem_filter.mp hfield
  have hpart := Builder.mem_filter_setNames calls hnames hfield
  rw [and_iff_right hprovider] at hpart
  simp only [Function.comp_apply, hpart]

/-- The arm for the fields that were set is taken. -/
theorem Builder.arm?_backed (hnames : (builder.fields.map Field.name).Nodup) :
    Outline.arm? ((powerset (Plan.boundNames builder.fields)).map (Render.armFor builder.fields))
        (builder.backedFields.map (builder.backedValue calls)) =
      some (Render.armFor builder.fields ((Plan.boundNames builder.fields).filter (· ∈ builder.setNames calls)),
        (builder.backedFields.filter fun field => (builder.lastCall? calls field).isSome).map fun field =>
          (spelled field.name, (builder.outcome meaning argument calls field).value)) := by
  have hbound : (Plan.boundNames builder.fields).Nodup :=
    hnames.sublist (List.filter_sublist.map Field.name)
  have hbind := builder.bind?_backed meaning argument calls builder.backedFields
  rw [← Builder.patterns_armFor calls hnames] at hbind
  obtain ⟨before, after, hsplit, -, hothers⟩ := Render.exists_split hbound (Builder.slotTuple calls hnames)
  rw [hsplit, List.map_append, List.map_cons]
  refine Outline.arm?_of_split (fun other hother => ?_) hbind
  obtain ⟨part, hpart, rfl⟩ := List.mem_map.mp hother
  exact hothers part (List.mem_append_left _ hpart)

/-- The members of the arm for the fields that were set. -/
theorem Builder.members_armFor (hnames : (builder.fields.map Field.name).Nodup) :
    (Render.armFor builder.fields
        ((Plan.boundNames builder.fields).filter (· ∈ builder.setNames calls))).members =
      builder.fields.map fun field =>
        ⟨spelled field.name, if (builder.lastCall? calls field).isSome then none else field.call?⟩ := by
  refine List.map_congr_left fun field hfield => ?_
  have hpart := Builder.mem_filter_setNames calls hnames hfield
  have hcall := field.call?_isSome
  cases hprovider : field.strategy.isProvider with
  | true =>
      rw [hprovider, and_iff_right rfl] at hpart
      simp only [hpart]
  | false =>
      rw [hprovider, Option.isSome_eq_false_iff, Option.isNone_iff_eq_none] at hcall
      simp only [hcall, ite_self]

/-- A constructing expression gives the outcome of every field in field order, when the members without a
call find their values in scope.  Only the calls have events. -/
theorem Outline.gives_construct {fields : List Field} {scope : List (String × Datum α)}
    (call? : Field → Option ProviderCall) (outcome : Field → Logged ε (Datum α))
    (hcall : ∀ field ∈ fields, ∀ call, call? field = some call → meaning.provide call = outcome field)
    (hscope : ∀ field ∈ fields, call? field = none →
      scope.lookup (spelled field.name) = some (outcome field).value) :
    (construct meaning scope (fields.map fun field => ⟨spelled field.name, call? field⟩)).Gives
      ((fields.filter fun field => (call? field).isSome).flatMap fun field => (outcome field).events)
      (fields.map fun field => (spelled field.name, (outcome field).value)) := by
  induction fields with
  | nil => exact Execution.gives_pure []
  | cons field fields ih =>
      obtain ⟨hcall, hcalls⟩ := List.forall_mem_cons.mp hcall
      obtain ⟨hscope, hscopes⟩ := List.forall_mem_cons.mp hscope
      have hrest := (ih hcalls hscopes).bind_pure ((spelled field.name, (outcome field).value) :: ·)
      rw [List.map_cons, List.map_cons, List.filter_cons, construct]
      dsimp only
      cases hmember : call? field with
      | none =>
          rw [hscope hmember]
          exact (Execution.gives_mk_some _).bind hrest
      | some call =>
          rw [Option.isSome_some, if_pos rfl, List.flatMap_cons, ← hcall call hmember]
          rw [← hcall call hmember] at hrest
          exact (Execution.gives_lift _).bind hrest

end Arm

/-- The call of its provider is what a provider-backed field falls back to. -/
theorem Field.provide_of_call? {field : Field} {call : ProviderCall} (hcall : field.call? = some call)
    (hread : ∀ binding, field.binding? = some binding → ∃ call, Render.providerCall binding = .ok call)
    (meaning : Meaning ε α) (argument : String → Datum α) :
    meaning.provide call = field.fallback meaning argument := by
  obtain ⟨binding, hbinding, rfl⟩ := Option.map_eq_some_iff.mp hcall
  obtain ⟨call, hfound⟩ := hread binding hbinding
  obtain ⟨hpath, hproduced, hsingleton⟩ := Render.providerCall_eq_ok hfound
  rw [Render.reading_of_eq_ok hfound]
  unfold Field.binding? at hbinding
  unfold Field.fallback
  cases hstrategy : field.strategy with
  | provider reference singleton =>
      rw [hstrategy] at hbinding
      cases hbinding
      dsimp only at hpath hproduced hsingleton ⊢
      rw [Render.reading_of_eq_ok hpath, Render.reading_of_eq_ok hproduced, ← hsingleton]
  | _ =>
      rw [hstrategy] at hbinding
      cases hbinding

/-! ## Building -/

section Building

variable {aggregate : Aggregate} {path : String} {choices : List Choice} {outline : Outline}
  {builder : Builder}

/-- Without provider-backed fields the aggregate is constructed from local variables. -/
theorem Builder.gives_direct (hnames : (builder.fields.map (spelled ·.name)).Nodup)
    (hbound : Plan.boundNames builder.fields = []) (meaning : Meaning ε α)
    (outcome : Field → Logged ε (Datum α)) :
    (Outline.construct meaning
        (builder.plainFields.map fun field => (spelled field.name, (outcome field).value))
        (builder.fields.map fun field => ⟨spelled field.name, none⟩)).Gives []
      (builder.fields.map fun field => (spelled field.name, (outcome field).value)) := by
  have hplain : ∀ field ∈ builder.fields, field ∈ builder.plainFields := by
    intro field hfield
    have hunbacked := List.filter_eq_nil_iff.mp (List.map_eq_nil_iff.mp hbound) field hfield
    exact List.mem_filter.mpr ⟨hfield, by simpa using hunbacked⟩
  have hscope : ∀ field ∈ builder.fields, (none : Option ProviderCall) = none →
      (builder.plainFields.map fun field => (spelled field.name, (outcome field).value)).lookup
        (spelled field.name) = some (outcome field).value :=
    fun field hfield _ => lookup_spelled (fun field => (outcome field).value) hnames
      List.filter_sublist.subset (hplain field hfield)
  have hconstruct := Outline.gives_construct meaning (fun _ => none) outcome
    (fun _ _ _ hcall => by cases hcall) hscope
  have hnone : builder.fields.filter (fun _ => (none : Option ProviderCall).isSome) = [] :=
    List.filter_eq_nil_iff.mpr fun _ _ => Bool.false_ne_true
  rw [hnone] at hconstruct
  exact hconstruct

/-- The fields that call a provider are the provider-backed ones that were not set. -/
theorem Builder.filter_call? (builder : Builder) (calls : List (String × Logged ε (Datum α))) :
    builder.fields.filter
        (fun field => (if (builder.lastCall? calls field).isSome then none else field.call?).isSome) =
      builder.backedFields.filter fun field => (builder.lastCall? calls field).isNone := by
  rw [Builder.backedFields, List.filter_filter]
  refine List.filter_congr fun field _ => ?_
  rw [← field.call?_isSome]
  cases builder.lastCall? calls field with
  | none => exact (Bool.true_and _).symm
  | some callback => rfl

/-- With provider-backed fields the arm for those that were set is taken.  The patterns bind the outcomes of
these, and the members call the providers of the others. -/
theorem Builder.gives_branched (hnames : (builder.fields.map (spelled ·.name)).Nodup)
    (hread : ∀ field ∈ builder.fields, ∀ binding, field.binding? = some binding →
      ∃ call, Render.providerCall binding = .ok call)
    (meaning : Meaning ε α) (argument : String → Datum α) (calls : List (String × Logged ε (Datum α))) :
    ∃ arm bound,
      Outline.arm? ((powerset (Plan.boundNames builder.fields)).map (Render.armFor builder.fields))
        (builder.backedFields.map (builder.backedValue calls)) = some (arm, bound) ∧
      (Outline.construct meaning
        (bound ++ builder.plainFields.map fun field =>
          (spelled field.name, (builder.outcome meaning argument calls field).value)) arm.members).Gives
        ((builder.backedFields.filter fun field => (builder.lastCall? calls field).isNone).flatMap
          fun field => (builder.outcome meaning argument calls field).events)
        (builder.fields.map fun field =>
          (spelled field.name, (builder.outcome meaning argument calls field).value)) := by
  have hraw : (builder.fields.map Field.name).Nodup := by
    refine List.Nodup.of_map spelled ?_
    rw [List.map_map]
    exact hnames
  have harm := builder.arm?_backed meaning argument calls hraw
  refine ⟨_, _, harm, ?_⟩
  rw [← List.map_append, Builder.members_armFor calls hraw, ← builder.filter_call?]
  refine Outline.gives_construct meaning
    (fun field => if (builder.lastCall? calls field).isSome then none else field.call?)
    (builder.outcome meaning argument calls) (fun field hfield call hcall => ?_)
    (fun field hfield hnone => ?_)
  · split at hcall
    · cases hcall
    · rename_i hlast
      rw [Option.not_isSome_iff_eq_none] at hlast
      rw [Field.provide_of_call? hcall (hread field hfield) meaning argument, Builder.outcome, hlast]
      rfl
  · -- a member without a call is for a field that was set, or for one that no provider backs
    refine lookup_spelled (fun field => (builder.outcome meaning argument calls field).value) hnames
      (List.append_subset.mpr ⟨?_, List.filter_sublist.subset⟩) (List.mem_append.mpr ?_)
    · exact List.Subset.trans List.filter_sublist.subset List.filter_sublist.subset
    · have hcall := field.call?_isSome
      cases hprovider : field.strategy.isProvider with
      | false => exact .inr (List.mem_filter.mpr ⟨hfield, by rw [hprovider]; rfl⟩)
      | true =>
          refine .inl (List.mem_filter.mpr ⟨List.mem_filter.mpr ⟨hfield, hprovider⟩, ?_⟩)
          by_contra hlast
          rw [if_neg hlast] at hnone
          rw [hnone, hprovider] at hcall
          cases hcall

/-- The calls of all providers were read, as the arm for no set field has all of them. -/
theorem Outline.Runnable.exists_providerCall (hrunnable : outline.Runnable aggregate path choices) {field : Field}
    (hfield : field ∈ (Builder.ofChoices aggregate path choices).fields) {binding : Binding}
    (hbinding : field.binding? = some binding) : ∃ call, Render.providerCall binding = .ok call := by
  have hnames : ((choices.map Choice.field).map Field.name).Nodup := by
    refine List.Nodup.of_map spelled ?_
    rw [List.map_map]
    exact hrunnable.nodup_spelled
  have hprovider : field.strategy.isProvider = true := by
    rw [← field.call?_isSome, Field.call?, hbinding, Option.map_some, Option.isSome_some]
  have hbound := (Render.mem_boundNames hnames hfield).mpr hprovider
  obtain ⟨-, harms⟩ := hrunnable.outlined.branched (List.ne_nil_of_mem hbound)
  have hmembers := Render.members_of_armOf hnames (harms [] (mem_powerset.mpr (List.nil_sublist _)))
  obtain ⟨member, -, hmember⟩ := exists_of_forall₂_of_mem hmembers.flip hfield
  obtain ⟨call, hcall, -⟩ := hmember.called List.not_mem_nil binding hbinding
  exact ⟨call, hcall⟩

/-- Building a builder whose setters were called gives the outcome of every field. -/
theorem Outline.Runnable.gives_build (hrunnable : outline.Runnable aggregate path choices)
    (meaning : Meaning ε α) (argument : String → Datum α) (calls : List (String × Logged ε (Datum α))) :
    (outline.build meaning ((Builder.ofChoices aggregate path choices).filled meaning argument calls)).Gives
      ((Builder.ofChoices aggregate path choices).history calls
        ((Builder.ofChoices aggregate path choices).outcome meaning argument calls))
      ((Builder.ofChoices aggregate path choices).fields.map fun field => (spelled field.name,
        ((Builder.ofChoices aggregate path choices).outcome meaning argument calls field).value)) := by
  have hnames := hrunnable.nodup_spelled
  have hwidened : ∀ field ∈ (Builder.ofChoices aggregate path choices).fields,
      field.widened = field.strategy.widens := by
    intro field hfield
    obtain ⟨choice, _, rfl⟩ := List.mem_map.mp hfield
    rfl
  have hlocals := Builder.gives_locals hnames hwidened meaning argument calls (List.Subset.refl _)
  unfold Outline.build
  rw [hrunnable.outlined.locals, hrunnable.outlined.body, Render.bodyFor]
  refine hlocals.bind ?_
  by_cases hbound : Plan.boundNames (Builder.ofChoices aggregate path choices).fields = []
  · have hbacked : (Builder.ofChoices aggregate path choices).backedFields = [] :=
      List.map_eq_nil_iff.mp hbound
    rw [if_pos hbound, hbacked]
    exact Builder.gives_direct hnames hbound meaning _
  · have hslots := Builder.gives_slots hnames hwidened meaning argument calls
    have hread : ∀ field ∈ (Builder.ofChoices aggregate path choices).fields, ∀ binding,
        field.binding? = some binding → ∃ call, Render.providerCall binding = .ok call :=
      fun _ hfield _ hbinding => hrunnable.exists_providerCall hfield hbinding
    obtain ⟨arm, bound, harm, hconstruct⟩ := Builder.gives_branched hnames hread meaning argument calls
    rw [if_neg hbound]
    refine hslots.bind ?_
    rw [harm]
    exact hconstruct

/-- The names in the outline of a generated builder fit together. -/
theorem Outline.Runnable.coherent (hrunnable : outline.Runnable aggregate path choices) : outline.Coherent := by
  have hnames := hrunnable.nodup_spelled
  constructor
  case fields => exact hrunnable.distinct.fields
  case initials =>
    have hlength := congrArg List.length hrunnable.outlined.fields
    rw [List.length_map, List.length_map] at hlength
    rw [hlength, hrunnable.outlined.initials, List.length_map]
  case mandatory =>
    rw [hrunnable.outlined.mandatory]
    exact hnames.sublist (List.filter_sublist.map _)
  case setters =>
    intro setter hsetter
    obtain ⟨choice, hchoice, -, found, hfind, hfield, -⟩ :=
      hrunnable.find?_setters (List.mem_map_of_mem (f := OutlineSetter.name) hsetter)
    rw [find?_name hrunnable.distinct.setters hsetter] at hfind
    obtain rfl := Option.some.inj hfind
    rw [hfield, hrunnable.outlined.fields]
    exact List.mem_map.mpr ⟨choice.field, List.mem_map_of_mem hchoice, rfl⟩
  case locals =>
    rw [hrunnable.outlined.localNames]
    exact hnames.sublist (List.filter_sublist.map _)

end Building

/-- A generated builder gives the outcome of every field, in field order, after it was started with some
arguments and its setters were called in any way.  So does the code in the tokens of the builder, and so does its
outline when it is run.  Starting a builder evaluates the expressions of zero values and variants, and the calls
run nothing.  Building runs the callback of the last call for each field, once, or what the field falls back to,
and no other callback and no other provider.

An argument is given under the name of its parameter.  These names differ, so this covers every list of
arguments.  The generated code has to declare its fields and setters under different names, or it does not
compile. -/
theorem Aggregate.build_of_generate {aggregate : Aggregate} {registry : Registry}
    {enumerations : List Enumeration} {builder : Builder} {cratePath : String} {outline : Outline}
    (hgenerate : aggregate.generate registry enumerations = .ok builder)
    (houtline : Render.outline builder cratePath = .ok outline) (hdistinct : outline.Distinct)
    (meaning : Meaning ε α) (argument : String → Datum α) {calls : List (String × Logged ε (Datum α))}
    (hcalls : ∀ call ∈ calls, call.1 ∈ outline.setters.map OutlineSetter.name) :
    ∃ (code : Code) (tokens : List Token) (started filled : Slots ε α),
      builder.render cratePath = .ok tokens ∧ code.Rendered builder cratePath tokens ∧
      (outline.start meaning (builder.factory.mandatory.map argument)).Gives
        (builder.startHistory meaning argument) started ∧
      code.Starts meaning (builder.factory.mandatory.map argument)
        (builder.startHistory meaning argument) started ∧
      (outline.callAll started calls).Gives [] filled ∧
      code.SetsAll started calls filled ∧
      (outline.build meaning filled).Gives
        (builder.history calls (builder.outcome meaning argument calls))
        (builder.fields.map fun field =>
          (spelled field.name, (builder.outcome meaning argument calls field).value)) ∧
      code.Builds meaning filled
        (builder.history calls (builder.outcome meaning argument calls))
        (builder.fields.map fun field =>
          (spelled field.name, (builder.outcome meaning argument calls field).value)) ∧
      (outline.create meaning (builder.factory.mandatory.map argument) calls).Gives
        (builder.startHistory meaning argument ++
          builder.history calls (builder.outcome meaning argument calls))
        (builder.fields.map fun field =>
          (spelled field.name, (builder.outcome meaning argument calls field).value)) ∧
      code.Creates meaning (builder.factory.mandatory.map argument) calls
        (builder.startHistory meaning argument ++
          builder.history calls (builder.outcome meaning argument calls))
        (builder.fields.map fun field =>
          (spelled field.name, (builder.outcome meaning argument calls field).value)) := by
  obtain ⟨constructor, choices, hgenerated, rfl⟩ := generate_eq_ok hgenerate
  have hrunnable : outline.Runnable aggregate constructor.path choices :=
    ⟨Render.outline_eq_ok hgenerated.nodup_fieldNames houtline, hdistinct⟩
  have hcoherent := hrunnable.coherent
  have hstart := hrunnable.gives_start meaning argument
  have hcall := hrunnable.gives_callAll hcalls fun field => .ready (field.started meaning argument).value
  have hbuild := hrunnable.gives_build meaning argument calls
  have hcreate : (outline.create meaning _ calls).Gives _ _ := hstart.bind (hcall.bind hbuild)
  obtain ⟨hstarts, hslots⟩ := Outline.starts_of_gives hcoherent hstart
  obtain ⟨hsets, -⟩ := Outline.setsAll_of_gives (hslots ▸ hcoherent.setters) hcall
  exact ⟨outline.code, outline.tokens, _, _, map_eq_ok.mpr ⟨outline, houtline, rfl⟩, Render.rendered_code houtline,
    hstart, hstarts, hcall, hsets, hbuild, Outline.builds_of_gives hcoherent hbuild, hcreate,
    Outline.creates_of_gives hcoherent hcreate⟩

/-- A parcel is started, and its weight is set twice.  It has the second weight.  The first callback does not run,
and the provider of names is asked for the sender. -/
theorem Shop.build_of_parcel :
    ∃ (code : Code) (tokens : List Token) (started filled : Slots String Atom),
      Shop.parcelBuilder.render "::optbuilder" = .ok tokens ∧
      code.Rendered Shop.parcelBuilder "::optbuilder" tokens ∧
      code.Starts Shop.meaning [Shop.whole 7] [] started ∧
      code.SetsAll started [("weight", ⟨["first"], Shop.whole 1⟩), ("weight", ⟨["second"], Shop.whole 2⟩)] filled ∧
      code.Builds Shop.meaning filled ["second", "get Names"]
        [("id", Shop.whole 7), ("sender", Shop.text "anonymous"), ("weight", Shop.whole 2),
          ("note", .absent)] := by
  have hcalls : ∀ call ∈ [("weight", (⟨["first"], Shop.whole 1⟩ : Logged String Shop.Value)),
      ("weight", ⟨["second"], Shop.whole 2⟩)],
        call.1 ∈ Shop.parcelOutline.setters.map OutlineSetter.name := by
    have hnames : Shop.parcelOutline.setters.map OutlineSetter.name =
      ["id", "sender", "weight", "note"] := rfl
    rw [hnames]
    simp
  obtain ⟨code, tokens, started, filled, hrender, hrendered, -, hstarts, -, hsets, -, hbuilds, -⟩ :=
    Aggregate.build_of_generate Shop.generate_parcel Shop.outline_parcelBuilder Shop.distinct_parcelOutline
      Shop.meaning (fun _ => Shop.whole 7) hcalls
  exact ⟨code, tokens, started, filled, hrender, hrendered, hstarts, hsets, hbuilds⟩

end BuilderGen

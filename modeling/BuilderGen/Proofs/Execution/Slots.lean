import BuilderGen.Proofs.Execution.Gives
import BuilderGen.Proofs.Render.Outline

/-!
# Slots before building

What the slots of a generated builder hold after it was started and after setters were called.  The invariant
is `Builder.slots`: there is one slot for each field, in field order, under the name that the field has in
the generated code.  Starting a builder fills them with `Field.started`, and every call of a setter replaces
the slot of its own field.  So `Builder.lastCall?` decides what a slot holds in the end.
-/

namespace BuilderGen

open Render (spelled code reading)

variable {ε α : Type}

/-- The generated code declares no field and no setter twice.  Without this it does not compile.  Different
names can be spelled alike there, such as a name with a blank in front of it. -/
structure Outline.Distinct (outline : Outline) : Prop where
  fields : (outline.fields.map OutlineField.name).Nodup
  setters : (outline.setters.map OutlineSetter.name).Nodup

/-- Nothing is declared twice when every name is an identifier, which is spelled as it is. -/
theorem Outline.distinct_of_spelled {aggregate : Aggregate} {registry : Registry}
    {enumerations : List Enumeration} {builder : Builder} {cratePath : String} {outline : Outline}
    (hgenerate : aggregate.generate registry enumerations = .ok builder)
    (houtline : Render.outline builder cratePath = .ok outline)
    (hfields : ∀ field ∈ builder.fields, spelled field.name = field.name)
    (hsetters : ∀ setter ∈ builder.setters, spelled setter.name = setter.name) : outline.Distinct := by
  obtain ⟨constructor, choices, hgenerated, rfl⟩ := Aggregate.generate_eq_ok hgenerate
  have houtlined := Render.outline_eq_ok hgenerated.nodup_fieldNames houtline
  constructor
  · rw [houtlined.fields, List.map_congr_left hfields]
    exact hgenerated.nodup_fieldNames
  · rw [houtlined.setterNames, List.map_congr_left hsetters, Builder.ofChoices, List.map_map]
    exact hgenerated.setters

theorem Shop.distinct_parcelOutline : Shop.parcelOutline.Distinct := by
  refine Outline.distinct_of_spelled Shop.generate_parcel Shop.outline_parcelBuilder ?_ ?_
  · decide
  · decide

/-! ## Look-ups by the names in the generated code -/

/-- Among values under the names of some fields, the name of one of these fields leads to its value.  It does
not matter how the fields are ordered or repeated, because a name belongs to one field. -/
theorem lookup_spelled {β : Type} {fields items : List Field} (value : Field → β)
    (hnames : (fields.map (spelled ·.name)).Nodup) (hitems : items ⊆ fields) {field : Field}
    (hfield : field ∈ items) :
    (items.map fun field => (spelled field.name, value field)).lookup (spelled field.name) =
      some (value field) := by
  rw [Render.lookup_map_key (spelled ·.name) value]
  cases hfind : items.find? (spelled ·.name = spelled field.name) with
  | none =>
      have hdiffers := List.find?_eq_none.mp hfind field hfield
      simp at hdiffers
  | some found =>
      have hname : spelled found.name = spelled field.name := by simpa using List.find?_some hfind
      have hfound := hitems (List.mem_of_find?_eq_some hfind)
      rw [List.inj_on_of_nodup_map hnames hfound (hitems hfield) hname, Option.map_some]

namespace Builder

/-! ## The call that counts -/

/-- Whether a method of the generated code sets a field. -/
def sets (builder : Builder) (field : Field) (method : String) : Bool :=
  builder.setters.any fun setter => setter.field = field.name ∧ spelled setter.name = method

/-- The callback of the last call that sets a field. -/
def lastCall? (builder : Builder) (calls : List (String × Logged ε (Datum α))) (field : Field) :
    Option (Logged ε (Datum α)) :=
  (calls.reverse.find? fun call => builder.sets field call.1).map Prod.snd

/-- A call counts when no later call sets the field. -/
theorem lastCall?_cons (builder : Builder) (call : String × Logged ε (Datum α))
    (calls : List (String × Logged ε (Datum α))) (field : Field) :
    builder.lastCall? (call :: calls) field =
      (builder.lastCall? calls field).or (if builder.sets field call.1 then some call.2 else none) := by
  unfold lastCall?
  rw [List.reverse_cons, List.find?_append]
  cases hlater : calls.reverse.find? fun call => builder.sets field call.1 with
  | some later => rfl
  | none => cases hsets : builder.sets field call.1 <;> simp [hsets]

/-- The slots of a builder, given what it holds for each field. -/
def slots (builder : Builder) (held : Field → Slot ε (Datum α)) : Slots ε α :=
  builder.fields.map fun field => (spelled field.name, held field)

/-- The slot of a field after calls of setters.  A callback of a widened slot gives a present value. -/
def heldAfter (builder : Builder) (calls : List (String × Logged ε (Datum α)))
    (held : Field → Slot ε (Datum α)) (field : Field) : Slot ε (Datum α) :=
  match builder.lastCall? calls field with
  | some callback => .deferred (if field.widened then .present <$> callback else callback)
  | none => held field

theorem heldAfter_of_eq_none {builder : Builder} {calls : List (String × Logged ε (Datum α))}
    {field : Field} (hlast : builder.lastCall? calls field = none) (held : Field → Slot ε (Datum α)) :
    builder.heldAfter calls held field = held field := by
  unfold heldAfter
  rw [hlast]

/-- The callback that counts runs when the slot is resolved. -/
theorem resolve_heldAfter {builder : Builder} {calls : List (String × Logged ε (Datum α))}
    {field : Field} {callback : Logged ε (Datum α)} (hlast : builder.lastCall? calls field = some callback)
    (held : Field → Slot ε (Datum α)) :
    (builder.heldAfter calls held field).resolve.events = callback.events ∧
      (builder.heldAfter calls held field).resolve.value =
        if field.widened then .present callback.value else callback.value := by
  unfold heldAfter
  rw [hlast]
  cases field.widened with
  | true => exact ⟨Logged.events_map _ _, rfl⟩
  | false => exact ⟨rfl, rfl⟩

/-- After one call only the field that it sets is changed. -/
theorem heldAfter_singleton (builder : Builder) (method : String) (callback : Logged ε (Datum α))
    (held : Field → Slot ε (Datum α)) (field : Field) :
    builder.heldAfter [(method, callback)] held field =
      if builder.sets field method then
        .deferred (if field.widened then .present <$> callback else callback)
      else held field := by
  unfold heldAfter
  rw [lastCall?_cons]
  cases builder.sets field method <;> rfl

theorem heldAfter_cons (builder : Builder) (call : String × Logged ε (Datum α))
    (calls : List (String × Logged ε (Datum α))) (held : Field → Slot ε (Datum α)) :
    builder.heldAfter (call :: calls) held =
      builder.heldAfter calls (builder.heldAfter [call] held) := by
  funext field
  unfold heldAfter
  rw [lastCall?_cons, lastCall?_cons]
  cases builder.lastCall? calls field with
  | some later => rfl
  | none => rfl

end Builder

/-! ## Calls of setters -/

section Calls

variable {aggregate : Aggregate} {path : String} {choices : List Choice} {outline : Outline}

/-- A builder that was put together from some choices, and its outline, which declares nothing twice. -/
structure Outline.Runnable (outline : Outline) (aggregate : Aggregate) (path : String)
    (choices : List Choice) : Prop where
  outlined : Render.Outlined (.ofChoices aggregate path choices) outline
  distinct : outline.Distinct

theorem Outline.Runnable.nodup_spelled (hrunnable : outline.Runnable aggregate path choices) :
    ((Builder.ofChoices aggregate path choices).fields.map (spelled ·.name)).Nodup :=
  hrunnable.outlined.fields ▸ hrunnable.distinct.fields

theorem Outline.Runnable.nodup_fields (hrunnable : outline.Runnable aggregate path choices) :
    (choices.map fun choice => spelled choice.name).Nodup := by
  have hnames := hrunnable.nodup_spelled
  rw [Builder.ofChoices, List.map_map] at hnames
  exact hnames

theorem Outline.Runnable.nodup_setters (hrunnable : outline.Runnable aggregate path choices) :
    (choices.map fun choice => spelled choice.setter).Nodup := by
  have hnames := hrunnable.distinct.setters
  rw [hrunnable.outlined.setterNames, Builder.ofChoices, List.map_map] at hnames
  exact hnames

/-- The setter of a choice sets the field of the same choice, and no other. -/
theorem Outline.Runnable.sets_iff (hrunnable : outline.Runnable aggregate path choices) {choice other : Choice}
    (hchoice : choice ∈ choices) (hother : other ∈ choices) :
    (Builder.ofChoices aggregate path choices).sets other.field (spelled choice.setter) = true ↔
      other = choice := by
  unfold Builder.sets
  rw [List.any_eq_true]
  constructor
  · rintro ⟨setter, hsetter, hsets⟩
    obtain ⟨found, hfound, rfl⟩ := List.mem_map.mp hsetter
    obtain ⟨hfield, hname⟩ := of_decide_eq_true hsets
    obtain rfl : found = choice := List.inj_on_of_nodup_map hrunnable.nodup_setters hfound hchoice hname
    refine (List.inj_on_of_nodup_map hrunnable.nodup_fields hfound hother ?_).symm
    exact congrArg spelled hfield
  · rintro rfl
    exact ⟨other.fluentSetter, List.mem_map_of_mem hchoice, decide_eq_true ⟨rfl, rfl⟩⟩

/-- A method of the outline that sets fields is the setter of some choice. -/
theorem Outline.Runnable.find?_setters (hrunnable : outline.Runnable aggregate path choices) {method : String}
    (hmethod : method ∈ outline.setters.map OutlineSetter.name) :
    ∃ choice ∈ choices, method = spelled choice.setter ∧
      ∃ setter, outline.setters.find? (·.name = method) = some setter ∧
        setter.field = spelled choice.name ∧ setter.wraps = choice.strategy.widens := by
  obtain ⟨setter, hsetter, rfl⟩ := List.mem_map.mp hmethod
  have hparts := List.mem_map_of_mem (f := fun setter : OutlineSetter =>
    (setter.name, setter.field, setter.wraps)) hsetter
  rw [hrunnable.outlined.setters, Builder.ofChoices, List.map_map] at hparts
  obtain ⟨choice, hchoice, heq⟩ := List.mem_map.mp hparts
  obtain ⟨hname, heq⟩ := Prod.ext_iff.mp heq
  obtain ⟨hfield, hwraps⟩ := Prod.ext_iff.mp heq
  exact ⟨choice, hchoice, hname.symm, setter, find?_name hrunnable.distinct.setters hsetter,
    hfield.symm, hwraps.symm⟩

/-- A call of a setter replaces the slot of the field it sets, and runs nothing. -/
theorem Outline.Runnable.gives_call (hrunnable : outline.Runnable aggregate path choices)
    (held : Field → Slot ε (Datum α)) {call : String × Logged ε (Datum α)}
    (hmethod : call.1 ∈ outline.setters.map OutlineSetter.name) :
    (outline.call ((Builder.ofChoices aggregate path choices).slots held) call.1 call.2).Gives []
      ((Builder.ofChoices aggregate path choices).slots
        ((Builder.ofChoices aggregate path choices).heldAfter [call] held)) := by
  obtain ⟨method, callback⟩ := call
  obtain ⟨choice, hchoice, rfl, setter, hfind, hfield, hwraps⟩ := hrunnable.find?_setters hmethod
  have hstore : ((Builder.ofChoices aggregate path choices).slots held).store setter.field
      (if setter.wraps then .present <$> callback else callback) =
      (Builder.ofChoices aggregate path choices).slots
        ((Builder.ofChoices aggregate path choices).heldAfter [(spelled choice.setter, callback)] held) := by
    rw [Slots.store, Builder.slots, Builder.slots, List.map_map]
    refine List.map_congr_left fun field hmem => Prod.ext rfl ?_
    obtain ⟨other, hother, rfl⟩ := List.mem_map.mp hmem
    rw [Builder.heldAfter_singleton, hfield, hwraps]
    -- the name in the generated code tells the fields apart, so both sides change the same slot
    by_cases hsame : other = choice
    · subst hsame
      rw [if_pos ((hrunnable.sets_iff hchoice hother).mpr rfl)]
      exact if_pos rfl
    · rw [if_neg (mt (hrunnable.sets_iff hchoice hother).mp hsame)]
      refine if_neg fun hname => hsame ?_
      exact List.inj_on_of_nodup_map hrunnable.nodup_fields hother hchoice hname
  unfold Outline.call
  rw [hfind, ← hstore]
  exact Execution.gives_pure _

/-- Calls of setters run nothing, and the last call for a field decides what its slot holds. -/
theorem Outline.Runnable.gives_callAll (hrunnable : outline.Runnable aggregate path choices)
    {calls : List (String × Logged ε (Datum α))}
    (hcalls : ∀ call ∈ calls, call.1 ∈ outline.setters.map OutlineSetter.name)
    (held : Field → Slot ε (Datum α)) :
    (outline.callAll ((Builder.ofChoices aggregate path choices).slots held) calls).Gives []
      ((Builder.ofChoices aggregate path choices).slots
        ((Builder.ofChoices aggregate path choices).heldAfter calls held)) := by
  induction calls generalizing held with
  | nil => exact Execution.gives_pure _
  | cons call calls ih =>
      obtain ⟨hmethod, hrest⟩ := List.forall_mem_cons.mp hcalls
      rw [Builder.heldAfter_cons]
      exact (hrunnable.gives_call held hmethod).bind (ih hrest _)

/-! ## New builders -/

/-- What a new builder holds for a field, given the arguments for the mandatory ones. -/
def Field.started (meaning : Meaning ε α) (argument : String → Datum α) (field : Field) :
    Logged ε (Datum α) :=
  match field.strategy with
  | .mandatory => pure (argument field.name)
  | .zero _ text | .variant _ _ text => .present <$> meaning.evaluate (spelled field.name) (code text)
  | .nullable | .initializer _ | .provider .. => pure .absent

/-- The initial value of a field is computed as its outline says, where the arguments are found under the
names of their parameters. -/
theorem Field.gives_started (meaning : Meaning ε α) (argument : String → Datum α) (field : Field)
    {arguments : List (String × Datum α)}
    (hargument : field.strategy = .mandatory →
      arguments.lookup (spelled field.name) = some (argument field.name)) :
    (Outline.initialValue meaning arguments (spelled field.name) field.start).Gives
      (field.started meaning argument).events (field.started meaning argument).value := by
  unfold Field.start Field.started
  cases hstrategy : field.strategy with
  | mandatory =>
      dsimp only [Outline.initialValue]
      rw [hargument hstrategy]
      exact Execution.gives_mk_some _
  | nullable | initializer _ | provider _ _ => exact Execution.gives_pure _
  | zero _ text | variant _ _ text =>
      dsimp only [Outline.initialValue]
      rw [Logged.events_map, Logged.value_map]
      exact (Execution.gives_lift _).map _

/-- The events of starting a builder, in field order. -/
def Builder.startHistory (builder : Builder) (meaning : Meaning ε α) (argument : String → Datum α) :
    List ε :=
  builder.fields.flatMap fun field => (field.started meaning argument).events

/-- A new builder holds a ready value in every slot. -/
theorem Outline.Runnable.gives_start (hrunnable : outline.Runnable aggregate path choices)
    (meaning : Meaning ε α) (argument : String → Datum α) :
    (outline.start meaning
        ((Builder.ofChoices aggregate path choices).factory.mandatory.map argument)).Gives
      ((Builder.ofChoices aggregate path choices).startHistory meaning argument)
      ((Builder.ofChoices aggregate path choices).slots fun field =>
        .ready (field.started meaning argument).value) := by
  have hmandatory := hrunnable.outlined.mandatory
  have hlength := congrArg List.length hmandatory
  rw [List.length_map, List.length_map] at hlength
  let arguments := ((Builder.ofChoices aggregate path choices).fields.filter
    (·.strategy = .mandatory)).map fun field => (spelled field.name, argument field.name)
  have harguments : (outline.mandatory.map OutlineParameter.name).zip
      ((Builder.ofChoices aggregate path choices).factory.mandatory.map argument) = arguments := by
    rw [hmandatory, Builder.ofChoices, Factory.ofFields, List.map_map, List.zip_map']
    rfl
  have hzip : (outline.fields.zip outline.initials).map (Prod.map OutlineField.name id) =
      (Builder.ofChoices aggregate path choices).fields.map
        fun field => (spelled field.name, field.start) := by
    rw [← List.zip_map_left, hrunnable.outlined.fields, hrunnable.outlined.initials, List.zip_map']
  let step (item : String × OutlineInitial) : Execution ε (String × Slot ε (Datum α)) := do
    let value ← Outline.initialValue meaning arguments item.1 item.2
    return (item.1, .ready value)
  have hstart : outline.start meaning
      ((Builder.ofChoices aggregate path choices).factory.mandatory.map argument) =
        ((Builder.ofChoices aggregate path choices).fields.map
          fun field => (spelled field.name, field.start)).mapM step := by
    have hsame : ((Builder.ofChoices aggregate path choices).factory.mandatory.map argument).length =
        outline.mandatory.length := by
      rw [hlength, List.length_map]
      exact List.length_map _
    unfold Outline.start
    rw [harguments, if_neg (not_not.mpr hsame), ← hzip, List.mapM_map]
    rfl
  rw [hstart, List.mapM_map]
  refine Execution.gives_mapM fun field hfield => ?_
  refine (field.gives_started meaning argument fun hstrategy => ?_).bind_pure _
  refine lookup_spelled (fun field => argument field.name) hrunnable.nodup_spelled
    List.filter_sublist.subset ?_
  exact List.mem_filter.mpr ⟨hfield, decide_eq_true hstrategy⟩

end Calls

end BuilderGen

import BuilderGen.Proofs.Execution.Gives
import BuilderGen.Proofs.Render.Code

/-!
# What rendered code does

The tokens of a builder have a meaning of their own.  It is given by rules here, one for each form that a
statement or an expression of the generated methods has: `Code.Starts` for calling `new`, `Code.Sets` for
calling a setter, `Code.Builds` for calling `build`, and `Code.Creates` for calling `create`.  What slots do at
run time is taken from `Slot`, and what the expressions and providers in the code stand for from a `Meaning`.
Code that would not pass a type check has no run.

The other half compares this with running the outline that the tokens are made of: `Outline.starts_of_gives`,
`Outline.setsAll_of_gives`, `Outline.builds_of_gives` and `Outline.creates_of_gives`.  Each run of the outline
that gives a value is a run of its code, with the same events and the same value.
-/

namespace BuilderGen

open Token (phrase)

variable {ε α : Type}

/-- Values under names, each computed when its turn comes. -/
abbrev Computed (ε α : Type) := List (String × Logged ε (Datum α))

namespace Computed

/-- The events of all of them, in order. -/
def events (computed : Computed ε α) : List ε :=
  computed.flatMap fun item => item.2.events

/-- The values under their names. -/
def values (computed : Computed ε α) : List (String × Datum α) :=
  computed.map fun item => (item.1, item.2.value)

end Computed

/-- Under different names, every name leads to its own value. -/
theorem lookup_of_mem {β : Type} {items : List (String × β)} (hnames : (items.map Prod.fst).Nodup) {name : String}
    {value : β} (hmem : (name, value) ∈ items) : items.lookup name = some value := by
  have hlookup := Render.lookup_map_key Prod.fst Prod.snd items name
  rwa [List.map_id'' fun _ => rfl, find?_name hnames hmem] at hlookup

namespace Code

variable (code : Code) (meaning : Meaning ε α)

/-! ## Starting -/

/-- What `from_parts` is given for a field: a parameter, the absent value, or the present value of an expression. -/
inductive Initial (scope : List (String × Datum α)) (field : String) : List Token → Logged ε (Datum α) → Prop
  | parameter {name : String} {value : Datum α} (hvalue : scope.lookup name = some value) :
      Initial scope field [.word name] (pure value)
  | absent : Initial scope field absent (pure .absent)
  | present (expression : List Token) :
      Initial scope field (present expression) (.present <$> meaning.evaluate field expression)

/-- Calling `new` evaluates what it hands to `from_parts`, which puts the values into the slots. -/
inductive Starts (arguments : List (Datum α)) : List ε → Slots ε α → Prop
  | new {parameters parts : List String} {initials : List (List Token)} {computed : Computed ε α}
      {slots : List (String × String)} {values : List (Datum α)}
      (hnew : code.Defines "new" [] parameters (handed initials))
      (hlength : parameters.length = arguments.length)
      (hparts : code.Defines "from_parts" [] parts (filled code.runtime slots))
      (hnames : computed.map Prod.fst = parts)
      (hinitials : List.Forall₂
        (fun initial item => Initial meaning (parameters.zip arguments) item.1 initial item.2) initials computed)
      (hvalues : List.Forall₂ (fun slot value => computed.values.lookup slot.2 = some value) slots values) :
      Starts arguments computed.events
        ((slots.map Prod.fst).zip (values.map Slot.ready))

/-! ## Calling setters -/

/-- Calling a setter replaces a slot and runs nothing. -/
inductive Sets (slots : Slots ε α) (callback : Logged ε (Datum α)) : String → Slots ε α → Prop
  | plain {setter field : String} (hfield : field ∈ slots.map Prod.fst)
      (hsetter : code.Defines setter [phrase "& mut self"] ["value"]
        (replaced code.runtime field (phrase "value"))) :
      Sets slots callback setter (slots.store field callback)
  | wrapping {setter field : String} (hfield : field ∈ slots.map Prod.fst)
      (hsetter : code.Defines setter [phrase "& mut self"] ["value"]
        (replaced code.runtime field wrapping)) :
      Sets slots callback setter (slots.store field (.present <$> callback))

/-- Calling setters one after the other. -/
inductive SetsAll : Slots ε α → List (String × Logged ε (Datum α)) → Slots ε α → Prop
  | nil (slots : Slots ε α) : SetsAll slots [] slots
  | cons {slots next last : Slots ε α} {setter : String} {callback : Logged ε (Datum α)}
      {calls : List (String × Logged ε (Datum α))} (hfirst : code.Sets slots callback setter next)
      (hrest : SetsAll next calls last) : SetsAll slots ((setter, callback) :: calls) last

/-! ## Building -/

/-- A local variable takes its value out of a slot.  With a fallback the slot holds an option. -/
inductive Declares (slots : Slots ε α) : List Token → String × Logged ε (Datum α) → Prop
  | plain {name field : String} {slot : Slot ε (Datum α)} (hslot : slots.lookup field = some slot) :
      Declares slots (declared name field none) (name, slot.resolve)
  | present {name field : String} {slot : Slot ε (Datum α)} {value : Datum α} (fallback : List Token)
      (hslot : slots.lookup field = some slot) (hvalue : slot.resolve.value = .present value) :
      Declares slots (declared name field (some fallback)) (name, { slot.resolve with value })
  | absent {name field : String} {slot : Slot ε (Datum α)} (fallback : List Token)
      (hslot : slots.lookup field = some slot) (hvalue : slot.resolve.value = .absent) :
      Declares slots (declared name field (some fallback))
        (name, slot.resolve >>= fun _ => meaning.evaluate field fallback)

/-- A member of the constructing expression is a variable or asks a provider. -/
inductive Fills (scope : List (String × Datum α)) : List Token → String × Logged ε (Datum α) → Prop
  | variable {name : String} {value : Datum α} (hvalue : scope.lookup name = some value) :
      Fills scope (member code.runtime name none) (name, pure value)
  | asked (name : String) (call : ProviderCall) :
      Fills scope (member code.runtime name (some call)) (name, meaning.provide call)

/-- The end of the method constructs the aggregate.  It may do so in the first arm of a match whose patterns
match the values of some slots, where the variables of the patterns hide those outside. -/
inductive Ends (slots : Slots ε α) (scope : List (String × Datum α)) :
    List Token → List ε → List (String × Datum α) → Prop
  | constructed {members : List (List Token)} {computed : Computed ε α}
      (hmembers : List.Forall₂ (code.Fills meaning scope) members computed) :
      Ends slots scope (constructed code.constructor members) computed.events computed.values
  | matched {fields : List String} {held : List (Slot ε (Datum α))} {before after : List Arm} {arm : Arm}
      {bound : List (String × Datum α)} {computed : Computed ε α}
      (hheld : List.Forall₂ (fun field slot => slots.lookup field = some slot) fields held)
      (hbefore : ∀ other ∈ before, ¬other.Accepts (held.map (·.resolve.value)))
      (hmatches : MatchesAll arm.patterns (held.map (·.resolve.value)) bound)
      (hmembers : List.Forall₂ (code.Fills meaning (bound ++ scope)) arm.members computed) :
      Ends slots scope (matched code.constructor fields (before ++ arm :: after))
        (held.flatMap (·.resolve.events) ++ computed.events) computed.values

/-- Calling `build` declares the local variables, no two of one name, and constructs the aggregate. -/
inductive Builds (slots : Slots ε α) : List ε → List (String × Datum α) → Prop
  | build {statements : List (List Token)} {last : List Token} {computed : Computed ε α} {events : List ε}
      {result : List (String × Datum α)}
      (hbuild : code.Defines "build" [phrase "self"] [] (statements.flatten ++ last))
      (hstatements : List.Forall₂ (Declares meaning slots) statements computed)
      (hnames : (computed.map Prod.fst).Nodup)
      (hlast : code.Ends meaning slots computed.values last events result) :
      Builds slots (computed.events ++ events) result

/-- Calling `create` with a callback that calls setters starts a builder, calls the setters and builds. -/
inductive Creates (arguments : List (Datum α)) (calls : List (String × Logged ε (Datum α))) :
    List ε → List (String × Datum α) → Prop
  | create {parameters names : List String} {values : List (Datum α)} {started filled : Slots ε α}
      {events later : List ε} {result : List (String × Datum α)}
      (hcreate : code.Defines "create" [] (parameters ++ ["optbuilder_configure"]) (adjusted names))
      (hlength : parameters.length = arguments.length)
      (hvalues : List.Forall₂ (fun name value => (parameters.zip arguments).lookup name = some value) names values)
      (hstarts : code.Starts meaning values events started) (hsets : code.SetsAll started calls filled)
      (hbuilds : code.Builds meaning filled later result) :
      Creates arguments calls (events ++ later) result

end Code

/-! ## Runs of an outline -/

/-- The parts of an outline refer to each other as they should: no two slots, parameters or local variables have
the same name, there is an initial value for each slot, and every setter has a slot. -/
structure Outline.Coherent (outline : Outline) : Prop where
  fields : (outline.fields.map OutlineField.name).Nodup
  initials : outline.initials.length = outline.fields.length
  mandatory : (outline.mandatory.map OutlineParameter.name).Nodup
  setters : ∀ setter ∈ outline.setters, setter.field ∈ outline.fields.map OutlineField.name
  locals : (outline.locals.map OutlineLocal.name).Nodup

namespace Outline

open Execution (gives_lift_iff gives_mk_iff gives_pure_iff not_gives_failure)

variable {outline : Outline} {meaning : Meaning ε α}

/-- What a new builder holds in a slot is computed by what `from_parts` is given for it. -/
theorem initial_of_gives {arguments : List (String × Datum α)} {field : String} {initial : OutlineInitial}
    {events : List ε} {value : Datum α}
    (h : (initialValue meaning arguments field initial).Gives events value) :
    Code.Initial meaning arguments field (initialCode initial) { events, value } := by
  cases initial with
  | argument name =>
      obtain ⟨rfl, hvalue⟩ := gives_mk_iff.mp h
      exact .parameter hvalue
  | absent =>
      obtain ⟨rfl, rfl⟩ := gives_pure_iff.mp h
      exact .absent
  | value expression =>
      obtain ⟨inner, hinner, rfl⟩ := h.of_map
      obtain ⟨rfl, rfl⟩ := gives_lift_iff.mp hinner
      have hpresent : Code.Initial meaning arguments field (initialCode (.value expression))
          (.present <$> meaning.evaluate field expression) := .present expression
      rwa [← Logged.events_map Datum.present]

/-- A started builder holds what was computed for each of its fields. -/
theorem computed_of_start {arguments : List (Datum α)} {events : List ε} {slots : Slots ε α}
    (h : (outline.start meaning arguments).Gives events slots) :
    arguments.length = outline.mandatory.length ∧
      ∃ computed : Computed ε α,
        List.Forall₂ (fun item found => item.1.name = found.1 ∧
            Code.Initial meaning ((outline.mandatory.map OutlineParameter.name).zip arguments) found.1
              (initialCode item.2) found.2) (outline.fields.zip outline.initials) computed ∧
          events = computed.events ∧ slots = computed.map fun item => (item.1, .ready item.2.value) := by
  unfold start at h
  split at h
  · obtain ⟨_, _, _, hfailed, _⟩ := h.of_bind
    exact absurd hfailed not_gives_failure
  · rename_i hlength
    refine ⟨not_ne_iff.mp hlength, Execution.Gives.of_mapM ?_ h⟩
    rintro ⟨field, initial⟩ events slot hstep
    obtain ⟨early, value, later, hvalue, hlater, rfl⟩ := hstep.of_bind
    obtain ⟨rfl, rfl⟩ := gives_pure_iff.mp hlater
    exact ⟨(field.name, ⟨early, value⟩), ⟨rfl, initial_of_gives hvalue⟩, List.append_nil _, rfl⟩

theorem starts_of_gives (hcoherent : outline.Coherent) {arguments : List (Datum α)} {events : List ε}
    {slots : Slots ε α} (h : (outline.start meaning arguments).Gives events slots) :
    outline.code.Starts meaning arguments events slots ∧
      slots.map Prod.fst = outline.fields.map OutlineField.name := by
  obtain ⟨hlength, computed, hcomputed, rfl, rfl⟩ := computed_of_start h
  have hnames : computed.map Prod.fst = outline.fields.map OutlineField.name := by
    have hzip := congrArg (List.map OutlineField.name) (List.map_fst_zip hcoherent.initials.ge)
    rw [← map_eq_map_of_forall₂ hcomputed fun _ _ hitem => hitem.1, ← hzip, List.map_map]
    rfl
  have hinitials : List.Forall₂
      (fun initial item => Code.Initial meaning ((outline.mandatory.map OutlineParameter.name).zip arguments)
        item.1 initial item.2) (outline.initials.map initialCode) computed := by
    rw [← List.map_snd_zip hcoherent.initials.le, List.map_map, List.forall₂_map_left_iff]
    exact hcomputed.imp fun _ _ hitem => hitem.2
  -- the name of a slot is at the same time the name of the parameter that fills it
  have hslots : outline.fields.map (fun field => (field.name, field.name)) =
      computed.map fun item => (item.1, item.1) := by
    have hpairs := congrArg (List.map fun name => (name, name)) hnames.symm
    rwa [List.map_map, List.map_map] at hpairs
  have hready : (computed.map fun item => (item.1, (.ready item.2.value : Slot ε (Datum α)))) =
      ((outline.fields.map fun field => (field.name, field.name)).map Prod.fst).zip
        ((computed.map fun item => item.2.value).map Slot.ready) := by
    rw [hslots, List.map_map, List.map_map, List.zip_map']
    rfl
  constructor
  · rw [hready]
    refine .new outline.defines_new ?_ outline.defines_fromParts hnames hinitials ?_
    · rw [List.length_map, hlength]
    · rw [hslots, List.forall₂_map_left_iff, List.forall₂_map_right_iff, List.forall₂_same]
      refine fun item hitem => lookup_of_mem ?_ (List.mem_map_of_mem (f := fun item => (item.1, item.2.value)) hitem)
      rw [Computed.values, List.map_map]
      exact hnames ▸ hcoherent.fields
  · rw [← hnames, List.map_map]
    rfl

/-! ## Runs of setters -/

/-- Setters keep the names of the slots. -/
theorem map_fst_store (slots : Slots ε α) (field : String) (callback : Logged ε (Datum α)) :
    (slots.store field callback).map Prod.fst = slots.map Prod.fst :=
  List.map_map ..

theorem sets_of_gives {slots next : Slots ε α} (hfields : ∀ setter ∈ outline.setters, setter.field ∈ slots.map Prod.fst)
    {setter : String} {callback : Logged ε (Datum α)} {events : List ε}
    (h : (outline.call slots setter callback).Gives events next) :
    outline.code.Sets slots callback setter next ∧ events = [] ∧ next.map Prod.fst = slots.map Prod.fst := by
  unfold call at h
  split at h
  · rename_i found hfind
    obtain ⟨rfl, rfl⟩ := gives_pure_iff.mp h
    refine ⟨?_, rfl, map_fst_store ..⟩
    have hfound := List.mem_of_find?_eq_some hfind
    have hdefines := defines_setter hfound
    obtain rfl : found.name = setter := by simpa using List.find?_some hfind
    cases hwraps : found.wraps with
    | true =>
        rw [hwraps] at hdefines
        exact .wrapping (hfields found hfound) hdefines
    | false =>
        rw [hwraps] at hdefines
        exact .plain (hfields found hfound) hdefines
  · exact absurd h not_gives_failure

theorem setsAll_of_gives {slots last : Slots ε α} {calls : List (String × Logged ε (Datum α))}
    (hfields : ∀ setter ∈ outline.setters, setter.field ∈ slots.map Prod.fst) {events : List ε}
    (h : (outline.callAll slots calls).Gives events last) : outline.code.SetsAll slots calls last ∧ events = [] := by
  induction calls generalizing slots events with
  | nil =>
      obtain ⟨rfl, rfl⟩ := gives_pure_iff.mp h
      exact ⟨.nil _, rfl⟩
  | cons call calls ih =>
      unfold callAll at h
      rw [List.foldlM_cons] at h
      obtain ⟨early, next, later, hfirst, hrest, rfl⟩ := h.of_bind
      obtain ⟨hsets, rfl, hnames⟩ := sets_of_gives hfields hfirst
      obtain ⟨hothers, rfl⟩ := ih (hnames ▸ hfields) hrest
      exact ⟨.cons hsets hothers, rfl⟩

/-! ## Runs that build -/

theorem slot_of_gives {slots : Slots ε α} {field : String} {events : List ε} {value : Datum α}
    (h : (slots.resolve field).Gives events value) :
    ∃ slot, slots.lookup field = some slot ∧ events = slot.resolve.events ∧ value = slot.resolve.value := by
  unfold Slots.resolve at h
  split at h
  · rename_i slot hslot
    exact ⟨slot, hslot, gives_lift_iff.mp h⟩
  · exact absurd h not_gives_failure

/-- What a local variable holds when its slot held a value. -/
def settle (meaning : Meaning ε α) (item : OutlineLocal) (held : Datum α) : Execution ε (Datum α) :=
  match item.fallback, held with
  | none, value => pure value
  | some _, .present value => pure value
  | some expression, .absent => OptionT.lift (meaning.evaluate item.name expression)
  | some _, _ => failure

theorem resolveLocals_cons (meaning : Meaning ε α) (slots : Slots ε α) (item : OutlineLocal)
    (rest : List OutlineLocal) :
    resolveLocals meaning slots (item :: rest) = do
      let held ← slots.resolve item.name
      let value ← settle meaning item held
      return (item.name, value) :: (← resolveLocals meaning slots rest) := by
  obtain ⟨name, fallback⟩ := item
  rw [resolveLocals]
  refine bind_congr fun held => ?_
  cases fallback with
  | none => rfl
  | some expression => cases held <;> rfl

theorem declares_of_gives {slots : Slots ε α} {item : OutlineLocal} {slot : Slot ε (Datum α)}
    (hslot : slots.lookup item.name = some slot) {events : List ε} {value : Datum α}
    (h : (settle meaning item slot.resolve.value).Gives events value) :
    Code.Declares meaning slots (Code.declared item.name item.name item.fallback)
      (item.name, ⟨slot.resolve.events ++ events, value⟩) := by
  obtain ⟨name, fallback⟩ := item
  unfold settle at h
  dsimp only at h
  cases fallback with
  | none =>
      obtain ⟨rfl, rfl⟩ := gives_pure_iff.mp h
      rw [List.append_nil]
      exact .plain hslot
  | some expression =>
      cases hheld : slot.resolve.value with
      | present inner =>
          rw [hheld] at h
          obtain ⟨rfl, rfl⟩ := gives_pure_iff.mp h
          rw [List.append_nil]
          exact .present expression hslot hheld
      | absent =>
          rw [hheld] at h
          obtain ⟨rfl, rfl⟩ := gives_lift_iff.mp h
          exact .absent expression hslot hheld
      | atom _ | list _ =>
          rw [hheld] at h
          exact absurd h not_gives_failure

/-- The local variables are computed by their declarations. -/
theorem computed_of_locals {slots : Slots ε α} {locals : List OutlineLocal} {events : List ε}
    {scope : List (String × Datum α)} (h : (resolveLocals meaning slots locals).Gives events scope) :
    ∃ computed : Computed ε α,
      List.Forall₂ (Code.Declares meaning slots)
        (locals.map fun item => Code.declared item.name item.name item.fallback) computed ∧
      computed.map Prod.fst = locals.map OutlineLocal.name ∧ events = computed.events ∧ scope = computed.values := by
  induction locals generalizing events scope with
  | nil =>
      obtain ⟨rfl, rfl⟩ := gives_pure_iff.mp h
      exact ⟨[], .nil, rfl, rfl, rfl⟩
  | cons item locals ih =>
      rw [resolveLocals_cons] at h
      obtain ⟨early, held, _, hheld, hrest, rfl⟩ := h.of_bind
      obtain ⟨middle, value, _, hvalue, hothers, rfl⟩ := hrest.of_bind
      obtain ⟨late, scope, _, hscope, hlast, rfl⟩ := hothers.of_bind
      obtain ⟨rfl, rfl⟩ := gives_pure_iff.mp hlast
      obtain ⟨slot, hslot, rfl, rfl⟩ := slot_of_gives hheld
      obtain ⟨computed, hcomputed, hnames, rfl, rfl⟩ := ih hscope
      refine ⟨(item.name, ⟨slot.resolve.events ++ middle, value⟩) :: computed,
        .cons (declares_of_gives hslot hvalue) hcomputed, congrArg (item.name :: ·) hnames, ?_, rfl⟩
      simp [Computed.events]

/-- The value of a member. -/
def fill (meaning : Meaning ε α) (scope : List (String × Datum α)) (member : OutlineMember) : Execution ε (Datum α) :=
  match member.call with
  | some call => OptionT.lift (meaning.provide call)
  | none => OptionT.mk (pure (scope.lookup member.name))

theorem construct_cons (meaning : Meaning ε α) (scope : List (String × Datum α)) (member : OutlineMember)
    (rest : List OutlineMember) :
    construct meaning scope (member :: rest) = do
      let value ← fill meaning scope member
      return (member.name, value) :: (← construct meaning scope rest) := by
  obtain ⟨name, call⟩ := member
  cases call <;> rfl

theorem fills_of_gives {scope : List (String × Datum α)} {member : OutlineMember} {events : List ε} {value : Datum α}
    (h : (fill meaning scope member).Gives events value) :
    outline.code.Fills meaning scope (Code.member outline.runtime member.name member.call)
      (member.name, ⟨events, value⟩) := by
  obtain ⟨name, call⟩ := member
  unfold fill at h
  cases call with
  | none =>
      obtain ⟨rfl, hvalue⟩ := gives_mk_iff.mp h
      exact .variable hvalue
  | some call =>
      obtain ⟨rfl, rfl⟩ := gives_lift_iff.mp h
      exact .asked name call

/-- The members of a constructing expression are computed by their tokens. -/
theorem computed_of_construct {scope : List (String × Datum α)} {members : List OutlineMember} {events : List ε}
    {result : List (String × Datum α)} (h : (construct meaning scope members).Gives events result) :
    ∃ computed : Computed ε α,
      List.Forall₂ (outline.code.Fills meaning scope)
        (members.map fun member => Code.member outline.runtime member.name member.call) computed ∧
      events = computed.events ∧ result = computed.values := by
  induction members generalizing events result with
  | nil =>
      obtain ⟨rfl, rfl⟩ := gives_pure_iff.mp h
      exact ⟨[], .nil, rfl, rfl⟩
  | cons member members ih =>
      rw [construct_cons] at h
      obtain ⟨early, value, _, hvalue, hrest, rfl⟩ := h.of_bind
      obtain ⟨late, others, _, hothers, hlast, rfl⟩ := hrest.of_bind
      obtain ⟨rfl, rfl⟩ := gives_pure_iff.mp hlast
      obtain ⟨computed, hcomputed, rfl, rfl⟩ := ih hothers
      refine ⟨(member.name, ⟨early, value⟩) :: computed, .cons (fills_of_gives hvalue) hcomputed, ?_, rfl⟩
      simp [Computed.events]

/-- An arm that is taken in the outline is the first one in the tokens whose patterns match. -/
theorem matched_of_arm? (outline : Outline) {arms : List OutlineArm} {values : List (Datum α)} {arm : OutlineArm}
    {bound : List (String × Datum α)} (h : arm? arms values = some (arm, bound)) :
    ∃ before after, arms.map outline.armCode = before ++ outline.armCode arm :: after ∧
      (∀ other ∈ before, ¬other.Accepts values) ∧ Code.MatchesAll (outline.armCode arm).patterns values bound := by
  obtain ⟨before, found, after, rfl, hfound, hbefore⟩ := List.findSome?_eq_some_iff.mp h
  obtain ⟨_, hbind, heq⟩ := Option.map_eq_some_iff.mp hfound
  obtain ⟨rfl, rfl⟩ := Prod.mk.inj heq
  refine ⟨before.map outline.armCode, after.map outline.armCode, List.map_append, ?_,
    matchesAll_patternCode_iff.mpr hbind⟩
  rintro other hother ⟨bound, haccepts⟩
  obtain ⟨other, hmem, rfl⟩ := List.mem_map.mp hother
  have hnone := hbefore other hmem
  rw [matchesAll_patternCode_iff.mp haccepts] at hnone
  cases hnone

theorem builds_of_gives (hcoherent : outline.Coherent) {slots : Slots ε α}
    {events : List ε} {result : List (String × Datum α)} (h : (outline.build meaning slots).Gives events result) :
    outline.code.Builds meaning slots events result := by
  have hdefines := outline.defines_build
  rw [List.flatMap_def] at hdefines
  unfold build at h
  obtain ⟨early, scope, later, hscope, hlast, rfl⟩ := h.of_bind
  obtain ⟨computed, hcomputed, hnames, rfl, rfl⟩ := computed_of_locals hscope
  refine .build hdefines hcomputed (hnames ▸ hcoherent.locals) ?_
  unfold bodyCode
  cases hbody : outline.body with
  | direct members =>
      rw [hbody] at hlast
      obtain ⟨computed, hmembers, rfl, rfl⟩ := computed_of_construct hlast
      exact .constructed hmembers
  | branched fields arms =>
      rw [hbody] at hlast
      obtain ⟨early, values, later, hvalues, htaken, rfl⟩ := hlast.of_bind
      obtain ⟨held, hheld, rfl, rfl⟩ := hvalues.of_mapM fun _ _ _ => slot_of_gives
      split at htaken
      · rename_i arm bound harm
        obtain ⟨before, after, harms, hbefore, hmatches⟩ := matched_of_arm? outline harm
        obtain ⟨computed, hmembers, rfl, rfl⟩ := computed_of_construct htaken
        simp only [harms]
        exact .matched hheld hbefore hmatches hmembers
      · exact absurd htaken not_gives_failure

/-! ## Runs of `create` -/

theorem creates_of_gives (hcoherent : outline.Coherent) {arguments : List (Datum α)}
    {calls : List (String × Logged ε (Datum α))} {events : List ε} {result : List (String × Datum α)}
    (h : (outline.create meaning arguments calls).Gives events result) :
    outline.code.Creates meaning arguments calls events result := by
  unfold create at h
  obtain ⟨early, started, later, hstart, hrest, rfl⟩ := h.of_bind
  obtain ⟨middle, filled, last, hcalls, hbuild, rfl⟩ := hrest.of_bind
  obtain ⟨hlength, -⟩ := computed_of_start hstart
  obtain ⟨hstarts, hnames⟩ := starts_of_gives hcoherent hstart
  obtain ⟨hsets, rfl⟩ := setsAll_of_gives (hnames ▸ hcoherent.setters) hcalls
  rw [← List.length_map (f := OutlineParameter.name)] at hlength
  refine .create outline.defines_create hlength.symm ?_ hstarts hsets (builds_of_gives hcoherent hbuild)
  rw [List.forall₂_iff_zip]
  refine ⟨hlength.symm, fun hmem => lookup_of_mem ?_ hmem⟩
  rw [List.map_fst_zip hlength.ge]
  exact hcoherent.mandatory

end Outline

end BuilderGen

import BuilderGen.Execution.Run
import Mathlib.Data.List.Forall2

/-!
# Executions that give a value

A run of generated code leaves events behind and either gives a value or stops where the code would not pass
a type check.  `Execution.Gives` says that a run reaches its end, with which events and which value.  The
lemmas follow the ways in which the code of an outline is put together: a value, a step after a step, a
computation of the meaning, and a traversal.
-/

namespace BuilderGen

variable {ε β γ : Type}

@[simp]
theorem Logged.events_map (function : β → γ) (first : Logged ε β) :
    (function <$> first).events = first.events :=
  List.append_nil _

@[simp]
theorem Logged.value_map (function : β → γ) (first : Logged ε β) :
    (function <$> first).value = function first.value := rfl

namespace Execution

/-- The code runs to its end.  It leaves these events behind, in order, and gives this value. -/
def Gives (execution : Execution ε β) (events : List ε) (value : β) : Prop :=
  execution.run = { events, value := some value }

theorem gives_pure (value : β) : Gives (pure value : Execution ε β) [] value := rfl

/-- A computation of the meaning always gives its value. -/
theorem gives_lift (computation : Logged ε β) :
    Gives (OptionT.lift computation : Execution ε β) computation.events computation.value := by
  have hevents : computation.events ++ [] = computation.events := List.append_nil _
  exact congrArg (Logged.mk · (some computation.value)) hevents

theorem gives_mk_some (value : β) : Gives (OptionT.mk (pure (some value)) : Execution ε β) [] value := rfl

/-- The events of a step come before the events of what follows it. -/
theorem Gives.bind {first : Execution ε β} {next : β → Execution ε γ} {events later : List ε} {value : β}
    {result : γ} (hfirst : first.Gives events value) (hnext : (next value).Gives later result) :
    Gives (first >>= next) (events ++ later) result := by
  unfold Gives at hfirst hnext ⊢
  rw [OptionT.run_bind, hfirst]
  have hrun := congrArg (fun logged : Logged ε (Option γ) =>
    Logged.mk (events ++ logged.events) logged.value) hnext
  exact hrun

/-- A step after which only its value is wrapped up. -/
theorem Gives.bind_pure {first : Execution ε β} {events : List ε} {value : β}
    (hfirst : first.Gives events value) (function : β → γ) :
    Gives (first >>= fun value => pure (function value)) events (function value) := by
  have hboth : Gives (first >>= fun value => pure (function value)) (events ++ []) (function value) :=
    hfirst.bind (gives_pure (function value))
  rwa [List.append_nil] at hboth

theorem Gives.map {first : Execution ε β} {events : List ε} {value : β} (function : β → γ)
    (hfirst : first.Gives events value) : Gives (function <$> first) events (function value) := by
  rw [← bind_pure_comp]
  exact hfirst.bind_pure function

/-- A traversal goes through the items in order. -/
theorem gives_mapM {step : β → Execution ε γ} {items : List β} {events : β → List ε} {value : β → γ}
    (hstep : ∀ item ∈ items, (step item).Gives (events item) (value item)) :
    Gives (items.mapM step) (items.flatMap events) (items.map value) := by
  induction items with
  | nil => exact gives_pure []
  | cons item items ih =>
      rw [List.mapM_cons, List.flatMap_cons, List.map_cons]
      have hrest := ih fun other hother => hstep other (List.mem_cons_of_mem _ hother)
      exact (hstep item List.mem_cons_self).bind (hrest.bind_pure (value item :: ·))

/-! ## Taking runs apart -/

theorem gives_pure_iff {value result : β} {events : List ε} :
    Gives (pure value : Execution ε β) events result ↔ events = [] ∧ result = value := by
  constructor
  · intro h
    obtain ⟨hevents, hvalue⟩ := Logged.mk.inj h
    exact ⟨hevents.symm, (Option.some.inj hvalue).symm⟩
  · rintro ⟨rfl, rfl⟩
    exact gives_pure result

theorem gives_lift_iff {computation : Logged ε β} {events : List ε} {result : β} :
    Gives (OptionT.lift computation : Execution ε β) events result ↔
      events = computation.events ∧ result = computation.value := by
  constructor
  · intro h
    have hlift := (gives_lift computation).symm.trans h
    obtain ⟨hevents, hvalue⟩ := Logged.mk.inj hlift
    exact ⟨hevents.symm, (Option.some.inj hvalue).symm⟩
  · rintro ⟨rfl, rfl⟩
    exact gives_lift computation

theorem gives_mk_iff {found : Option β} {events : List ε} {result : β} :
    Gives (OptionT.mk (pure found) : Execution ε β) events result ↔ events = [] ∧ found = some result := by
  constructor
  · intro h
    obtain ⟨hevents, hvalue⟩ := Logged.mk.inj h
    exact ⟨hevents.symm, hvalue⟩
  · rintro ⟨rfl, rfl⟩
    exact gives_mk_some result

theorem not_gives_failure {events : List ε} {result : β} : ¬Gives (failure : Execution ε β) events result := by
  intro h
  cases (Logged.mk.inj h).2

/-- Two steps in a row run to their end when both do. -/
theorem Gives.of_bind {first : Execution ε β} {next : β → Execution ε γ} {events : List ε} {result : γ}
    (h : Gives (first >>= next) events result) :
    ∃ early value later, first.Gives early value ∧ (next value).Gives later result ∧ events = early ++ later := by
  unfold Gives at h
  rw [OptionT.run_bind] at h
  cases hfirst : first.run with
  | mk early found =>
      rw [hfirst] at h
      cases found with
      | none => cases (Logged.mk.inj h).2
      | some value =>
          obtain ⟨hevents, hvalue⟩ := Logged.mk.inj h
          refine ⟨early, value, (next value).run.events, hfirst, ?_, hevents.symm⟩
          exact congrArg (Logged.mk (next value).run.events) hvalue

theorem Gives.of_map {first : Execution ε β} {function : β → γ} {events : List ε} {result : γ}
    (h : Gives (function <$> first) events result) : ∃ value, first.Gives events value ∧ result = function value := by
  rw [← bind_pure_comp] at h
  obtain ⟨early, value, later, hfirst, hlater, rfl⟩ := h.of_bind
  obtain ⟨rfl, rfl⟩ := gives_pure_iff.mp hlater
  rw [List.append_nil]
  exact ⟨value, hfirst, rfl⟩

/-- A traversal runs to its end when it does so at each item. -/
theorem Gives.of_mapM {δ : Type} {step : β → Execution ε γ} {items : List β} {events : List ε} {values : List γ}
    {relation : β → δ → Prop} {eventsOf : δ → List ε} {valueOf : δ → γ}
    (hstep : ∀ item events value, (step item).Gives events value →
      ∃ found, relation item found ∧ events = eventsOf found ∧ value = valueOf found)
    (h : Gives (items.mapM step) events values) :
    ∃ found, List.Forall₂ relation items found ∧ events = found.flatMap eventsOf ∧
      values = found.map valueOf := by
  induction items generalizing events values with
  | nil =>
      obtain ⟨rfl, rfl⟩ := gives_pure_iff.mp h
      exact ⟨[], .nil, rfl, rfl⟩
  | cons item items ih =>
      rw [List.mapM_cons] at h
      obtain ⟨early, value, later, hfirst, hlater, rfl⟩ := h.of_bind
      obtain ⟨middle, others, last, hrest, hlast, rfl⟩ := hlater.of_bind
      obtain ⟨rfl, rfl⟩ := gives_pure_iff.mp hlast
      obtain ⟨first, hrelation, rfl, rfl⟩ := hstep item early value hfirst
      obtain ⟨rest, hothers, rfl, rfl⟩ := ih hrest
      exact ⟨first :: rest, .cons hrelation hothers, by rw [List.append_nil, List.flatMap_cons], rfl⟩

/-- Only some items have events. -/
theorem flatMap_filter (items : List β) (has : β → Bool) (events : β → List ε) :
    (items.filter has).flatMap events = items.flatMap fun item => if has item then events item else [] := by
  induction items with
  | nil => rfl
  | cons item items ih =>
      rw [List.flatMap_cons, ← ih, List.filter_cons]
      split
      · rw [List.flatMap_cons]
      · rfl

end Execution

end BuilderGen

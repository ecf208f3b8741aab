import BuilderGen.Proofs.Source.Malformed
import Mathlib.Data.List.Nodup
import Mathlib.Data.List.TakeWhile

/-!
# Who takes a capability

A reading gives a capability to a provider and never takes it back.  Which provider that is can be said
without the reading.  The capability looks for a provider in its own file first, then in the files that were
read before, the latest first, and then in those that were read later, the earliest first.  In the first file
with a provider that it belongs to, the last one takes it.

Providers are named here, so that they can be told apart when two of them are declared alike.  `Filled` is the
invariant of giving capabilities away, and `Distributed` that of reading files; `Distributed.add` is the step
and `distributed_readFiles` the run.
-/

namespace BuilderGen

/-! ## The last provider of a list -/

namespace Capability

variable {σ τ : Type} {capability : Capability}

/-- The name of the last provider that a capability belongs to. -/
def last? (capability : Capability) : List (σ × Provider) → Option σ
  | [] => none
  | (name, provider) :: rest =>
      (capability.last? rest).or (if capability.belongsTo provider then some name else none)

theorem last?_append (front back : List (σ × Provider)) :
    capability.last? (front ++ back) = (capability.last? back).or (capability.last? front) := by
  induction front with
  | nil => rw [List.nil_append, last?, Option.or_none]
  | cons slot rest ih => rw [List.cons_append, last?, last?, ih, Option.or_assoc]

theorem last?_map (rename : σ → τ) (slots : List (σ × Provider)) :
    capability.last? (slots.map (Prod.map rename id)) = (capability.last? slots).map rename := by
  induction slots with
  | nil => rfl
  | cons slot rest ih =>
      obtain ⟨name, provider⟩ := slot
      rw [List.map_cons, Prod.map_apply, last?, last?, ih, Option.map_or, id]
      split <;> rfl

theorem mem_of_last? {slots : List (σ × Provider)} {name : σ} (h : capability.last? slots = some name) :
    name ∈ slots.map Prod.fst := by
  induction slots with
  | nil => cases h
  | cons slot rest ih =>
      rw [last?, Option.or_eq_some_iff] at h
      rw [List.map_cons]
      rcases h with h | ⟨_, h⟩
      · exact List.mem_cons_of_mem _ (ih h)
      · split at h
        · cases h
          exact List.mem_cons_self
        · cases h

theorem belongsTo_eq_of_bare {provider declared : Provider} (hbare : provider.bare = declared) :
    capability.belongsTo declared = capability.belongsTo provider := by
  rw [← hbare, belongsTo_bare]

/-! ## Filled providers -/

variable [DecidableEq σ]

/-- The providers are those of the slots, and each has the capabilities that were given to its slot. -/
def Filled (slots : List (σ × Provider)) (given : List (Capability × σ)) (providers : List Provider) : Prop :=
  List.Forall₂ (fun slot provider => provider.bare = slot.2 ∧
    provider.capabilities.Perm ((given.filter (·.2 = slot.1)).map (·.1.type))) slots providers

variable {slots : List (σ × Provider)} {given : List (Capability × σ)} {providers after : List Provider}

theorem Filled.perm (hfilled : Filled slots given providers) {more : List (Capability × σ)}
    (hperm : given.Perm more) : Filled slots more providers :=
  hfilled.imp fun _ _ h => ⟨h.1, h.2.trans ((hperm.filter _).map _)⟩

/-- What is given to another slot makes no difference. -/
theorem Filled.cons_of_notMem (hfilled : Filled slots given providers) {name : σ}
    (hname : name ∉ slots.map Prod.fst) (capability : Capability) :
    Filled slots ((capability, name) :: given) providers := by
  induction hfilled with
  | nil => exact .nil
  | @cons slot provider rest providers hslot _ ih =>
      rw [List.map_cons, List.mem_cons, not_or] at hname
      refine .cons ⟨hslot.1, ?_⟩ (ih hname.2)
      rw [List.filter_cons_of_neg (by simpa using hname.1)]
      exact hslot.2

/-- A capability finds no provider just when there is no last one that it belongs to. -/
theorem Filled.attach?_eq_none_iff (hfilled : Filled slots given providers) :
    capability.attach? providers = none ↔ capability.last? slots = none := by
  induction hfilled with
  | nil => simp [attach?, last?]
  | @cons slot provider rest providers hslot _ ih =>
      rw [attach?, last?, Option.or_eq_none_iff, ← ih, belongsTo_eq_of_bare hslot.1]
      cases capability.attach? providers <;> cases capability.belongsTo provider <;> simp

/-- An attachment gives the capability to the last provider that it belongs to. -/
theorem Filled.attach? (hfilled : Filled slots given providers) (hnodup : (slots.map Prod.fst).Nodup)
    (h : capability.attach? providers = some after) :
    ∃ name, capability.last? slots = some name ∧ Filled slots ((capability, name) :: given) after := by
  induction hfilled generalizing after with
  | nil => cases h
  | @cons slot provider rest providers hslot hrest ih =>
      rw [List.map_cons, List.nodup_cons] at hnodup
      rw [Capability.attach?] at h
      split at h
      · rename_i next hnext
        cases h
        obtain ⟨name, hname, hfilled⟩ := ih hnodup.2 hnext
        refine ⟨name, by rw [last?, hname, Option.some_or], .cons ⟨hslot.1, ?_⟩ hfilled⟩
        have hother : name ≠ slot.1 := by
          rintro rfl
          exact hnodup.1 (mem_of_last? hname)
        rw [List.filter_cons_of_neg (by simpa using hother)]
        exact hslot.2
      · rename_i hnone
        split at h
        · rename_i hbelongs
          cases h
          refine ⟨slot.1, ?_, .cons ⟨hslot.1, ?_⟩ (Filled.cons_of_notMem hrest hnodup.1 capability)⟩
          · rw [last?, (Filled.attach?_eq_none_iff hrest).mp hnone, Option.none_or,
              belongsTo_eq_of_bare hslot.1, if_pos hbelongs]
          · rw [List.filter_cons_of_pos (by simp), List.map_cons]
            exact (hslot.2.append_right _).trans (List.perm_append_singleton _ _)
        · cases h

/-- The capabilities of the provider in a slot. -/
def inSlot (slots : List (σ × Provider)) (providers : List Provider) (name : σ) : List DeclaredType :=
  (((slots.map Prod.fst).zip providers).lookup name).elim [] Provider.capabilities

/-- The provider in a slot has what was given to the slot. -/
theorem Filled.inSlot_perm (hfilled : Filled slots given providers) (hnodup : (slots.map Prod.fst).Nodup)
    {name : σ} (hname : name ∈ slots.map Prod.fst) :
    (inSlot slots providers name).Perm ((given.filter (·.2 = name)).map (·.1.type)) := by
  induction hfilled with
  | nil => cases hname
  | @cons slot provider rest providers hslot _ ih =>
      rw [List.map_cons, List.nodup_cons] at hnodup
      rw [inSlot, List.map_cons, List.zip_cons_cons, List.lookup_cons]
      rcases List.mem_cons.mp hname with rfl | hname
      · rw [beq_self_eq_true]
        exact hslot.2
      · have hne : name ≠ slot.1 := by
          rintro rfl
          exact hnodup.1 hname
        rw [beq_false_of_ne hne]
        exact ih hnodup.2 hname

/-- Giving capabilities away gives each to the last provider that it belongs to, and keeps the others. -/
theorem Filled.attachAll (hfilled : Filled slots given providers) (hnodup : (slots.map Prod.fst).Nodup)
    (pending : List Capability) :
    Filled slots (pending.filterMap (fun capability => (capability.last? slots).map (capability, ·)) ++ given)
        (attachAll pending providers).1 ∧
      (attachAll pending providers).2 =
        pending.filter fun capability => (capability.last? slots).isNone := by
  induction pending generalizing providers given with
  | nil => exact ⟨hfilled, rfl⟩
  | cons capability rest ih =>
      rw [Capability.attachAll]
      cases hattach : capability.attach? providers with
      | some next =>
          obtain ⟨name, hname, hnext⟩ := hfilled.attach? hnodup hattach
          obtain ⟨hrest, hwaiting⟩ := ih hnext
          refine ⟨?_, ?_⟩
          · rw [List.filterMap_cons, hname]
            exact hrest.perm List.perm_middle
          · rw [List.filter_cons_of_neg (by simp [hname])]
            exact hwaiting
      | none =>
          have hname := hfilled.attach?_eq_none_iff.mp hattach
          obtain ⟨hrest, hwaiting⟩ := ih hfilled
          refine ⟨?_, ?_⟩
          · rw [List.filterMap_cons, hname]
            exact hrest
          · rw [List.filter_cons_of_pos (by simp [hname])]
            exact congrArg (capability :: ·) hwaiting

end Capability

/-! ## Files by name -/

section Files

variable {ι : Type} (file : ι → Source.File)

namespace Source

/-- The structs of a file with their numbers. -/
def File.structs (file : File) : List (Nat × Provider) :=
  file.providers.zipIdx.map Prod.swap

/-- The number of the last struct of a file that a capability belongs to. -/
def File.last? (file : File) (capability : Capability) : Option Nat :=
  capability.last? file.structs

/-- The structs of files in order, named by file and number. -/
def slots (order : List ι) : List ((ι × Nat) × Provider) :=
  order.flatMap fun name => (file name).structs.map (Prod.map (name, ·) id)

/-- The capabilities of files in order, each with the file it stands in. -/
def entries (order : List ι) : List (ι × Capability) :=
  order.flatMap fun name => (file name).implementations.map (name, ·)

/-- The struct of a file that a capability belongs to, by its full name. -/
def slotIn? (capability : Capability) (name : ι) : Option (ι × Nat) :=
  ((file name).last? capability).map (name, ·)

variable {file}

theorem last?_slots (capability : Capability) (order : List ι) :
    capability.last? (slots file order) = order.reverse.findSome? (slotIn? file capability) := by
  induction order with
  | nil => rfl
  | cons name rest ih =>
      rw [slots, List.flatMap_cons, Capability.last?_append, ← slots, ih, List.reverse_cons,
        List.findSome?_append, Capability.last?_map]
      simp [slotIn?, File.last?]

theorem fst_of_slotIn? {capability : Capability} {name : ι} {slot : ι × Nat}
    (h : slotIn? file capability name = some slot) : slot.1 = name := by
  obtain ⟨number, _, rfl⟩ := Option.map_eq_some_iff.mp h
  rfl

theorem map_fst_slots (order : List ι) :
    (slots file order).map Prod.fst =
      order.flatMap fun name => (List.range (file name).providers.length).map (name, ·) := by
  rw [slots, List.map_flatMap]
  refine congrArg (fun names => order.flatMap names) (funext fun name => ?_)
  have hnumbers : (file name).structs.map Prod.fst = List.range (file name).providers.length := by
    rw [File.structs, List.map_map, List.range_eq_range', ← List.zipIdx_map_snd]
    rfl
  rw [← hnumbers, List.map_map, List.map_map]
  rfl

theorem map_snd_slots (order : List ι) :
    (slots file order).map Prod.snd = order.flatMap fun name => (file name).providers := by
  rw [slots, List.map_flatMap]
  refine congrArg (fun names => order.flatMap names) (funext fun name => ?_)
  have hproviders : (file name).structs.map Prod.snd = (file name).providers := by
    rw [File.structs, List.map_map]
    exact List.zipIdx_map_fst 0 _
  rw [← hproviders, List.map_map]
  rfl

/-- Structs of different files, and different structs of a file, have different names. -/
theorem nodup_slots {order : List ι} (horder : order.Nodup) :
    ((slots file order).map Prod.fst).Nodup := by
  rw [map_fst_slots, List.nodup_flatMap]
  refine ⟨fun name _ => List.nodup_range.map fun first second heq => (Prod.mk.inj heq).2, ?_⟩
  refine horder.imp fun {first second} hne => ?_
  intro slot hfirst hsecond
  obtain ⟨_, _, rfl⟩ := List.mem_map.mp hfirst
  obtain ⟨_, _, heq⟩ := List.mem_map.mp hsecond
  exact hne (Prod.mk.inj heq).1.symm

theorem slots_append_singleton (order : List ι) (name : ι) :
    slots file (order ++ [name]) = slots file order ++ (file name).structs.map (Prod.map (name, ·) id) := by
  rw [slots, List.flatMap_append, List.flatMap_singleton, slots]

theorem entries_append_singleton (order : List ι) (name : ι) :
    entries file (order ++ [name]) = entries file order ++ (file name).implementations.map (name, ·) := by
  rw [entries, List.flatMap_append, List.flatMap_singleton, entries]

theorem mem_entries {order : List ι} {entry : ι × Capability} :
    entry ∈ entries file order ↔ entry.1 ∈ order ∧ entry.2 ∈ (file entry.1).implementations := by
  rw [entries, List.mem_flatMap]
  constructor
  · rintro ⟨name, hname, hentry⟩
    obtain ⟨capability, hcapability, rfl⟩ := List.mem_map.mp hentry
    exact ⟨hname, hcapability⟩
  · rintro ⟨hname, hcapability⟩
    exact ⟨entry.1, hname, List.mem_map.mpr ⟨entry.2, hcapability, rfl⟩⟩

end Source

namespace Reading

open Capability (Filled)
open Source (slots entries slotIn?)

variable [DecidableEq ι]

/-! ## Looking for a provider -/

/-- The files in the order in which a capability looks for its provider: its own one, those in front of it
from the last one on, and those behind it. -/
def search (order : List ι) (own : ι) : List ι :=
  own :: ((order.takeWhile (· ≠ own)).reverse ++ (order.dropWhile (· ≠ own)).tail)

theorem search_split {before : List ι} {own : ι} (hown : own ∉ before) (after : List ι) :
    search (before ++ own :: after) own = own :: (before.reverse ++ after) := by
  have hbefore : ∀ name ∈ before, decide (name ≠ own) = true := by
    intro name hname
    rw [decide_eq_true_eq]
    rintro rfl
    exact hown hname
  rw [search, List.takeWhile_append_of_pos hbefore, List.dropWhile_append_of_pos hbefore,
    List.takeWhile_cons_of_neg (by simp), List.dropWhile_cons_of_neg (by simp), List.append_nil,
    List.tail_cons]

theorem search_cons_self (own : ι) (rest : List ι) : search (own :: rest) own = own :: rest :=
  search_split List.not_mem_nil rest

theorem search_perm {order : List ι} {own : ι} (hown : own ∈ order) : (search order own).Perm order := by
  obtain ⟨before, after, rfl, hbefore⟩ := List.eq_append_cons_of_mem hown
  rw [search_split hbefore]
  exact (((List.reverse_perm before).append_right after).cons own).trans List.perm_middle.symm

/-- One more file is the last one that is looked at. -/
theorem search_append_of_mem {order : List ι} {own : ι} (hown : own ∈ order) (name : ι) :
    search (order ++ [name]) own = search order own ++ [name] := by
  obtain ⟨before, after, rfl, hbefore⟩ := List.eq_append_cons_of_mem hown
  rw [search_split hbefore, List.append_assoc, List.cons_append, search_split hbefore, List.cons_append,
    List.append_assoc]

theorem search_append_self {order : List ι} {own : ι} (hown : own ∉ order) :
    search (order ++ [own]) own = own :: order.reverse := by
  rw [search_split hown, List.append_nil]

variable (file : ι → Source.File)

/-- The struct that takes a capability when the files are read in this order. -/
def taker? (order : List ι) (entry : ι × Capability) : Option (ι × Nat) :=
  (search order entry.1).findSome? (slotIn? file entry.2)

variable {file} {order : List ι} {entry : ι × Capability} {name : ι}

theorem taker?_append_of_mem (hentry : entry.1 ∈ order) (name : ι) :
    taker? file (order ++ [name]) entry = (taker? file order entry).or (slotIn? file entry.2 name) := by
  rw [taker?, search_append_of_mem hentry, List.findSome?_append, List.findSome?_singleton, taker?]

/-- A capability of the file that is read last is given to the last struct that it belongs to. -/
theorem taker?_append_self (hname : name ∉ order) (capability : Capability) :
    taker? file (order ++ [name]) (name, capability) =
      capability.last? (slots file (order ++ [name])) := by
  rw [taker?, search_append_self hname, Source.last?_slots, List.reverse_append, List.reverse_singleton,
    List.singleton_append]

theorem taker?_eq_none_iff (hentry : entry.1 ∈ order) :
    taker? file order entry = none ↔ ∀ name ∈ order, slotIn? file entry.2 name = none := by
  rw [taker?, List.findSome?_eq_none_iff]
  exact forall_congr' fun name => imp_congr_left (search_perm hentry).mem_iff

/-- A capability that waits is given to the last struct of the next file that it belongs to. -/
theorem last?_of_taker?_eq_none (hentry : entry.1 ∈ order) (hnone : taker? file order entry = none) :
    entry.2.last? (slots file (order ++ [name])) = slotIn? file entry.2 name := by
  have hothers : order.reverse.findSome? (slotIn? file entry.2) = none := by
    rw [List.findSome?_eq_none_iff]
    intro other hother
    exact (taker?_eq_none_iff hentry).mp hnone other (List.mem_reverse.mp hother)
  rw [Source.last?_slots, List.reverse_append, List.reverse_singleton, List.singleton_append,
    List.findSome?_cons, hothers]
  cases slotIn? file entry.2 name <;> rfl

theorem mem_of_taker? {slot : ι × Nat} (hentry : entry.1 ∈ order)
    (h : taker? file order entry = some slot) :
    slot.1 ∈ order ∧ (file slot.1).last? entry.2 = some slot.2 := by
  obtain ⟨name, hname, hslot⟩ := List.exists_of_findSome?_eq_some h
  obtain ⟨number, hnumber, rfl⟩ := Option.map_eq_some_iff.mp hslot
  exact ⟨(search_perm hentry).mem_iff.mp hname, hnumber⟩

/-! ## Readings -/

variable (file) in
/-- After the files have been read in this order, every capability is where it was found to be taken, and the
others wait. -/
structure Distributed (order : List ι) (reading : Reading) : Prop where
  filled : Filled (slots file order)
    ((entries file order).filterMap fun entry => (taker? file order entry).map (entry.2, ·))
    reading.declarations.providers
  waiting : reading.waiting =
    ((entries file order).filter fun entry => (taker? file order entry).isNone).map Prod.snd

theorem distributed_empty : Distributed file [] {} :=
  ⟨.nil, rfl⟩

/-- Where one choice stands in for another, the results are those of both. -/
theorem filterMap_or_perm {α β : Type} (items : List α) (first second : α → Option β) :
    ((items.filter fun item => (first item).isNone).filterMap second ++ items.filterMap first).Perm
      (items.filterMap fun item => (first item).or (second item)) := by
  induction items with
  | nil => exact .nil
  | cons item rest ih =>
      cases hfirst : first item with
      | some result =>
          rw [List.filter_cons_of_neg (by simp [hfirst]), List.filterMap_cons_some hfirst,
            List.filterMap_cons_some (by rw [hfirst, Option.some_or])]
          exact List.perm_middle.trans (ih.cons result)
      | none =>
          rw [List.filter_cons_of_pos (by simp [hfirst]), List.filterMap_cons_none hfirst,
            List.filterMap_cons, List.filterMap_cons, hfirst, Option.none_or]
          cases second item with
          | none => exact ih
          | some result => exact ih.cons result

/-- The slots of one more file are empty until something is given to them. -/
theorem Distributed.filled_append {reading : Reading} (hdistributed : Distributed file order reading)
    (hname : name ∉ order) :
    Filled (slots file (order ++ [name]))
      ((entries file order).filterMap fun entry => (taker? file order entry).map (entry.2, ·))
      (reading.declarations.providers ++ (file name).providers) := by
  rw [Source.slots_append_singleton]
  refine List.rel_append hdistributed.filled ?_
  have hproviders : (file name).providers = (file name).providers.zipIdx.map Prod.fst :=
    (List.zipIdx_map_fst 0 _).symm
  rw [Source.File.structs, List.map_map, List.forall₂_map_left_iff]
  nth_rewrite 2 [hproviders]
  rw [List.forall₂_map_right_iff, List.forall₂_same]
  intro numbered hnumbered
  have hprovider : numbered.1 ∈ (file name).providers := hproviders ▸ List.mem_map_of_mem hnumbered
  refine ⟨Source.bare_of_mem_providers hprovider, ?_⟩
  rw [Source.capabilities_of_mem_providers hprovider]
  -- Whatever has been given so far was given to structs of files that have been read.
  have hnone : (((entries file order).filterMap fun entry =>
      (taker? file order entry).map (entry.2, ·)).filter fun pair =>
        decide (pair.2 = (name, numbered.2))) = [] := by
    rw [List.filter_eq_nil_iff]
    intro pair hpair
    obtain ⟨entry, hentry, htaker⟩ := List.mem_filterMap.mp hpair
    obtain ⟨slot, hslot, rfl⟩ := Option.map_eq_some_iff.mp htaker
    rw [decide_eq_true_eq]
    rintro rfl
    exact hname (mem_of_taker? (Source.mem_entries.mp hentry).1 hslot).1
  exact (congrArg (List.map _) hnone).symm ▸ List.Perm.nil

/-- What is given away with one more file, and what was given before, is what the structs have taken. -/
theorem filterMap_taker?_perm {reading : Reading} (hdistributed : Distributed file order reading)
    (hname : name ∉ order) :
    ((reading.waiting ++ (file name).implementations).filterMap (fun capability =>
        (capability.last? (slots file (order ++ [name]))).map (capability, ·)) ++
      (entries file order).filterMap fun entry => (taker? file order entry).map (entry.2, ·)).Perm
    ((entries file (order ++ [name])).filterMap fun entry =>
      (taker? file (order ++ [name]) entry).map (entry.2, ·)) := by
  have hold : ((entries file order).filterMap fun entry =>
      (taker? file (order ++ [name]) entry).map (entry.2, ·)) =
      (entries file order).filterMap fun entry =>
        ((taker? file order entry).map (entry.2, ·)).or
          ((slotIn? file entry.2 name).map (entry.2, ·)) := by
    refine List.filterMap_congr fun entry hentry => ?_
    rw [taker?_append_of_mem (Source.mem_entries.mp hentry).1, Option.map_or]
  have hwaiting : (reading.waiting.filterMap fun capability =>
      (capability.last? (slots file (order ++ [name]))).map (capability, ·)) =
      ((entries file order).filter fun entry =>
        ((taker? file order entry).map (entry.2, ·)).isNone).filterMap fun entry =>
          (slotIn? file entry.2 name).map (entry.2, ·) := by
    rw [hdistributed.waiting, List.filterMap_map]
    simp only [Option.isNone_map]
    refine List.filterMap_congr fun entry hentry => ?_
    obtain ⟨hmem, hnone⟩ := List.mem_filter.mp hentry
    rw [Function.comp_apply, last?_of_taker?_eq_none (Source.mem_entries.mp hmem).1
      (Option.isNone_iff_eq_none.mp hnone)]
  have hnew : (((file name).implementations.map (name, ·)).filterMap fun entry =>
      (taker? file (order ++ [name]) entry).map (entry.2, ·)) =
      (file name).implementations.filterMap fun capability =>
        (capability.last? (slots file (order ++ [name]))).map (capability, ·) := by
    rw [List.filterMap_map]
    refine List.filterMap_congr fun capability _ => ?_
    rw [Function.comp_apply, taker?_append_self hname]
  rw [Source.entries_append_singleton, List.filterMap_append, List.filterMap_append, hold, hwaiting, hnew,
    List.append_assoc]
  refine (List.perm_append_comm.append_left _).trans ?_
  rw [← List.append_assoc]
  exact (filterMap_or_perm _ _ _).append_right _

/-- What waits after one more file belongs to no struct that has been read. -/
theorem filter_taker?_isNone {reading : Reading} (hdistributed : Distributed file order reading)
    (hname : name ∉ order) :
    ((reading.waiting ++ (file name).implementations).filter fun capability =>
        (capability.last? (slots file (order ++ [name]))).isNone) =
      ((entries file (order ++ [name])).filter fun entry =>
        (taker? file (order ++ [name]) entry).isNone).map Prod.snd := by
  have hold : (reading.waiting.filter fun capability =>
      (capability.last? (slots file (order ++ [name]))).isNone) =
      ((entries file order).filter fun entry =>
        (taker? file (order ++ [name]) entry).isNone).map Prod.snd := by
    rw [hdistributed.waiting, List.filter_map, List.filter_filter]
    refine congrArg (List.map Prod.snd) (List.filter_congr fun entry hentry => ?_)
    have hmem := (Source.mem_entries.mp hentry).1
    rw [taker?_append_of_mem hmem, Function.comp_apply]
    cases htaker : taker? file order entry with
    | some slot => simp
    | none => simp [last?_of_taker?_eq_none hmem htaker]
  have hnew : ((file name).implementations.filter fun capability =>
      (capability.last? (slots file (order ++ [name]))).isNone) =
      (((file name).implementations.map (name, ·)).filter fun entry =>
        (taker? file (order ++ [name]) entry).isNone).map Prod.snd := by
    rw [List.filter_map, List.map_map, List.map_id'']
    · refine List.filter_congr fun capability _ => ?_
      rw [Function.comp_apply, taker?_append_self hname]
    · intro capability
      rfl
  rw [Source.entries_append_singleton, List.filter_append, List.filter_append, List.map_append, hold, hnew]

/-- Reading one more file keeps account of what the structs have taken. -/
theorem Distributed.add {reading : Reading} (hdistributed : Distributed file order reading)
    (horder : (order ++ [name]).Nodup) {found : Declarations} {capabilities : List Capability}
    (hfile : Source.ofItems (file name).package (file name).items = .ok (found, capabilities)) :
    Distributed file (order ++ [name]) (reading.add found capabilities) := by
  have hname : name ∉ order := by
    rw [List.nodup_append_comm, List.singleton_append, List.nodup_cons] at horder
    exact horder.1
  have hfound := Source.ofItems_found hfile
  have hproviders : found.providers = (file name).providers := hfound.providers
  obtain rfl : capabilities = (file name).implementations := hfound.capabilities
  obtain ⟨hfilled, hwaiting⟩ := (hdistributed.filled_append hname).attachAll (Source.nodup_slots horder)
    (reading.waiting ++ (file name).implementations)
  rw [← hproviders] at hfilled hwaiting
  constructor
  case filled => exact hfilled.perm (filterMap_taker?_perm hdistributed hname)
  case waiting =>
    rw [add_waiting, hwaiting]
    exact filter_taker?_isNone hdistributed hname

/-- Reading files keeps account of what the structs have taken. -/
theorem Distributed.readFiles {reading : Reading} (hdistributed : Distributed file order reading)
    {rest : List ι} (horder : (order ++ rest).Nodup)
    (hmarked : ∀ name ∈ rest, Source.wellMarked (file name).items = true) :
    Distributed file (order ++ rest) ((Reading.readFiles (rest.map file)).run reading).2 := by
  induction rest generalizing order reading with
  | nil =>
      rw [List.append_nil]
      exact hdistributed
  | cons name rest ih =>
      obtain ⟨hfirst, hrest⟩ := List.forall_mem_cons.mp hmarked
      obtain ⟨⟨found, capabilities⟩, hfile⟩ := Source.exists_ofItems (file name).package hfirst
      have hsplit : order ++ name :: rest = (order ++ [name]) ++ rest := List.append_cons ..
      rw [hsplit] at horder ⊢
      rw [List.map_cons, readFiles_of_ok hfile]
      exact ih (hdistributed.add horder.of_append_left hfile) horder hrest

/-- What is given to a slot is what it takes. -/
theorem types_of_slot (taken : ι × Capability → Option (ι × Nat)) (slot : ι × Nat)
    (entries : List (ι × Capability)) :
    ((entries.filterMap fun entry => (taken entry).map (entry.2, ·)).filter (·.2 = slot)).map (·.1.type) =
      (entries.filter fun entry => taken entry = some slot).map (·.2.type) := by
  induction entries with
  | nil => rfl
  | cons entry rest ih =>
      rw [List.filterMap_cons, List.filter_cons]
      cases taken entry with
      | none => simpa using ih
      | some other =>
          by_cases hslot : other = slot
          · simpa [hslot] using ih
          · simpa [hslot] using ih

variable (file) in
/-- What a struct takes when the files are read in this order. -/
def taken (order : List ι) (slot : ι × Nat) : List (ι × Capability) :=
  (entries file order).filter fun entry => taker? file order entry = some slot

theorem mem_taken {slot : ι × Nat} :
    entry ∈ taken file order slot ↔ entry ∈ entries file order ∧ taker? file order entry = some slot := by
  rw [taken, List.mem_filter, decide_eq_true_eq]

variable (file) in
/-- The capabilities of a struct after the files have been read in this order. -/
def capabilitiesAt (order : List ι) (slot : ι × Nat) : List DeclaredType :=
  Capability.inSlot (slots file order)
    ((Reading.readFiles (order.map file)).run {}).2.declarations.providers slot

/-- A struct has the capabilities that it takes. -/
theorem capabilitiesAt_perm (horder : order.Nodup)
    (hmarked : ∀ name ∈ order, Source.wellMarked (file name).items = true) {slot : ι × Nat}
    (hslot : slot ∈ (slots file order).map Prod.fst) :
    (capabilitiesAt file order slot).Perm ((taken file order slot).map (·.2.type)) := by
  have hfilled := (distributed_empty.readFiles horder hmarked).filled
  rw [taken, ← types_of_slot]
  exact hfilled.inSlot_perm (Source.nodup_slots horder) hslot

end Reading

end Files

end BuilderGen

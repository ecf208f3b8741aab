import BuilderGen.Execution.Shop
import BuilderGen.Proofs.Source.Taker

/-!
# The order of files

What a round declares does not depend on the order in which its files are read, nor does it matter to the
capabilities that nobody takes.  Who takes the others may depend on it.  A capability is settled when its own
file has a struct that it belongs to, or at most one file has; then the same struct takes it in every order.
A capability that is not settled is taken by whichever file is read first, as in `Shop.ambiguousFiles`.

So a struct has the same capabilities in every order just when every capability that it could take is
settled.  For one direction, a settled capability finds its struct whatever comes first.  For the other, a
capability with the choice is read behind the file of the struct in one order and in front of it in another.
Between these two orders nothing is gained for what is lost: what the struct takes when its file is read last
was settled.
-/

namespace BuilderGen

namespace Reading

open Capability (IsHomeless)
open Source (slots entries slotIn?)

/-- Files with well-formed markers are all accepted. -/
theorem readFiles_of_wellMarked {files : List Source.File}
    (hmarked : ∀ file ∈ files, Source.wellMarked file.items = true) (reading : Reading) :
    ((readFiles files).run reading).1 = files := by
  induction files generalizing reading with
  | nil => rfl
  | cons file rest ih =>
      obtain ⟨hfirst, hrest⟩ := List.forall_mem_cons.mp hmarked
      obtain ⟨⟨found, capabilities⟩, hfile⟩ := Source.exists_ofItems file.package hfirst
      rw [readFiles_of_ok hfile, ih hrest]

/-- The capabilities that wait are those that belong to no provider. -/
theorem Sound.waiting_perm {reading : Reading} {read : List Capability} (hsound : reading.Sound read) :
    reading.waiting.Perm (read.filter fun capability =>
      !(reading.declarations.providers.map Provider.bare).any capability.belongsTo) := by
  obtain ⟨held, hheld, hread⟩ := hsound.held
  simp only [List.any_map, Function.comp_def, Capability.belongsTo_bare]
  have hnone : (held.filter fun capability =>
      !reading.declarations.providers.any capability.belongsTo) = [] := by
    rw [List.filter_eq_nil_iff]
    intro capability hcapability
    simpa using hheld.exists_belongsTo hcapability
  have hall : (reading.waiting.filter fun capability =>
      !reading.declarations.providers.any capability.belongsTo) = reading.waiting := by
    rw [List.filter_eq_self]
    intro capability hcapability
    simpa [IsHomeless] using hsound.homeless capability hcapability
  have hfilter := hread.filter fun capability =>
    !reading.declarations.providers.any capability.belongsTo
  rwa [List.filter_append, hnone, hall, List.nil_append] at hfilter

/-! ## Settled capabilities -/

variable {ι : Type} [DecidableEq ι] (file : ι → Source.File)

/-- The own file of a capability has a struct that it belongs to, or at most one file has. -/
def Settled (round : List ι) (entry : ι × Capability) : Prop :=
  (slotIn? file entry.2 entry.1).isSome ∨
    ∀ first ∈ round, ∀ second ∈ round, (slotIn? file entry.2 first).isSome →
      (slotIn? file entry.2 second).isSome → first = second

instance (round : List ι) (entry : ι × Capability) : Decidable (Settled file round entry) :=
  inferInstanceAs (Decidable (_ ∨ _))

variable {file} {round order : List ι} {entry : ι × Capability} {slot : ι × Nat}

omit [DecidableEq ι] in
theorem Settled.perm (hsettled : Settled file round entry) (horder : order.Perm round) :
    Settled file order entry := by
  refine hsettled.imp_right fun hunique first hfirst second hsecond => ?_
  exact hunique first (horder.mem_iff.mp hfirst) second (horder.mem_iff.mp hsecond)

/-- A search that can succeed at one item at most does not depend on the order of the items. -/
theorem findSome?_eq_of_perm {α β : Type} {find : α → Option β} {items others : List α}
    (hperm : items.Perm others)
    (hunique : ∀ first ∈ items, ∀ second ∈ items, (find first).isSome → (find second).isSome →
      first = second) : items.findSome? find = others.findSome? find := by
  cases hfound : others.findSome? find with
  | none =>
      rw [List.findSome?_eq_none_iff] at hfound ⊢
      exact fun item hitem => hfound item (hperm.mem_iff.mp hitem)
  | some result =>
      obtain ⟨item, hitem, hresult⟩ := List.exists_of_findSome?_eq_some hfound
      have hmem := hperm.mem_iff.mpr hitem
      have hsome : (items.findSome? find).isSome := by
        rw [List.findSome?_isSome_iff]
        exact ⟨item, hmem, by rw [hresult]; rfl⟩
      obtain ⟨result', hresult'⟩ := Option.isSome_iff_exists.mp hsome
      obtain ⟨item', hitem', hfind⟩ := List.exists_of_findSome?_eq_some hresult'
      obtain rfl := hunique item' hitem' item hmem (by rw [hfind]; rfl) (by rw [hresult]; rfl)
      rw [hresult', ← hfind, hresult]

/-- The same struct takes a settled capability in every order. -/
theorem Settled.taker?_eq (hsettled : Settled file round entry) (horder : order.Perm round)
    (hentry : entry.1 ∈ round) : taker? file order entry = taker? file round entry := by
  rcases hsettled with hown | hunique
  · obtain ⟨found, hfound⟩ := Option.isSome_iff_exists.mp hown
    rw [taker?, taker?, search, search, List.findSome?_cons, List.findSome?_cons, hfound]
  · have hsearch := search_perm (horder.mem_iff.mpr hentry)
    refine findSome?_eq_of_perm ((hsearch.trans horder).trans (search_perm hentry).symm) ?_
    intro first hfirst second hsecond
    exact hunique first (horder.mem_iff.mp (hsearch.mem_iff.mp hfirst)) second
      (horder.mem_iff.mp (hsearch.mem_iff.mp hsecond))

/-- A capability that goes to the file that is read last is settled. -/
theorem settled_of_taker?_last {front : List ι} {last : ι} (hlast : last ∉ front)
    (hentry : entry.1 ∈ front ++ [last]) (htaker : taker? file (front ++ [last]) entry = some slot)
    (hslot : slot.1 = last) : Settled file (front ++ [last]) entry := by
  rcases List.mem_append.mp hentry with hfront | hown
  · -- Nobody in front could take it, so the last file is the only one that can.
    rw [taker?_append_of_mem hfront] at htaker
    have hnone : taker? file front entry = none := by
      cases hfound : taker? file front entry with
      | none => rfl
      | some other =>
          rw [hfound, Option.some_or] at htaker
          obtain rfl := Option.some.inj htaker
          exact absurd (hslot ▸ (mem_of_taker? hfront hfound).1) hlast
    have honly : ∀ name ∈ front ++ [last], (slotIn? file entry.2 name).isSome → name = last := by
      intro name hname hsome
      rcases List.mem_append.mp hname with hname | hname
      · rw [(taker?_eq_none_iff hfront).mp hnone name hname] at hsome
        cases hsome
      · exact List.mem_singleton.mp hname
    refine .inr fun first hfirst second hsecond hfirst' hsecond' => ?_
    rw [honly first hfirst hfirst', honly second hsecond hsecond']
  · left
    have hnumber := (mem_of_taker? hentry htaker).2
    rw [List.mem_singleton.mp hown, slotIn?, ← hslot, hnumber]
    rfl

/-! ## Structs that have the same in every order -/

omit [DecidableEq ι] in
theorem entries_perm (horder : order.Perm round) : (entries file order).Perm (entries file round) :=
  horder.flatMap_right _

omit [DecidableEq ι] in
theorem slots_perm (horder : order.Perm round) : (slots file order).Perm (slots file round) :=
  horder.flatMap_right _

/-- A struct that could take settled capabilities only takes the same in every order. -/
theorem taken_perm_of_settled (horder : order.Perm round)
    (hsettled : ∀ entry ∈ entries file round, (file slot.1).last? entry.2 = some slot.2 →
      Settled file round entry) : (taken file order slot).Perm (taken file round slot) := by
  have htakers : ∀ entry ∈ entries file round,
      (taker? file order entry = some slot ↔ taker? file round entry = some slot) := by
    intro entry hentry
    have hround := (Source.mem_entries.mp hentry).1
    constructor
    · intro h
      have hlast := (mem_of_taker? (horder.mem_iff.mpr hround) h).2
      rwa [(hsettled entry hentry hlast).taker?_eq horder hround] at h
    · intro h
      have hlast := (mem_of_taker? hround h).2
      rwa [(hsettled entry hentry hlast).taker?_eq horder hround]
  refine ((entries_perm horder).filter _).trans (List.Perm.of_eq (List.filter_congr fun entry hentry => ?_))
  rw [decide_eq_decide]
  exact htakers entry hentry

/-- A capability with the choice can be read between two files that could take it. -/
theorem exists_round_of_not_settled (hentry : entry.1 ∈ round)
    (hslot : slotIn? file entry.2 slot.1 = some slot) (hmem : slot.1 ∈ round)
    (hunsettled : ¬ Settled file round entry) :
    ∃ other rest, other ≠ slot.1 ∧ (slotIn? file entry.2 other).isSome ∧
      slotIn? file entry.2 entry.1 = none ∧ (entry.1 :: slot.1 :: other :: rest).Perm round := by
  rw [Settled, not_or, Bool.not_eq_true, Option.isSome_eq_false_iff, Option.isNone_iff_eq_none] at hunsettled
  obtain ⟨hown, hchoice⟩ := hunsettled
  obtain ⟨other, hother, hsome, hne⟩ :
      ∃ other ∈ round, (slotIn? file entry.2 other).isSome ∧ other ≠ slot.1 := by
    by_contra hnone
    push Not at hnone
    refine hchoice fun first hfirst second hsecond hfirst' hsecond' => ?_
    rw [hnone first hfirst hfirst', hnone second hsecond hsecond']
  have hslot_ne : slot.1 ≠ entry.1 := by
    intro heq
    rw [← heq, hslot] at hown
    cases hown
  have hother_ne : other ≠ entry.1 := by
    rintro rfl
    rw [hown] at hsome
    cases hsome
  refine ⟨other, ((round.erase entry.1).erase slot.1).erase other, hne, hsome, hown, ?_⟩
  have hslot_mem : slot.1 ∈ round.erase entry.1 := (List.mem_erase_of_ne hslot_ne).mpr hmem
  have hother_mem : other ∈ (round.erase entry.1).erase slot.1 :=
    (List.mem_erase_of_ne hne).mpr ((List.mem_erase_of_ne hother_ne).mpr hother)
  -- Taking the three files out of the round one after the other leaves the rest.
  have htwo := (List.perm_cons_erase hslot_mem).trans ((List.perm_cons_erase hother_mem).cons slot.1)
  exact ((List.perm_cons_erase hentry).trans (htwo.cons entry.1)).symm

/-- A struct takes fewer capabilities in an order where it loses one and gains none. -/
theorem length_taken_lt {first second : List ι} (hperm : second.Perm first)
    (hkept : ∀ kept ∈ entries file second, taker? file second kept = some slot →
      taker? file first kept = some slot)
    (hgained : entry ∈ taken file first slot) (hlost : taker? file second entry ≠ some slot) :
    (taken file second slot).length < (taken file first slot).length := by
  have hpart : (taken file second slot).Perm
      ((taken file first slot).filter fun kept => taker? file second kept = some slot) := by
    rw [taken, taken, List.filter_filter]
    refine List.Perm.trans (List.Perm.of_eq (List.filter_congr fun kept hmem => ?_))
      ((entries_perm hperm).filter _)
    have hkept := hkept kept hmem
    simpa using hkept
  rw [hpart.length_eq, List.length_filter_lt_length_iff_exists]
  exact ⟨entry, hgained, by simpa using hlost⟩

/-- A struct that could take a capability with the choice takes fewer of them in one order than in another. -/
theorem exists_fewer_of_not_settled (hround : round.Nodup) (hentry : entry ∈ entries file round)
    (hslot : slotIn? file entry.2 slot.1 = some slot) (hmem : slot.1 ∈ round)
    (hunsettled : ¬ Settled file round entry) :
    ∃ first second, first.Perm round ∧ second.Perm round ∧
      (taken file second slot).length < (taken file first slot).length := by
  obtain ⟨other, rest, hne, hsome, hown, hfirst⟩ :=
    exists_round_of_not_settled (Source.mem_entries.mp hentry).1 hslot hmem hunsettled
  obtain ⟨found, hfound⟩ := Option.isSome_iff_exists.mp hsome
  have hbehind := (List.perm_append_singleton slot.1 (other :: rest)).cons entry.1
  have hsecond := hbehind.trans hfirst
  have hlast : slot.1 ∉ entry.1 :: other :: rest := by
    have hnodup := hsecond.nodup_iff.mpr hround
    rw [← List.cons_append, List.nodup_append_comm, List.singleton_append, List.nodup_cons] at hnodup
    exact hnodup.1
  have hgained : entry ∈ taken file (entry.1 :: slot.1 :: other :: rest) slot := by
    refine mem_taken.mpr ⟨(entries_perm hfirst).mem_iff.mpr hentry, ?_⟩
    rw [taker?, search_cons_self, List.findSome?_cons, hown, List.findSome?_cons, hslot]
  refine ⟨_, _, hfirst, hsecond, length_taken_lt hbehind ?_ hgained ?_⟩
  · intro kept hkept htaker
    have hround := (Source.mem_entries.mp hkept).1
    rw [(settled_of_taker?_last hlast hround htaker rfl).taker?_eq hbehind.symm hround]
    exact htaker
  · rw [taker?, search_cons_self, List.findSome?_cons, hown, List.cons_append, List.findSome?_cons, hfound]
    intro heq
    rw [Option.some.inj heq] at hfound
    exact hne (Source.fst_of_slotIn? hfound).symm

/-- A struct has the same capabilities in every order just when all that it could take are settled. -/
theorem capabilitiesAt_perm_iff (hround : round.Nodup)
    (hmarked : ∀ name ∈ round, Source.wellMarked (file name).items = true)
    (hslot : slot ∈ (slots file round).map Prod.fst) :
    (∀ order, order.Perm round →
        (capabilitiesAt file order slot).Perm (capabilitiesAt file round slot)) ↔
      ∀ entry ∈ entries file round, (file slot.1).last? entry.2 = some slot.2 →
        Settled file round entry := by
  have htaken : ∀ order, order.Perm round →
      (capabilitiesAt file order slot).Perm ((taken file order slot).map (·.2.type)) := by
    intro order horder
    refine capabilitiesAt_perm (horder.nodup_iff.mpr hround) ?_ ?_
    · exact fun name hname => hmarked name (horder.mem_iff.mp hname)
    · exact ((slots_perm horder).map Prod.fst).mem_iff.mpr hslot
  constructor
  · intro hsame entry hentry hlast
    by_contra hunsettled
    have hfile : slotIn? file entry.2 slot.1 = some slot := by
      rw [slotIn?, hlast]
      rfl
    have hmem : slot.1 ∈ round := by
      rw [Source.map_fst_slots, List.mem_flatMap] at hslot
      obtain ⟨name, hname, hnumber⟩ := hslot
      obtain ⟨_, _, rfl⟩ := List.mem_map.mp hnumber
      exact hname
    obtain ⟨first, second, hfirst, hsecond, hfewer⟩ :=
      exists_fewer_of_not_settled hround hentry hfile hmem hunsettled
    have hlength : ∀ order, order.Perm round →
        (taken file order slot).length = (capabilitiesAt file round slot).length := by
      intro order horder
      rw [← (hsame order horder).length_eq, (htaken order horder).length_eq, List.length_map]
    rw [hlength first hfirst, hlength second hsecond] at hfewer
    exact lt_irrefl _ hfewer
  · intro hsettled order horder
    have hsame := taken_perm_of_settled horder hsettled
    exact ((htaken order horder).trans (hsame.map _)).trans (htaken round .rfl).symm

/-! ## All orders -/

/-- What has been read is what the files declare together.  The capabilities that wait are those that belong
to no provider of the files. -/
structure Collected (files : List Source.File) (reading : Reading) : Prop where
  aggregates : reading.declarations.aggregates.Perm (files.flatMap (·.declarations.aggregates))
  enumerations : reading.declarations.enumerations.Perm (files.flatMap (·.declarations.enumerations))
  providers : (reading.declarations.providers.map Provider.bare).Perm (files.flatMap Source.File.providers)
  waiting : reading.waiting.Perm ((files.flatMap Source.File.implementations).filter fun capability =>
    !(files.flatMap Source.File.providers).any capability.belongsTo)

/-- Files that are all accepted are collected, in whatever order they are read. -/
theorem collected_readFiles {files others : List Source.File} (hothers : others.Perm files)
    (haccepted : ((readFiles others).run {}).1 = others) :
    Collected files ((readFiles others).run {}).2 := by
  have hadds := adds_readFiles others {}
  have hsound := sound_empty.readFiles others
  rw [haccepted] at hadds hsound
  have hproviders := hadds.providers
  rw [List.map_nil, List.nil_append] at hproviders
  refine ⟨?_, ?_, ?_, ?_⟩
  · rw [hadds.aggregates]
    exact hothers.flatMap_right _
  · rw [hadds.enumerations]
    exact hothers.flatMap_right _
  · rw [hproviders]
    exact hothers.flatMap_right _
  · refine hsound.waiting_perm.trans ?_
    rw [hproviders, List.nil_append]
    refine ((hothers.flatMap_right _).filter _).trans (List.Perm.of_eq (List.filter_congr fun _ _ => ?_))
    rw [(hothers.flatMap_right Source.File.providers).any_eq]

/-- Files with well-formed markers may be read in any order.

All of them are accepted, and together they declare the same and leave the same capabilities waiting.  The
providers stand in the order of the files.  Which of them has which capabilities may depend on the order.  A
struct has the same capabilities in every order just when each capability that it could take is settled. -/
theorem readFiles_order (files : List Source.File)
    (hmarked : ∀ file ∈ files, Source.wellMarked file.items = true) :
    let file := files.get
    let round := List.finRange files.length
    (∀ order, order.Perm round →
        ((readFiles (order.map file)).run {}).1 = order.map file ∧
          Collected files ((readFiles (order.map file)).run {}).2 ∧
          ((readFiles (order.map file)).run {}).2.declarations.providers.map Provider.bare =
            (slots file order).map Prod.snd) ∧
      ∀ slot ∈ (slots file round).map Prod.fst,
        (∀ order, order.Perm round →
            (capabilitiesAt file order slot).Perm (capabilitiesAt file round slot)) ↔
          ∀ entry ∈ entries file round, (file slot.1).last? entry.2 = some slot.2 →
            Settled file round entry := by
  intro file round
  refine ⟨fun order horder => ?_, fun slot hslot => ?_⟩
  · have hothers : (order.map file).Perm files := by
      conv_rhs => rw [← List.map_get_finRange files]
      exact horder.map _
    have haccepted := readFiles_of_wellMarked (fun name hname => hmarked name (hothers.mem_iff.mp hname)) {}
    have hadds := adds_readFiles (order.map file) {}
    rw [haccepted] at hadds
    refine ⟨haccepted, collected_readFiles hothers haccepted, ?_⟩
    rw [hadds.providers, Source.map_snd_slots, List.map_nil, List.nil_append, List.flatMap_map]
  · exact capabilitiesAt_perm_iff (List.nodup_finRange _) (fun name _ => hmarked _ (List.get_mem ..)) hslot

end Reading

/-! ## A sample -/

namespace Shop

open Grammar

/-- A struct without fields. -/
def unitStruct (name : String) : Item :=
  .struct
    { attributes := [], visibility := .everywhere, name, generics := [], constraints := [], fields := .unit }

/-- The implementation by which a type provides texts. -/
def textProvider (path : List String) : Item :=
  .impl
    { head := [.word "impl"]
      trait? := some ⟨false, false, [.mk "DefaultValueProvider" (.angle false
        [.type (.path false [.mk "String" .none]) false])]⟩
      selfType := .path false (path.map (.mk · .none))
      tail := [Token.braces []] }

/-- A module with a body. -/
def bodied (name : String) (items : List Item) : Item :=
  .module
    { attributes := [], innerAttributes := [], visibility := .everywhere, isUnsafe := false, name } items

/-- The file of the names. -/
def namesFile : Source.File where
  package := "shop"
  items := [unitStruct "Names"]

/-- A file that makes the names provide texts. -/
def textsFile : Source.File where
  package := "texts"
  items := [textProvider ["crate", "shop", "Names"]]

/-- The names provide texts in whatever order the files are read. -/
theorem namesFile_any_order :
    (∀ file ∈ [namesFile, textsFile], Source.wellMarked file.items = true) ∧
      ∀ order, order.Perm (List.finRange 2) →
        (Reading.capabilitiesAt [namesFile, textsFile].get order (0, 0)).Perm [provides textType] := by
  have hmarked : ∀ file ∈ [namesFile, textsFile], Source.wellMarked file.items = true := by
    rw [List.forall_mem_cons, List.forall_mem_singleton]
    exact ⟨rfl, rfl⟩
  obtain ⟨_, hsame⟩ := Reading.readFiles_order [namesFile, textsFile] hmarked
  refine ⟨hmarked, (hsame (0, 0) (by decide +kernel)).mpr ?_⟩
  decide +kernel

/-- Files with two types whose paths end alike, and an implementation for the second one in between. -/
def ambiguousFiles : List Source.File :=
  [namesFile, { package := "texts", items := [textProvider ["crate", "north", "shop", "Names"]] },
    { package := "north", items := [bodied "shop" [unitStruct "Names"]] }]

/-- The type that is read first keeps a capability that has the choice. -/
theorem ambiguousFiles_reverse :
    ambiguousFiles.reverse.Perm ambiguousFiles ∧
      (∀ file ∈ ambiguousFiles, Source.wellMarked file.items = true) ∧
      ((Reading.readFiles ambiguousFiles).run {}).2.declarations.providers.map
          (fun provider => (provider.qualifiedName, provider.capabilities)) =
        [("shop::Names", [provides textType]), ("north::shop::Names", [])] ∧
      ((Reading.readFiles ambiguousFiles.reverse).run {}).2.declarations.providers.map
          (fun provider => (provider.qualifiedName, provider.capabilities)) =
        [("north::shop::Names", [provides textType]), ("shop::Names", [])] := by
  refine ⟨List.reverse_perm ambiguousFiles, ?_, rfl, rfl⟩
  rw [ambiguousFiles, List.forall_mem_cons, List.forall_mem_cons, List.forall_mem_singleton]
  exact ⟨rfl, rfl, rfl⟩

end Shop

end BuilderGen

import BuilderGen.Builder.Powerset
import Mathlib.Algebra.Group.Nat.Defs
import Mathlib.Data.List.Sublists
import Mathlib.Data.List.Nodup

/-!
# The subsets behind the branches

The list of subsets holds every sublist of the items, as often as there are choices of positions, with
larger subsets first.  The file has three parts:

* a choice of positions is a mask, a number whose bits stand for the positions (`maskedBy`), and counting goes
  through all masks in order (`sublistsByCounting_eq_map_range`);
* the list of subsets is the stable sort of them by size: all of them are in it (`powerset_perm_counting`),
  larger ones first (`pairwise_powerset`), and those of one size in the order of counting
  (`filter_length_powerset`);
* the search of a plan runs through this list and takes the first subset whose members were all set.
  `find?_powerset` says which one that is: exactly the members that were set.
-/

namespace BuilderGen

variable {α : Type}

/-! ## The order of counting -/

/-- Counting adds the last item to every subset of the items before it. -/
theorem sublistsByCounting_concat (items : List α) (item : α) :
    sublistsByCounting (items ++ [item]) =
      sublistsByCounting items ++ (sublistsByCounting items).map (· ++ [item]) := by
  rw [sublistsByCounting, List.foldl_append]
  rfl

/-- The order of counting is the order in which the library lists sublists. -/
theorem sublistsByCounting_eq_sublists (items : List α) :
    sublistsByCounting items = items.sublists := by
  induction items using List.reverseRecOn with
  | nil => rfl
  | append_singleton items item ih =>
      rw [sublistsByCounting_concat, List.sublists_concat, ih]

/-- The items at the positions whose bits are set in a mask.  Bit `i` stands for the item at position `i`. -/
def maskedBy (items : List α) (mask : Nat) : List α :=
  (items.zipIdx.filter fun placed => mask.testBit placed.2).map Prod.fst

/-- The bit at the position of the last item says whether it is chosen too. -/
theorem maskedBy_concat (items : List α) (item : α) (mask : Nat) :
    maskedBy (items ++ [item]) mask =
      maskedBy items mask ++ if mask.testBit items.length then [item] else [] := by
  rw [maskedBy, List.zipIdx_append, List.filter_append, List.map_append, ← maskedBy, Nat.zero_add,
    List.zipIdx_singleton, List.filter_singleton]
  cases mask.testBit items.length <;> rfl

/-- The bit behind those of the items does not matter. -/
theorem maskedBy_two_pow_add (items : List α) (mask : Nat) :
    maskedBy items (2 ^ items.length + mask) = maskedBy items mask := by
  refine congrArg (List.map Prod.fst) (List.filter_congr fun placed hplaced => ?_)
  obtain ⟨_, hposition, _⟩ := List.mem_zipIdx hplaced
  rw [Nat.zero_add] at hposition
  exact Nat.testBit_two_pow_add_gt hposition mask

/-- The lower half of the masks leaves the last item out. -/
theorem maskedBy_concat_lower {items : List α} {mask : Nat} (hmask : mask < 2 ^ items.length) (item : α) :
    maskedBy (items ++ [item]) mask = maskedBy items mask := by
  rw [maskedBy_concat, Nat.testBit_lt_two_pow hmask]
  exact List.append_nil _

/-- The upper half of the masks adds the last item to the choices of the lower half, in the same order. -/
theorem maskedBy_concat_upper {items : List α} {mask : Nat} (hmask : mask < 2 ^ items.length) (item : α) :
    maskedBy (items ++ [item]) (2 ^ items.length + mask) = maskedBy items mask ++ [item] := by
  rw [maskedBy_concat, maskedBy_two_pow_add, Nat.testBit_two_pow_add_eq, Nat.testBit_lt_two_pow hmask]
  rfl

/-- Counting goes through the masks in order, each of them once. -/
theorem sublistsByCounting_eq_map_range (items : List α) :
    sublistsByCounting items = (List.range (2 ^ items.length)).map (maskedBy items) := by
  induction items using List.reverseRecOn with
  | nil => rfl
  | append_singleton items item ih =>
      have hlower : (List.range (2 ^ items.length)).map (maskedBy items) =
          (List.range (2 ^ items.length)).map (maskedBy (items ++ [item])) :=
        List.map_congr_left fun mask hmask => (maskedBy_concat_lower (List.mem_range.mp hmask) item).symm
      have hupper : (List.range (2 ^ items.length)).map ((· ++ [item]) ∘ maskedBy items) =
          (List.range (2 ^ items.length)).map (maskedBy (items ++ [item]) ∘ (2 ^ items.length + ·)) :=
        List.map_congr_left fun mask hmask => (maskedBy_concat_upper (List.mem_range.mp hmask) item).symm
      calc sublistsByCounting (items ++ [item])
          = (List.range (2 ^ items.length)).map (maskedBy items) ++
              (List.range (2 ^ items.length)).map ((· ++ [item]) ∘ maskedBy items) := by
            rw [sublistsByCounting_concat, ih, List.map_map]
        _ = (List.range (2 ^ items.length + 2 ^ items.length)).map (maskedBy (items ++ [item])) := by
            rw [hlower, hupper, List.range_add, List.map_append, List.map_map]
        _ = (List.range (2 ^ (items ++ [item]).length)).map (maskedBy (items ++ [item])) := by
            rw [List.length_append, List.length_singleton, Nat.pow_succ, Nat.mul_two]

/-! ## Larger subsets first -/

theorem powerset_perm_counting (items : List α) : (powerset items).Perm (sublistsByCounting items) :=
  List.mergeSort_perm _ _

theorem powerset_perm (items : List α) : (powerset items).Perm items.sublists := by
  rw [← sublistsByCounting_eq_sublists]
  exact powerset_perm_counting items

theorem mem_powerset {items subset : List α} :
    subset ∈ powerset items ↔ subset.Sublist items := by
  rw [(powerset_perm items).mem_iff, List.mem_sublists]

theorem length_powerset (items : List α) : (powerset items).length = 2 ^ items.length := by
  rw [(powerset_perm items).length_eq, List.length_sublists]

theorem nodup_powerset {items : List α} (h : items.Nodup) : (powerset items).Nodup :=
  (powerset_perm items).nodup_iff.mpr (List.nodup_sublists.mpr h)

theorem largerFirst_trans (left middle right : List α) (hleft : decide (middle.length ≤ left.length))
    (hright : decide (right.length ≤ middle.length)) : decide (right.length ≤ left.length) := by
  simp only [decide_eq_true_eq] at hleft hright ⊢
  omega

theorem largerFirst_total (left right : List α) :
    decide (right.length ≤ left.length) || decide (left.length ≤ right.length) := by
  simp only [Bool.or_eq_true, decide_eq_true_eq]
  omega

/-- Larger subsets come first. -/
theorem pairwise_powerset (items : List α) :
    (powerset items).Pairwise fun left right => right.length ≤ left.length := by
  have hsorted := List.pairwise_mergeSort largerFirst_trans largerFirst_total (sublistsByCounting items)
  exact hsorted.imp fun h => of_decide_eq_true h

/-- Subsets of one size stay in the order of counting.  They are a sublist that is sorted already, so sorting
keeps it, and there are no others of this size. -/
theorem filter_length_powerset (items : List α) (size : Nat) :
    (powerset items).filter (·.length = size) = (sublistsByCounting items).filter (·.length = size) := by
  have hsorted : ((sublistsByCounting items).filter (·.length = size)).Pairwise
      fun left right => decide (right.length ≤ left.length) := by
    refine List.pairwise_of_forall_mem_list fun left hleft right hright => ?_
    have hleft := of_decide_eq_true (List.mem_filter.mp hleft).2
    have hright := of_decide_eq_true (List.mem_filter.mp hright).2
    exact decide_eq_true (by omega)
  have hkept : ((sublistsByCounting items).filter (·.length = size)).Sublist (powerset items) :=
    List.sublist_mergeSort largerFirst_trans largerFirst_total hsorted List.filter_sublist
  have hwithin : ((sublistsByCounting items).filter (·.length = size)).Sublist
      ((powerset items).filter (·.length = size)) := by
    simpa only [List.filter_filter, Bool.and_self] using hkept.filter (·.length = size)
  have hcount := ((powerset_perm_counting items).filter fun subset => subset.length = size).length_eq
  exact (hwithin.eq_of_length hcount.symm).symm

theorem head?_powerset (items : List α) : (powerset items).head? = some items := by
  have hmem : items ∈ powerset items := mem_powerset.mpr (List.Sublist.refl items)
  have hpairwise := pairwise_powerset items
  cases hsubsets : powerset items with
  | nil =>
    rw [hsubsets] at hmem
    cases hmem
  | cons first rest =>
    have hfirst : first.Sublist items := mem_powerset.mp (hsubsets ▸ List.mem_cons_self)
    rw [hsubsets] at hmem hpairwise
    have hlength : items.length ≤ first.length := by
      rcases List.mem_cons.mp hmem with rfl | hrest
      · exact Nat.le_refl _
      · exact List.rel_of_pairwise_cons hpairwise hrest
    rw [List.head?_cons, hfirst.eq_of_length_le hlength]

theorem getLast?_powerset (items : List α) : (powerset items).getLast? = some [] := by
  have hmem : [] ∈ powerset items := mem_powerset.mpr (List.nil_sublist items)
  have hpairwise := pairwise_powerset items
  rcases List.eq_nil_or_concat' (powerset items) with hsubsets | ⟨before, last, hsubsets⟩
  · rw [hsubsets] at hmem
    cases hmem
  · rw [hsubsets] at hmem hpairwise
    have hlast : last = [] := by
      rcases List.mem_append.mp hmem with hbefore | hlast
      · have hle := (List.pairwise_append.mp hpairwise).2.2 [] hbefore last List.mem_cons_self
        exact List.eq_nil_of_length_eq_zero (Nat.le_zero.mp hle)
      · exact (List.mem_singleton.mp hlast).symm
    rw [hsubsets, List.getLast?_concat, hlast]

/-- In which order the subsets of a list are listed, whether or not its items repeat.

The list holds one subset, in the order of the items, for each of the `2 ^ n` masks of their positions.
Larger subsets come first: the list starts with all items and ends with the empty subset.  The subsets of one
size stand as in counting, where the masks grow from `0` to `2 ^ n - 1`. -/
theorem powerset_sorts_counting (items : List α) :
    (powerset items).Perm items.sublists ∧
      (powerset items).length = 2 ^ items.length ∧
      (powerset items).Perm ((List.range (2 ^ items.length)).map (maskedBy items)) ∧
      ((powerset items).Pairwise fun left right => right.length ≤ left.length) ∧
      (powerset items).head? = some items ∧
      (powerset items).getLast? = some [] ∧
      sublistsByCounting items = (List.range (2 ^ items.length)).map (maskedBy items) ∧
      ∀ size, (powerset items).filter (·.length = size) =
        (sublistsByCounting items).filter (·.length = size) := by
  have hcounting := sublistsByCounting_eq_map_range items
  have hmasks := powerset_perm_counting items
  rw [hcounting] at hmasks
  exact ⟨powerset_perm items, length_powerset items, hmasks, pairwise_powerset items, head?_powerset items,
    getLast?_powerset items, hcounting, filter_length_powerset items⟩

/-- Among the pairs the masks are `3`, `5` and `6`. -/
example : powerset [1, 2, 3] = [[1, 2, 3], [1, 2], [1, 3], [2, 3], [1], [2], [3], []] := by
  cbv

/-! ## The subset that was set -/

/-- A sublist without repeated items is the part of the items that it holds. -/
theorem eq_filter_of_sublist [DecidableEq α] {items subset : List α} (hitems : items.Nodup)
    (hsubset : subset.Sublist items) : subset = items.filter (· ∈ subset) := by
  induction hsubset with
  | slnil => rfl
  | @cons subset items item hsubset ih =>
      have hitem : item ∉ subset := fun hmem =>
        (List.nodup_cons.mp hitems).1 (hsubset.subset hmem)
      rw [List.filter_cons_of_neg (by simpa using hitem)]
      exact ih (List.nodup_cons.mp hitems).2
  | @cons_cons subset items item hsubset ih =>
      obtain ⟨hitem, hrest⟩ := List.nodup_cons.mp hitems
      rw [List.filter_cons_of_pos (by simp)]
      congr 1
      refine (ih hrest).trans (List.filter_congr fun other hother => ?_)
      have hne : other ≠ item := fun h => hitem (h ▸ hother)
      simp [hne]

/-- The first subset whose members were all set holds every item that was set.  A subset that passes the
test is a sublist of the set items, and no larger one comes later. -/
theorem find?_powerset [DecidableEq α] (items set : List α) :
    (powerset items).find? (fun subset => subset.all (· ∈ set)) = some (items.filter (· ∈ set)) := by
  have hmem : items.filter (· ∈ set) ∈ powerset items := mem_powerset.mpr List.filter_sublist
  cases hfind : (powerset items).find? (fun subset => subset.all (· ∈ set)) with
  | none =>
    have hnone := List.find?_eq_none.mp hfind _ hmem
    simp at hnone
  | some found =>
    obtain ⟨hall, before, after, hsplit, hbefore⟩ := List.find?_eq_some_iff_append.mp hfind
    have hfound : found.Sublist (items.filter (· ∈ set)) := by
      have hsublist : found.Sublist items := mem_powerset.mp (List.mem_of_find?_eq_some hfind)
      have hfilter := hsublist.filter (fun item => decide (item ∈ set))
      rwa [List.filter_eq_self.mpr (by simpa using hall)] at hfilter
    have hlength : (items.filter (· ∈ set)).length ≤ found.length := by
      rw [hsplit, List.mem_append, List.mem_cons] at hmem
      rcases hmem with hmem | hmem | hmem
      · have hfails := hbefore _ hmem
        simp at hfails
      · rw [hmem]
      · have hpairs := pairwise_powerset items
        rw [hsplit, List.pairwise_append] at hpairs
        exact (List.pairwise_cons.mp hpairs.2.1).1 _ hmem
    rw [hfound.eq_of_length_le hlength]

end BuilderGen

import BuilderGen.Proofs.Expansion.Location
import BuilderGen.Source.Strip

/-!
# How items grow

What an expansion should make of a tree of items is said by recursion over the tree: `Expansion.grow` drops the
markers of every list and puts what belongs to the aggregates declared in it behind it.  The expansion itself goes
back from a package to a list, by the first module of each name.  `addAll_locate` is the comparison of the two: as
long as no module with aggregates stands behind another one of its name, adding what belongs to one located
aggregate after the other grows every list.
-/

namespace BuilderGen

open Grammar (Item)
open Segments

namespace Expansion

/-! ## Growing every list -/

/-- What belongs to aggregates, in their order.  Nothing may belong to an aggregate. -/
def addedFor (rendered : Aggregate → Option (List Item)) (aggregates : List Aggregate) : List Item :=
  aggregates.flatMap fun aggregate => (rendered aggregate).getD []

mutual

/-- An item without its markers.  In a module with a body every list has grown. -/
def growItem (rendered : Aggregate → Option (List Item)) (package : String) : Item → Item
  | .module head items =>
      .module head (growItems rendered (qualify package head.name) items
        ++ addedFor rendered (Source.direct (qualify package head.name) items))
  | .struct tree => Strip.item (.struct tree)
  | .enum tree => Strip.item (.enum tree)
  | .impl tree => Strip.item (.impl tree)
  | .outline head => Strip.item (.outline head)
  | .other tokens => Strip.item (.other tokens)

/-- Items without their markers, in order, before anything stands behind them. -/
def growItems (rendered : Aggregate → Option (List Item)) (package : String) : List Item → List Item
  | [] => []
  | item :: rest => growItem rendered package item :: growItems rendered package rest

end

/-- The items of a module without their markers, in order, and behind them what belongs to the aggregates that are
declared directly among them, in order; so in every module with a body. -/
def grow (rendered : Aggregate → Option (List Item)) (package : String) (items : List Item) : List Item :=
  growItems rendered package items ++ addedFor rendered (Source.direct package items)

/-! ## Modules that are found -/

mutual

/-- Whether the first module of each name is the one that aggregates in an item are declared in, given the names of
the modules in front of the item. -/
def reachableItem (package : String) (seen : List String) : Item → Bool
  | .module head items =>
      (head.name ∉ seen || (Source.locate (qualify package head.name) items).isEmpty)
        && reachable (qualify package head.name) [] items
  | .struct _ | .enum _ | .impl _ | .outline _ | .other _ => true

/-- Whether no module in which aggregates are declared stands behind another one of its name, in items behind
modules of some names. -/
def reachable (package : String) (seen : List String) : List Item → Bool
  | [] => true
  | item :: rest => reachableItem package seen item && reachable package (Source.bodyNames item ++ seen) rest

end

mutual

theorem growItem_of_locate_eq_nil {rendered : Aggregate → Option (List Item)} {package : String} {item : Item}
    (hnone : Source.locateItem package item = []) : growItem rendered package item = Strip.item item := by
  cases item with
  | module head items =>
      rw [Source.locateItem, List.map_eq_nil_iff] at hnone
      rw [growItem, ← grow, grow_of_locate_eq_nil hnone, Strip.item]
  | struct _ | enum _ | impl _ | outline _ | other _ => rfl

/-- Where no aggregate is declared, growing only drops markers. -/
theorem grow_of_locate_eq_nil {rendered : Aggregate → Option (List Item)} {package : String} {items : List Item}
    (hnone : Source.locate package items = []) : grow rendered package items = Strip.items items := by
  cases items with
  | nil => rfl
  | cons item rest =>
      obtain ⟨hitem, hrest⟩ := List.append_eq_nil_iff.mp hnone
      have hdirect : Source.aggregatesOf package item = [] := by
        cases item with
        | struct _ | enum _ => exact List.map_eq_nil_iff.mp hitem
        | module _ _ | impl _ | outline _ | other _ => rfl
      have hgrow : growItems rendered package rest ++ addedFor rendered (Source.direct package rest) =
          Strip.items rest := grow_of_locate_eq_nil hrest
      rw [grow, growItems, growItem_of_locate_eq_nil hitem, Source.direct, List.flatMap_cons, hdirect,
        List.nil_append, List.cons_append, ← Source.direct, hgrow, Strip.items]

end

/-! ## Adding one by one -/

section Adding

variable {rendered : Aggregate → Option (List Item)}

/-- Adds what belongs to located aggregates, one after the other. -/
def addAll (rendered : Aggregate → Option (List Item)) :
    List (List String × Aggregate) → List Item → Option (List Item)
  | [], items => some items
  | (path, aggregate) :: rest, items =>
      match rendered aggregate with
      | none => addAll rendered rest items
      | some added => (Placement.addAt? added path items).bind (addAll rendered rest)

theorem addAll_append (front back : List (List String × Aggregate)) (items : List Item) :
    addAll rendered (front ++ back) items = (addAll rendered front items).bind (addAll rendered back) := by
  induction front generalizing items with
  | nil => rfl
  | cons place front ih =>
      obtain ⟨path, aggregate⟩ := place
      rw [List.cons_append, addAll, addAll]
      split
      · exact ih items
      · rw [Option.bind_assoc]
        exact congrArg _ (funext ih)

/-- What belongs to aggregates of the outer list is put behind its items. -/
theorem addAll_here (aggregates : List Aggregate) (items : List Item) :
    addAll rendered (aggregates.map ([], ·)) items =
      some (items ++ addedFor rendered aggregates) := by
  induction aggregates generalizing items with
  | nil => simp [addAll, addedFor]
  | cons aggregate rest ih =>
      rw [List.map_cons, addAll, addedFor, List.flatMap_cons, ← addedFor]
      cases hrendered : rendered aggregate with
      | none => exact ih items
      | some added =>
          dsimp only
          rw [Placement.addAt?, Option.bind_some, ih, Option.getD_some, List.append_assoc]

/-- The first module of a name is found behind items that are no modules of this name. -/
theorem inModule?_append {name : String} {front : List Item}
    (hfront : name ∉ front.flatMap Source.bodyNames) (change : List Item → Option (List Item))
    {head : Grammar.ModuleHead} (hname : head.name = name) (items back : List Item) :
    Placement.inModule? name change (front ++ .module head items :: back) =
      (change items).map fun items => front ++ .module head items :: back := by
  induction front with
  | nil => rw [List.nil_append, Placement.inModule?, if_pos hname]; rfl
  | cons item front ih =>
      rw [List.flatMap_cons, List.mem_append, not_or] at hfront
      have hskip : ∀ rest, Placement.inModule? name change (item :: rest) =
          (Placement.inModule? name change rest).map (item :: ·) := by
        intro rest
        cases item with
        | module other _ =>
            have hne : other.name ≠ name := fun heq => hfront.1 (by simp [Source.bodyNames, heq])
            rw [Placement.inModule?, if_neg hne]
        | struct _ | enum _ | impl _ | outline _ | other _ => rfl
      rw [List.cons_append, hskip, ih hfront.2, Option.map_map]
      rfl

/-- What belongs to aggregates in a module is added to the items of the module. -/
theorem addAll_inModule {front : List Item} {head : Grammar.ModuleHead}
    (hfront : head.name ∉ front.flatMap Source.bodyNames) (places : List (List String × Aggregate))
    (items back : List Item) :
    addAll rendered (places.map fun place => (head.name :: place.1, place.2))
        (front ++ .module head items :: back) =
      (addAll rendered places items).map fun items => front ++ .module head items :: back := by
  induction places generalizing items with
  | nil => rfl
  | cons place places ih =>
      obtain ⟨path, aggregate⟩ := place
      rw [List.map_cons, addAll, addAll]
      cases rendered aggregate with
      | none => exact ih items
      | some added =>
          dsimp only
          rw [Placement.addAt?, inModule?_append hfront _ rfl, Option.map_bind, Option.bind_map]
          exact congrArg _ (funext ih)

end Adding

/-! ## The comparison -/

section Comparison

variable {rendered : Aggregate → Option (List Item)}

theorem addedFor_direct_cons (package : String) (item : Item) (rest : List Item) :
    addedFor rendered (Source.direct package (item :: rest)) =
      addedFor rendered (Source.aggregatesOf package item) ++ addedFor rendered (Source.direct package rest) := by
  rw [Source.direct, List.flatMap_cons, addedFor, List.flatMap_append]
  rfl

theorem bodyNames_growItem (package : String) (item : Item) :
    Source.bodyNames (growItem rendered package item) = Source.bodyNames item := by
  cases item <;> rfl

mutual

theorem addAll_locateItem {package : String} {item : Item} {seen : List String}
    (hreachable : reachableItem package seen item = true) (front : List Item)
    (hfront : front.flatMap Source.bodyNames ⊆ seen) (back : List Item) :
    addAll rendered (Source.locateItem package item) (front ++ Strip.item item :: back) =
      some (front ++ growItem rendered package item :: back
        ++ addedFor rendered (Source.aggregatesOf package item)) := by
  cases item with
  | struct _ | enum _ => exact addAll_here ..
  | impl _ | outline _ | other _ => exact congrArg some (List.append_nil _).symm
  | module head items =>
      have hnothing : addedFor rendered (Source.aggregatesOf package (.module head items)) = [] := rfl
      rw [reachableItem, Bool.and_eq_true, Bool.or_eq_true, decide_eq_true_iff, List.isEmpty_iff] at hreachable
      obtain ⟨hfirst, hinner⟩ := hreachable
      rw [hnothing, List.append_nil]
      rcases hfirst with hnew | hnone
      · have hinside := addAll_locate hinner [] (by simp) []
        rw [List.nil_append, List.append_nil] at hinside
        rw [Source.locateItem, Strip.item, addAll_inModule fun hmem => hnew (hfront hmem), hinside, Option.map_some,
          List.nil_append, List.append_nil, growItem]
      · have hnone : Source.locateItem package (.module head items) = [] := by
          rw [Source.locateItem, hnone, List.map_nil]
        rw [hnone, growItem_of_locate_eq_nil hnone, addAll]

/-- Adding what belongs to the located aggregates grows every list, when no module with aggregates stands behind
another one of its name. -/
theorem addAll_locate {package : String} {items : List Item} {seen : List String}
    (hreachable : reachable package seen items = true) (front : List Item)
    (hfront : front.flatMap Source.bodyNames ⊆ seen) (back : List Item) :
    addAll rendered (Source.locate package items) (front ++ (Strip.items items ++ back)) =
      some (front ++ (growItems rendered package items ++ back
        ++ addedFor rendered (Source.direct package items))) := by
  cases items with
  | nil => exact congrArg some (by simp [Strip.items, growItems, addedFor, Source.direct])
  | cons item rest =>
      obtain ⟨hitem, hrest⟩ := Bool.and_eq_true_iff.mp hreachable
      -- the item has grown before the rest does, so it belongs to the front then
      have hgrown : (front ++ [growItem rendered package item]).flatMap Source.bodyNames ⊆
          Source.bodyNames item ++ seen := by
        rw [List.flatMap_append, List.flatMap_singleton, bodyNames_growItem]
        refine List.append_subset.mpr ⟨fun name hname => ?_, List.subset_append_left ..⟩
        exact List.mem_append_right _ (hfront hname)
      have hfirst := addAll_locateItem hitem front hfront (Strip.items rest ++ back)
      have hothers := addAll_locate hrest _ hgrown (back ++ addedFor rendered (Source.aggregatesOf package item))
      rw [Source.locate, Strip.items, addAll_append, List.cons_append, hfirst, Option.bind_some]
      simp only [List.append_assoc, List.cons_append, List.nil_append] at hothers ⊢
      rw [hothers, growItems, addedFor_direct_cons, List.cons_append]

end

/-- Adding what belongs to all aggregates of a module grows its items. -/
theorem addAll_eq_grow {package : String} {items : List Item} (hreachable : reachable package [] items = true) :
    addAll rendered (Source.locate package items) (Strip.items items) = some (grow rendered package items) := by
  have hall := @addAll_locate rendered package items [] hreachable [] (by simp) []
  simpa [grow] using hall

end Comparison

end Expansion

end BuilderGen

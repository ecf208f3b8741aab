import BuilderGen.Expansion.Placement
import BuilderGen.Proofs.Source.Items
import BuilderGen.Proofs.Text.Segments

/-!
# Where aggregates are declared

Reading tells an aggregate's module by its qualified name only.  `Source.locate` keeps the way to the list of
items that an aggregate was read from: the names of the modules to enter, from the outside in.  The aggregates of a
reading are the located ones in order, and the segments behind the name of the root module are that way again.
-/

namespace BuilderGen

open Grammar (Item)
open Segments

namespace Source

/-! ## Locations -/

/-- The aggregates that are declared directly in a list of items, and not in a module in it. -/
def direct (package : String) (items : List Item) : List Aggregate :=
  items.flatMap (aggregatesOf package)

/-- The name of a module with a body. -/
def bodyNames : Item → List String
  | .module head _ => [head.name]
  | _ => []

mutual

/-- The aggregates in an item, each with the names of the modules that lead to it. -/
def locateItem (package : String) : Item → List (List String × Aggregate)
  | .struct tree => (aggregatesOf package (.struct tree)).map ([], ·)
  | .enum tree => (aggregatesOf package (.enum tree)).map ([], ·)
  | .module head items =>
      (locate (qualify package head.name) items).map fun place => (head.name :: place.1, place.2)
  | .impl _ | .outline _ | .other _ => []

/-- The aggregates in items, each with the names of the modules that lead to it. -/
def locate (package : String) : List Item → List (List String × Aggregate)
  | [] => []
  | item :: rest => locateItem package item ++ locate package rest

end

mutual

/-- Whether the modules with a body in an item are named by segments. -/
def plainItem : Item → Bool
  | .module head items => decide (IsSegment head.name) && plain items
  | .struct _ | .enum _ | .impl _ | .outline _ | .other _ => true

/-- Whether the modules with a body in items are named by segments. -/
def plain : List Item → Bool
  | [] => true
  | item :: rest => plainItem item && plain rest

end

/-! ## Reading -/

mutual

theorem ofItem_aggregates {package : String} {item : Item} {found : Declarations × List Capability}
    (h : ofItem package item = .ok found) :
    found.1.aggregates = (locateItem package item).map Prod.snd := by
  cases item with
  | struct tree =>
      obtain ⟨declarations, hdeclarations, rfl⟩ := map_eq_ok.mp h
      rw [locateItem, List.map_map]
      exact (ofStruct_eq_ok hdeclarations).aggregates.eq_markedAggregates.trans (List.map_id _).symm
  | enum tree =>
      obtain ⟨declarations, hdeclarations, rfl⟩ := map_eq_ok.mp h
      rw [locateItem, List.map_map]
      exact (ofEnum_eq_ok hdeclarations).aggregates.eq_markedAggregates.trans (List.map_id _).symm
  | module head items =>
      rw [ofItem] at h
      rw [ofItems_aggregates h, locateItem, List.map_map]
      rfl
  | impl _ | outline _ | other _ =>
      cases h
      rfl

/-- The aggregates of a reading are the located ones, in order. -/
theorem ofItems_aggregates {package : String} {items : List Item} {found : Declarations × List Capability}
    (h : ofItems package items = .ok found) :
    found.1.aggregates = (locate package items).map Prod.snd := by
  cases items with
  | nil =>
      cases h
      rfl
  | cons item rest =>
      obtain ⟨first, others, hfirst, hothers, rfl⟩ := ofItems_cons_eq_ok h
      rw [locate, List.map_append, ← ofItem_aggregates hfirst, ← ofItems_aggregates hothers]
      rfl

end

theorem package_of_mem_markedAggregates {package name : String} {attributes : List Grammar.Attribute}
    {seen : Grammar.VisibilityTree} {generic : Bool} {constructors : Except MarkerFault (List Constructor)}
    {aggregate : Aggregate}
    (haggregate : aggregate ∈ markedAggregates package name attributes seen generic constructors) :
    aggregate.package = package := by
  unfold markedAggregates at haggregate
  split at haggregate
  · rw [List.mem_singleton.mp haggregate]
  · cases haggregate

/-- An aggregate belongs to the module in whose list it stands. -/
theorem package_of_mem_aggregatesOf {package : String} {item : Item} {aggregate : Aggregate}
    (haggregate : aggregate ∈ aggregatesOf package item) : aggregate.package = package := by
  cases item with
  | struct _ | enum _ => exact package_of_mem_markedAggregates haggregate
  | module _ _ | impl _ | outline _ | other _ => cases haggregate

/-! ## Packages -/

/-- A location is right: the names that lead to it are segments, and they lead from the outer module to the
aggregate's own. -/
structure Located (package : String) (place : List String × Aggregate) : Prop where
  segments : ∀ name ∈ place.1, IsSegment name
  package : place.2.package = place.1.foldl qualify package

mutual

theorem located_of_mem_locateItem {package : String} {item : Item} (hplain : plainItem item = true) :
    ∀ place ∈ locateItem package item, Located package place := by
  intro place hplace
  cases item with
  | struct _ | enum _ =>
      obtain ⟨aggregate, haggregate, rfl⟩ := List.mem_map.mp hplace
      exact ⟨by simp, package_of_mem_aggregatesOf haggregate⟩
  | module head items =>
      rw [plainItem, Bool.and_eq_true, decide_eq_true_iff] at hplain
      obtain ⟨hname, hitems⟩ := hplain
      obtain ⟨inner, hinner, rfl⟩ := List.mem_map.mp hplace
      have hlocated := located_of_mem_locate hitems inner hinner
      exact ⟨List.forall_mem_cons.mpr ⟨hname, hlocated.segments⟩, hlocated.package⟩
  | impl _ | outline _ | other _ => cases hplace

theorem located_of_mem_locate {package : String} {items : List Item} (hplain : plain items = true) :
    ∀ place ∈ locate package items, Located package place := by
  cases items with
  | nil => simp [locate]
  | cons item rest =>
      obtain ⟨hitem, hrest⟩ := Bool.and_eq_true_iff.mp hplain
      intro place hplace
      rcases List.mem_append.mp hplace with hplace | hplace
      · exact located_of_mem_locateItem hitem place hplace
      · exact located_of_mem_locate hrest place hplace

end

end Source

/-! ## The way back from a package -/

namespace Segments

/-- The characters of names, each behind a separator. -/
def behindAll (names : List String) : List Char :=
  names.flatMap fun name => ':' :: ':' :: name.toList

theorem splitList_behindAll {piece : List Char} (hpiece : ':' ∉ piece) {names : List String}
    (hnames : ∀ name ∈ names, IsSegment name) :
    splitList (piece ++ behindAll names) = piece :: names.map String.toList := by
  induction names generalizing piece with
  | nil => rw [behindAll, List.flatMap_nil, List.append_nil, splitList_of_colon_notMem hpiece, List.map_nil]
  | cons name rest ih =>
      obtain ⟨hname, hrest⟩ := List.forall_mem_cons.mp hnames
      have hcons : behindAll (name :: rest) = ':' :: ':' :: (name.toList ++ behindAll rest) := by
        rw [behindAll, List.flatMap_cons]
        rfl
      rw [hcons, splitList_append hpiece, ih hname.colon hrest, List.map_cons]

/-- Names behind separators, or without one in front of the first, are the segments of a package. -/
theorem ofPackage_behindAll {names : List String} (hnames : ∀ name ∈ names, IsSegment name) :
    ofPackage (String.ofList (behindAll names)) = names ∧
      ∀ name, IsSegment name → ofPackage (String.ofList (name.toList ++ behindAll names)) = name :: names := by
  have hself : (names.map String.toList).map String.ofList = names := by
    rw [List.map_map]
    exact List.map_id'' (fun name => String.ofList_toList) names
  have hfilter : ∀ segments : List String, (∀ name ∈ segments, IsSegment name) →
      segments.filter (· ≠ "") = segments := fun segments hsegments =>
    List.filter_eq_self.mpr fun name hname => by simpa using (hsegments name hname).nonempty
  constructor
  · have hsplit := @splitList_behindAll [] (by simp) names hnames
    rw [List.nil_append] at hsplit
    rw [ofPackage, split, String.toList_ofList, hsplit, List.map_cons, hself,
      List.filter_cons_of_neg (by decide), hfilter names hnames]
  · intro name hname
    rw [ofPackage, split, String.toList_ofList, splitList_behindAll hname.colon hnames, List.map_cons, hself,
      String.ofList_toList, hfilter _ (List.forall_mem_cons.mpr ⟨hname, hnames⟩)]

theorem toList_foldl_qualify {package : String} (hpackage : package ≠ "") (names : List String) :
    (names.foldl qualify package).toList = package.toList ++ behindAll names := by
  induction names generalizing package with
  | nil => rw [List.foldl_nil, behindAll, List.flatMap_nil, List.append_nil]
  | cons name rest ih =>
      have hqualify : qualify package name = package ++ "::" ++ name := if_neg hpackage
      have hne : qualify package name ≠ "" := by
        rw [hqualify]
        intro hempty
        exact hpackage (by simpa using congrArg String.toList hempty)
      rw [List.foldl_cons, ih hne, hqualify, String.toList_append, String.toList_append, behindAll, behindAll,
        List.flatMap_cons]
      simp

end Segments

/-- The segments behind the root of a package are the names that lead to it. -/
theorem Placement.segments?_foldl_qualify (root : String) {names : List String}
    (hnames : ∀ name ∈ names, IsSegment name) :
    segments? root (names.foldl qualify root) = some names := by
  by_cases hroot : root = ""
  · subst hroot
    have hstart : ("" : String).toList.isPrefixOf (names.foldl qualify "").toList = true := by simp
    rw [segments?, if_pos hstart]
    cases names with
    | nil => rfl
    | cons name rest =>
        obtain ⟨hname, hrest⟩ := List.forall_mem_cons.mp hnames
        have hqualify : qualify "" name = name := if_pos rfl
        rw [List.foldl_cons, hqualify, toList_foldl_qualify hname.nonempty]
        exact congrArg some ((ofPackage_behindAll hrest).2 name hname)
  · have hstart : root.toList.isPrefixOf (names.foldl qualify root).toList = true := by
      rw [toList_foldl_qualify hroot]
      exact List.isPrefixOf_iff_prefix.mpr (List.prefix_append ..)
    rw [segments?, if_pos hstart, toList_foldl_qualify hroot, List.drop_left, (ofPackage_behindAll hnames).1]

end BuilderGen

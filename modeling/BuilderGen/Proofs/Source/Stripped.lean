import BuilderGen.Proofs.Grammar.Shape
import BuilderGen.Proofs.Source.Malformed
import BuilderGen.Source.Strip

/-!
# Items without markers

Markers are dropped from the places at which they are read.  What is left is said from two sides.

* Dropping the markers keeps the shape of items, and filters the attributes at every place.
* Reading finds without the markers what it finds with them, apart from what they add: the same enumerations, the same
  providers without their mark, and no aggregates.  `Source.ofItems_strip` computes it, so such a reading never fails.
  Marks play no part in who gets a capability (`Capability.attachAll_unmarked`).
-/

namespace BuilderGen

open Grammar (Attribute FieldsTree StructTree EnumTree VariantTree Item shape attributeLists)

/-! ## Dropping the markers -/

namespace Marker

theorem strip_strip (attributes : List Attribute) : strip (strip attributes) = strip attributes := by
  rw [strip, strip, List.filter_filter]
  simp

/-- No marker is found behind a strip. -/
theorem find?_strip {marker : String} (hmarker : marker ∈ names) (attributes : List Attribute) :
    find? (strip attributes) marker = .ok none := by
  have hnone : (strip attributes).filter (·.path.isName marker) = [] := by
    rw [List.filter_eq_nil_iff]
    intro attr hattr hname
    have hmarked : isMarker attr = true := List.any_eq_true.mpr ⟨marker, hmarker, hname⟩
    simpa [hmarked] using (List.mem_filter.mp hattr).2
  rw [find?, hnone]

theorem builder?_strip (attributes : List Attribute) : builder? (strip attributes) = .ok none := by
  rw [builder?, find?_strip (by decide)]
  rfl

theorem provides_strip (attributes : List Attribute) : provides (strip attributes) = .ok false := by
  rw [provides, find?_strip (by decide)]
  rfl

end Marker

namespace Strip

mutual

theorem item_eq_mapAttributes (item : Item) : Strip.item item = item.mapAttributes Marker.strip := by
  cases item with
  | module head items => exact congrArg (Item.module head) (items_eq_mapAttributes items)
  | struct _ | enum _ | impl _ | outline _ | other _ => rfl

/-- The markers are dropped from all attributes of items, and nothing else is changed. -/
theorem items_eq_mapAttributes (items : List Item) :
    Strip.items items = Item.listMapAttributes Marker.strip items := by
  cases items with
  | nil => rfl
  | cons item rest => exact congrArg₂ List.cons (item_eq_mapAttributes item) (items_eq_mapAttributes rest)

end

theorem items_items (items : List Item) : Strip.items (Strip.items items) = Strip.items items := by
  have hstrip : Marker.strip ∘ Marker.strip = Marker.strip := funext Marker.strip_strip
  simp only [items_eq_mapAttributes, Item.listMapAttributes_comp, hstrip]

theorem shape_items (items : List Item) : shape (Strip.items items) = shape items := by
  rw [items_eq_mapAttributes, shape, Item.listMapAttributes_comp]
  rfl

theorem attributeLists_items (items : List Item) :
    attributeLists (Strip.items items) = (attributeLists items).map Marker.strip := by
  rw [items_eq_mapAttributes, Grammar.attributeLists_listMapAttributes]

end Strip

/-! ## Reading what is left -/

/-- A provider without its mark. -/
def Provider.unmarked (provider : Provider) : Provider :=
  { provider with marked := false }

/-- Declarations without what markers add to them. -/
def Declarations.unmarked (declarations : Declarations) : Declarations where
  providers := declarations.providers.map Provider.unmarked
  enumerations := declarations.enumerations

/-- What has been read without what markers add to it. -/
def Reading.unmarked (reading : Reading) : Reading :=
  { reading with declarations := reading.declarations.unmarked }

namespace Source

/-- The enumerations in items. -/
def enumerations (package : String) (items : List Item) : List Enumeration :=
  (placed package items).flatMap fun place => enumerationsOf place.1 place.2

mutual

theorem ofItem_enumerations {package : String} {item : Item} {found : Declarations × List Capability}
    (h : ofItem package item = .ok found) :
    found.1.enumerations = (placedItem package item).flatMap fun place => enumerationsOf place.1 place.2 := by
  cases item with
  | struct item =>
      obtain ⟨declarations, hdeclarations, rfl⟩ := map_eq_ok.mp h
      exact (ofStruct_eq_ok hdeclarations).enumerations
  | enum item =>
      obtain ⟨declarations, hdeclarations, rfl⟩ := map_eq_ok.mp h
      exact (ofEnum_eq_ok hdeclarations).enumerations.trans (List.append_nil _).symm
  | module head items => exact ofItems_enumerations h
  | impl _ | outline _ | other _ =>
      cases h
      rfl

/-- The enumerations that are found do not depend on markers. -/
theorem ofItems_enumerations {package : String} {items : List Item} {found : Declarations × List Capability}
    (h : ofItems package items = .ok found) : found.1.enumerations = enumerations package items := by
  cases items with
  | nil =>
      cases h
      rfl
  | cons item rest =>
      obtain ⟨first, others, hfirst, hothers, rfl⟩ := ofItems_cons_eq_ok h
      rw [enumerations, placed, List.flatMap_append, ← ofItem_enumerations hfirst, ← enumerations,
        ← ofItems_enumerations hothers]
      rfl

end

/-- What is found in the items at these places when there are no markers. -/
def foundUnmarked (places : List (String × Item)) : Declarations × List Capability :=
  ({ providers := (places.flatMap fun place => providersOf place.1 place.2).map Provider.unmarked
     enumerations := places.flatMap fun place => enumerationsOf place.1 place.2 },
    places.flatMap fun place => implementationsOf place.1 place.2)

theorem foundUnmarked_append (front back : List (String × Item)) :
    foundUnmarked (front ++ back) =
      ((foundUnmarked front).1 ++ (foundUnmarked back).1, (foundUnmarked front).2 ++ (foundUnmarked back).2) := by
  simp only [foundUnmarked, List.flatMap_append, List.map_append]
  rfl

/-- There is nothing left to take from it. -/
theorem unmarked_foundUnmarked (places : List (String × Item)) :
    (foundUnmarked places).1.unmarked = (foundUnmarked places).1 := by
  have hunmarked : Provider.unmarked ∘ Provider.unmarked = Provider.unmarked := rfl
  simp only [Declarations.unmarked, foundUnmarked, List.map_map, hunmarked]

theorem ofStruct_strip (package : String) (item : StructTree) :
    ofStruct package (Strip.struct item) = .ok { providers := [(providerOf package item).unmarked] } := by
  simp only [ofStruct, Strip.struct, Marker.provides_strip, Marker.builder?_strip, FieldsTree.isUnit_map]
  rfl

theorem ofEnum_strip (package : String) (item : EnumTree) :
    ofEnum package (Strip.enum item) = .ok { enumerations := enumerationsOf package (.enum item) } := by
  have hunit : (item.variants.map Strip.variant).all (·.fields.isUnit) = item.variants.all (·.fields.isUnit) := by
    simp only [List.all_map, Function.comp_def, Strip.variant, FieldsTree.isUnit_map]
  have hnames : (item.variants.map Strip.variant).map VariantTree.name = item.variants.map VariantTree.name := by
    rw [List.map_map]
    rfl
  simp only [ofEnum, Strip.enum, Marker.builder?_strip, hunit, hnames]
  rfl

mutual

theorem ofItem_strip (package : String) (item : Item) :
    ofItem package (Strip.item item) = .ok (foundUnmarked (placedItem package item)) := by
  cases item with
  | struct item =>
      rw [Strip.item, ofItem, ofStruct_strip]
      rfl
  | enum item =>
      rw [Strip.item, ofItem, ofEnum_strip, placedItem]
      simp only [foundUnmarked, List.flatMap_singleton]
      rfl
  | module head items => exact ofItems_strip _ items
  | impl item =>
      rw [Strip.item, ofItem, ofImpl_eq, placedItem]
      simp only [foundUnmarked, List.flatMap_singleton]
      rfl
  | outline _ | other _ => rfl

/-- Without markers reading never fails, and finds what does not depend on them. -/
theorem ofItems_strip (package : String) (items : List Item) :
    ofItems package (Strip.items items) = .ok (foundUnmarked (placed package items)) := by
  cases items with
  | nil => rfl
  | cons item rest =>
      rw [Strip.items, ofItems, ofItem_strip package item, placed, foundUnmarked_append]
      exact bind_eq_ok.mpr ⟨_, rfl, bind_eq_ok.mpr ⟨_, ofItems_strip package rest, rfl⟩⟩

end

/-- What markers do not add to is what is found without them. -/
theorem foundUnmarked_of_ok {package : String} {items : List Item} {found : Declarations × List Capability}
    (h : ofItems package items = .ok found) :
    foundUnmarked (placed package items) = (found.1.unmarked, found.2) := by
  have hfound := ofItems_found h
  rw [foundUnmarked, ← hfound.providers, ← hfound.capabilities, ← enumerations, ← ofItems_enumerations h]
  rfl

end Source

/-! ## Capabilities of unmarked providers -/

namespace Capability

theorem attach?_unmarked (capability : Capability) (providers : List Provider) :
    capability.attach? (providers.map Provider.unmarked) =
      (capability.attach? providers).map (List.map Provider.unmarked) := by
  induction providers with
  | nil => rfl
  | cons provider rest ih =>
      have hbelongs : capability.belongsTo provider.unmarked = capability.belongsTo provider := rfl
      rw [List.map_cons, attach?, attach?, ih, hbelongs]
      cases capability.attach? rest with
      | some after => rfl
      | none => cases capability.belongsTo provider <;> rfl

/-- Marks play no part in who gets a capability. -/
theorem attachAll_unmarked (pending : List Capability) (providers : List Provider) :
    attachAll pending (providers.map Provider.unmarked) =
      ((attachAll pending providers).1.map Provider.unmarked, (attachAll pending providers).2) := by
  induction pending generalizing providers with
  | nil => rfl
  | cons capability rest ih =>
      rw [attachAll, attachAll, attach?_unmarked]
      cases capability.attach? providers with
      | some after => exact ih after
      | none =>
          dsimp only [Option.map_none]
          rw [ih providers]

end Capability

namespace Reading

theorem unmarked_add (found : Declarations) (capabilities : List Capability) :
    (({} : Reading).add found capabilities).unmarked = ({} : Reading).add found.unmarked capabilities := by
  have hproviders : (({} : Declarations) ++ found.unmarked).providers =
      (({} : Declarations) ++ found).providers.map Provider.unmarked := rfl
  simp only [add, unmarked, hproviders, Capability.attachAll_unmarked]
  rfl

/-- Items that can be read on their own are added to nothing. -/
theorem ofItems_eq_ok {package : String} {items : List Item} {found : Declarations × List Capability}
    (h : Source.ofItems package items = .ok found) :
    Reading.ofItems package items = .ok (({} : Reading).add found.1 found.2) := by
  rw [Reading.ofItems, extend, readItems_run, h]

/-- Without markers a reading never fails.  Of what it finds with them, only the marks and the aggregates are gone. -/
theorem exists_ofItems_strip (package : String) (items : List Item) :
    ∃ reading, Reading.ofItems package (Strip.items items) = .ok reading ∧
      reading.declarations.aggregates = [] ∧ (∀ provider ∈ reading.declarations.providers, provider.marked = false) ∧
      ∀ original, Reading.ofItems package items = .ok original → reading = original.unmarked := by
  have hread := ofItems_eq_ok (Source.ofItems_strip package items)
  refine ⟨_, hread, rfl, ?_, fun original horiginal => ?_⟩
  · rw [← Source.unmarked_foundUnmarked, ← unmarked_add]
    intro provider hprovider
    obtain ⟨marked, _, rfl⟩ := List.mem_map.mp hprovider
    rfl
  · obtain ⟨found, capabilities, hfound, rfl⟩ := extend_eq_ok horiginal
    rw [unmarked_add, Source.foundUnmarked_of_ok hfound]

end Reading

namespace Strip

/-- No attribute of stripped items is a marker. -/
theorem not_isName_of_mem {items : List Item} {attributes : List Attribute}
    (hattributes : attributes ∈ attributeLists (Strip.items items)) {attr : Attribute} (hattr : attr ∈ attributes)
    {marker : String} (hmarker : marker ∈ Marker.names) : attr.path.isName marker = false := by
  rw [attributeLists_items] at hattributes
  obtain ⟨written, _, rfl⟩ := List.mem_map.mp hattributes
  have hkept := (List.mem_filter.mp hattr).2
  rw [Bool.not_eq_true', Marker.isMarker, List.any_eq_false] at hkept
  exact Bool.eq_false_iff.mpr (hkept marker hmarker)

/-- Dropping the markers of items.

Doing it again changes nothing.  The outcome is the one tree of the same shape in which the attributes at every place
are those that are no markers, in order, so no marker is left on a struct, an enum, a variant or a field.  The outcome
can always be read.  There are no aggregates in it and no marked providers, and if the items could be read themselves,
their enumerations, their providers with their capabilities, and the capabilities that wait are all there, in order. -/
theorem items_without_markers (package : String) (items : List Item) :
    Strip.items (Strip.items items) = Strip.items items ∧
      (∀ tree, tree = Strip.items items ↔
        shape tree = shape items ∧
          attributeLists tree = (attributeLists items).map (List.filter fun attr => !Marker.isMarker attr)) ∧
      (∀ attributes ∈ attributeLists (Strip.items items), ∀ attr ∈ attributes, ∀ marker ∈ Marker.names,
        attr.path.isName marker = false) ∧
      ∃ reading, Reading.ofItems package (Strip.items items) = .ok reading ∧
        reading.declarations.aggregates = [] ∧
        (∀ provider ∈ reading.declarations.providers, provider.marked = false) ∧
        ∀ original, Reading.ofItems package items = .ok original → reading = original.unmarked := by
  refine ⟨items_items items, fun tree => ⟨?_, ?_⟩, ?_, Reading.exists_ofItems_strip package items⟩
  · rintro rfl
    exact ⟨shape_items items, attributeLists_items items⟩
  · rintro ⟨hshape, hattributes⟩
    refine Grammar.eq_of_shape (hshape.trans (shape_items items).symm) ?_
    rw [hattributes, attributeLists_items]
    rfl
  · exact fun attributes hattributes attr hattr marker hmarker => not_isName_of_mem hattributes hattr hmarker

end Strip

end BuilderGen

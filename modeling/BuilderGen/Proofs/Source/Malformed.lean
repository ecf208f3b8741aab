import BuilderGen.Execution.Shop
import BuilderGen.Proofs.Source.Calls

/-!
# Malformed markers

Reading stops at the first malformed marker.  `Source.markersRead` lists the markers that are read of an item, in
the order in which they are, and `Reading.ofItems_eq_error_iff` says that a reading fails with the fault of the
first malformed one of them.  Every function that reads a part of an item contributes its own part of the list.

Not every marker is read.  The markers on the fields of an item without the builder marker are passed over, even
when they are malformed, as in `Shop.misspelled_passes`.  Apart from them, a reading fails just when a marker is
malformed.
-/

namespace BuilderGen

open Grammar (Attribute FieldTree FieldsTree StructTree EnumTree VariantTree Item)

namespace Source

/-! ## The markers of an item -/

/-- A marker that may stand among the attributes of an item or of a field. -/
inductive MarkerPlace where
  | builder (attributes : List Attribute)
  | provides (attributes : List Attribute)
  | setter (attributes : List Attribute)
  | optional (attributes : List Attribute)

/-- Why a marker is refused, if it is malformed. -/
def MarkerPlace.fault? : MarkerPlace → Option MarkerFault
  | builder attributes => error? (Marker.builder? attributes)
  | provides attributes => error? (Marker.provides attributes)
  | setter attributes => error? (Marker.setter? attributes)
  | optional attributes => error? (Marker.marking attributes)

/-- The markers on a field. -/
def fieldMarkers (field : FieldTree) : List MarkerPlace :=
  [.setter field.attributes, .optional field.attributes]

/-- The fields that have names. -/
def namedFields (fields : List FieldTree) : List FieldTree :=
  fields.filter (·.name.isSome)

/-- The named fields of an item.  There are none in a struct without braces, and none in an enum all of whose
variants are positional. -/
def namedFieldsOf : Item → List FieldTree
  | .struct item =>
      match item.fields with
      | .named fields => namedFields fields
      | .positional _ | .unit => []
  | .enum item =>
      if item.variants.any (!·.fields.isPositional) then
        item.variants.flatMap fun variant => namedFields variant.fields.toList
      else
        []
  | .module _ _ | .impl _ | .outline _ | .other _ => []

/-- The markers on the item itself. -/
def ownMarkers : Item → List MarkerPlace
  | .struct item => [.provides item.attributes, .builder item.attributes]
  | .enum item => [.builder item.attributes]
  | .module _ _ | .impl _ | .outline _ | .other _ => []

/-- Whether the builder marker stands among attributes, well formed or not. -/
def asksForBuilder (attributes : List Attribute) : Bool :=
  match Marker.builder? attributes with
  | .ok none => false
  | .ok (some _) | .error _ => true

/-- Whether an item is a struct or an enum with the builder marker. -/
def isAggregate : Item → Bool
  | .struct item => asksForBuilder item.attributes
  | .enum item => asksForBuilder item.attributes
  | .module _ _ | .impl _ | .outline _ | .other _ => false

/-- The markers of an item, on itself and on its fields. -/
def markers (item : Item) : List MarkerPlace :=
  ownMarkers item ++ (namedFieldsOf item).flatMap fieldMarkers

/-- The markers that are read of an item, in order.  Those on fields are read of aggregates only. -/
def markersRead (item : Item) : List MarkerPlace :=
  ownMarkers item ++ if isAggregate item then (namedFieldsOf item).flatMap fieldMarkers else []

/-- The fault of the first malformed marker. -/
def firstFault? (places : List MarkerPlace) : Option MarkerFault :=
  places.findSome? MarkerPlace.fault?

theorem firstFault?_cons (place : MarkerPlace) (rest : List MarkerPlace) :
    firstFault? (place :: rest) = place.fault?.or (firstFault? rest) := by
  rw [firstFault?, List.findSome?_cons]
  cases place.fault? <;> rfl

theorem firstFault?_append (front back : List MarkerPlace) :
    firstFault? (front ++ back) = (firstFault? front).or (firstFault? back) :=
  List.findSome?_append

/-! ## Fields -/

theorem error?_parameter (name : String) (field : FieldTree) :
    error? (parameter name field) = firstFault? (fieldMarkers field) := by
  rw [parameter, fieldMarkers, firstFault?_cons, firstFault?_cons]
  refine error?_bind fun setterName _ => ?_
  exact (error?_bind_of_ok fun _ => ⟨_, rfl⟩).trans Option.or_none.symm

/-- The markers of fields are read field by field. -/
theorem error?_parameters (fields : FieldsTree) :
    error? (parameters fields) = firstFault? ((namedFields fields.toList).flatMap fieldMarkers) := by
  rw [parameters, error?_mapM, firstFault?, findSome?_flatMap, namedFields]
  induction fields.toList with
  | nil => rfl
  | cons field rest ih =>
      cases hname : field.name with
      | none =>
          rw [List.filterMap_cons_none (by rw [hname]; rfl), List.filter_cons_of_neg (by simp [hname]), ih]
      | some name =>
          rw [List.filterMap_cons_some (by rw [hname]; rfl), List.filter_cons_of_pos (by simp [hname]),
            List.findSome?_cons, List.findSome?_cons, ih, error?_parameter]
          rfl

theorem error?_structConstructors (item : StructTree) :
    error? (structConstructors item) = firstFault? ((namedFieldsOf (.struct item)).flatMap fieldMarkers) := by
  rw [structConstructors, namedFieldsOf]
  cases hfields : item.fields with
  | named fields => rw [error?_map, error?_parameters, FieldsTree.toList]
  | positional fields => rfl
  | unit => rfl

theorem error?_enumConstructors (item : EnumTree) :
    error? (enumConstructors item) = firstFault? ((namedFieldsOf (.enum item)).flatMap fieldMarkers) := by
  rw [enumConstructors, namedFieldsOf]
  split
  · rw [error?_mapM, List.flatMap_assoc, firstFault?, findSome?_flatMap]
    refine congrArg (List.findSome? · item.variants) (funext fun variant => ?_)
    rw [error?_map, error?_parameters, firstFault?]
  · rfl

/-! ## Items -/

/-- Behind the builder marker of an item, the markers of its fields are read if there is one. -/
theorem error?_aggregate {attributes : List Attribute}
    {found : Option (Option String) → Except MarkerFault Declarations} {fieldPlaces : List MarkerPlace}
    (hnone : ∃ declarations, found none = .ok declarations)
    (hsome : ∀ name, error? (found (some name)) = firstFault? fieldPlaces) :
    error? (Marker.builder? attributes >>= found) =
      firstFault? (.builder attributes :: if asksForBuilder attributes then fieldPlaces else []) := by
  rw [firstFault?_cons, MarkerPlace.fault?, asksForBuilder]
  cases Marker.builder? attributes with
  | error fault => rfl
  | ok builder =>
      cases builder with
      | none =>
          obtain ⟨declarations, hdeclarations⟩ := hnone
          exact congrArg error? hdeclarations
      | some name => exact hsome name

theorem error?_ofStruct (package : String) (item : StructTree) :
    error? (ofStruct package item) = firstFault? (markersRead (.struct item)) := by
  rw [ofStruct, markersRead, ownMarkers, isAggregate, List.cons_append, List.singleton_append, firstFault?_cons]
  refine error?_bind fun marked _ => error?_aggregate ⟨_, rfl⟩ fun name => ?_
  rw [← error?_structConstructors]
  exact error?_bind_of_ok fun _ => ⟨_, rfl⟩

theorem error?_ofEnum (package : String) (item : EnumTree) :
    error? (ofEnum package item) = firstFault? (markersRead (.enum item)) := by
  rw [ofEnum, markersRead, ownMarkers, isAggregate, List.singleton_append]
  refine error?_aggregate ⟨_, rfl⟩ fun name => ?_
  rw [← error?_enumConstructors]
  exact error?_bind_of_ok fun _ => ⟨_, rfl⟩

mutual

theorem error?_ofItem (package : String) (item : Item) :
    error? (ofItem package item) =
      firstFault? ((placedItem package item).flatMap fun place => markersRead place.2) := by
  cases item with
  | struct item =>
      rw [ofItem, error?_map, error?_ofStruct, placedItem, List.flatMap_singleton]
  | enum item =>
      rw [ofItem, error?_map, error?_ofEnum, placedItem, List.flatMap_singleton]
  | module head items =>
      rw [ofItem, placedItem]
      exact error?_ofItems _ items
  | impl item => rfl
  | outline head => rfl
  | other tokens => rfl

/-- The markers of items are read item by item, also inside of modules. -/
theorem error?_ofItems (package : String) (items : List Item) :
    error? (ofItems package items) =
      firstFault? ((placed package items).flatMap fun place => markersRead place.2) := by
  cases items with
  | nil => rfl
  | cons item rest =>
      rw [ofItems, placed, List.flatMap_append, firstFault?_append, ← error?_ofItem, ← error?_ofItems]
      exact error?_bind fun _ _ => error?_bind_of_ok fun _ => ⟨_, rfl⟩

end

theorem markersRead_subset (item : Item) : markersRead item ⊆ markers item := by
  rw [markersRead, markers]
  split
  · exact List.Subset.refl _
  · rw [List.append_nil]
    exact List.subset_append_left _ _

/-! ## Items without malformed markers -/

theorem fault?_fieldMarkers {fields : List FieldTree} (hmarked : fields.all wellMarkedField = true) :
    ∀ marker ∈ (namedFields fields).flatMap fieldMarkers, marker.fault? = none := by
  intro marker hmarker
  obtain ⟨field, hfield, hmarker⟩ := List.mem_flatMap.mp hmarker
  obtain ⟨hmem, hnamed⟩ := List.mem_filter.mp hfield
  have hwell := List.all_eq_true.mp hmarked field hmem
  rw [wellMarkedField, Option.isNone_eq_false_iff.mpr hnamed, Bool.false_or, Bool.and_eq_true, isOk_iff, isOk_iff]
    at hwell
  rw [fieldMarkers, List.mem_pair] at hmarker
  rcases hmarker with rfl | rfl
  · exact error?_eq_none.mpr hwell.1
  · exact error?_eq_none.mpr hwell.2

theorem fault?_markers_struct {item : StructTree} (hmarked : wellMarkedItem (.struct item) = true) :
    ∀ marker ∈ markers (.struct item), marker.fault? = none := by
  rw [wellMarkedItem, Bool.and_eq_true, Bool.and_eq_true, isOk_iff, isOk_iff] at hmarked
  obtain ⟨⟨hbuilder, hprovides⟩, hfields⟩ := hmarked
  rw [markers, ownMarkers, namedFieldsOf, List.forall_mem_append, List.forall_mem_cons, List.forall_mem_singleton]
  refine ⟨⟨error?_eq_none.mpr hprovides, error?_eq_none.mpr hbuilder⟩, ?_⟩
  cases hshape : item.fields with
  | named fields =>
      rw [hshape] at hfields
      exact fault?_fieldMarkers hfields
  | positional fields => exact List.forall_mem_nil _
  | unit => exact List.forall_mem_nil _

theorem fault?_markers_enum {item : EnumTree} (hmarked : wellMarkedItem (.enum item) = true) :
    ∀ marker ∈ markers (.enum item), marker.fault? = none := by
  rw [wellMarkedItem, Bool.and_eq_true, isOk_iff] at hmarked
  obtain ⟨hbuilder, hvariants⟩ := hmarked
  rw [markers, ownMarkers, namedFieldsOf, List.forall_mem_append, List.forall_mem_singleton]
  refine ⟨error?_eq_none.mpr hbuilder, ?_⟩
  split
  · rw [List.flatMap_assoc]
    intro marker hmarker
    obtain ⟨variant, hvariant, hmarker⟩ := List.mem_flatMap.mp hmarker
    exact fault?_fieldMarkers (List.all_eq_true.mp hvariants variant hvariant) marker hmarker
  · exact List.forall_mem_nil _

mutual

theorem fault?_of_wellMarkedItem {package : String} {item : Item} (hmarked : wellMarkedItem item = true) :
    ∀ place ∈ placedItem package item, ∀ marker ∈ markers place.2, marker.fault? = none := by
  cases item with
  | struct item => exact List.forall_mem_singleton.mpr (fault?_markers_struct hmarked)
  | enum item => exact List.forall_mem_singleton.mpr (fault?_markers_enum hmarked)
  | module head items => exact fault?_of_wellMarked hmarked
  | impl _ | outline _ | other _ => exact List.forall_mem_singleton.mpr (List.forall_mem_nil _)

/-- No marker of items that are well marked is malformed, also inside of modules. -/
theorem fault?_of_wellMarked {package : String} {items : List Item} (hmarked : wellMarked items = true) :
    ∀ place ∈ placed package items, ∀ marker ∈ markers place.2, marker.fault? = none := by
  cases items with
  | nil => exact List.forall_mem_nil _
  | cons item rest =>
      obtain ⟨hitem, hrest⟩ := Bool.and_eq_true_iff.mp hmarked
      exact List.forall_mem_append.mpr ⟨fault?_of_wellMarkedItem hitem, fault?_of_wellMarked hrest⟩

end

/-- Items with well-formed markers can be read. -/
theorem exists_ofItems {items : List Item} (package : String) (hmarked : wellMarked items = true) :
    ∃ found, ofItems package items = .ok found := by
  rw [← error?_eq_none, error?_ofItems, firstFault?, List.findSome?_eq_none_iff]
  intro marker hmarker
  obtain ⟨place, hplace, hread⟩ := List.mem_flatMap.mp hmarker
  exact fault?_of_wellMarked hmarked place hplace marker (markersRead_subset place.2 hread)

end Source

namespace Reading

open Source

/-- A reading of items fails when reading the items does. -/
theorem error?_ofItems (package : String) (items : List Item) :
    error? (Reading.ofItems package items) = error? (Source.ofItems package items) := by
  rw [Reading.ofItems, extend, readItems_run]
  cases Source.ofItems package items <;> rfl

/-- A marker is malformed, and its fault is the first one, just when there is such a marker at all. -/
theorem exists_firstFault?_iff {places : List MarkerPlace} :
    (∃ fault, firstFault? places = some fault) ↔ ∃ marker ∈ places, marker.fault? ≠ none := by
  rw [← Option.isSome_iff_exists, firstFault?, List.findSome?_isSome_iff]
  simp only [Option.isSome_iff_ne_none]

/-- A reading fails with the fault of the first malformed marker that is read.  Where the markers on the fields of
items without the builder marker are well formed, it fails just when some marker is malformed: the builder marker
of a struct or an enum, the provider marker of a struct, or one of the two markers of a named field. -/
theorem ofItems_eq_error_iff (package : String) (items : List Item) :
    (∀ fault, Reading.ofItems package items = .error fault ↔
        firstFault? ((placed package items).flatMap fun place => markersRead place.2) = some fault) ∧
      ((∀ place ∈ placed package items, isAggregate place.2 = false →
          ∀ field ∈ namedFieldsOf place.2, ∀ marker ∈ fieldMarkers field, marker.fault? = none) →
        ((∃ fault, Reading.ofItems package items = .error fault) ↔
          ∃ place ∈ placed package items, ∃ marker ∈ markers place.2, marker.fault? ≠ none)) := by
  have hfails : ∀ fault, Reading.ofItems package items = .error fault ↔
      firstFault? ((placed package items).flatMap fun place => markersRead place.2) = some fault := by
    intro fault
    rw [← error?_eq_some, error?_ofItems, Source.error?_ofItems]
  refine ⟨hfails, fun hfields => ?_⟩
  rw [exists_congr hfails, exists_firstFault?_iff]
  constructor
  · rintro ⟨marker, hmarker, hfault⟩
    obtain ⟨place, hplace, hread⟩ := List.mem_flatMap.mp hmarker
    exact ⟨place, hplace, marker, markersRead_subset place.2 hread, hfault⟩
  · rintro ⟨place, hplace, marker, hmarker, hfault⟩
    refine ⟨marker, List.mem_flatMap.mpr ⟨place, hplace, ?_⟩, hfault⟩
    rw [markersRead]
    rcases List.mem_append.mp hmarker with hown | hfield
    · exact List.mem_append_left _ hown
    · obtain ⟨field, hnamed, hmem⟩ := List.mem_flatMap.mp hfield
      cases haggregate : isAggregate place.2 with
      | true => exact List.mem_append_right _ hfield
      | false => exact absurd (hfields place hplace haggregate field hnamed marker hmem) hfault

end Reading

/-! ## A sample -/

namespace Shop

open Grammar

/-- A field with an optional value, which may be omitted if the argument of its marker says so. -/
def lengthField (argument : String) : FieldTree where
  attributes := [{ path := { names := ["optional"] }, body := .list .parenthesis [.word argument] }]
  visibility := .inherited
  name := some "length"
  type := .path false [.mk "Option" (.angle false [.type (.path false [.mk "u8" .none]) false])]
  comma := false

/-- A struct with such a field. -/
def plank (attributes : List Attribute) (argument : String) : Item :=
  .struct
    { attributes, visibility := .everywhere, name := "Plank", generics := [], constraints := [],
      fields := .named [lengthField argument] }

/-- The builder marker without arguments. -/
def builderMarker : Attribute where
  path := { names := ["builder"] }
  body := .bare

theorem optional_mem_markers (attributes : List Attribute) (argument : String) :
    .optional (lengthField argument).attributes ∈ Source.markers (plank attributes argument) := by
  refine List.mem_append_right _ (List.mem_flatMap.mpr ⟨lengthField argument, ?_, ?_⟩)
  · exact List.mem_singleton_self _
  · exact List.mem_cons_of_mem _ (List.mem_singleton_self _)

/-- A struct without the builder marker, whose field has a well-formed marker. -/
def board : Item :=
  .struct
    { attributes := [], visibility := .everywhere, name := "Board", generics := [], constraints := [],
      fields := .named [lengthField "nullable"] }

/-- In an aggregate a misspelled argument is found. -/
theorem misspelled_fails :
    (∀ place ∈ Source.placed "shop" [board, plank [builderMarker] "nulable"], Source.isAggregate place.2 = false →
        ∀ field ∈ Source.namedFieldsOf place.2, ∀ marker ∈ Source.fieldMarkers field, marker.fault? = none) ∧
      ∃ fault, Reading.ofItems "shop" [board, plank [builderMarker] "nulable"] = .error fault := by
  have hfields : ∀ place ∈ Source.placed "shop" [board, plank [builderMarker] "nulable"],
      Source.isAggregate place.2 = false →
        ∀ field ∈ Source.namedFieldsOf place.2, ∀ marker ∈ Source.fieldMarkers field, marker.fault? = none := by
    intro place hplace haggregate
    rcases List.mem_pair.mp hplace with rfl | rfl
    · decide +kernel
    · cases haggregate
  refine ⟨hfields, ((Reading.ofItems_eq_error_iff "shop" _).2 hfields).mpr ?_⟩
  exact ⟨_, List.mem_cons_of_mem _ (List.mem_singleton_self _), _, optional_mem_markers _ _, by decide +kernel⟩

/-- In any other struct it is passed over. -/
theorem misspelled_passes :
    (∃ reading, Reading.ofItems "shop" [plank [] "nulable"] = .ok reading) ∧
      ∃ place ∈ Source.placed "shop" [plank [] "nulable"], ∃ marker ∈ Source.markers place.2,
        marker.fault? = some (.unknownKey "optional" "nulable") :=
  ⟨⟨_, rfl⟩, _, List.mem_singleton_self _, _, optional_mem_markers _ _, by decide +kernel⟩

end Shop

end BuilderGen

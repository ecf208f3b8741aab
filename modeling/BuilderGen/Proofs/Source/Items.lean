import BuilderGen.Proofs.Success
import BuilderGen.Source.Reading

/-!
# What is read of items

Reading goes through modules that stand in one another.  `Source.placed` lists the items of all of them, each
with the module it stands in, and says what a reading finds without going through it again.

* Single items.  `ofStruct_eq_ok` and `ofEnum_eq_ok` say all that is read of a struct or an enum, and
  `ofItems_cons_eq_ok` says how a list is read.  What is proved about readings elsewhere starts from these.
* Every struct is a provider, and every implementation of a trait for a path is a capability.  This is so
  whatever the markers say.
* Every struct and every enum with the builder marker is an aggregate, and nothing else is.
* The markers in items are well formed when those on every struct, enum and named field are.
-/

namespace BuilderGen

open Grammar (Attribute FieldTree FieldsTree StructTree EnumTree ImplTree Item VisibilityTree pathText)

namespace Source

/-! ## Modules in modules -/

mutual

/-- The item, or what stands in it when it is a module with a body. -/
def placedItem (package : String) : Item → List (String × Item)
  | .module head items => placed (Segments.qualify package head.name) items
  | .struct item => [(package, .struct item)]
  | .enum item => [(package, .enum item)]
  | .impl item => [(package, .impl item)]
  | .outline head => [(package, .outline head)]
  | .other tokens => [(package, .other tokens)]

/-- The items of a module and of the modules in it, each with the module it stands in. -/
def placed (package : String) : List Item → List (String × Item)
  | [] => []
  | item :: rest => placedItem package item ++ placed package rest

end

/-! ## Providers, capabilities and aggregates -/

/-- The provider that a struct declares. -/
def providerOf (package : String) (item : StructTree) : Provider where
  name := item.name
  package := package
  form := if item.fields.isUnit then .singleton else .instantiable
  marked := (Marker.provides item.attributes).toOption.getD false

/-- The provider in an item, if it is a struct. -/
def providersOf (package : String) : Item → List Provider
  | .struct item => [providerOf package item]
  | _ => []

/-- The enumeration in an item, if it is an enum without generic parameters whose variants have no fields. -/
def enumerationsOf (package : String) : Item → List Enumeration
  | .enum item =>
      if item.generics.isEmpty && item.variants.all (·.fields.isUnit) then
        [{ name := item.name, package, variants := item.variants.map (·.name) }]
      else []
  | .struct _ | .module _ _ | .impl _ | .outline _ | .other _ => []

/-- The capability in an item, if it is an implementation of a trait for a path.  The refusal of a trait is none. -/
def implementationsOf (package : String) : Item → List Capability
  | .impl ⟨_, some ⟨false, leading, segments⟩, .path selfLeading selfSegments, _⟩ =>
      [{ package, selfPath := pathText selfLeading selfSegments, type := describe (.path leading segments) }]
  | .impl ⟨_, some ⟨false, leading, segments⟩, .qualified _ selfPath, _⟩ =>
      [{ package, selfPath, type := describe (.path leading segments) }]
  | _ => []

/-- The qualified name of a declaration, if it has the builder marker. -/
def markedName (package name : String) (attributes : List Attribute) : List String :=
  match Marker.builder? attributes with
  | .ok (some _) => [Segments.qualify package name]
  | _ => []

/-- The aggregate of a declaration, if it has the builder marker and its constructors can be read. -/
def markedAggregates (package name : String) (attributes : List Attribute) (seen : VisibilityTree) (generic : Bool)
    (constructors : Except MarkerFault (List Constructor)) : List Aggregate :=
  match Marker.builder? attributes, constructors with
  | .ok (some builderName), .ok constructors =>
      [{ name, package, visibility := visibility seen, builderName, generic, constructors }]
  | _, _ => []

/-- The aggregate in an item, if it is a struct or an enum with the builder marker. -/
def aggregatesOf (package : String) : Item → List Aggregate
  | .struct item =>
      markedAggregates package item.name item.attributes item.visibility (!item.generics.isEmpty)
        (structConstructors item)
  | .enum item =>
      markedAggregates package item.name item.attributes item.visibility (!item.generics.isEmpty)
        (enumConstructors item)
  | .module _ _ | .impl _ | .outline _ | .other _ => []

/-- The qualified name of an item, if it is a struct or an enum with the builder marker. -/
def markedNamesOf (package : String) : Item → List String
  | .struct item => markedName package item.name item.attributes
  | .enum item => markedName package item.name item.attributes
  | _ => []

/-- The providers in items, one for each struct. -/
def providers (package : String) (items : List Item) : List Provider :=
  (placed package items).flatMap fun place => providersOf place.1 place.2

/-- The capabilities in items, one for each implementation of a trait for a path. -/
def implementations (package : String) (items : List Item) : List Capability :=
  (placed package items).flatMap fun place => implementationsOf place.1 place.2

/-- The qualified names of the structs and enums with the builder marker. -/
def markedNames (package : String) (items : List Item) : List String :=
  (placed package items).flatMap fun place => markedNamesOf place.1 place.2

/-! ## Single items -/

/-- The aggregates that a struct or an enum is read as.  There is none without the builder marker.  With it there is
one, which has the name that the marker asks for, and the constructors that were read. -/
inductive AggregatesRead (package name : String) (attributes : List Attribute) (seen : VisibilityTree)
    (generic : Bool) (constructors : Except MarkerFault (List Constructor)) : List Aggregate → Prop
  | unmarked (hmarker : Marker.builder? attributes = .ok none) :
      AggregatesRead package name attributes seen generic constructors []
  | marked {builderName : Option String} {found : List Constructor}
      (hmarker : Marker.builder? attributes = .ok (some builderName)) (hconstructors : constructors = .ok found) :
      AggregatesRead package name attributes seen generic constructors
        [{ name, package, visibility := visibility seen, builderName, generic, constructors := found }]

namespace AggregatesRead

variable {package name : String} {attributes : List Attribute} {seen : VisibilityTree} {generic : Bool}
  {constructors : Except MarkerFault (List Constructor)} {aggregates : List Aggregate}

theorem eq_markedAggregates (h : AggregatesRead package name attributes seen generic constructors aggregates) :
    aggregates = markedAggregates package name attributes seen generic constructors := by
  unfold markedAggregates
  cases h with
  | unmarked hmarker => rw [hmarker]
  | marked hmarker hconstructors => rw [hmarker, hconstructors]

theorem names (h : AggregatesRead package name attributes seen generic constructors aggregates) :
    aggregates.map Aggregate.qualifiedName = markedName package name attributes := by
  cases h with
  | unmarked hmarker | marked hmarker _ =>
      rw [markedName, hmarker]
      rfl

end AggregatesRead

/-- What is read of a struct: a provider, and an aggregate if it is marked. -/
structure StructRead (package : String) (item : StructTree) (found : Declarations) : Prop where
  providers : found.providers = [providerOf package item]
  enumerations : found.enumerations = []
  aggregates : AggregatesRead package item.name item.attributes item.visibility (!item.generics.isEmpty)
    (structConstructors item) found.aggregates

/-- What is read of an enum: an enumeration if it is one, an aggregate if it is marked, and never a provider. -/
structure EnumRead (package : String) (item : EnumTree) (found : Declarations) : Prop where
  providers : found.providers = []
  enumerations : found.enumerations = enumerationsOf package (.enum item)
  aggregates : AggregatesRead package item.name item.attributes item.visibility (!item.generics.isEmpty)
    (enumConstructors item) found.aggregates

theorem ofStruct_eq_ok {package : String} {item : StructTree} {found : Declarations}
    (h : ofStruct package item = .ok found) : StructRead package item found := by
  obtain ⟨marked, hmarked, h⟩ := bind_eq_ok.mp h
  obtain ⟨builder, hbuilder, h⟩ := bind_eq_ok.mp h
  have hprovider : { providerOf package item with marked } = providerOf package item := by
    rw [providerOf, hmarked]
    rfl
  cases builder with
  | none =>
      obtain rfl := pure_eq_ok.mp h
      exact ⟨congrArg ([·]) hprovider, rfl, .unmarked hbuilder⟩
  | some builderName =>
      obtain ⟨constructors, hconstructors, h⟩ := bind_eq_ok.mp h
      obtain rfl := pure_eq_ok.mp h
      exact ⟨congrArg ([·]) hprovider, rfl, .marked hbuilder hconstructors⟩

theorem ofEnum_eq_ok {package : String} {item : EnumTree} {found : Declarations}
    (h : ofEnum package item = .ok found) : EnumRead package item found := by
  obtain ⟨builder, hbuilder, h⟩ := bind_eq_ok.mp h
  cases builder with
  | none =>
      obtain rfl := pure_eq_ok.mp h
      exact ⟨rfl, rfl, .unmarked hbuilder⟩
  | some builderName =>
      obtain ⟨constructors, hconstructors, h⟩ := bind_eq_ok.mp h
      obtain rfl := pure_eq_ok.mp h
      exact ⟨rfl, rfl, .marked hbuilder hconstructors⟩

theorem ofImpl_eq (package : String) (item : ImplTree) :
    ofImpl package item = implementationsOf package (.impl item) := by
  obtain ⟨head, implemented, selfType, tail⟩ := item
  cases implemented with
  | none => rfl
  | some reference =>
      obtain ⟨negative, leading, segments⟩ := reference
      cases negative <;> cases selfType <;> rfl

/-! ## Trees of items -/

/-- Items are read one after the other. -/
theorem ofItems_cons_eq_ok {package : String} {item : Item} {rest : List Item}
    {found : Declarations × List Capability} (h : ofItems package (item :: rest) = .ok found) :
    ∃ first others, ofItem package item = .ok first ∧ ofItems package rest = .ok others ∧
      found = (first.1 ++ others.1, first.2 ++ others.2) := by
  obtain ⟨first, hfirst, h⟩ := bind_eq_ok.mp h
  obtain ⟨others, hothers, h⟩ := bind_eq_ok.mp h
  exact ⟨first, others, hfirst, hothers, (pure_eq_ok.mp h).symm⟩

/-- What was found is what the items at these places declare, in order. -/
structure FoundAt (found : Declarations × List Capability) (places : List (String × Item)) : Prop where
  aggregates : found.1.aggregates.map Aggregate.qualifiedName =
    places.flatMap fun place => markedNamesOf place.1 place.2
  providers : found.1.providers = places.flatMap fun place => providersOf place.1 place.2
  capabilities : found.2 = places.flatMap fun place => implementationsOf place.1 place.2

theorem FoundAt.append {first second : Declarations × List Capability} {front back : List (String × Item)}
    (hfirst : FoundAt first front) (hsecond : FoundAt second back) :
    FoundAt (first.1 ++ second.1, first.2 ++ second.2) (front ++ back) where
  aggregates := by
    rw [List.flatMap_append, ← hfirst.aggregates, ← hsecond.aggregates, ← List.map_append]
    rfl
  providers := by
    rw [List.flatMap_append, ← hfirst.providers, ← hsecond.providers]
    rfl
  capabilities := by rw [List.flatMap_append, ← hfirst.capabilities, ← hsecond.capabilities]

mutual

theorem ofItem_found {package : String} {item : Item} {found : Declarations × List Capability}
    (h : ofItem package item = .ok found) : FoundAt found (placedItem package item) := by
  cases item with
  | struct item =>
      obtain ⟨declarations, hdeclarations, rfl⟩ := map_eq_ok.mp h
      have hread := ofStruct_eq_ok hdeclarations
      exact ⟨hread.aggregates.names.trans (List.append_nil _).symm, hread.providers, rfl⟩
  | enum item =>
      obtain ⟨declarations, hdeclarations, rfl⟩ := map_eq_ok.mp h
      have hread := ofEnum_eq_ok hdeclarations
      exact ⟨hread.aggregates.names.trans (List.append_nil _).symm, hread.providers, rfl⟩
  | impl item =>
      cases h
      exact ⟨rfl, rfl, (ofImpl_eq package item).trans (List.append_nil _).symm⟩
  | module head items => exact ofItems_found h
  | outline head =>
      cases h
      exact ⟨rfl, rfl, rfl⟩
  | other tokens =>
      cases h
      exact ⟨rfl, rfl, rfl⟩

/-- A reading that succeeds finds what the items declare, in order. -/
theorem ofItems_found {package : String} {items : List Item} {found : Declarations × List Capability}
    (h : ofItems package items = .ok found) : FoundAt found (placed package items) := by
  cases items with
  | nil =>
      cases h
      exact ⟨rfl, rfl, rfl⟩
  | cons item rest =>
      obtain ⟨first, others, hfirst, hothers, rfl⟩ := ofItems_cons_eq_ok h
      exact (ofItem_found hfirst).append (ofItems_found hothers)

end

/-! ## Well-formed markers -/

/-- Whether the markers of a field are well formed.  They count only on a field with a name. -/
def wellMarkedField (field : FieldTree) : Bool :=
  field.name.isNone || (Marker.setter? field.attributes).isOk && (Marker.marking field.attributes).isOk

mutual

/-- Whether the markers in an item are well formed. -/
def wellMarkedItem : Item → Bool
  | .struct item =>
      (Marker.builder? item.attributes).isOk && (Marker.provides item.attributes).isOk
        && item.fields.toList.all wellMarkedField
  | .enum item =>
      (Marker.builder? item.attributes).isOk
        && item.variants.all fun variant => variant.fields.toList.all wellMarkedField
  | .module _ items => wellMarked items
  | .impl _ | .outline _ | .other _ => true

/-- Whether the markers in items are well formed. -/
def wellMarked : List Item → Bool
  | [] => true
  | item :: rest => wellMarkedItem item && wellMarked rest

end

end Source

end BuilderGen

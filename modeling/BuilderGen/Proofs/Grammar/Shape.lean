import BuilderGen.Grammar.Item
import Mathlib.Logic.Basic

/-!
# The shape of items

Attributes stand on structs, enums, their variants and their fields, also inside of modules.  A tree of items is its
shape together with the attributes at these places, in order.

* `Item.listMapAttributes` changes the attributes at every place, and nothing else.
* `shape` leaves the attributes out, and `attributeLists` lists them.  Both say what a change does:
  `Item.listMapAttributes_comp` and `attributeLists_listMapAttributes`.
* `eq_of_shape`: two trees that agree in both views are equal.
-/

namespace BuilderGen

namespace Grammar

/-! ## Shape and attributes -/

section Attributes

variable (change : List Attribute → List Attribute)

/-- A field with its attributes changed. -/
def FieldTree.mapAttributes (field : FieldTree) : FieldTree :=
  { field with attributes := change field.attributes }

/-- A variant with the attributes on itself and on its fields changed. -/
def VariantTree.mapAttributes (variant : VariantTree) : VariantTree :=
  { variant with
    attributes := change variant.attributes
    fields := variant.fields.map (FieldTree.mapAttributes change) }

/-- A struct with the attributes on itself and on its fields changed. -/
def StructTree.mapAttributes (item : StructTree) : StructTree :=
  { item with
    attributes := change item.attributes
    fields := item.fields.map (FieldTree.mapAttributes change) }

/-- An enum with the attributes on itself and in its variants changed. -/
def EnumTree.mapAttributes (item : EnumTree) : EnumTree :=
  { item with
    attributes := change item.attributes
    variants := item.variants.map (VariantTree.mapAttributes change) }

mutual

/-- An item with its attributes changed.  Only structs and enums are touched. -/
def Item.mapAttributes : Item → Item
  | .struct item => .struct (item.mapAttributes change)
  | .enum item => .enum (item.mapAttributes change)
  | .module head items => .module head (Item.listMapAttributes items)
  | .impl item => .impl item
  | .outline head => .outline head
  | .other tokens => .other tokens

/-- Items with their attributes changed. -/
def Item.listMapAttributes : List Item → List Item
  | [] => []
  | item :: rest => item.mapAttributes :: Item.listMapAttributes rest

end

end Attributes

/-- What is left of attributes in a shape. -/
def noAttributes (_ : List Attribute) : List Attribute :=
  []

/-- Items without any attributes on structs, enums, variants and fields. -/
def shape (items : List Item) : List Item :=
  Item.listMapAttributes noAttributes items

/-- The attributes of each field. -/
def FieldsTree.attributeLists (fields : FieldsTree) : List (List Attribute) :=
  fields.toList.map FieldTree.attributes

/-- The attributes of a variant, and of each of its fields. -/
def VariantTree.attributeLists (variant : VariantTree) : List (List Attribute) :=
  variant.attributes :: variant.fields.attributeLists

mutual

/-- The attributes of an item that is a struct or an enum, and of all its parts, in order. -/
def Item.attributeLists : Item → List (List Attribute)
  | .struct item => item.attributes :: item.fields.attributeLists
  | .enum item => item.attributes :: item.variants.flatMap VariantTree.attributeLists
  | .module _ items => Grammar.attributeLists items
  | .impl _ | .outline _ | .other _ => []

/-- The attributes of every struct and every enum in items, and of all their parts, in order. -/
def attributeLists : List Item → List (List Attribute)
  | [] => []
  | item :: rest => item.attributeLists ++ attributeLists rest

end

/-! ## One change after the other -/

section Changes

variable (change more : List Attribute → List Attribute)

theorem FieldsTree.map_map (first second : FieldTree → FieldTree) (fields : FieldsTree) :
    (fields.map first).map second = fields.map (second ∘ first) := by
  cases fields with
  | named fields | positional fields => simp [FieldsTree.map]
  | unit => rfl

theorem FieldsTree.toList_map (function : FieldTree → FieldTree) (fields : FieldsTree) :
    (fields.map function).toList = fields.toList.map function := by
  cases fields <;> rfl

theorem FieldsTree.isUnit_map (function : FieldTree → FieldTree) (fields : FieldsTree) :
    (fields.map function).isUnit = fields.isUnit := by
  cases fields <;> rfl

theorem FieldsTree.mapAttributes_comp (fields : FieldsTree) :
    (fields.map (FieldTree.mapAttributes change)).map (FieldTree.mapAttributes more) =
      fields.map (FieldTree.mapAttributes (more ∘ change)) :=
  fields.map_map _ _

theorem VariantTree.mapAttributes_comp (variant : VariantTree) :
    (variant.mapAttributes change).mapAttributes more = variant.mapAttributes (more ∘ change) := by
  simp only [mapAttributes, FieldsTree.mapAttributes_comp, Function.comp_apply]

mutual

theorem Item.mapAttributes_comp (item : Item) :
    (item.mapAttributes change).mapAttributes more = item.mapAttributes (more ∘ change) := by
  cases item with
  | struct item =>
      simp only [Item.mapAttributes, StructTree.mapAttributes, FieldsTree.mapAttributes_comp, Function.comp_apply]
  | enum item =>
      have hvariants : VariantTree.mapAttributes more ∘ VariantTree.mapAttributes change =
          VariantTree.mapAttributes (more ∘ change) :=
        funext (VariantTree.mapAttributes_comp change more)
      simp only [Item.mapAttributes, EnumTree.mapAttributes, List.map_map, hvariants, Function.comp_apply]
  | module head items => exact congrArg (Item.module head) (Item.listMapAttributes_comp items)
  | impl _ | outline _ | other _ => rfl

/-- Two changes after another are one. -/
theorem Item.listMapAttributes_comp (items : List Item) :
    Item.listMapAttributes more (Item.listMapAttributes change items) =
      Item.listMapAttributes (more ∘ change) items := by
  cases items with
  | nil => rfl
  | cons item rest =>
      exact congrArg₂ List.cons (Item.mapAttributes_comp item) (Item.listMapAttributes_comp rest)

end

theorem FieldsTree.attributeLists_map (fields : FieldsTree) :
    (fields.map (FieldTree.mapAttributes change)).attributeLists = fields.attributeLists.map change := by
  rw [attributeLists, attributeLists, toList_map, List.map_map, List.map_map]
  rfl

theorem VariantTree.attributeLists_mapAttributes (variant : VariantTree) :
    (variant.mapAttributes change).attributeLists = variant.attributeLists.map change := by
  rw [attributeLists, attributeLists, List.map_cons, mapAttributes, FieldsTree.attributeLists_map]

mutual

theorem Item.attributeLists_mapAttributes (item : Item) :
    (item.mapAttributes change).attributeLists = item.attributeLists.map change := by
  cases item with
  | struct item =>
      rw [Item.mapAttributes, Item.attributeLists, Item.attributeLists, List.map_cons, StructTree.mapAttributes,
        FieldsTree.attributeLists_map]
  | enum item =>
      rw [Item.mapAttributes, Item.attributeLists, Item.attributeLists, List.map_cons, EnumTree.mapAttributes,
        List.flatMap_map, List.map_flatMap]
      simp only [VariantTree.attributeLists_mapAttributes]
  | module head items => exact attributeLists_listMapAttributes items
  | impl _ | outline _ | other _ => rfl

/-- A change reaches every place. -/
theorem attributeLists_listMapAttributes (items : List Item) :
    attributeLists (Item.listMapAttributes change items) = (attributeLists items).map change := by
  cases items with
  | nil => rfl
  | cons item rest =>
      rw [Item.listMapAttributes, attributeLists, attributeLists, List.map_append,
        Item.attributeLists_mapAttributes item, attributeLists_listMapAttributes rest]

end

end Changes

/-! ## Trees from their shape -/

/-- Lists are equal when their members look the same and have the same parts in order. -/
theorem eq_of_map_of_flatMap {α β γ : Type} {view : α → β} {parts : α → List γ}
    (hlength : ∀ item other, view item = view other → (parts item).length = (parts other).length)
    (hequal : ∀ item other, view item = view other → parts item = parts other → item = other) {items others : List α}
    (hview : items.map view = others.map view) (hparts : items.flatMap parts = others.flatMap parts) :
    items = others := by
  induction items generalizing others with
  | nil => exact (List.map_eq_nil_iff.mp hview.symm).symm
  | cons item items ih =>
      cases others with
      | nil => cases hview
      | cons other others =>
          obtain ⟨hfirst, hrest⟩ := List.cons.inj hview
          rw [List.flatMap_cons, List.flatMap_cons] at hparts
          obtain ⟨hpart, hmore⟩ := List.append_inj hparts (hlength item other hfirst)
          rw [hequal item other hfirst hpart, ih hrest hmore]

theorem FieldTree.eq_of_shape {field other : FieldTree}
    (hshape : field.mapAttributes noAttributes = other.mapAttributes noAttributes)
    (hattributes : field.attributes = other.attributes) : field = other := by
  cases field
  cases other
  simp_all [mapAttributes]

theorem FieldsTree.eq_of_shape {fields others : FieldsTree}
    (hshape : fields.map (FieldTree.mapAttributes noAttributes) = others.map (FieldTree.mapAttributes noAttributes))
    (hattributes : fields.attributeLists = others.attributeLists) : fields = others := by
  have hlists : fields.toList = others.toList := by
    have hview := congrArg toList hshape
    rw [toList_map, toList_map] at hview
    rw [attributeLists, attributeLists, List.map_eq_flatMap, List.map_eq_flatMap] at hattributes
    refine eq_of_map_of_flatMap (fun _ _ _ => rfl) (fun field other hfield hattribute => ?_) hview hattributes
    exact FieldTree.eq_of_shape hfield (List.singleton_inj.mp hattribute)
  cases fields <;> cases others
  case named.named | positional.positional => exact congrArg _ hlists
  case unit.unit => rfl
  all_goals cases hshape

theorem VariantTree.eq_of_shape {variant other : VariantTree}
    (hshape : variant.mapAttributes noAttributes = other.mapAttributes noAttributes)
    (hattributes : variant.attributeLists = other.attributeLists) : variant = other := by
  obtain ⟨hown, hfields⟩ := List.cons.inj hattributes
  obtain ⟨attributes, name, fields, discriminant, comma⟩ := variant
  obtain ⟨attributes', name', fields', discriminant', comma'⟩ := other
  obtain ⟨-, hname, hshape, hdiscriminant, hcomma⟩ := VariantTree.mk.inj hshape
  rw [VariantTree.mk.injEq]
  exact ⟨hown, hname, FieldsTree.eq_of_shape hshape hfields, hdiscriminant, hcomma⟩

theorem VariantTree.length_attributeLists {variant other : VariantTree}
    (hshape : variant.mapAttributes noAttributes = other.mapAttributes noAttributes) :
    variant.attributeLists.length = other.attributeLists.length := by
  have hlists := congrArg (List.length ∘ attributeLists) hshape
  simpa [attributeLists_mapAttributes] using hlists

theorem Item.length_attributeLists {item other : Item}
    (hshape : item.mapAttributes noAttributes = other.mapAttributes noAttributes) :
    item.attributeLists.length = other.attributeLists.length := by
  have hlists := congrArg (List.length ∘ Item.attributeLists) hshape
  simpa [attributeLists_mapAttributes] using hlists

mutual

theorem Item.eq_of_shape {item other : Item}
    (hshape : item.mapAttributes noAttributes = other.mapAttributes noAttributes)
    (hattributes : item.attributeLists = other.attributeLists) : item = other := by
  cases item with
  | struct item =>
      cases other with
      | struct other =>
          obtain ⟨hown, hfields⟩ := List.cons.inj hattributes
          cases item
          cases other
          obtain ⟨-, hvisibility, hname, hgenerics, hconstraints, hshape⟩ := StructTree.mk.inj (Item.struct.inj hshape)
          rw [Item.struct.injEq, StructTree.mk.injEq]
          exact ⟨hown, hvisibility, hname, hgenerics, hconstraints, FieldsTree.eq_of_shape hshape hfields⟩
      | _ => cases hshape
  | enum item =>
      cases other with
      | enum other =>
          obtain ⟨hown, hvariants⟩ := List.cons.inj hattributes
          cases item
          cases other
          obtain ⟨-, hvisibility, hname, hgenerics, hconstraints, hshape⟩ := EnumTree.mk.inj (Item.enum.inj hshape)
          rw [Item.enum.injEq, EnumTree.mk.injEq]
          exact ⟨hown, hvisibility, hname, hgenerics, hconstraints,
            eq_of_map_of_flatMap (fun _ _ => VariantTree.length_attributeLists)
              (fun _ _ => VariantTree.eq_of_shape) hshape hvariants⟩
      | _ => cases hshape
  | module head items =>
      cases other with
      | module other others =>
          obtain ⟨rfl, hitems⟩ := Item.module.inj hshape
          rw [eq_of_shape hitems hattributes]
      | _ => cases hshape
  | impl _ | outline _ | other _ => cases other <;> first | exact hshape | cases hshape

/-- Trees of one shape with the same attributes are equal. -/
theorem eq_of_shape {items others : List Item} (hshape : shape items = shape others)
    (hattributes : attributeLists items = attributeLists others) : items = others := by
  cases items with
  | nil =>
      cases others with
      | nil => rfl
      | cons other others => cases hshape
  | cons item items =>
      cases others with
      | nil => cases hshape
      | cons other others =>
          obtain ⟨hitem, hitems⟩ := List.cons.inj hshape
          obtain ⟨hfirst, hrest⟩ := List.append_inj hattributes (Item.length_attributeLists hitem)
          rw [Item.eq_of_shape hitem hfirst, eq_of_shape hitems hrest]

end

end Grammar

end BuilderGen

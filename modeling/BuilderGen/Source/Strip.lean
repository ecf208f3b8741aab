import BuilderGen.Grammar.Item
import BuilderGen.Source.Marker

/-!
# Removing markers

Drops the markers from structs, enums, variants and fields, also inside of modules.  Everything else stays
as it is.
-/

namespace BuilderGen.Strip

open Grammar (FieldTree FieldsTree VariantTree StructTree EnumTree Item)

/-- A field without markers. -/
def field (field : FieldTree) : FieldTree :=
  { field with attributes := Marker.strip field.attributes }

/-- A variant without markers. -/
def variant (variant : VariantTree) : VariantTree :=
  { variant with
    attributes := Marker.strip variant.attributes
    fields := variant.fields.map field }

/-- A struct without markers. -/
def struct (item : StructTree) : StructTree :=
  { item with
    attributes := Marker.strip item.attributes
    fields := item.fields.map field }

/-- An enum without markers. -/
def enum (item : EnumTree) : EnumTree :=
  { item with
    attributes := Marker.strip item.attributes
    variants := item.variants.map variant }

mutual

/-- An item without markers. -/
def item : Item → Item
  | .struct tree => .struct (struct tree)
  | .enum tree => .enum (enum tree)
  | .module head tree => .module head (items tree)
  | .impl tree => .impl tree
  | .outline head => .outline head
  | .other tokens => .other tokens

/-- Items without markers. -/
def items : List Item → List Item
  | [] => []
  | first :: rest => item first :: items rest

end

end BuilderGen.Strip

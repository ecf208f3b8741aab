import BuilderGen.Proofs.Grammar.Scope
import BuilderGen.Proofs.Token.Lexical

/-!
# Well-named trees

A tree is well named when every name in it is an identifier, or a word that may stand in its place.  This goes for the
segments of paths, at any depth inside of a type, for the scopes of visibilities, and for the names of fields,
variants, items and modules.  The tokens of attributes, which may be read later, are lexical.
-/

namespace BuilderGen.Grammar

/-! ## Types -/

mutual

/-- The types that a type is made of, itself included. -/
def TypeTree.parts : TypeTree → List TypeTree
  | .path leading segments => .path leading segments :: partsOfSegments segments
  | .qualified tokens text => [.qualified tokens text]
  | .paren inner => .paren inner :: inner.parts
  | .unit => [.unit]
  | .array element length => .array element length :: element.parts
  | .other tokens => [.other tokens]

/-- The types among the arguments of segments. -/
def partsOfSegments : List Segment → List TypeTree
  | [] => []
  | .mk _ arguments :: rest => arguments.parts ++ partsOfSegments rest

/-- The types among the arguments of a segment. -/
def Arguments.parts : Arguments → List TypeTree
  | .none => []
  | .angle _ items => partsOfItems items
  | .parens _ => []

/-- The types among arguments in angle brackets. -/
def partsOfItems : List Argument → List TypeTree
  | [] => []
  | .type type _ :: rest => type.parts ++ partsOfItems rest
  | .lifetime _ _ :: rest => partsOfItems rest
  | .other _ _ :: rest => partsOfItems rest

end

/-- Whether a type that is a path has names only for its segments. -/
def TypeTree.isNamed : TypeTree → Bool
  | .path _ segments => !segments.isEmpty && segments.all fun segment => isSegmentName segment.name
  | _ => true

/-- A type all of whose parts have names. -/
def TypeTree.WellNamed (type : TypeTree) : Prop :=
  ∀ part ∈ type.parts, part.isNamed = true

/-- An argument that is a well-named type, or no type. -/
def Argument.WellNamed : Argument → Prop
  | .type inner _ => inner.WellNamed
  | .lifetime _ _ | .other _ _ => True

/-- Arguments that are well named. -/
def Arguments.WellNamed : Arguments → Prop
  | .angle _ items => ∀ item ∈ items, item.WellNamed
  | .none | .parens _ => True

/-- A segment with a name and with well-named arguments. -/
structure Segment.WellNamed (segment : Segment) : Prop where
  name : isSegmentName segment.name = true
  arguments : segment.arguments.WellNamed

theorem partsOfItems_iff {items : List Argument} :
    (∀ part ∈ partsOfItems items, part.isNamed = true) ↔ ∀ item ∈ items, item.WellNamed := by
  induction items with
  | nil => simp [partsOfItems]
  | cons item rest ih =>
      cases item <;> simp [partsOfItems, Argument.WellNamed, TypeTree.WellNamed, or_imp, forall_and, ih]

theorem Arguments.parts_iff {arguments : Arguments} :
    (∀ part ∈ arguments.parts, part.isNamed = true) ↔ arguments.WellNamed := by
  cases arguments <;> simp [Arguments.parts, Arguments.WellNamed, partsOfItems_iff]

/-- A path is well named when its segments are. -/
theorem TypeTree.wellNamed_path_iff {leading : Bool} {segments : List Segment} :
    (TypeTree.path leading segments).WellNamed ↔ segments ≠ [] ∧ ∀ segment ∈ segments, segment.WellNamed := by
  have hparts : (∀ part ∈ partsOfSegments segments, part.isNamed = true) ↔
      ∀ segment ∈ segments, segment.arguments.WellNamed := by
    induction segments with
    | nil => simp [partsOfSegments]
    | cons segment rest ih =>
        obtain ⟨name, arguments⟩ := segment
        rw [partsOfSegments, List.forall_mem_append, List.forall_mem_cons, ih, Arguments.parts_iff]
        rfl
  rw [WellNamed, parts, List.forall_mem_cons, hparts, isNamed, Bool.and_eq_true, List.all_eq_true, Bool.not_eq_true',
    List.isEmpty_eq_false_iff, and_assoc, ← forall₂_and]
  exact and_congr_right fun _ => forall₂_congr fun segment _ => ⟨fun h => ⟨h.1, h.2⟩, fun h => ⟨h.1, h.2⟩⟩

/-- A type that is kept as tokens has no names. -/
theorem TypeTree.wellNamed_other {tokens : List Token} : (TypeTree.other tokens).WellNamed := by
  simp [WellNamed, parts, isNamed]

theorem TypeTree.wellNamed_qualified {tokens : List Token} {text : String} :
    (TypeTree.qualified tokens text).WellNamed := by
  simp [WellNamed, parts, isNamed]

theorem TypeTree.wellNamed_unit : TypeTree.unit.WellNamed := by
  simp [WellNamed, parts, isNamed]

theorem TypeTree.wellNamed_paren_iff {inner : TypeTree} : (TypeTree.paren inner).WellNamed ↔ inner.WellNamed := by
  simp [WellNamed, parts, isNamed]

theorem TypeTree.wellNamed_array_iff {element : TypeTree} {length : List Token} :
    (TypeTree.array element length).WellNamed ↔ element.WellNamed := by
  simp [WellNamed, parts, isNamed]

/-- The text of a path with arguments is the text of its names. -/
theorem isPathText_pathText {leading : Bool} {segments : List Segment}
    (h : (TypeTree.path leading segments).isNamed = true) : IsPathText (pathText leading segments) := by
  rw [TypeTree.isNamed, Bool.and_eq_true, Bool.not_eq_true', List.all_eq_true] at h
  refine ⟨⟨leading, segments.map Segment.name⟩, ⟨?_, ?_⟩, rfl⟩
  · intro hnil
    rw [List.map_eq_nil_iff.mp hnil] at h
    cases h.1
  · intro name hname
    obtain ⟨segment, hsegment, rfl⟩ := List.mem_map.mp hname
    exact h.2 segment hsegment

/-! ## Items -/

/-- Whether a text may name a module. -/
def isModuleName (text : String) : Bool :=
  isIdentifier text || decide (text = "try")

/-- The part of an attribute behind its path, with lexical tokens in its group. -/
def AttributeBody.Lexical : AttributeBody → Prop
  | .list _ content => BuilderGen.Lexical content
  | .bare | .value _ => True

/-- An attribute whose group has lexical tokens. -/
def Attribute.Lexical (attr : Attribute) : Prop :=
  attr.body.Lexical

/-- A visibility whose scope consists of names. -/
def VisibilityTree.WellNamed : VisibilityTree → Prop
  | .everywhere | .inherited => True
  | .restricted true scope => IsScope scope
  | .restricted false scope => ∃ word ∈ ["crate", "self", "super"], scope = { names := [word] }

/-- A field whose name and type consist of names. -/
structure FieldTree.WellNamed (field : FieldTree) : Prop where
  attributes : ∀ attr ∈ field.attributes, attr.Lexical
  name : ∀ name, field.name = some name → isIdentifier name = true ∨ name = "_"
  type : field.type.WellNamed

/-- A struct whose name, visibility and fields consist of names. -/
structure StructTree.WellNamed (item : StructTree) : Prop where
  visibility : item.visibility.WellNamed
  name : isIdentifier item.name = true
  fields : ∀ field ∈ item.fields.toList, field.WellNamed

/-- A variant whose name and fields consist of names. -/
structure VariantTree.WellNamed (variant : VariantTree) : Prop where
  name : isIdentifier variant.name = true
  fields : ∀ field ∈ variant.fields.toList, field.WellNamed

/-- An enum whose name, visibility and variants consist of names. -/
structure EnumTree.WellNamed (item : EnumTree) : Prop where
  visibility : item.visibility.WellNamed
  name : isIdentifier item.name = true
  variants : ∀ variant ∈ item.variants, variant.WellNamed

mutual

/-- An item in which every struct, every enum and every module is well named. -/
def Item.WellNamed : Item → Prop
  | .struct item => item.WellNamed
  | .enum item => item.WellNamed
  | .module head items => isModuleName head.name = true ∧ WellNamedItems items
  | .impl _ | .outline _ | .other _ => True

/-- Items all of which are well named. -/
def WellNamedItems : List Item → Prop
  | [] => True
  | item :: rest => item.WellNamed ∧ WellNamedItems rest

end

theorem wellNamedItems_iff {items : List Item} : WellNamedItems items ↔ ∀ item ∈ items, item.WellNamed := by
  induction items with
  | nil => simp [WellNamedItems]
  | cons item rest ih => rw [WellNamedItems, List.forall_mem_cons, ih]

end BuilderGen.Grammar

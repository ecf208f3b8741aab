import BuilderGen.Grammar.Level
import BuilderGen.Proofs.Grammar.TypeTriple

/-!
# Items are well named

Structs, enums and modules that are read from lexical tokens are well named.  All other items are kept as tokens.  By
induction on the levels of nesting the parsers for the parts are sound, so that the items of every text are well named.
-/

namespace BuilderGen.Grammar

open Std.Do

set_option mvcgen.warning false

@[spec] theorem gives_visibility : Gives VisibilityTree.WellNamed visibility := by
  have hscope : Gives IsScope (within .parenthesis (do let _ ← word "in"; namePath)) := by
    refine gives_within .parenthesis ?_
    mvcgen
  mvcgen [visibility, -keeps_within, hscope] <;> grind [VisibilityTree.WellNamed, Lexical.cons_iff]

variable (g : Parsers) [g.Sound]

/-! ## Structs and enums -/

theorem FieldTree.wellNamed_named {attributes : List Attribute} {visibility : VisibilityTree} {name : String}
    {type : TypeTree} (hattributes : ∀ attr ∈ attributes, attr.Lexical)
    (hname : isIdentifier name = true ∨ name = "_") (htype : type.WellNamed) (comma : Bool) :
    FieldTree.WellNamed { attributes, visibility, name := some name, type, comma } where
  attributes := hattributes
  name := by
    rintro _ ⟨⟩
    exact hname
  type := htype

theorem FieldTree.wellNamed_positional {attributes : List Attribute} {visibility : VisibilityTree} {type : TypeTree}
    (hattributes : ∀ attr ∈ attributes, attr.Lexical) (htype : type.WellNamed) (comma : Bool) :
    FieldTree.WellNamed { attributes, visibility, name := none, type, comma } where
  attributes := hattributes
  name := nofun
  type := htype

theorem gives_namedField : Gives (fun build => ∀ comma, (build comma).WellNamed) (namedField g) := by
  mvcgen [namedField, look, -keeps_look, -gives_anyWord, gives_start] <;>
    grind [FieldTree.wellNamed_named, TypeTree.wellNamed_other, eq_of_isWord, Lexical.cons_iff]

theorem gives_positionalField : Gives (fun build => ∀ comma, (build comma).WellNamed) (positionalField g) := by
  mvcgen [positionalField] <;> grind [FieldTree.wellNamed_positional]

theorem gives_fieldsWithin (delimiter : Delimiter) {field : Parser (Bool → FieldTree)}
    (hfield : Gives (fun build => ∀ comma, (build comma).WellNamed) field) :
    Gives (fun fields => ∀ field ∈ fields, field.WellNamed) (fieldsWithin delimiter field) := by
  have hfields := @gives_built _ _ "," List.isEmpty _ hfield
  refine gives_within delimiter ?_
  mvcgen [-keeps_separated, hfields]

@[spec] theorem gives_namedFields :
    Gives (fun fields => ∀ field ∈ fields.toList, field.WellNamed) (namedFields g) := by
  have hfields := gives_fieldsWithin .brace (gives_namedField g)
  mvcgen [namedFields, hfields]

@[spec] theorem gives_positionalFields :
    Gives (fun fields => ∀ field ∈ fields.toList, field.WellNamed) (positionalFields g) := by
  have hfields := gives_fieldsWithin .parenthesis (gives_positionalField g)
  mvcgen [positionalFields, hfields]

theorem StructTree.wellNamed_iff {item : StructTree} :
    item.WellNamed ↔ item.visibility.WellNamed ∧ isIdentifier item.name = true ∧
      ∀ field ∈ item.fields.toList, field.WellNamed :=
  ⟨fun h => ⟨h.visibility, h.name, h.fields⟩, fun h => ⟨h.1, h.2.1, h.2.2⟩⟩

theorem VariantTree.wellNamed_iff {variant : VariantTree} :
    variant.WellNamed ↔ isIdentifier variant.name = true ∧ ∀ field ∈ variant.fields.toList, field.WellNamed :=
  ⟨fun h => ⟨h.name, h.fields⟩, fun h => ⟨h.1, h.2⟩⟩

theorem EnumTree.wellNamed_iff {item : EnumTree} :
    item.WellNamed ↔ item.visibility.WellNamed ∧ isIdentifier item.name = true ∧
      ∀ variant ∈ item.variants, variant.WellNamed :=
  ⟨fun h => ⟨h.visibility, h.name, h.variants⟩, fun h => ⟨h.1, h.2.1, h.2.2⟩⟩

@[spec] theorem gives_structItem {attributes : List Attribute} {visibility : VisibilityTree}
    (hvisibility : visibility.WellNamed) : Gives Item.WellNamed (structItem g attributes visibility) := by
  mvcgen [structItem] <;> grind [Item.WellNamed, StructTree.wellNamed_iff, FieldsTree.toList]

theorem gives_variant : Gives (fun build => ∀ comma, (build comma).WellNamed) (variant g) := by
  mvcgen [variant] <;> grind [VariantTree.wellNamed_iff, FieldsTree.toList]

@[spec] theorem gives_enumItem {attributes : List Attribute} {visibility : VisibilityTree}
    (hvisibility : visibility.WellNamed) : Gives Item.WellNamed (enumItem g attributes visibility) := by
  have hvariants := gives_within .brace (@gives_built _ _ "," List.isEmpty _ (gives_variant g))
  mvcgen [enumItem, -keeps_within, hvariants] <;> grind [Item.WellNamed, EnumTree.wellNamed_iff]

/-! ## Items that are kept as tokens -/

@[spec] theorem keeps_constantItem (start head : List Token) : Keeps (constantItem g start head) := by
  mvcgen [constantItem]
  all_goals grind

@[spec] theorem keeps_staticItem (start head : List Token) : Keeps (staticItem g start head) := by
  mvcgen [staticItem]
  all_goals grind

theorem keeps_readImport (rooted : Bool) : Keeps (readImport g rooted) := by
  mvcgen [readImport]
  all_goals grind

@[spec] theorem keeps_useItem (start head : List Token) : Keeps (useItem g start head) := by
  mvcgen [useItem]

omit [g.Sound] in
@[spec] theorem keeps_externItem (head : List Token) : Keeps (externItem head) := by
  mvcgen [externItem]
  all_goals grind

omit [g.Sound] in
@[spec] theorem keeps_macroItem (head : List Token) : Keeps (macroItem head) := by
  mvcgen [macroItem]
  all_goals grind

omit [g.Sound] in
@[spec] theorem keeps_macroDefinition : Keeps macroDefinition := by
  mvcgen [macroDefinition]
  all_goals grind

omit [g.Sound] in
@[spec] theorem keeps_functionBody : Keeps (functionBody g) :=
  keeps_attributedBlock g

@[spec] theorem keeps_functionItem (start head : List Token) : Keeps (functionItem g start head) := by
  mvcgen [functionItem]

@[spec] theorem keeps_aliasItem (start head : List Token) : Keeps (aliasItem g start head) := by
  mvcgen [aliasItem]

omit [g.Sound] in
@[spec] theorem keeps_membersWithin (member : Parser (List Token)) : Keeps (membersWithin g member) :=
  keeps_within .brace

omit [g.Sound] in
@[spec] theorem keeps_foreignItem (head : List Token) : Keeps (foreignItem g head) := by
  mvcgen [foreignItem]
  all_goals grind

@[spec] theorem keeps_traitItem (head : List Token) : Keeps (traitItem g head) := by
  mvcgen [traitItem]
  all_goals grind

@[spec] theorem gives_implItem (start attributes : List Token) (visible : Bool) :
    Gives Item.WellNamed (implItem g start attributes visible) := by
  mvcgen [implItem] <;> grind [Item.WellNamed]

@[spec] theorem keeps_otherItem (start attributes : List Token) (visibility : VisibilityTree) :
    Keeps (otherItem g start attributes visibility) := by
  mvcgen [otherItem]
  all_goals grind

/-! ## Modules and items -/

/-- The items of a module or of a file. -/
theorem gives_items : Gives WellNamedItems (manyWhile (!·.isEmpty) g.item) := by
  refine triple_iff.mpr fun tokens items rest htokens h => ?_
  obtain ⟨hitems, hrest⟩ := triple_iff.mp (gives_manyWhile Parsers.Sound.item) _ _ _ htokens h
  exact ⟨wellNamedItems_iff.mpr hitems, hrest⟩

theorem gives_moduleBody {head : ModuleHead} (hname : isModuleName head.name = true) :
    Gives Item.WellNamed (within .brace do
      let innerAttributes ← innerAttributes g
      return .module { head with innerAttributes } (← manyWhile (!·.isEmpty) g.item)) := by
  have hitems := gives_items g
  refine gives_within .brace ?_
  mvcgen [-keeps_manyWhile, hitems]
  all_goals grind [Item.WellNamed]

@[spec] theorem gives_moduleItem (attributes : List Attribute) (visibility : VisibilityTree) :
    Gives Item.WellNamed (moduleItem g attributes visibility) := by
  have hbody := @gives_moduleBody g _
  mvcgen [moduleItem, look, -keeps_look, -gives_anyWord, gives_start, -keeps_within, hbody] <;>
    grind [Item.WellNamed, isModuleName, eq_of_isWord]

theorem gives_readItem : Gives Item.WellNamed (readItem g) := by
  mvcgen [readItem] <;> grind [Item.WellNamed]

theorem gives_sourceFile : Gives (fun file => WellNamedItems file.items) (sourceFile g) := by
  have hitems := gives_items g
  mvcgen [sourceFile, -keeps_manyWhile, hitems]

/-! ## Levels of nesting -/

/-- With no level left every parser fails, and each level more is made of parsers over the level below. -/
theorem sound_level (depth : Nat) : (Parsers.level depth).Sound := by
  induction depth with
  | zero => constructor <;> intros <;> exact triple_iff.mpr nofun
  | succ depth ih =>
      exact {
        type := gives_readType _
        bound := keeps_readBound _
        expression := keeps_readExpression _
        operand := keeps_readOperand _
        climb := keeps_readOperators _
        pattern := keeps_readPattern _
        item := gives_readItem _
        importTree := keeps_readImport _ }

instance (tokens : List Token) : (Parsers.enough tokens).Sound :=
  sound_level _

/-- The items of every text that is a file are well named. -/
theorem wellNamed_of_fileOfText? {text : String} {file : SourceFile} (h : fileOfText? text = .ok file) :
    WellNamedItems file.items := by
  unfold fileOfText? at h
  split at h
  · cases h
  · rename_i tokens htokens
    have hread := complete_eq_ok (mapError_eq_ok.mp h)
    exact (triple_iff.mp (gives_sourceFile _) _ _ _ (Lexer.lexical_tokenize htokens) hread).1

/-- Every text that is a module is well named. -/
theorem wellNamed_of_moduleOfText? {text : String} {item : Item} (h : moduleOfText? text = .ok item) :
    item.WellNamed := by
  unfold moduleOfText? readText at h
  split at h
  · cases h
  · rename_i tokens htokens
    have hmodule : Gives Item.WellNamed (do
        let attributes ← outerAttributes (.enough tokens)
        let visibility ← visibility
        moduleItem (.enough tokens) attributes visibility) := by
      mvcgen
      all_goals grind
    have hread := complete_eq_ok (mapError_eq_ok.mp h)
    exact (triple_iff.mp hmodule _ _ _ (Lexer.lexical_tokenize htokens) hread).1

/-- An item that was read from a text, in a file or in a module of its own. -/
inductive Item.IsRead (item : Item) : Prop where
  | ofFile {text : String} {file : SourceFile} (hfile : fileOfText? text = .ok file) (hitem : item ∈ file.items)
  | ofModule {text : String} {head : ModuleHead} {items : List Item}
      (hmodule : moduleOfText? text = .ok (.module head items)) (hitem : item ∈ items)

theorem Item.IsRead.wellNamed {item : Item} (h : item.IsRead) : item.WellNamed := by
  cases h with
  | ofFile hfile hitem => exact wellNamedItems_iff.mp (wellNamed_of_fileOfText? hfile) item hitem
  | ofModule hmodule hitem =>
      have hnamed := wellNamed_of_moduleOfText? hmodule
      rw [Item.WellNamed] at hnamed
      exact wellNamedItems_iff.mp hnamed.2 item hitem

end BuilderGen.Grammar

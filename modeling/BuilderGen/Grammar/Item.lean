import BuilderGen.Grammar.Tree

/-!
# Items as trees

What is kept of the structure of items: structs and enums with their fields, the heads of implementations,
and modules with their items.  Every other item is a list of tokens in normal form.
-/

namespace BuilderGen.Grammar

/-- A written visibility. -/
inductive VisibilityTree where
  | everywhere
  /-- A visibility with a scope, with or without the keyword `in`. -/
  | restricted (inside : Bool) (path : NamePath)
  | inherited
deriving DecidableEq, Repr, Inhabited

def VisibilityTree.tokens : VisibilityTree → List Token
  | everywhere => [.word "pub"]
  | restricted inside path =>
      [.word "pub", Token.parens ((if inside then [Token.word "in"] else []) ++ path.tokens)]
  | inherited => []

/-- A field of a struct or of a variant, and whether a comma follows it. -/
structure FieldTree where
  attributes : List Attribute
  visibility : VisibilityTree
  /-- The name of a named field. -/
  name : Option String
  type : TypeTree
  comma : Bool
deriving Inhabited

def FieldTree.tokens (field : FieldTree) : List Token :=
  Attribute.listTokens field.attributes ++ field.visibility.tokens
    ++ (match field.name with
      | some name => .word name :: Token.op ":"
      | none => [])
    ++ field.type.tokens ++ (if field.comma then Token.op "," else [])

/-- The fields of a struct or of a variant. -/
inductive FieldsTree where
  | named (fields : List FieldTree)
  | positional (fields : List FieldTree)
  | unit
deriving Inhabited

namespace FieldsTree

def tokens : FieldsTree → List Token
  | named fields => [Token.braces (fields.flatMap FieldTree.tokens)]
  | positional fields => [Token.parens (fields.flatMap FieldTree.tokens)]
  | unit => []

/-- All fields in order. -/
def toList : FieldsTree → List FieldTree
  | named fields | positional fields => fields
  | unit => []

/-- The fields changed one by one. -/
def map (change : FieldTree → FieldTree) : FieldsTree → FieldsTree
  | named fields => .named (fields.map change)
  | positional fields => .positional (fields.map change)
  | unit => .unit

/-- Whether there are no fields at all. -/
def isUnit : FieldsTree → Bool
  | unit => true
  | _ => false

/-- Whether the fields stand in parentheses. -/
def isPositional : FieldsTree → Bool
  | positional _ => true
  | _ => false

end FieldsTree

/-- Generic parameters as tokens.  There are none when the list of tokens is empty. -/
abbrev Generics := List Token

structure StructTree where
  attributes : List Attribute
  visibility : VisibilityTree
  name : String
  generics : Generics
  /-- The tokens of the `where` clause. -/
  constraints : List Token
  fields : FieldsTree
deriving Inhabited

def StructTree.tokens (item : StructTree) : List Token :=
  Attribute.listTokens item.attributes ++ item.visibility.tokens
    ++ [.word "struct", .word item.name] ++ item.generics
    ++ match item.fields with
      | .named _ => item.constraints ++ item.fields.tokens
      | .positional _ => item.fields.tokens ++ item.constraints ++ Token.op ";"
      | .unit => item.constraints ++ Token.op ";"

/-- A variant of an enum, and whether a comma follows it. -/
structure VariantTree where
  attributes : List Attribute
  name : String
  fields : FieldsTree
  /-- The tokens from the `=` on, if a value is given. -/
  discriminant : List Token
  comma : Bool
deriving Inhabited

def VariantTree.tokens (variant : VariantTree) : List Token :=
  Attribute.listTokens variant.attributes ++ [.word variant.name] ++ variant.fields.tokens
    ++ variant.discriminant ++ (if variant.comma then Token.op "," else [])

structure EnumTree where
  attributes : List Attribute
  visibility : VisibilityTree
  name : String
  generics : Generics
  constraints : List Token
  variants : List VariantTree
deriving Inhabited

def EnumTree.tokens (item : EnumTree) : List Token :=
  Attribute.listTokens item.attributes ++ item.visibility.tokens ++ [.word "enum", .word item.name]
    ++ item.generics ++ item.constraints ++ [Token.braces (item.variants.flatMap VariantTree.tokens)]

/-- A trait that is implemented. -/
structure TraitReference where
  /-- Whether the implementation is a refusal, as in `impl !Send for T`. -/
  negative : Bool
  leading : Bool
  segments : List Segment
deriving Inhabited

/-- An implementation. -/
structure ImplTree where
  /-- The tokens in front of the trait or of the type. -/
  head : List Token
  trait? : Option TraitReference
  selfType : TypeTree
  /-- The tokens behind the type. -/
  tail : List Token
deriving Inhabited

/-- The tokens of an implementation. -/
def ImplTree.tokens (item : ImplTree) : List Token :=
  item.head
    ++ (match item.trait? with
      | some reference =>
          (if reference.negative then Token.op "!" else [])
            ++ (TypeTree.path reference.leading reference.segments).tokens ++ [.word "for"]
      | none => [])
    ++ item.selfType.tokens ++ item.tail

/-- A module, apart from its items. -/
structure ModuleHead where
  attributes : List Attribute
  innerAttributes : List Attribute
  visibility : VisibilityTree
  isUnsafe : Bool
  name : String
deriving Inhabited

/-- The tokens in front of the body of a module. -/
def ModuleHead.tokens (head : ModuleHead) : List Token :=
  Attribute.listTokens head.attributes ++ head.visibility.tokens
    ++ (if head.isUnsafe then [Token.word "unsafe"] else []) ++ [.word "mod", .word head.name]

inductive Item where
  | struct (item : StructTree)
  | enum (item : EnumTree)
  | impl (item : ImplTree)
  | module (head : ModuleHead) (items : List Item)
  /-- A module whose items are in another file. -/
  | outline (head : ModuleHead)
  | other (tokens : List Token)
deriving Inhabited

mutual

def Item.tokens : Item → List Token
  | .struct item => item.tokens
  | .enum item => item.tokens
  | .impl item => item.tokens
  | .module head items =>
      head.tokens ++ [Token.braces (Attribute.listTokens head.innerAttributes ++ Item.listTokens items)]
  | .outline head => head.tokens ++ Token.op ";"
  | .other tokens => tokens

def Item.listTokens : List Item → List Token
  | [] => []
  | item :: rest => item.tokens ++ Item.listTokens rest

end

/-- A file: attributes of its own, and items. -/
structure SourceFile where
  attributes : List Attribute
  items : List Item
deriving Inhabited

def SourceFile.tokens (file : SourceFile) : List Token :=
  Attribute.listTokens file.attributes ++ Item.listTokens file.items

end BuilderGen.Grammar

import BuilderGen.Token.Basic

/-!
# Types and paths as trees

What is kept of the structure of a type: paths with their arguments, arrays, parentheses and the unit
type.  Every other type is a list of tokens in normal form.  Each tree has the tokens it is written with.
-/

namespace BuilderGen.Grammar

mutual

inductive TypeTree where
  /-- A path, maybe with a separator in front. -/
  | path (leading : Bool) (segments : List Segment)
  /-- A path through a trait such as `<T as Trait>::Name`, with the text of the path alone. -/
  | qualified (tokens : List Token) (pathText : String)
  /-- A type in parentheses. -/
  | paren (inner : TypeTree)
  /-- The type `()`. -/
  | unit
  /-- An array with its length. -/
  | array (element : TypeTree) (length : List Token)
  /-- Any other type. -/
  | other (tokens : List Token)

inductive Segment where
  | mk (name : String) (arguments : Arguments)

inductive Arguments where
  | none
  /-- Arguments in angle brackets, maybe with a separator in front of the brackets. -/
  | angle (separated : Bool) (items : List Argument)
  /-- Arguments in parentheses, maybe with a result. -/
  | parens (tokens : List Token)

/-- An argument in angle brackets, and whether a comma follows it. -/
inductive Argument where
  | type (type : TypeTree) (comma : Bool)
  | lifetime (tokens : List Token) (comma : Bool)
  | other (tokens : List Token) (comma : Bool)

end

instance : Inhabited TypeTree := ⟨.unit⟩
instance : Inhabited Segment := ⟨.mk "" .none⟩

namespace Segment

def name : Segment → String
  | mk name _ => name

def arguments : Segment → Arguments
  | mk _ arguments => arguments

/-- Whether a segment has no arguments. -/
def isBare : Segment → Bool
  | mk _ .none => true
  | _ => false

end Segment

def Argument.isLifetime : Argument → Bool
  | .lifetime .. => true
  | _ => false

/-- Whether a comma follows an argument. -/
def Argument.comma : Argument → Bool
  | .type _ comma | .lifetime _ comma | .other _ comma => comma

/-- Written arguments with their commas.  Where an argument without a comma is followed by another one, a
comma is supplied.  The flag tells whether no comma is due in front. -/
def argumentTokens : Bool → List (List Token × Bool) → List Token
  | _, [] => []
  | settled, (tokens, comma) :: rest =>
      (if settled then [] else Token.op ",") ++ tokens ++ (if comma then Token.op "," else [])
        ++ argumentTokens comma rest

mutual

def TypeTree.tokens : TypeTree → List Token
  | .path leading segments => (if leading then Token.op "::" else []) ++ segmentsTokens segments
  | .qualified tokens _ => tokens
  | .paren inner => [Token.parens inner.tokens]
  | .unit => [Token.parens []]
  | .array element length => [Token.brackets (element.tokens ++ Token.op ";" ++ length)]
  | .other tokens => tokens

def Segment.tokens : Segment → List Token
  | .mk name arguments => .word name :: arguments.tokens

/-- The tokens of segments, with separators between them. -/
def segmentsTokens : List Segment → List Token
  | [] => []
  | [segment] => segment.tokens
  | segment :: rest => segment.tokens ++ Token.op "::" ++ segmentsTokens rest

/-- The tokens of the arguments of a segment.  Lifetimes come first. -/
def Arguments.tokens : Arguments → List Token
  | .none => []
  | .angle separated items =>
      let written := itemsTokens items
      let lifetimes := (written.filter (·.1)).map Prod.snd
      let others := (written.filter (!·.1)).map Prod.snd
      (if separated then Token.op "::" else []) ++ Token.op "<" ++
        argumentTokens true (lifetimes ++ others) ++ Token.op ">"
  | .parens tokens => tokens

/-- The tokens of arguments, each with whether it is a lifetime and whether a comma follows. -/
def itemsTokens : List Argument → List (Bool × List Token × Bool)
  | [] => []
  | .type type comma :: rest => (false, type.tokens, comma) :: itemsTokens rest
  | .lifetime tokens comma :: rest => (true, tokens, comma) :: itemsTokens rest
  | .other tokens comma :: rest => (false, tokens, comma) :: itemsTokens rest

end

/-- The text of a path: its names without arguments. -/
def pathText (leading : Bool) (segments : List Segment) : String :=
  (if leading then "::" else "") ++ "::".intercalate (segments.map Segment.name)

/-- A path whose segments are mere names, such as the path of an attribute. -/
structure NamePath where
  leading : Bool := false
  names : List String
deriving DecidableEq, Repr, Inhabited

namespace NamePath

/-- The tokens of names with separators between them. -/
def namesTokens : List String → List Token
  | [] => []
  | [name] => [.word name]
  | name :: rest => .word name :: Token.op "::" ++ namesTokens rest

def tokens (path : NamePath) : List Token :=
  (if path.leading then Token.op "::" else []) ++ namesTokens path.names

def text (path : NamePath) : String :=
  (if path.leading then "::" else "") ++ "::".intercalate path.names

/-- Whether a path is one given name. -/
def isName (path : NamePath) (name : String) : Bool :=
  !path.leading && path.names == [name]

end NamePath

/-- The part of an attribute behind its path. -/
inductive AttributeBody where
  /-- Nothing, as in `#[name]`. -/
  | bare
  /-- A group of tokens, as in `#[name(...)]`. -/
  | list (delimiter : Delimiter) (tokens : List Token)
  /-- An expression, as in `#[name = ...]`. -/
  | value (tokens : List Token)
deriving Repr, Inhabited

structure Attribute where
  inner : Bool := false
  path : NamePath
  body : AttributeBody
deriving Repr, Inhabited

namespace Attribute

def tokens (attr : Attribute) : List Token :=
  let body := match attr.body with
    | .bare => []
    | .list delimiter tokens => [Token.group delimiter tokens]
    | .value tokens => Token.op "=" ++ tokens
  [Token.mark '#' false] ++ (if attr.inner then [Token.mark '!' false] else [])
    ++ [Token.brackets (attr.path.tokens ++ body)]

def listTokens (attributes : List Attribute) : List Token :=
  attributes.flatMap tokens

end Attribute

end BuilderGen.Grammar

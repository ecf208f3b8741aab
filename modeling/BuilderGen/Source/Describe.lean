import BuilderGen.Grammar.Tree
import BuilderGen.Model.DeclaredType

/-!
# Describing types

Turns the tree of a type into a declared type.  `Option<T>` becomes `T` marked nullable.  Of two nested
options only the outer one is folded.  A type that has no structure to speak of is kept as text.
-/

namespace BuilderGen

open Grammar

/-- Two descriptions of one type. -/
structure TypeView where
  /-- The description in which an option is folded into a flag. -/
  folded : DeclaredType
  /-- The description in which an option at the top stays a named type. -/
  plain : DeclaredType
deriving Inhabited

namespace TypeView

/-- The view of a type that is kept as text. -/
def ofTokens (tokens : List Token) : TypeView :=
  let type : DeclaredType := { head := .verbatim (Token.print tokens) }
  { folded := type, plain := type }

/-- The type of an option around a described type.  Where the described type is an option itself, its
plain description stays inside. -/
def option (inner : TypeView) : DeclaredType :=
  if inner.folded.nullable then inner.plain.orAbsent else inner.folded.orAbsent

/-- Whether the segments in front of the last one have no arguments. -/
def leadsBare : List Segment → Bool
  | [] | [_] => true
  | .mk _ .none :: rest | .mk _ (.angle _ []) :: rest => leadsBare rest
  | _ :: _ => false

def lastName (segments : List Segment) : Option String :=
  segments.getLast?.map Segment.name

mutual

def ofTree : TypeTree → TypeView
  | .paren inner => { folded := (ofTree inner).folded, plain := (ofTokens [Token.parens inner.tokens]).plain }
  | .unit => { folded := { head := .unit }, plain := (ofTokens [Token.parens []]).plain }
  | .array element length =>
      { folded := { head := .array (Token.print length), args := [(ofTree element).folded] }
        plain := (ofTokens (TypeTree.array element length).tokens).plain }
  | .qualified tokens _ => ofTokens tokens
  | .other tokens => ofTokens tokens
  | .path leading segments =>
      let arguments := ofLastSegment segments
      let plain : DeclaredType :=
        match arguments with
        | some views =>
            if leadsBare segments then
              { head := .named (pathText leading segments), args := views.map folded }
            else
              (ofTokens (TypeTree.path leading segments).tokens).plain
        | none => (ofTokens (TypeTree.path leading segments).tokens).plain
      let folded :=
        match arguments with
        | some [inner] => if lastName segments = some "Option" then option inner else plain
        | _ => plain
      { folded, plain }

/-- The views of the arguments of the last segment, if they are types. -/
def ofLastSegment : List Segment → Option (List TypeView)
  | [] => none
  | [.mk _ arguments] => ofArguments arguments
  | _ :: rest => ofLastSegment rest

/-- The views of arguments, if they are types. -/
def ofArguments : Arguments → Option (List TypeView)
  | .none => some []
  | .angle _ items => ofItems items
  | .parens _ => none

/-- The views of arguments in angle brackets, if they are types. -/
def ofItems : List Argument → Option (List TypeView)
  | [] => some []
  | .type type _ :: rest => (ofItems rest).map (ofTree type :: ·)
  | .lifetime .. :: _ | .other .. :: _ => none

end

end TypeView

def describe (type : TypeTree) : DeclaredType :=
  (TypeView.ofTree type).folded

end BuilderGen

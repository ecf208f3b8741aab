import BuilderGen.Grammar.Level
import BuilderGen.Model.Declarations

/-!
# Parts of rendered builders

A builder holds names, paths, types and expressions as texts.  Rendering reads each text by the grammar and
fails at the first one that does not fit.
-/

namespace BuilderGen

open Grammar (TextFailure)

/-- Why a builder is not rendered, with the text at fault. -/
inductive RenderFault where
  | identifier (name : String) (cause : TextFailure)
  | type (text : String) (cause : TextFailure)
  /-- An array has no element type. -/
  | elementless (type : String)
  | expression (text : String) (cause : TextFailure)
  | path (text : String) (cause : TextFailure)
  | visibility (text : String) (cause : TextFailure)
deriving DecidableEq, Repr, Inhabited

namespace RenderFault

/-- The text at fault. -/
def subject : RenderFault → String
  | identifier text _ | type text _ | elementless text | expression text _ | path text _
  | visibility text _ => text

def message : RenderFault → String
  | identifier text cause => "`" ++ text ++ "` is not a valid identifier: " ++ cause.message
  | type text cause => "cannot render type `" ++ text ++ "`: " ++ cause.message
  | elementless text => "cannot render type `" ++ text ++ "`: array without element type"
  | expression text cause => "`" ++ text ++ "` is not a valid expression: " ++ cause.message
  | path text cause => "`" ++ text ++ "` is not a valid path: " ++ cause.message
  | visibility text cause => "`" ++ text ++ "` is not a valid visibility: " ++ cause.message

end RenderFault

namespace Token

/-! ## Phrases -/

/-- Pieces of a text between single spaces. -/
def spaced : List Char → List (List Char)
  | [] => [[]]
  | ' ' :: rest => [] :: spaced rest
  | c :: rest =>
      match spaced rest with
      | [] => [[c]]
      | piece :: pieces => (c :: piece) :: pieces

/-- The tokens of a piece: a word, a lifetime, or the marks of an operator. -/
def ofPiece (piece : List Char) : List Token :=
  match piece with
  | [] => []
  | '\'' :: name => lifetime (String.ofList name)
  | c :: _ => if Text.isIdentStart c then [word (String.ofList piece)] else operator piece

/-- The tokens of a phrase: words and operators with single spaces between them. -/
def phrase (text : String) : List Token :=
  (spaced text.toList).flatMap ofPiece

end Token

namespace Render

open Token (phrase)

/-- The tokens of the option type around a type. -/
def optionOf (inner : List Token) : List Token :=
  phrase ":: core :: option :: Option <" ++ inner ++ phrase ">"

/-- The tokens of `Some` around a value. -/
def someOf (inner : List Token) : List Token :=
  phrase ":: core :: option :: Option :: Some" ++ [Token.parens inner]

/-- The tokens of the absent value. -/
def absent : List Token :=
  phrase ":: core :: option :: Option :: None"

def identifier (name : String) : Except RenderFault String :=
  (Grammar.identOfText? name).mapError (.identifier name)

def path (text : String) : Except RenderFault (List Token) :=
  (Grammar.pathOfText? text).mapError (.path text)

def expression (text : String) : Except RenderFault (List Token) :=
  (Grammar.expressionOfText? text).mapError (.expression text)

/-- Lists of tokens with commas between them. -/
def commaSeparated : List (List Token) → List Token
  | [] => []
  | [tokens] => tokens
  | tokens :: rest => tokens ++ Token.op "," ++ commaSeparated rest

mutual

/-- The tokens of a declared type, with the option type around a nullable one. -/
def type : DeclaredType → Except RenderFault (List Token)
  | ⟨head, args, nullable⟩ => do
      let inner ←
        match head with
        | .unit => .ok [Token.parens []]
        | .named text => do
            let base ← path text
            let args ← types args
            if args.isEmpty then .ok base
            else .ok (base ++ Token.op "<" ++ commaSeparated args ++ Token.op ">")
        | .array length => do
            let element ←
              match args with
              | [] => .error (.elementless (DeclaredType.mk (.array length) [] nullable).display)
              | element :: _ => type element
            let length ← expression length
            .ok [Token.brackets (element ++ Token.op ";" ++ length)]
        | .verbatim text =>
            ((Grammar.typeOfText? text).mapError (.type text)).map Grammar.TypeTree.tokens
      return if nullable then optionOf inner else inner

def types : List DeclaredType → Except RenderFault (List (List Token))
  | [] => .ok []
  | first :: rest => do
      let first ← type first
      let rest ← types rest
      return first :: rest

end

def slot (declared : DeclaredType) (widened : Bool) : Except RenderFault (List Token) := do
  let inner ← type declared
  return if widened then optionOf inner else inner

def visibility : Visibility → Except RenderFault (List Token)
  | .everywhere => .ok [.word "pub"]
  | .ownModule => .ok []
  | .within scope =>
      let text := "pub(" ++ scope ++ ")"
      ((Grammar.visibilityOfText? text).mapError (.visibility text)).map Grammar.VisibilityTree.tokens

end Render

end BuilderGen

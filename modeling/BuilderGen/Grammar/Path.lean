import BuilderGen.Grammar.Basic
import BuilderGen.Token.Literal

/-!
# Literals, paths, attributes and visibilities

The small parts of the grammar that everything else is made of.
-/

namespace BuilderGen.Grammar

/-! ## Literals -/

/-- Whether tokens start with a literal: a quoted one, a number, `true`, `false`, or a number behind a
minus sign. -/
def isLiteral : List Token → Bool
  | .literal _ :: _ => true
  | .mark '-' _ :: .literal text :: _ => Literal.isNumber text
  | tokens => isOneOf ["true", "false"] tokens

def literal : Parser (List Token)
  | .literal text :: rest => .ok ([.literal text], rest)
  | .mark '-' joint :: .literal text :: rest =>
      if Literal.isNumber text then .ok (Token.op "-" ++ [.literal text], rest)
      else fail "expected literal" (.mark '-' joint :: .literal text :: rest)
  | tokens =>
      if isWord "true" tokens then word "true" tokens
      else if isWord "false" tokens then word "false" tokens
      else fail "expected literal" tokens

/-- Whether tokens start with a text literal. -/
def isTextLiteral : List Token → Bool
  | .literal text :: _ => Literal.isText text
  | _ => false

/-- Reads a text literal, if it comes next. -/
def textLiteral? : Parser (List Token) := do
  if ← look isTextLiteral then literal else return []

/-! ## Paths of names -/

/-- Whether tokens start with a word that a path of names may hold. -/
def isPathWord (tokens : List Token) : Bool :=
  isIdent tokens || isOneOf ["super", "self", "Self", "crate"] tokens

/-- Reads names with separators between them, at least one. -/
def pathNames : Nat → Parser (List String)
  | 0 => fail "expected fewer tokens"
  | fuel + 1 => do
      let name ← anyWord
      if ← look (isOp "::") then
        let _ ← op "::"
        if ← look isPathWord then
          return name :: (← pathNames fuel)
        else
          fail "expected path segment after `::`"
      else
        return [name]

/-- Reads a path whose segments are mere names. -/
def namePath : Parser NamePath := do
  let leading := !(← op? "::").isEmpty
  if ← look isPathWord then
    return { leading, names := ← pathNames (← get).length }
  else
    let _ ← ident
    fail "expected identifier"

/-! ## Attributes -/

variable (g : Parsers)

/-- Reads the part of an attribute behind its path. -/
def attributeBody : Parser AttributeBody
  | .group delimiter content :: rest => .ok (.list delimiter content, rest)
  | tokens =>
      if isOp "=" tokens && !isOp "==" tokens && !isOp "=>" tokens then
        (do
          let _ ← op "="
          match ← ahead? (complete literal <$> get) with
          | some (.ok value) =>
              set ([] : List Token)
              return .value value
          | _ =>
              if ← look (fun tokens => isOp "#" tokens && isGroup .bracket (behind tokens)) then
                fail "unexpected attribute inside of attribute"
              else
                return .value (← g.expression true).tokens : Parser AttributeBody) tokens
      else
        .ok (.bare, tokens)

def attributeContent (inner : Bool) : Parser Attribute := do
  let path ← if ← look (isWord "unsafe") then
      let _ ← word "unsafe"
      pure { names := ["unsafe"] }
    else
      namePath
  return { inner, path, body := ← attributeBody g }

/-- Reads one attribute in front of what it belongs to. -/
def outerAttribute : Parser Attribute := do
  let _ ← op "#"
  within .bracket (attributeContent g false)

/-- Reads the attributes in front of what they belong to. -/
def outerAttributes : Parser (List Attribute) :=
  manyWhile (isOp "#") (outerAttribute g)

/-- Reads the attributes inside of what they belong to. -/
def innerAttributes : Parser (List Attribute) :=
  manyWhile (fun tokens => isOp "#" tokens && isOp "!" (behind tokens)) do
    let _ ← op "#"
    let _ ← op "!"
    within .bracket (attributeContent g true)

/-- Reads the tokens of the attributes in front. -/
def outerTokens : Parser (List Token) := do
  return Attribute.listTokens (← outerAttributes g)

/-- Reads the tokens of the attributes inside. -/
def innerTokens : Parser (List Token) := do
  return Attribute.listTokens (← innerAttributes g)

/-! ## Visibilities -/

/-- Reads a visibility.  Parentheses that do not hold a scope belong to what follows. -/
def visibility : Parser VisibilityTree := do
  if ← look (isWord "pub") then
    let _ ← word "pub"
    match ← get with
    | .group .parenthesis content :: rest =>
        match content with
        | .word "in" :: _ =>
            let path ← within .parenthesis do
              let _ ← word "in"
              namePath
            return .restricted true path
        | [.word scope] =>
            if scope ∈ ["crate", "self", "super"] then
              set rest
              return .restricted false { names := [scope] }
            else
              return .everywhere
        | _ => return .everywhere
    | _ => return .everywhere
  else
    return .inherited

end BuilderGen.Grammar

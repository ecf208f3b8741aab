import BuilderGen.Grammar.Statement

/-!
# Functions

Parsers for the heads and the bodies of functions.
-/

namespace BuilderGen.Grammar

variable (g : Parsers)

/-- The tokens read since a point where `start` was left. -/
def since (start : List Token) : Parser (List Token) := do
  let rest ← get
  return start.take (start.length - rest.length)

/-- Reads the receiver of a method. -/
def receiver : Parser (List Token) := do
  let reference ←
    if ← look (isOp "&") then
      let mark ← op "&"
      pure (mark ++ (← lifetime?))
    else
      pure []
  let changeable ← word? "mut"
  let name ← word "self"
  let type ←
    if reference.isEmpty && (← look (isOp ":")) then
      let colon ← op ":"
      pure (colon ++ (← g.type true).tokens)
    else
      pure []
  return reference ++ changeable ++ name ++ type

/-- A parameter of a function. -/
inductive FunctionInput where
  | receiver (tokens : List Token)
  | typed (tokens : List Token)
  /-- The mark that more arguments may follow. -/
  | variadic (tokens : List Token)

/-- Reads a parameter behind its attributes. -/
def functionInput : Parser FunctionInput := do
  if ← look (isOp "...") then
    return .variadic (← op "...")
  match ← attempt (receiver g) with
  | some tokens => return .receiver tokens
  | none =>
      let tokens ← get
      if isIdent tokens && isOp "<" (behind tokens) then
        return .typed ([.word "_"] ++ Token.op ":" ++ (← g.type true).tokens)
      else
        let pattern ← g.pattern
        let colon ← op ":"
        if ← look (isOp "...") then
          return .variadic (pattern.tokens ++ colon ++ (← op "..."))
        else
          return .typed (pattern.tokens ++ colon ++ (← g.type true).tokens)

/-- Reads the parameters of a function to the end, at most `fuel` of them.  A receiver comes first. -/
def functionInputs : Nat → Bool → Parser (List Token)
  | 0, _ => fail "expected fewer tokens"
  | fuel + 1, first => do
      if ← atEnd then
        return []
      let attributes ← outerTokens g
      let proceed (tokens : List Token) : Parser (List Token) := do
        if ← atEnd then
          return attributes ++ tokens
        let comma ← op ","
        return attributes ++ tokens ++ comma ++ (← functionInputs fuel false)
      match ← functionInput g with
      | .variadic tokens =>
          if ← atEnd then return attributes ++ tokens
          else return attributes ++ tokens ++ (← op ",")
      | .receiver tokens => if first then proceed tokens else fail "unexpected method receiver"
      | .typed tokens => proceed tokens

/-- Reads the head of a function; the flag allows the keyword `safe`. -/
def signature (safe : Bool) : Parser (List Token) := do
  let constant ← word? "const"
  let async ← word? "async"
  let access ←
    if safe && (← look (isWord "safe")) then word "safe"
    else word? "unsafe"
  let convention ← convention?
  let start ← word "fn"
  let name ← ident
  let generics ← generics g
  let inputs ← within .parenthesis do
    functionInputs g ((← get).length + 1) true
  let result ← result g true
  let constraints ← whereClause g
  return constant ++ async ++ access ++ convention ++ start ++ [.word name] ++ generics
    ++ [Token.parens inputs] ++ result ++ constraints

/-- Reads a type alias behind its attributes and visibility: the tokens of the name with its generic
parameters, the bounds, the constraints and the type.  The flags tell on which sides of the type
constraints may stand. -/
def aliasParts (constrainedBefore constrainedAfter : Bool) :
    Parser (List Token × List Token × List Token × List Token) := do
  let start ← word "type"
  let name ← ident
  let generics ← generics g
  let stop (tokens : List Token) : Bool := isWord "where" tokens || isOp "=" tokens || isOp ";" tokens
  let colon ← op? ":"
  let bounds ← if colon.isEmpty then pure [] else boundsUntil g true stop
  let before ← if constrainedBefore then whereClause g else pure []
  let value ←
    if ← look (isOp "=") then
      let mark ← op "="
      pure (mark ++ (← g.type true).tokens)
    else
      pure []
  let after ← if constrainedAfter && before.isEmpty then whereClause g else pure []
  let _ ← op ";"
  return (start ++ [.word name] ++ generics, behindColon bounds, before ++ after, value)

end BuilderGen.Grammar

import BuilderGen.Grammar.Type

/-!
# Patterns

Parsers for patterns, with the tokens of what they read in normal form.
-/

namespace BuilderGen.Grammar

variable (g : Parsers)

/-- The bound of the numbers of positional members. -/
def positionBound : Nat := 4294967296

/-- The number of a positional member: a whole number without a suffix that fits in 32 bits. -/
def positionOf? (literal : String) : Option Nat :=
  match Literal.whole? literal with
  | some (value, suffix) => if suffix = "" ∧ value < positionBound then some value else none
  | none => none

/-- Reads the name or the position of a member; the flag tells whether it is a name. -/
def member : Parser (List Token × Bool)
  | .literal text :: rest =>
      match positionOf? text with
      | some value => .ok (([.literal (toString value)], false), rest)
      | none => fail "expected identifier or integer" (.literal text :: rest)
  | tokens =>
      if isIdent tokens then (ident tokens).map fun (name, rest) => (([.word name], true), rest)
      else fail "expected identifier or integer" tokens

/-- Reads a pattern with alternatives; a mark in front of the first one is allowed. -/
def patternAlternatives : Parser Pattern := do
  let leading ← op? "|"
  let continues (tokens : List Token) : Bool :=
    isOp "|" tokens && !isOp "||" tokens && !isOp "|=" tokens
  let first ← g.pattern
  let more ← manyWhile continues do
    let mark ← op "|"
    return mark ++ (← g.pattern).tokens
  if leading.isEmpty && more.isEmpty then
    return first
  else
    return { tokens := leading ++ first.tokens ++ more.flatten }

/-- Reads patterns with commas between them to the end. -/
def patternList : Parser (List (Pattern × Bool)) :=
  separated "," List.isEmpty (patternAlternatives g)

/-- The tokens of patterns with their commas. -/
def patternTokens (patterns : List (Pattern × Bool)) : List Token :=
  separatedTokens "," (patterns.map fun (pattern, comma) => (pattern.tokens, comma))

/-- Reads the dots of a range in a pattern, and whether the range includes its end. -/
def patternDots : Parser (List Token × Bool) := do
  let tokens ← get
  if isOp "..=" tokens then return (← op "..=", true)
  else if isOp "..." tokens then return (← op "...", true)
  else return (← op "..", false)

/-- Whether the tokens behind the dots of a range hold no bound. -/
def endsRange (tokens : List Token) : Bool :=
  tokens.isEmpty || isOp "|" tokens || isOp "=" tokens || (isOp ":" tokens && !isOp "::" tokens)
    || isOp "," tokens || isOp ";" tokens || isWord "if" tokens

/-- Reads a bound of a range in a pattern. -/
def rangeBound : Parser (List Token) := do
  let tokens ← get
  if isLiteral tokens then
    literal
  else if isPathWord tokens || isOp "::" tokens || isOp "<" tokens then
    return (← qualifiedPath g true).tokens
  else
    let start ← word "const"
    return start ++ [← within .brace (do
      let attributes ← innerTokens g
      return Token.braces (attributes ++ (← g.statements)))]

/-- Reads the range behind its first bound. -/
def patternRange (start : List Token) : Parser Pattern := do
  let (dots, closed) ← patternDots
  if ← look endsRange then
    if closed then fail "expected range upper bound"
    else return { tokens := start ++ dots, form := .openRange }
  else
    return { tokens := start ++ dots ++ (← rangeBound g) }

/-- Reads one field of a struct pattern. -/
def fieldPattern : Parser (List Token) := do
  let box ← word? "box"
  let byReference ← word? "ref"
  let changeable ← word? "mut"
  let access := box ++ byReference ++ changeable
  if access.isEmpty then
    let (name, named) ← member
    if !named || (← look (isOp ":")) then
      let colon ← op ":"
      return name ++ colon ++ (← patternAlternatives g).tokens
    else
      return name
  else
    return access ++ [.word (← ident)]

/-- Reads the fields of a struct pattern, at most `fuel` of them. -/
def fieldPatterns : Nat → Parser (List Token)
  | 0 => fail "expected fewer tokens"
  | fuel + 1 => do
      if ← atEnd then
        return []
      let attributes ← outerTokens g
      if ← look (isOp "..") then
        return attributes ++ (← op "..")
      let field ← fieldPattern g
      if ← atEnd then
        return attributes ++ field
      let comma ← op ","
      return attributes ++ field ++ comma ++ (← fieldPatterns fuel)

/-- Reads a pattern that starts with a path. -/
def patternFromPath : Parser Pattern := do
  let path ← qualifiedPath g true
  let tokens ← get
  if isOp "!" tokens && !isOp "!=" tokens && isNamePath path then
    let bang ← op "!"
    return { tokens := path.tokens ++ bang ++ [← anyGroup] }
  else if isGroup .brace tokens then
    let fields ← within .brace do
      fieldPatterns g ((← get).length + 1)
    return { tokens := path.tokens ++ [Token.braces fields] }
  else if isGroup .parenthesis tokens then
    let items ← within .parenthesis (patternList g)
    return { tokens := path.tokens ++ [Token.parens (patternTokens items)] }
  else if isOp ".." tokens then
    patternRange g path.tokens
  else
    return { tokens := path.tokens }

/-- Reads a binding, maybe with a pattern behind `@`. -/
def patternBinding : Parser Pattern := do
  let byReference ← word? "ref"
  let changeable ← word? "mut"
  let name ← if ← look (isWord "self") then anyWord else ident
  let inner ←
    if ← look (isOp "@") then
      let mark ← op "@"
      pure (mark ++ (← g.pattern).tokens)
    else
      pure []
  return { tokens := byReference ++ changeable ++ [.word name] ++ inner }

/-- Whether tokens start with a path that a pattern may start with. -/
def startsPathPattern (tokens : List Token) : Bool :=
  let next := behind tokens
  (isIdent tokens && (isOp "::" next || isOp "!" next || isGroup .brace next || isGroup .parenthesis next
      || isOp ".." next))
    || (isWord "self" tokens && isOp "::" next) || isOp "::" tokens || isOp "<" tokens
    || isOneOf ["Self", "super", "crate"] tokens

/-- Reads a pattern without alternatives at its top. -/
def readPattern : Parser Pattern := do
  let tokens ← get
  if startsPathPattern tokens then
    patternFromPath g
  else if isWord "_" tokens then
    return { tokens := ← word "_" }
  else if isWord "box" tokens then
    return { tokens := ← verbatim (do let _ ← word "box"; g.pattern) }
  else if isOp "-" tokens || isLiteral tokens || isWord "const" tokens then
    let start ← rangeBound g
    if ← look (isOp "..") then patternRange g start
    else return { tokens := start }
  else if isOneOf ["ref", "mut", "self"] tokens || isIdent tokens then
    patternBinding g
  else if isOp "&" tokens then
    let mark ← op "&"
    let changeable ← word? "mut"
    return { tokens := mark ++ changeable ++ (← g.pattern).tokens }
  else if isGroup .parenthesis tokens then
    return { tokens := [Token.parens (patternTokens (← within .parenthesis (patternList g)))] }
  else if isGroup .bracket tokens then
    let items ← within .bracket (patternList g)
    if items.any (·.1.form = .openRange) then
      fail "range pattern is not allowed unparenthesized inside slice pattern"
    else
      return { tokens := [Token.brackets (patternTokens items)] }
  else if isOp ".." tokens && !isOp "..." tokens then
    let (dots, closed) ← patternDots
    if ← look endsRange then
      if closed then fail "expected range upper bound"
      else return { tokens := dots, form := .rest }
    else
      return { tokens := dots ++ (← rangeBound g), form := .openRange }
  else
    fail "expected a pattern"

end BuilderGen.Grammar

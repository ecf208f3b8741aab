import BuilderGen.Grammar.Path

/-!
# Types, bounds and generic parameters

Parsers for types in all their forms, for the bounds of type parameters, and for lists of generic
parameters with their constraints.
-/

namespace BuilderGen.Grammar

variable (g : Parsers)

/-! ## Paths with arguments -/

/-- Reads a constant among generic arguments: a literal, a name where one is allowed, or a block. -/
def constantArgument (names : Bool) : Parser (List Token) := do
  let tokens ← get
  if isLiteral tokens then literal
  else if names && isIdent tokens then
    return [.word (← ident)]
  else
    return [← within .brace (do
      let attributes ← innerTokens g
      return Token.braces (attributes ++ (← g.statements)))]

/-- Reads lifetimes that are bound in front of a type. -/
def boundLifetimes : Parser (List Token) := do
  let _ ← word "for"
  let _ ← op "<"
  let lifetimes ← separated "," (isOp ">") do
    let attributes ← outerTokens g
    return attributes ++ (← lifetime)
  let _ ← op ">"
  return [.word "for"] ++ Token.op "<" ++ separatedTokens "," lifetimes ++ Token.op ">"

/-- Reads bound lifetimes, if they come next. -/
def boundLifetimes? : Parser (List Token) := do
  if ← look (isWord "for") then boundLifetimes g else return []

/-- Reads the result of a function, if there is one. -/
def result (plus : Bool) : Parser (List Token) := do
  if ← look (isOp "->") then
    let arrow ← op "->"
    return arrow ++ (← g.type plus).tokens
  else
    return []

/-- Reads arguments in parentheses with their result. -/
def parenthesizedArguments : Parser (List Token) := do
  let inputs ← within .parenthesis (commaTokens (TypeTree.tokens <$> g.type true))
  return Token.parens inputs :: (← result g false)

/-- Reads bounds joined by `+` up to the tokens that stop the list. -/
def boundsUntil (constants : Bool) (stop : List Token → Bool) : Parser (List Token) := do
  let bounds ← many do
    if ← look stop then
      return none
    else
      let (bound, _) ← g.bound false constants
      let plus ← op? "+"
      return some (bound ++ plus, !plus.isEmpty)
  if bounds.dropLast.all Prod.snd then
    return (bounds.map Prod.fst).flatten
  else
    fail "expected `+`"

/-- Reads an argument in angle brackets. -/
def argument : Parser (Bool → Argument) := do
  let tokens ← get
  if isLifetime tokens && !isOp "+" (behind tokens) then
    let tokens ← lifetime
    return fun comma => .lifetime tokens comma
  else if isLiteral tokens || isGroup .brace tokens then
    let tokens ← constantArgument g false
    return fun comma => .other tokens comma
  else
    let type ← g.type true
    let tokens ← get
    let single := match type with
      | .path false [.mk _ .none] | .path false [.mk _ (.angle ..)] => true
      | _ => false
    if single && isOp "=" tokens then
      let mark ← op "="
      let tokens ← get
      let value ←
        if isLiteral tokens || isGroup .brace tokens then constantArgument g false
        else TypeTree.tokens <$> g.type true
      return fun comma => .other (type.tokens ++ mark ++ value) comma
    else if single && isOp ":" tokens then
      let mark ← op ":"
      let bounds ← boundsUntil g false fun tokens => isOp "," tokens || isOp ">" tokens
      return fun comma => .other (type.tokens ++ mark ++ bounds) comma
    else
      return fun comma => .type type comma

/-- Reads arguments in angle brackets. -/
def arguments : Parser Arguments := do
  let separator ← op? "::"
  let _ ← op "<"
  let items ← separated "," (isOp ">") (argument g)
  let _ ← op ">"
  return .angle (!separator.isEmpty) (items.map fun (argument, comma) => argument comma)

/-- Reads a segment of a path.  In expressions the arguments need a separator in front. -/
def segment (inExpression : Bool) : Parser Segment := do
  let tokens ← get
  if isOneOf ["super", "self", "crate", "try"] tokens then
    return .mk (← anyWord) .none
  else
    let name ← if isWord "Self" tokens then anyWord else ident
    let tokens ← get
    if (!inExpression && isOp "<" tokens && !isOp "<=" tokens)
        || (isOp "::" tokens && isOp "<" (behindTwo tokens)) then
      return .mk name (← arguments g)
    else
      return .mk name .none

/-- Reads a path.  A separator in front of parentheses is left. -/
def path (inExpression : Bool) : Parser (Bool × List Segment) := do
  let leading ← op? "::"
  let first ← segment g inExpression
  let more ← manyWhile (fun tokens => isOp "::" tokens && !isGroup .parenthesis (behindTwo tokens)) do
    let _ ← op "::"
    segment g inExpression
  return (!leading.isEmpty, first :: more)

/-- Reads a path that may go through a trait. -/
def qualifiedPath (inExpression : Bool) : Parser TypeTree := do
  if ← look (isOp "<") then
    let start ← op "<"
    let this ← g.type true
    let through ←
      if ← look (isWord "as") then
        let _ ← word "as"
        some <$> path g false
      else
        pure none
    let stop ← op ">"
    let separator ← op "::"
    let first ← segment g inExpression
    let more ← manyWhile (isOp "::") do
      let _ ← op "::"
      segment g inExpression
    let segments := first :: more
    match through with
    | some (leading, traitSegments) =>
        return .qualified
          (start ++ this.tokens ++ [.word "as"] ++ (TypeTree.path leading traitSegments).tokens ++ stop
            ++ separator ++ segmentsTokens segments)
          (pathText leading (traitSegments ++ segments))
    | none =>
        return .qualified (start ++ this.tokens ++ stop ++ separator ++ segmentsTokens segments)
          (pathText true segments)
  else
    let (leading, segments) ← path g inExpression
    return .path leading segments

/-- Whether the path of a type consists of mere names. -/
def isNamePath : TypeTree → Bool
  | .path _ segments => segments.all Segment.isBare
  | _ => false

/-! ## Bounds -/

/-- Reads a bound by a trait; the flag allows constant traits.  Where a trait may be missing, the `?` is
written before the lifetimes. -/
def traitBound (constants : Bool) : Parser (List Token) := do
  let before ← boundLifetimes? g
  let constant ← verbatim do
    if ← look (isOp "~") then
      let _ ← op "~"
      let _ ← word "const"
    else if ← look (isGroup .bracket) then
      let _ ← within .bracket (word "const")
    else
      let _ ← word? "const"
  if !constant.isEmpty && !constants then
    fail "expected no `const` here"
  let maybe ← op? "?"
  let after ← if before.isEmpty && !maybe.isEmpty then boundLifetimes? g else pure []
  let (leading, segments) ← path g false
  let tokens ← get
  let bare := (segments.getLast?.map Segment.isBare).getD false
  let call ←
    if bare && (isGroup .parenthesis tokens
        || (isOp "::" tokens && isGroup .parenthesis (behindTwo tokens))) then
      let _ ← op? "::"
      parenthesizedArguments g
    else
      pure []
  return constant ++ maybe ++ before ++ after ++ (TypeTree.path leading segments).tokens ++ call

/-- Reads a bound of a type parameter, and whether it is a trait.  The flags allow captured lifetimes and
constant traits. -/
def readBound (captures constants : Bool) : Parser (List Token × Bool) := do
  let tokens ← get
  if isLifetime tokens then
    return (← lifetime, false)
  else if isWord "use" tokens then
    if captures then
      let start ← word "use"
      let _ ← op "<"
      let names ← separated "," (isOp ">") do
        if ← look isLifetime then lifetime
        else if ← look (isWord "Self") then return [.word (← anyWord)]
        else return [.word (← ident)]
      let _ ← op ">"
      return (start ++ Token.op "<" ++ separatedTokens "," names ++ Token.op ">", false)
    else
      fail "expected no captured lifetimes here"
  else if isGroup .parenthesis tokens then
    return ([Token.parens (← within .parenthesis (traitBound g constants))], true)
  else
    return (← traitBound g constants, true)

/-- Whether another bound may follow a `+`. -/
def startsBound (tokens : List Token) : Bool :=
  isAnyWord tokens || isOp "::" tokens || isOp "?" tokens || isLifetime tokens
    || isGroup .parenthesis tokens

/-- Reads bounds joined by `+`; the last component tells whether one of them is a trait. -/
def bounds (plus captures constants : Bool) : Parser (List Token × Bool) := do
  let (first, isTrait) ← readBound g captures constants
  let more ← many do
    let tokens ← get
    if plus && isOp "+" tokens then
      let mark ← op "+"
      let tokens ← get
      if startsBound tokens || (constants && (isGroup .bracket tokens || isOp "~" tokens)) then
        let (next, isTrait) ← readBound g captures constants
        return some (mark ++ next, isTrait)
      else
        return some (mark, false)
    else
      return none
  return (first ++ (more.map Prod.fst).flatten, isTrait || more.any Prod.snd)

/-- Reads the bounds of a trait object. -/
def objectBounds (plus : Bool) : Parser (List Token) := do
  let (tokens, isTrait) ← bounds g plus false false
  if isTrait then return tokens
  else fail "at least one trait is required for an object type"

/-- Reads bounds as long as a `+` follows, each with its `+` in front. -/
def moreBounds : Parser (List Token) := do
  let more ← manyWhile (isOp "+") do
    let mark ← op "+"
    let (next, _) ← readBound g false false
    return mark ++ next
  return more.flatten

/-! ## Functions as types -/

/-- Reads the calling convention of a function, if there is one. -/
def convention? : Parser (List Token) := do
  if ← look (isWord "extern") then
    let start ← word "extern"
    return start ++ (← textLiteral?)
  else
    return []

/-- Reads a parameter of a function type. -/
def functionTypeInput (first : Bool) : Parser (List Token) := do
  let attributes ← outerTokens g
  let tokens ← get
  let receiver := first && isWord "mut" tokens && isWord "self" (behind tokens)
  let nameless := if receiver then behind tokens else tokens
  let isSelf := first && isWord "self" nameless
  let named := (isIdent nameless || isWord "_" nameless || isSelf) && isOp ":" (behind nameless)
    && !isOp "::" (behind nameless)
  if receiver then
    let written ← verbatim do
      let _ ← word "mut"
      let _ ← anyWord
      if named then
        let _ ← op ":"
        let _ ← g.type true
    return attributes ++ written
  else if named then
    let name ← anyWord
    let mark ← op ":"
    let type ← g.type true
    return attributes ++ [.word name] ++ mark ++ type.tokens
  else
    return attributes ++ (← g.type true).tokens

/-- Reads the parameters of a function type. -/
def functionTypeInputs : Nat → Bool → Parser (List Token)
  | 0, _ => fail "expected fewer tokens"
  | fuel + 1, first => do
      if ← atEnd then
        return []
      let variadic ← attempt do
        let attributes ← outerTokens g
        let name ← attempt do
          let name ← if ← look (isWord "_") then anyWord else ident
          return Token.word name :: (← op ":")
        let dots ← op "..."
        return attributes ++ name.getD [] ++ dots
      match variadic with
      | some tokens => return tokens ++ (← op? ",")
      | none =>
          let input ← functionTypeInput g first
          if ← atEnd then
            return input
          let comma ← op ","
          return input ++ comma ++ (← functionTypeInputs fuel false)

/-- Reads a function type behind its bound lifetimes. -/
def functionType : Parser (List Token) := do
  let isUnsafe ← word? "unsafe"
  let convention ← convention?
  let start ← word "fn"
  let inputs ← within .parenthesis do
    functionTypeInputs g ((← get).length + 1) true
  return isUnsafe ++ convention ++ start ++ [Token.parens inputs] ++ (← result g false)

/-! ## Types -/

/-- What a group in parentheses holds in a type. -/
inductive ParenType where
  | empty
  | lifetimes (tokens : List Token)
  | maybe (tokens : List Token)
  | tuple (tokens : List Token)
  | single (type : TypeTree)

/-- Reads the content of parentheses in a type. -/
def parenType : Parser ParenType := do
  let tokens ← get
  if tokens.isEmpty then
    return .empty
  else if isLifetime tokens then
    return .lifetimes (← objectBounds g true)
  else if isOp "?" tokens then
    return .maybe (← readBound g false false).1
  else
    let first ← g.type true
    if ← look (isOp ",") then
      let comma ← op ","
      return .tuple (first.tokens ++ comma ++ (← commaTokens (TypeTree.tokens <$> g.type true)))
    else
      return .single first

/-- Reads a type that starts with parentheses. -/
def typeInParens (plus : Bool) : Parser TypeTree := do
  match ← within .parenthesis (parenType g) with
  | .empty => return .unit
  | .lifetimes tokens => return .paren (.other tokens)
  | .maybe tokens => return .other (Token.parens tokens :: (← moreBounds g))
  | .tuple tokens => return .other [Token.parens tokens]
  | .single type =>
      let isBound := match type with
        | .path .. => true
        | _ => false
      if plus && isBound && (← look (isOp "+")) then
        return .other (Token.parens type.tokens :: (← moreBounds g))
      else
        return .paren type

/-- Reads a type that starts with a path: a macro call, joined bounds, or the path alone. -/
def typeFromPath (plus : Bool) (lifetimes : List Token) : Parser TypeTree := do
  let type ← qualifiedPath g false
  match type with
  | .path .. =>
      let tokens ← get
      if isOp "!" tokens && !isOp "!=" tokens && isNamePath type then
        let bang ← op "!"
        return .other (type.tokens ++ bang ++ [← anyGroup])
      else if !lifetimes.isEmpty || (plus && isOp "+" tokens) then
        let more ← many do
          if plus && (← look (isOp "+")) then
            let mark ← op "+"
            if ← look startsBound then
              return some (mark ++ (← readBound g false false).1)
            else
              return some mark
          else
            return none
        return .other (lifetimes ++ type.tokens ++ more.flatten)
      else
        return type
  | _ => return type

/-- Reads a type; the flag allows bounds joined by `+`. -/
def readType (plus : Bool) : Parser TypeTree := do
  let start ← get
  let lifetimes ← boundLifetimes? g
  let tokens ← get
  if !lifetimes.isEmpty && !(isIdent tokens
      || isOneOf ["fn", "unsafe", "extern", "super", "self", "Self", "crate"] tokens) then
    fail "expected a type"
  else if isGroup .parenthesis tokens then
    typeInParens g plus
  else if isOneOf ["fn", "unsafe", "extern"] tokens then
    return .other (lifetimes ++ (← functionType g))
  else if isPathWord tokens || isOp "::" tokens || isOp "<" tokens then
    typeFromPath g plus lifetimes
  else if isWord "dyn" tokens then
    let dyn ← word "dyn"
    let star ← op? "*"
    let bounds ← objectBounds g plus
    if star.isEmpty then
      return .other (dyn ++ bounds)
    else
      let rest ← get
      return .other (start.take (start.length - rest.length))
  else if isGroup .bracket tokens then
    within .bracket do
      let element ← g.type true
      if ← look (isOp ";") then
        let _ ← op ";"
        return .array element (← g.expression true).tokens
      else
        return .other [Token.brackets element.tokens]
  else if isOp "*" tokens then
    let star ← op "*"
    let access ← if ← look (isWord "const") then word "const" else word "mut"
    return .other (star ++ access ++ (← g.type false).tokens)
  else if isOp "&" tokens then
    let mark ← op "&"
    let lifetime ← lifetime?
    let access ← word? "mut"
    return .other (mark ++ lifetime ++ access ++ (← g.type false).tokens)
  else if isOp "!" tokens then
    return .other (← op "!")
  else if isWord "impl" tokens then
    let start ← word "impl"
    let (bounds, isTrait) ← bounds g plus true true
    if isTrait then return .other (start ++ bounds)
    else fail "at least one trait must be specified"
  else if isWord "_" tokens then
    return .other (← word "_")
  else if isLifetime tokens then
    return .other (← objectBounds g true)
  else
    fail "expected a type"

/-! ## Generic parameters -/

/-- Reads lifetimes joined by `+` up to the tokens that stop the list. -/
def lifetimesUntil (stop : List Token → Bool) : Parser (List Token) := do
  let lifetimes ← many do
    if ← look stop then
      return none
    else
      let name ← lifetime
      let plus ← op? "+"
      return some (name ++ plus, !plus.isEmpty)
  if lifetimes.dropLast.all Prod.snd then
    return (lifetimes.map Prod.fst).flatten
  else
    fail "expected `+`"

/-- Bounds with the colon in front, or nothing when there are none. -/
def behindColon (bounds : List Token) : List Token :=
  if bounds.isEmpty then [] else Token.op ":" ++ bounds

/-- Reads a generic parameter; the flag of the answer tells whether it is a lifetime. -/
def genericParameter : Parser (Bool × List Token) := do
  let attributes ← outerTokens g
  let tokens ← get
  if isLifetime tokens then
    let name ← lifetime
    let colon ← op? ":"
    let bounds ←
      if colon.isEmpty then pure []
      else lifetimesUntil fun tokens => tokens.isEmpty || isOp "," tokens || isOp ">" tokens
    return (true, attributes ++ name ++ behindColon bounds)
  else if isWord "const" tokens then
    let start ← word "const"
    let name ← ident
    let colon ← op ":"
    let type ← g.type true
    let value ←
      if ← look (isOp "=") then
        let mark ← op "="
        pure (mark ++ (← constantArgument g true))
      else
        pure []
    return (false, attributes ++ start ++ [.word name] ++ colon ++ type.tokens ++ value)
  else
    let name ← if isWord "_" tokens then anyWord else ident
    let colon ← op? ":"
    let bounds ←
      if colon.isEmpty then pure []
      else boundsUntil g true fun tokens => isOp "," tokens || isOp ">" tokens || isOp "=" tokens
    let value ←
      if ← look (isOp "=") then
        let mark ← op "="
        pure (mark ++ (← g.type true).tokens)
      else
        pure []
    return (false, attributes ++ [.word name] ++ behindColon bounds ++ value)

/-- Reads generic parameters, if there are any.  Lifetimes are written first; empty brackets vanish. -/
def generics : Parser Generics := do
  if ← look (isOp "<") then
    let _ ← op "<"
    let parameters ← separated "," (isOp ">") (genericParameter g)
    let _ ← op ">"
    let lifetimes := (parameters.filter (·.1.1)).map fun ((_, tokens), comma) => (tokens, comma)
    let others := (parameters.filter (!·.1.1)).map fun ((_, tokens), comma) => (tokens, comma)
    let due := !others.isEmpty && (lifetimes.getLast?.map (!·.2)).getD false
    if parameters.isEmpty then
      return []
    else
      return Token.op "<" ++ separatedTokens "," lifetimes ++ (if due then Token.op "," else [])
        ++ separatedTokens "," others ++ Token.op ">"
  else
    return []

/-- Reads one constraint of a `where` clause. -/
def constraint : Parser (List Token) := do
  let tokens ← get
  let stop (tokens : List Token) : Bool :=
    tokens.isEmpty || isGroup .brace tokens || isOp "," tokens || isOp ";" tokens || isOp "=" tokens
      || (isOp ":" tokens && !isOp "::" tokens)
  if isLifetime tokens && isOp ":" (behind tokens) then
    let name ← lifetime
    let colon ← op ":"
    return name ++ colon ++ (← lifetimesUntil stop)
  else
    let lifetimes ← boundLifetimes? g
    let type ← g.type true
    let colon ← op ":"
    return lifetimes ++ type.tokens ++ colon ++ (← boundsUntil g true stop)

/-- Reads a `where` clause, if there is one.  A clause without constraints vanishes. -/
def whereClause : Parser (List Token) := do
  if ← look (isWord "where") then
    let _ ← word "where"
    let constraints ← many do
      let tokens ← get
      if tokens.isEmpty || isGroup .brace tokens || isOp "," tokens || isOp ";" tokens || isOp "=" tokens
          || (isOp ":" tokens && !isOp "::" tokens) then
        return none
      else
        let tokens ← constraint g
        let comma ← op? ","
        return some (tokens ++ comma, !comma.isEmpty)
    if !constraints.dropLast.all Prod.snd then
      fail "expected `,`"
    if constraints.isEmpty then
      return []
    else
      return [.word "where"] ++ (constraints.map Prod.fst).flatten
  else
    return []

end BuilderGen.Grammar

import BuilderGen.Grammar.Pattern

/-!
# Expressions

Parsers for expressions.  Operators are read by precedence: an operand first, then the operators that bind
at least as tightly as the context asks for.
-/

namespace BuilderGen.Grammar

variable (g : Parsers)

/-! ## Operators -/

/-- The binary operators in the order in which they are tried. -/
def binaryOperators : List (String × Precedence) := [
  ("+=", .assignment), ("-=", .assignment), ("*=", .assignment), ("/=", .assignment),
  ("%=", .assignment), ("^=", .assignment), ("&=", .assignment), ("|=", .assignment),
  ("<<=", .assignment), (">>=", .assignment), ("&&", .conjunction), ("||", .disjunction),
  ("<<", .shift), (">>", .shift), ("==", .comparison), ("<=", .comparison), ("!=", .comparison),
  (">=", .comparison), ("+", .sum), ("-", .sum), ("*", .product), ("/", .product), ("%", .product),
  ("^", .bitXor), ("&", .bitAnd), ("|", .bitOr), ("<", .comparison), (">", .comparison)]

/-- The binary operator that tokens start with. -/
def binaryOperator? (tokens : List Token) : Option (String × Precedence) :=
  binaryOperators.find? fun (text, _) => isOp text tokens

/-- The precedence of the operator that tokens start with, or the loosest one. -/
def nextPrecedence (tokens : List Token) : Precedence :=
  match binaryOperator? tokens with
  | some (_, precedence) => precedence
  | none =>
      if isOp "=" tokens && !isOp "=>" tokens then .assignment
      else if isOp ".." tokens then .range
      else if isWord "as" tokens then .cast
      else .jump

/-- Reads the right side of an operator, with the operators in it that bind more tightly. -/
def rightSide (records : Bool) (precedence : Precedence) : Parser Expression := do
  let first ← g.operand records
  iterate (fun right => do
    let next := nextPrecedence (← get)
    if precedence.rank < next.rank || (next = precedence && precedence = .assignment) then
      let before := (← get).length
      let right ← g.climb records next right
      if (← get).length = before then return none
      else return some right
    else
      return none) first

/-- Whether a range without an end stops in front of the tokens. -/
def endsOpenRange (records : Bool) (tokens : List Token) : Bool :=
  tokens.isEmpty
    || [",", ";", "?", "=>", "=", "+", "/", "%", "^", ">", "<=", "!=", "-=", "*=", "&=", "|=", "<<="].any
      (isOp · tokens)
    || (isOp "." tokens && !isOp ".." tokens) || isWord "as" tokens
    || (!records && isGroup .brace tokens)

/-- Reads a range behind its start. -/
def rangeFrom (records : Bool) (start : List Token) : Parser Expression := do
  let tokens ← get
  if isOp "..=" tokens then
    let dots ← op "..="
    return { tokens := start ++ dots ++ (← rightSide g records .range).tokens, form := .range }
  else if isOp "..." tokens then
    fail "expected `..` or `..=`"
  else
    let dots ← op ".."
    if ← look (endsOpenRange records) then
      return { tokens := start ++ dots, form := .range }
    else
      return { tokens := start ++ dots ++ (← rightSide g records .range).tokens, form := .range }

/-- Whether tokens may not follow a cast. -/
def refusedBehindCast (tokens : List Token) : Bool :=
  (isOp "." tokens && !isOp ".." tokens) || isOp "?" tokens || isGroup .bracket tokens
    || isGroup .parenthesis tokens

/-- Reads one more operator behind an expression, if it binds tightly enough. -/
def climbOnce (records : Bool) (base : Precedence) (left : Expression) : Parser (Option Expression) := do
  let tokens ← get
  if left.form = .range then
    return none
  else
    match binaryOperator? tokens with
    | some (text, precedence) =>
        if precedence.rank < base.rank then
          return none
        else if precedence = .comparison && left.form = .comparison then
          fail "comparison operators cannot be chained"
        else
          let mark ← op text
          let right ← rightSide g records precedence
          let form := if precedence = .comparison then .comparison else .plain
          return some { tokens := left.tokens ++ mark ++ right.tokens, form }
    | none =>
        if base.rank ≤ Precedence.assignment.rank && isOp "=" tokens && !isOp "=>" tokens then
          let mark ← op "="
          let right ← rightSide g records .assignment
          return some { tokens := left.tokens ++ mark ++ right.tokens }
        else if base.rank ≤ Precedence.range.rank && isOp ".." tokens then
          return some (← rangeFrom g records left.tokens)
        else if base.rank ≤ Precedence.cast.rank && isWord "as" tokens then
          let mark ← word "as"
          let type ← g.type false
          if ← look refusedBehindCast then
            fail "casts cannot be followed by this"
          else
            return some { tokens := left.tokens ++ mark ++ type.tokens }
        else
          return none

/-- Reads the operators behind an expression. -/
def readOperators (records : Bool) (base : Precedence) (left : Expression) : Parser Expression :=
  iterate (climbOnce g records base) left

/-! ## Blocks -/

/-- Reads the statements of a block in braces. -/
def block : Parser Token :=
  Token.braces <$> within .brace g.statements

/-- Reads a block in braces that may start with attributes of its own. -/
def attributedBlock : Parser Token :=
  within .brace do
    let attributes ← innerTokens g
    return Token.braces (attributes ++ (← g.statements))

/-- Reads a condition, which holds no struct literal outside of brackets. -/
def condition : Parser (List Token) :=
  Expression.tokens <$> g.expression false

/-- Reads a chain of conditionals, at most `fuel` of them. -/
def conditional : Nat → Parser (List Token)
  | 0 => fail "expected fewer tokens"
  | fuel + 1 => do
      let start ← word "if"
      let test ← condition g
      let body ← block g
      if ← look (isWord "else") then
        let other ← word "else"
        if ← look (isWord "if") then
          return start ++ test ++ [body] ++ other ++ (← conditional fuel)
        else
          return start ++ test ++ [body] ++ other ++ [← block g]
      else
        return start ++ test ++ [body]

def matchArm : Parser (List Token) := do
  let attributes ← outerTokens g
  let pattern ← patternAlternatives g
  let guard ←
    if ← look (isWord "if") then
      let start ← word "if"
      pure (start ++ (← g.expression true).tokens)
    else
      pure []
  let arrow ← op "=>"
  let body ← g.statementExpression
  let comma ←
    if body.form = .block || (← atEnd) then op? ","
    else op ","
  return attributes ++ pattern.tokens ++ guard ++ arrow ++ body.tokens ++ comma

def matchExpression : Parser (List Token) := do
  let start ← word "match"
  let subject ← condition g
  let arms ← within .brace do
    let attributes ← innerTokens g
    let arms ← manyWhile (!·.isEmpty) (matchArm g)
    return Token.braces (attributes ++ arms.flatten)
  return start ++ subject ++ [arms]

/-- Reads a loop over a condition. -/
def whileLoop : Parser (List Token) := do
  let start ← word "while"
  let test ← condition g
  return start ++ test ++ [← attributedBlock g]

/-- Reads a loop over a sequence. -/
def forLoop : Parser (List Token) := do
  let start ← word "for"
  let pattern ← patternAlternatives g
  let within ← word "in"
  let subject ← condition g
  return start ++ pattern.tokens ++ within ++ subject ++ [← attributedBlock g]

/-- Reads a loop without a condition. -/
def endlessLoop : Parser (List Token) := do
  let start ← word "loop"
  return start ++ [← attributedBlock g]

/-- Reads a keyword with a block behind it. -/
def keywordBlock (keyword : String) : Parser (List Token) := do
  let start ← word keyword
  return start ++ [← attributedBlock g]

/-- Reads a loop or a block with a label. -/
def labeled : Parser (List Token) := do
  let label ← lifetime
  let colon ← op ":"
  let tokens ← get
  let body ←
    if isWord "while" tokens then whileLoop g
    else if isWord "for" tokens then forLoop g
    else if isWord "loop" tokens then endlessLoop g
    else if isGroup .brace tokens then pure [← attributedBlock g]
    else fail "expected loop or block expression"
  return label ++ colon ++ body

/-- Whether tokens start with lifetimes bound in front of a closure. -/
def startsBoundClosure (tokens : List Token) : Bool :=
  isWord "for" tokens && isOp "<" (behind tokens)
    && (isLifetime (behindTwo tokens) || isOp ">" (behindTwo tokens))

/-- Reads an expression that ends in a block and may stand as a statement, if one comes next. -/
def blockExpression? : Parser (Option (List Token)) := do
  let tokens ← get
  let next := behind tokens
  if isWord "if" tokens then return some (← conditional g tokens.length)
  else if isWord "while" tokens then return some (← whileLoop g)
  else if isWord "for" tokens && !startsBoundClosure tokens then return some (← forLoop g)
  else if isWord "loop" tokens then return some (← endlessLoop g)
  else if isWord "match" tokens then return some (← matchExpression g)
  else if isWord "try" tokens && isGroup .brace next then
    let start ← word "try"
    return some (start ++ [← block g])
  else if isWord "unsafe" tokens then return some (← keywordBlock g "unsafe")
  else if isWord "const" tokens && isGroup .brace next then return some (← keywordBlock g "const")
  else if isGroup .brace tokens then return some [← attributedBlock g]
  else if isLifetime tokens then return some (← labeled g)
  else return none

/-! ## Operands -/

/-- Reads a field of a struct literal. -/
def fieldValue : Parser (List Token) := do
  let attributes ← outerTokens g
  let (name, named) ← member
  if !named || (← look (isOp ":")) then
    let colon ← op ":"
    return attributes ++ name ++ colon ++ (← g.expression true).tokens
  else
    return attributes ++ name

/-- Reads the fields of a struct literal, at most `fuel` of them. -/
def fieldValues : Nat → Parser (List Token)
  | 0 => fail "expected fewer tokens"
  | fuel + 1 => do
      if ← atEnd then
        return []
      if ← look (isOp "..") then
        let dots ← op ".."
        if ← atEnd then
          return dots
        else
          return dots ++ (← g.expression true).tokens
      let field ← fieldValue g
      if ← atEnd then
        return field
      let comma ← op ","
      return field ++ comma ++ (← fieldValues fuel)

/-- Reads a macro call, a struct literal, or a path. -/
def pathExpression (records : Bool) : Parser Expression := do
  let path ← qualifiedPath g true
  let tokens ← get
  if isOp "!" tokens && !isOp "!=" tokens && isNamePath path then
    let bang ← op "!"
    let group ← anyGroup
    let form := if isGroup .brace [group] then .bracedCall else .plain
    return { tokens := path.tokens ++ bang ++ [group], form }
  else if records && isGroup .brace tokens then
    let fields ← within .brace do
      fieldValues g ((← get).length + 1)
    return { tokens := path.tokens ++ [Token.braces fields] }
  else
    return { tokens := path.tokens }

/-- Reads expressions with commas between them to the end. -/
def expressionList : Parser (List Token) :=
  commaTokens (Expression.tokens <$> g.expression true)

/-- Reads an array: a list of items, or an item and how often it is repeated. -/
def arrayContent : Parser (List Token) := do
  if ← atEnd then
    return []
  let first ← g.expression true
  let tokens ← get
  if tokens.isEmpty then
    return first.tokens
  else if isOp "," tokens then
    let comma ← op ","
    return first.tokens ++ comma ++ (← expressionList g)
  else if isOp ";" tokens then
    let mark ← op ";"
    return first.tokens ++ mark ++ (← g.expression true).tokens
  else
    fail "expected `,` or `;`"

/-- Reads a parameter of a closure. -/
def closureInput : Parser (List Token) := do
  let attributes ← outerTokens g
  let pattern ← g.pattern
  if ← look (isOp ":") then
    let colon ← op ":"
    return attributes ++ pattern.tokens ++ colon ++ (← g.type true).tokens
  else
    return attributes ++ pattern.tokens

def closure (records : Bool) : Parser (List Token) := do
  let lifetimes ← boundLifetimes? g
  let constant ← word? "const"
  let static ← word? "static"
  let async ← word? "async"
  let move ← word? "move"
  let start ← op "|"
  let inputs ← separated "," (isOp "|") (closureInput g)
  let stop ← op "|"
  let head := lifetimes ++ constant ++ static ++ async ++ move ++ start ++ separatedTokens "," inputs ++ stop
  if ← look (isOp "->") then
    let arrow ← op "->"
    let type ← g.type true
    return head ++ arrow ++ type.tokens ++ [← attributedBlock g]
  else
    return head ++ (← g.expression records).tokens

def startsExpression (tokens : List Token) : Bool :=
  let startsWithout (text : String) (others : List String) : Bool :=
    isOp text tokens && !others.any (isOp · tokens)
  (isAnyWord tokens && !isWord "as" tokens) || isAnyGroup tokens || isLiteral tokens
    || startsWithout "!" ["!="] || startsWithout "-" ["-=", "->"] || startsWithout "*" ["*="]
    || startsWithout "|" ["|="] || startsWithout "&" ["&="] || isOp ".." tokens
    || startsWithout "<" ["<=", "<<="] || isOp "::" tokens || isLifetime tokens || isOp "#" tokens

/-- Reads an expression, if one comes next. -/
def expression? : Parser (List Token) := do
  if ← look startsExpression then
    return (← g.expression true).tokens
  else
    return []

/-- Reads a `break` with its label and value. -/
def breakExpression (records : Bool) : Parser (List Token) := do
  let start ← word "break"
  let label ← lifetime?
  let tokens ← get
  if !label.isEmpty && isOp ":" tokens then
    fail "parentheses required"
  else if startsExpression tokens && (records || !isGroup .brace tokens) then
    return start ++ label ++ (← g.expression true).tokens
  else
    return start ++ label

/-- Reads a condition that binds variables. -/
def letExpression (records : Bool) : Parser (List Token) := do
  let start ← word "let"
  let pattern ← patternAlternatives g
  let mark ← op "="
  let first ← g.operand records
  let value ← g.climb records .comparison first
  return start ++ pattern.tokens ++ mark ++ value.tokens

def startsClosure (tokens : List Token) : Bool :=
  let next := behind tokens
  isOp "|" tokens || isWord "move" tokens || startsBoundClosure tokens
    || (isWord "const" tokens && !isGroup .brace next) || isWord "static" tokens
    || (isWord "async" tokens && (isOp "|" next || isWord "move" next))

/-- Reads an operand without operators around it. -/
def atom (records : Bool) : Parser Expression := do
  let tokens ← get
  let next := behind tokens
  if isLiteral tokens then
    return { tokens := ← literal }
  else if isWord "async" tokens
      && (isGroup .brace next || (isWord "move" next && isGroup .brace (behind next))) then
    let start ← word "async"
    let move ← word? "move"
    return { tokens := start ++ move ++ [← block g] }
  else if startsClosure tokens then
    return { tokens := ← closure g records }
  else if isWord "builtin" tokens && isOp "#" next then
    return { tokens := ← verbatim (do
      let _ ← word "builtin"
      let _ ← op "#"
      let _ ← ident
      anyGroup) }
  else if isPathWord tokens || isOp "::" tokens || isOp "<" tokens
      || (isWord "try" tokens && (isOp "!" next || isOp "::" next)) then
    pathExpression g records
  else if isGroup .parenthesis tokens then
    return { tokens := [Token.parens (← within .parenthesis (expressionList g))] }
  else if isWord "break" tokens then
    return { tokens := ← breakExpression g records }
  else if isWord "continue" tokens then
    let start ← word "continue"
    return { tokens := start ++ (← lifetime?) }
  else if isOneOf ["return", "yield"] tokens then
    let start ← anyWord
    return { tokens := .word start :: (← expression? g) }
  else if isWord "become" tokens then
    return { tokens := ← verbatim (do let _ ← word "become"; g.expression true) }
  else if isGroup .bracket tokens then
    return { tokens := [Token.brackets (← within .bracket (arrayContent g))] }
  else if isWord "let" tokens then
    return { tokens := ← letExpression g records }
  else if isOp ".." tokens then
    rangeFrom g records []
  else if isWord "_" tokens then
    return { tokens := ← word "_" }
  else
    match ← blockExpression? g with
    | some tokens => return { tokens, form := .block }
    | none => fail "expected an expression"

/-- Reads a position that a point and digits form, such as `0.1`, and whether a point is left over. -/
def positions (text : String) : Option (List Token × Bool) :=
  let trailing := text.toList.getLast? = some '.'
  let trimmed := if trailing then String.ofList text.toList.dropLast else text
  let parts := trimmed.splitOn "."
  (parts.mapM positionOf?).map fun values =>
    ((values.map fun value => [Token.literal (toString value)]).intersperse (Token.op ".") |>.flatten,
      trailing)

/-- Reads a member behind its point: a name, a position, or a call of a method. -/
def memberAccess : Parser (List Token) := do
  let (name, named) ← member
  let tokens ← get
  if named && isOp "::" tokens then
    let turbofish ← arguments g
    let inputs ← within .parenthesis (expressionList g)
    return name ++ turbofish.tokens ++ [Token.parens inputs]
  else if named && isGroup .parenthesis tokens then
    let inputs ← within .parenthesis (expressionList g)
    return name ++ [Token.parens inputs]
  else
    return name

/-- Reads what a point is followed by. -/
def behindPoint : Parser (List Token) := do
  let dot ← op "."
  match ← get with
  | .literal text :: rest =>
      if Literal.isFraction text then
        match positions text with
        | some (tokens, trailing) =>
            set rest
            if trailing then
              return dot ++ tokens ++ dot ++ (← memberAccess g)
            else
              return dot ++ tokens
        | none => fail "expected identifier or integer"
      else
        return dot ++ (← memberAccess g)
  | .word "await" :: _ =>
      return dot ++ (← word "await")
  | _ => return dot ++ (← memberAccess g)

/-- Reads one call, access, index or `?` behind an expression. -/
def trailer (subject : Expression) : Parser (Option Expression) := do
  let tokens ← get
  if isGroup .parenthesis tokens then
    let inputs ← within .parenthesis (expressionList g)
    return some { tokens := subject.tokens ++ [Token.parens inputs] }
  else if isOp "." tokens && !isOp ".." tokens && subject.form ≠ .range then
    return some { tokens := subject.tokens ++ (← behindPoint g) }
  else if isGroup .bracket tokens then
    let index ← within .bracket (g.expression true)
    return some { tokens := subject.tokens ++ [Token.brackets index.tokens] }
  else if isOp "?" tokens && subject.form ≠ .range then
    return some { tokens := subject.tokens ++ (← op "?") }
  else
    return none

/-- Reads everything that follows an operand directly. -/
def trailers (subject : Expression) : Parser Expression :=
  iterate (trailer g) subject

/-- Puts attributes in front of an expression. -/
def withAttributes (attributes : List Token) (expression : Expression) : Expression :=
  { expression with tokens := attributes ++ expression.tokens }

/-- Reads an operand with its attributes and its unary operators. -/
def readOperand (records : Bool) : Parser Expression := do
  let attributes ← outerTokens g
  let tokens ← get
  if isOp "&" tokens then
    let mark ← op "&"
    let tokens ← get
    let next := behind tokens
    let access ←
      if isWord "raw" tokens && isOneOf ["mut", "const"] next then
        let raw ← word "raw"
        let changeable ← word? "mut"
        if changeable.isEmpty then pure (raw ++ (← word "const"))
        else pure (raw ++ changeable)
      else
        word? "mut"
    return { tokens := attributes ++ mark ++ access ++ (← g.operand records).tokens }
  else if isOp "*" tokens then
    let mark ← op "*"
    return { tokens := attributes ++ mark ++ (← g.operand records).tokens }
  else if isOp "!" tokens then
    let mark ← op "!"
    return { tokens := attributes ++ mark ++ (← g.operand records).tokens }
  else if isOp "-" tokens then
    let mark ← op "-"
    return { tokens := attributes ++ mark ++ (← g.operand records).tokens }
  else
    let subject ← trailers g (← atom g records)
    if !attributes.isEmpty && subject.form = .range then
      fail "attributes are not allowed on range expressions starting with `..`"
    else
      return withAttributes attributes subject

/-- Reads an expression; the flag allows struct literals. -/
def readExpression (records : Bool) : Parser Expression := do
  let first ← g.operand records
  g.climb records .jump first

/-- Reads an expression where a block at its start may end it. -/
def readStatementExpression : Parser Expression := do
  let attributes ← outerTokens g
  match ← blockExpression? g with
  | some tokens =>
      let start : Expression := { tokens, form := .block }
      let rest ← get
      if (isOp "." rest && !isOp ".." rest) || isOp "?" rest then
        let subject ← trailers g start
        g.climb true .jump (withAttributes attributes subject)
      else
        return withAttributes attributes start
  | none =>
      let first ← g.operand true
      g.climb true .jump (withAttributes attributes first)

end BuilderGen.Grammar

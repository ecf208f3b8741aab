import BuilderGen.Grammar.Expression

/-!
# Statements

Parsers for the statements of a block: bindings, items, macro calls and expressions.
-/

namespace BuilderGen.Grammar

variable (g : Parsers)

/-- What a statement is to the block around it. -/
inductive StatementForm where
  /-- It is complete. -/
  | closed
  /-- It is an expression without a semicolon, which only the end of the block may follow. -/
  | open
deriving DecidableEq, Repr

/-- Reads a binding behind its attributes. -/
def bindingStatement : Parser (List Token) := do
  let start ← word "let"
  let pattern ← g.pattern
  let type ←
    if ← look (isOp ":") then
      let colon ← op ":"
      pure (colon ++ (← g.type true).tokens)
    else
      pure []
  let value ←
    if ← look (isOp "=") then
      let mark ← op "="
      let value ← g.expression true
      let braced := (value.tokens.getLast?.map fun token => isGroup .brace [token]).getD false
      if !braced && (← look (isWord "else")) then
        let other ← word "else"
        pure (mark ++ value.tokens ++ other ++ [← block g])
      else
        pure (mark ++ value.tokens)
    else
      pure []
  return start ++ pattern.tokens ++ type ++ value ++ (← op ";")

/-- Whether tokens start with the head of a function. -/
def startsSignature (safe : Bool) (tokens : List Token) : Bool :=
  let skip (text : String) (tokens : List Token) : List Token :=
    if isWord text tokens then behind tokens else tokens
  let tokens := skip "async" (skip "const" tokens)
  let tokens := if safe && isWord "safe" tokens then behind tokens else skip "unsafe" tokens
  let tokens :=
    if isWord "extern" tokens then
      let rest := behind tokens
      if isTextLiteral rest then behind rest else rest
    else
      tokens
  isWord "fn" tokens

/-- Whether tokens start with an item rather than with an expression. -/
def startsItem (tokens : List Token) : Bool :=
  let next := behind tokens
  let third := behind next
  isOneOf ["pub", "extern", "use", "fn", "mod", "type", "struct", "enum", "trait", "impl", "macro"] tokens
    || (isWord "crate" tokens && !isOp "::" next)
    || (isWord "static" tokens
      && (isWord "mut" next || (isIdent next
        && !(isWord "async" next && (isWord "move" third || isOp "|" third)))))
    || (isWord "const" tokens
      && !(isGroup .brace next || isWord "static" next
        || (isWord "async" next && !(isOneOf ["unsafe", "extern", "fn"] third))
        || isWord "move" next || isOp "|" next))
    || (isWord "unsafe" tokens && !isGroup .brace next)
    || (isWord "async" tokens && isOneOf ["unsafe", "extern", "fn"] next)
    || (isWord "union" tokens && isIdent next)
    || (isWord "auto" tokens && isWord "trait" next)
    || (isWord "default" tokens && isOneOf ["unsafe", "impl"] next)

/-- What a statement that starts with a path and `!` is. -/
inductive MacroStatement where
  /-- A call in braces that stands as a statement. -/
  | call
  /-- The definition of an item. -/
  | item
  /-- Part of an expression. -/
  | expression
deriving DecidableEq

/-- What the path and `!` in front of the tokens left belong to. -/
def macroStatement : Parser MacroStatement := do
  match ← ahead? (do let _ ← namePath; get) with
  | some rest =>
      let second := behind rest
      let third := behind second
      if isOp "!" rest then
        if isIdent second || isWord "try" second then return .item
        else if isGroup .brace second
            && !((isOp "." third && !isOp ".." third) || isOp "?" third) then return .call
        else return .expression
      else
        return .expression
  | none => return .expression

/-- Reads a statement, and tells whether it is complete. -/
def statement : Parser (List Token × StatementForm) := do
  let start ← get
  let attributes ← outerTokens g
  let kind ← macroStatement
  let tokens ← get
  if kind = .call then
    let path ← namePath
    let bang ← op "!"
    let group ← anyGroup
    let semicolon ← op? ";"
    return (attributes ++ path.tokens ++ bang ++ [group] ++ semicolon, .closed)
  else if isWord "let" tokens then
    return (attributes ++ (← bindingStatement g), .closed)
  else if startsItem tokens || kind = .item then
    set start
    return ((← g.item).tokens, .closed)
  else
    let expression ← g.statementExpression
    let semicolon ← op? ";"
    let form : StatementForm :=
      if !semicolon.isEmpty || expression.form = .block || expression.form = .bracedCall then .closed
      else .open
    return (attributes ++ expression.tokens ++ semicolon, form)

/-- Reads the statements of a block to its end. -/
def readStatements : Parser (List Token) := do
  let statements ← many do
    if ← atEnd then
      return none
    else if ← look (isOp ";") then
      return some (← op ";")
    else
      let (tokens, form) ← statement g
      if form = .open && !(← atEnd) then
        fail "unexpected token, expected `;`"
      else
        return some tokens
  return statements.flatten

end BuilderGen.Grammar

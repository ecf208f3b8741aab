import BuilderGen.Grammar.Declaration

/-!
# Reading texts by the grammar

Ties the parsers together: the grammar that allows a number of levels of nesting is built on the one that
allows one level less.  Every level of nesting in a text costs tokens, so a number of levels in proportion
to the tokens is always enough.
-/

namespace BuilderGen.Grammar

/-- The grammar for a number of levels of nesting. -/
def Parsers.level : Nat → Parsers
  | 0 =>
      let none {α : Type} : Parser α := fail "expected fewer levels of nesting"
      { type := fun _ => none, bound := fun _ _ => none, expression := fun _ => none,
        operand := fun _ => none, climb := fun _ _ _ => none, statementExpression := none,
        pattern := none, statements := none, item := none, importTree := fun _ => none }
  | depth + 1 =>
      { type := fun plus tokens => readType (level depth) plus tokens
        bound := fun captures constants tokens =>
          readBound (level depth) captures constants tokens
        expression := fun records tokens => readExpression (level depth) records tokens
        operand := fun records tokens => readOperand (level depth) records tokens
        climb := fun records base left tokens => readOperators (level depth) records base left tokens
        statementExpression := fun tokens => readStatementExpression (level depth) tokens
        pattern := fun tokens => readPattern (level depth) tokens
        statements := fun tokens => readStatements (level depth) tokens
        item := fun tokens => readItem (level depth) tokens
        importTree := fun rooted tokens => readImport (level depth) rooted tokens }

mutual

/-- The number of tokens, with those inside of groups. -/
def weight : Token → Nat
  | .group _ content => weightOfList content + 1
  | _ => 1

/-- The number of tokens of a list, with those inside of groups. -/
def weightOfList : List Token → Nat
  | [] => 0
  | token :: rest => weight token + weightOfList rest

end

/-- The grammar with levels enough for a list of tokens. -/
def Parsers.enough (tokens : List Token) : Parsers :=
  .level (8 * weightOfList tokens + 16)

/-! ## Texts -/

/-- Why a text is refused: it does not consist of tokens, or the tokens do not follow the grammar. -/
inductive TextFailure where
  | tokens
  | grammar (failure : Failure)
deriving DecidableEq, Repr, Inhabited

def TextFailure.message : TextFailure → String
  | tokens => "cannot parse string into token stream"
  | grammar failure => failure.message

/-- Reads tokens to the end by the grammar. -/
def read {α : Type} (parser : Parsers → Parser α) (tokens : List Token) : Except Failure α :=
  complete (parser (.enough tokens)) tokens

/-- Reads a text to the end by the grammar. -/
def readText {α : Type} (parser : Parsers → Parser α) (text : String) : Except TextFailure α :=
  match Lexer.tokenize text with
  | none => .error .tokens
  | some tokens => (read parser tokens).mapError .grammar

/-- Reads an identifier. -/
def identOfText? (text : String) : Except TextFailure String :=
  readText (fun _ => ident) text

def pathOfText? (text : String) : Except TextFailure (List Token) :=
  readText (fun g => do
    let (leading, segments) ← path g false
    return (TypeTree.path leading segments).tokens) text

def expressionOfText? (text : String) : Except TextFailure (List Token) :=
  readText (fun g => Expression.tokens <$> g.expression true) text

def typeOfText? (text : String) : Except TextFailure TypeTree :=
  readText (fun g => g.type true) text

def visibilityOfText? (text : String) : Except TextFailure VisibilityTree :=
  readText (fun _ => visibility) text

/-- Reads a module with its attributes and visibility. -/
def moduleOfText? (text : String) : Except TextFailure Item :=
  readText (fun g => do
    let attributes ← outerAttributes g
    let visibility ← visibility
    moduleItem g attributes visibility) text

/-- Reads the tokens of a file. -/
def fileOfTokens? (tokens : List Token) : Except Failure SourceFile :=
  read sourceFile tokens

def fileOfText? (text : String) : Except TextFailure SourceFile :=
  match Lexer.tokenizeFile text with
  | none => .error .tokens
  | some tokens => (fileOfTokens? tokens).mapError .grammar

end BuilderGen.Grammar

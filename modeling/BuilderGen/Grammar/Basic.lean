import BuilderGen.Grammar.Item
import BuilderGen.Grammar.Parser

/-!
# The grammar as a record of parsers

Types, expressions, patterns, statements and items contain one another.  The parser of each is written
against a record of the parsers for the parts, and the record for a given depth of nesting is built from
the record for one level less.
-/

namespace BuilderGen.Grammar

/-- What matters of an expression when more tokens follow it. -/
inductive ExpressionForm where
  | plain
  /-- A range, which takes no further operator. -/
  | range
  /-- A comparison, which cannot be chained. -/
  | comparison
  /-- An expression that ends in a block and stands as a statement without a semicolon. -/
  | block
  /-- A macro call in braces. -/
  | bracedCall
deriving DecidableEq, Repr, Inhabited

/-- An expression that was read: its tokens in normal form. -/
structure Expression where
  tokens : List Token
  form : ExpressionForm := .plain
deriving Inhabited

/-- What matters of a pattern for the pattern around it. -/
inductive PatternForm where
  | plain
  /-- The rest `..`. -/
  | rest
  /-- A range without one of its bounds. -/
  | openRange
deriving DecidableEq, Repr, Inhabited

/-- A pattern that was read. -/
structure Pattern where
  tokens : List Token
  form : PatternForm := .plain
deriving Inhabited

/-- How tightly operators bind, from loose to tight. -/
inductive Precedence where
  | jump
  | assignment
  | range
  | disjunction
  | conjunction
  | binding
  | comparison
  | bitOr
  | bitXor
  | bitAnd
  | shift
  | sum
  | product
  | cast
deriving DecidableEq, Repr, Inhabited

/-- The place of a precedence in the order. -/
def Precedence.rank (precedence : Precedence) : Nat :=
  precedence.ctorIdx

/-- Parsers for everything that nests. -/
structure Parsers where
  /-- A type; the flag allows several bounds joined by `+`. -/
  type : Bool → Parser TypeTree
  /-- A bound of a type parameter, and whether it is a trait; the flags allow captured lifetimes and
  constant traits. -/
  bound : Bool → Bool → Parser (List Token × Bool)
  /-- An expression; the flag allows struct literals. -/
  expression : Bool → Parser Expression
  /-- An operand with its unary operators. -/
  operand : Bool → Parser Expression
  /-- The operators behind an operand that bind at least as tightly as a precedence. -/
  climb : Bool → Precedence → Expression → Parser Expression
  /-- An expression where a block at its start may end it. -/
  statementExpression : Parser Expression
  /-- A pattern without alternatives at its top. -/
  pattern : Parser Pattern
  /-- The statements inside a block. -/
  statements : Parser (List Token)
  /-- The item whose attributes and visibility come next. -/
  item : Parser Item
  /-- The tree of an import; the flag allows paths that start at the root.  Nothing stands for a tree that
  is kept as it is written. -/
  importTree : Bool → Parser (Option (List Token))

end BuilderGen.Grammar

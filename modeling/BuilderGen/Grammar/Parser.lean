import BuilderGen.Token.Lexer

/-!
# Parsers over tokens

A parser reads from the front of a list of tokens and answers with a value and the tokens left.  This
module holds the primitive parsers and the loops that lists are read with.
-/

namespace BuilderGen.Grammar

/-- Why tokens are refused: what was expected, and whether the tokens had ended. -/
structure Failure where
  expected : String
  ended : Bool := false
deriving DecidableEq, Repr, Inhabited

def Failure.message (failure : Failure) : String :=
  if failure.ended then "unexpected end of input, " ++ failure.expected else failure.expected

/-- A parser over tokens. -/
abbrev Parser (α : Type) := StateT (List Token) (Except Failure) α

/-! ## Looking ahead -/

/-- Whether tokens start with the marks of an operator. -/
def startsWithMarks : List Char → List Token → Bool
  | [], _ => true
  | [c], .mark char _ :: _ => c == char
  | c :: rest, .mark char joint :: tokens => c == char && joint && startsWithMarks rest tokens
  | _ :: _, _ => false

/-- Whether tokens start with an operator. -/
def isOp (text : String) (tokens : List Token) : Bool :=
  startsWithMarks text.toList tokens

/-- Whether tokens start with a keyword. -/
def isWord (text : String) : List Token → Bool
  | .word word :: _ => word == text
  | _ => false

/-- Whether tokens start with one of the given keywords. -/
def isOneOf (texts : List String) (tokens : List Token) : Bool :=
  texts.any (isWord · tokens)

/-- The keywords, none of which is an identifier. -/
def keywords : List String :=
  ["_", "abstract", "as", "async", "await", "become", "box", "break", "const", "continue", "crate", "do",
    "dyn", "else", "enum", "extern", "false", "final", "fn", "for", "if", "impl", "in", "let", "loop",
    "macro", "match", "mod", "move", "mut", "override", "priv", "pub", "ref", "return", "Self", "self",
    "static", "struct", "super", "trait", "true", "try", "type", "typeof", "unsafe", "unsized", "use",
    "virtual", "where", "while", "yield"]

/-- Whether tokens start with an identifier. -/
def isIdent : List Token → Bool
  | .word word :: _ => word ∉ keywords
  | _ => false

/-- Whether tokens start with an identifier or a keyword. -/
def isAnyWord : List Token → Bool
  | .word _ :: _ => true
  | _ => false

/-- Whether tokens start with a lifetime. -/
def isLifetime : List Token → Bool
  | .mark '\'' _ :: .word _ :: _ => true
  | _ => false

/-- Whether tokens start with a group. -/
def isGroup (delimiter : Delimiter) : List Token → Bool
  | .group found _ :: _ => found = delimiter
  | _ => false

/-- Whether tokens start with a group of any kind. -/
def isAnyGroup : List Token → Bool
  | .group .. :: _ => true
  | _ => false

/-- The tokens behind the first one.  A lifetime counts as one token. -/
def behind : List Token → List Token
  | .mark '\'' _ :: .word _ :: rest => rest
  | _ :: rest => rest
  | [] => []

/-- The tokens behind the first two. -/
def behindTwo (tokens : List Token) : List Token :=
  behind (behind tokens)

/-- Whether the tokens left have a property. -/
def look (property : List Token → Bool) : Parser Bool := do
  return property (← get)

/-- Whether no tokens are left. -/
def atEnd : Parser Bool :=
  look List.isEmpty

/-! ## Primitive parsers -/

/-- Refuses the tokens left. -/
def fail {α : Type} (expected : String) : Parser α := fun tokens =>
  .error { expected, ended := tokens.isEmpty }

/-- Reads the marks of an operator. -/
def op (text : String) : Parser (List Token) := fun tokens =>
  if isOp text tokens then .ok (Token.op text, tokens.drop text.length)
  else .error { expected := "expected `" ++ text ++ "`" }

/-- Reads the marks of an operator, if they come next. -/
def op? (text : String) : Parser (List Token) := fun tokens =>
  if isOp text tokens then .ok (Token.op text, tokens.drop text.length) else .ok ([], tokens)

/-- Reads a keyword. -/
def word (text : String) : Parser (List Token) := fun tokens =>
  if isWord text tokens then .ok ([.word text], tokens.drop 1)
  else fail ("expected `" ++ text ++ "`") tokens

/-- Reads a keyword, if it comes next. -/
def word? (text : String) : Parser (List Token) := fun tokens =>
  if isWord text tokens then .ok ([.word text], tokens.drop 1) else .ok ([], tokens)

/-- Reads an identifier. -/
def ident : Parser String
  | .word word :: rest =>
      if word ∉ keywords then .ok (word, rest)
      else .error { expected := "expected identifier, found keyword `" ++ word ++ "`" }
  | tokens => fail "expected identifier" tokens

/-- Reads an identifier or a keyword. -/
def anyWord : Parser String
  | .word word :: rest => .ok (word, rest)
  | tokens => fail "expected ident" tokens

def lifetime : Parser (List Token)
  | .mark '\'' _ :: .word name :: rest => .ok (Token.lifetime name, rest)
  | tokens => fail "expected lifetime" tokens

/-- Reads a lifetime, if it comes next. -/
def lifetime? : Parser (List Token) := do
  if ← look isLifetime then lifetime else return []

/-- Reads a group of any kind and keeps its content. -/
def anyGroup : Parser Token
  | token@(.group ..) :: rest => .ok (token, rest)
  | tokens => fail "expected delimiter" tokens

/-- Runs a parser on tokens that it has to read to the end. -/
def complete {α : Type} (parser : Parser α) (tokens : List Token) : Except Failure α := do
  match ← parser tokens with
  | (value, []) => .ok value
  | (_, _ :: _) => .error { expected := "unexpected token" }

/-- What a group of each kind is called. -/
def delimiterName : Delimiter → String
  | .parenthesis => "parentheses"
  | .bracket => "square brackets"
  | .brace => "curly braces"

/-- Reads a group whose content a parser reads to the end. -/
def within {α : Type} (delimiter : Delimiter) (parser : Parser α) : Parser α
  | .group found content :: rest =>
      if found = delimiter then (complete parser content).map fun value => (value, rest)
      else fail ("expected " ++ delimiterName delimiter) (.group found content :: rest)
  | tokens => fail ("expected " ++ delimiterName delimiter) tokens

/-- The value of a parser, if it succeeds, without reading anything. -/
def ahead? {α : Type} (parser : Parser α) : Parser (Option α) := fun tokens =>
  match parser tokens with
  | .ok (value, _) => .ok (some value, tokens)
  | .error _ => .ok (none, tokens)

/-- Runs a parser, and reads nothing if it fails. -/
def attempt {α : Type} (parser : Parser α) : Parser (Option α) := fun tokens =>
  match parser tokens with
  | .ok (value, rest) => .ok (some value, rest)
  | .error _ => .ok (none, tokens)

/-- The tokens that a parser reads, as they stand. -/
def verbatim {α : Type} (parser : Parser α) : Parser (List Token) := fun tokens => do
  let (_, rest) ← parser tokens
  return (tokens.take (tokens.length - rest.length), rest)

/-! ## Loops -/

/-- Repeats a parser as long as it gives a value, at most `fuel` times. -/
def repeatUpTo {α : Type} (step : Parser (Option α)) : Nat → Parser (List α)
  | 0 => fail "expected fewer tokens"
  | fuel + 1 => do
      match ← step with
      | none => return []
      | some value =>
          let values ← repeatUpTo step fuel
          return value :: values

/-- Repeats a parser as long as it gives a value.  A repetition that reads nothing ends in a failure. -/
def many {α : Type} (step : Parser (Option α)) : Parser (List α) := do
  repeatUpTo step ((← get).length + 1)

/-- Repeats a parser while a condition holds. -/
def manyWhile {α : Type} (condition : List Token → Bool) (parser : Parser α) : Parser (List α) :=
  many do
    if ← look condition then
      return some (← parser)
    else
      return none

/-- Feeds a value through a step as long as the step gives a new one, at most `fuel` times. -/
def iterateUpTo {α : Type} (step : α → Parser (Option α)) : Nat → α → Parser α
  | 0, _ => fail "expected fewer tokens"
  | fuel + 1, value => do
      match ← step value with
      | none => return value
      | some next => iterateUpTo step fuel next

/-- Feeds a value through a step as long as the step gives a new one. -/
def iterate {α : Type} (step : α → Parser (Option α)) (value : α) : Parser α := do
  iterateUpTo step ((← get).length + 1) value

/-- Reads values with separators between them, and maybe one at the end, up to the tokens that stop the
list.  Each value comes with whether a separator follows it. -/
def separatedUpTo {α : Type} (separator : String) (stop : List Token → Bool) (parser : Parser α) :
    Nat → Parser (List (α × Bool))
  | 0 => fail "expected fewer tokens"
  | fuel + 1 => do
      if ← look stop then
        return []
      let value ← parser
      if ← look stop then
        return [(value, false)]
      let _ ← op separator
      let values ← separatedUpTo separator stop parser fuel
      return (value, true) :: values

/-- Reads values with separators between them up to the tokens that stop the list. -/
def separated {α : Type} (separator : String) (stop : List Token → Bool) (parser : Parser α) :
    Parser (List (α × Bool)) := do
  separatedUpTo separator stop parser ((← get).length + 1)

/-- The tokens of values with their separators. -/
def separatedTokens (separator : String) : List (List Token × Bool) → List Token
  | [] => []
  | (tokens, true) :: rest => tokens ++ Token.op separator ++ separatedTokens separator rest
  | (tokens, false) :: rest => tokens ++ separatedTokens separator rest

/-- Reads tokens with commas between them to the end. -/
def commaTokens (parser : Parser (List Token)) : Parser (List Token) := do
  return separatedTokens "," (← separated "," List.isEmpty parser)

end BuilderGen.Grammar

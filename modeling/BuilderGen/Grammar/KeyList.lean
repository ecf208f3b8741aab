import BuilderGen.Grammar.Path

/-!
# Lists of keys

The arguments of attributes and macros are keys with commas between them.  Who reads such a list decides
what may follow a key and what a key means.  The reader of a list has refusals of its own; a failure of
the grammar is one of them.
-/

namespace BuilderGen.Grammar.KeyList

/-- A reader of keys and values, with refusals of a type of its own. -/
abbrev Reader (ε α : Type) := StateT (List Token) (Except ε) α

variable {ε α σ : Type}

/-- Reads by the grammar. -/
def byGrammar (refuse : Failure → ε) (parser : Parser α) : Reader ε α := fun tokens =>
  (parser tokens).mapError refuse

/-- Reads names with separators in front of each. -/
def restOfKey : Parser (List String) :=
  manyWhile (isOp "::") do
    let _ ← op "::"
    anyWord

/-- Reads a key: a path of identifiers or keywords. -/
def key : Parser NamePath := do
  let leading ← op? "::"
  let tokens ← get
  if isAnyWord tokens then
    let first ← anyWord
    return { leading := !leading.isEmpty, names := first :: (← restOfKey) }
  else if tokens.isEmpty then
    fail "expected nested attribute"
  else if isLiteral tokens then
    fail "unexpected literal in nested attribute, expected ident"
  else
    fail "unexpected token in nested attribute, expected ident"

/-- Feeds a state through a list of at most `fuel` keys. -/
def foldUpTo (refuse : Failure → ε) (step : NamePath → σ → Reader ε σ) : Nat → σ → Reader ε σ
  | 0, _ => byGrammar refuse (fail "expected fewer tokens")
  | fuel + 1, state => do
      let path ← byGrammar refuse key
      let state ← step path state
      if (← get).isEmpty then
        return state
      let _ ← byGrammar refuse (op ",")
      if (← get).isEmpty then
        return state
      foldUpTo refuse step fuel state

/-- Feeds a state through the keys of a list, which may be empty and may end in a comma. -/
def fold (refuse : Failure → ε) (step : NamePath → σ → Reader ε σ) (state : σ) (tokens : List Token) :
    Except ε σ :=
  if tokens.isEmpty then .ok state
  else (foldUpTo refuse step (tokens.length + 1) state tokens).map Prod.fst

end BuilderGen.Grammar.KeyList

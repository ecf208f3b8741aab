import BuilderGen.Grammar.KeyList
import BuilderGen.Grammar.Level
import BuilderGen.Model.Settings

/-!
# Options of an expansion

A module asks for the expansion of its builders with options for the round: `crate = "path"`, `strict` and
`duplicate_providers = "policy"`.  Each may be given once.
-/

namespace BuilderGen

open Grammar (Failure NamePath Parser TextFailure)

/-- Why an option is refused. -/
inductive OptionFault where
  | repeated (option : String)
  | unsupported
  | badPolicy
  /-- The path of the run-time library is no path. -/
  | badPath (cause : TextFailure)
  /-- The options do not follow the grammar. -/
  | grammar (failure : Failure)
deriving DecidableEq, Repr, Inhabited

def OptionFault.message : OptionFault → String
  | repeated option => "duplicate `" ++ option ++ "` option"
  | unsupported => "unsupported optbuilder option"
  | badPolicy => "expected \"last_wins\", \"warn\", or \"error\""
  | badPath cause => cause.message
  | grammar failure => failure.message

/-- The options that were given. -/
structure Options where
  cratePath : Option String := none
  strict : Bool := false
  duplicates : Option DuplicatePolicy := none
deriving DecidableEq, Repr, Inhabited

namespace Options

abbrev Reader (α : Type) := Grammar.KeyList.Reader OptionFault α

/-- Reads `=` and a text. -/
def textValue : Parser String := do
  let _ ← Grammar.op "="
  fun tokens =>
    let refused := Grammar.fail "expected string literal" tokens
    match Grammar.literal tokens with
    | .ok ([.literal literal], rest) =>
        match Literal.textValue? literal with
        | some value => .ok (value, rest)
        | none => refused
    | _ => refused

/-- Reads the value of an option and adds it. -/
def add (path : NamePath) (options : Options) : Reader Options := do
  if path.isName "crate" then
    let text ← Grammar.KeyList.byGrammar .grammar textValue
    if let .error cause := Grammar.pathOfText? text then
      throw (.badPath cause)
    if options.cratePath.isSome then
      throw (.repeated "crate")
    return { options with cratePath := some text }
  else if path.isName "strict" then
    if options.strict then
      throw (.repeated "strict")
    return { options with strict := true }
  else if path.isName "duplicate_providers" then
    let text ← Grammar.KeyList.byGrammar .grammar textValue
    match DuplicatePolicy.ofText? text with
    | none => throw .badPolicy
    | some policy =>
        if options.duplicates.isSome then
          throw (.repeated "duplicate_providers")
        return { options with duplicates := some policy }
  else
    throw .unsupported

def ofTokens? (tokens : List Token) : Except OptionFault Options :=
  Grammar.KeyList.fold .grammar add {} tokens

/-- The settings of a round with options over the usual ones. -/
def settings (options : Options) : Settings :=
  let usual : Settings := {}
  { usual with
    strictness := if options.strict then .strict else usual.strictness
    duplicates := options.duplicates.getD usual.duplicates
    cratePath := options.cratePath.getD usual.cratePath }

end Options

end BuilderGen

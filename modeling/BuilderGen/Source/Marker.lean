import BuilderGen.Grammar.KeyList
import BuilderGen.Grammar.Level
import BuilderGen.Model.Marking

/-!
# Markers

The attributes by which declarations ask for a builder: `#[builder]`, `#[optional]`, `#[setter]` and
`#[provides]`.  Each may be applied once.  Their arguments are items with commas between them, each a name
that may be followed by `=` and a value.
-/

namespace BuilderGen

open Grammar (Attribute Failure NamePath Parser)

/-- Why a marker is refused. -/
inductive MarkerFault where
  /-- The marker occurs twice. -/
  | repeated (marker : String)
  /-- The value of a key is a literal other than a text. -/
  | notText (key : String)
  /-- A requested name is no identifier. -/
  | notIdentifier
  | unknownKey (marker key : String)
  /-- A setter marker without a name. -/
  | nameless
  | severalStrategies
  /-- A position other than the two ends. -/
  | badPosition
  /-- The arguments stand behind `=`. -/
  | argumentsBehindEquals (marker : String)
  | noArguments (marker : String)
  /-- Arguments where none may be. -/
  | superfluousArguments
  /-- The arguments do not follow the grammar. -/
  | grammar (failure : Failure)
deriving DecidableEq, Repr, Inhabited

namespace MarkerFault

def message : MarkerFault → String
  | repeated marker => "`" ++ marker ++ "` may only be applied once"
  | notText key => key ++ " must be a string"
  | notIdentifier => "name must be a valid identifier"
  | unknownKey marker key => "unrecognised " ++ marker ++ " key `" ++ key ++ "`"
  | nameless => "expected `setter(name = \"...\")`"
  | severalStrategies => "`optional` accepts a single strategy"
  | badPosition => "enumerable must be \"first\" or \"last\""
  | argumentsBehindEquals marker => "expected parentheses: #[" ++ marker ++ "(...)]"
  | noArguments marker => "expected attribute arguments in parentheses: #[" ++ marker ++ "(...)]"
  | superfluousArguments => "unexpected token in attribute"
  | grammar failure => failure.message

end MarkerFault

namespace Marker

def names : List String := ["builder", "optional", "setter", "provides"]

def isMarker (attr : Attribute) : Bool :=
  names.any attr.path.isName

/-- The attributes that are no markers. -/
def strip (attributes : List Attribute) : List Attribute :=
  attributes.filter (!isMarker ·)

/-- The only attribute of a name, if there is one. -/
def find? (attributes : List Attribute) (marker : String) : Except MarkerFault (Option Attribute) :=
  match attributes.filter (·.path.isName marker) with
  | [] => .ok none
  | [only] => .ok (some only)
  | _ :: _ :: _ => .error (.repeated marker)

/-! ## Arguments -/

abbrev Reader (α : Type) := Grammar.KeyList.Reader MarkerFault α

/-- Reads by the grammar. -/
def byGrammar {α : Type} (parser : Parser α) : Reader α :=
  Grammar.KeyList.byGrammar .grammar parser

/-- Feeds a state through the arguments of an attribute, which must have parentheses. -/
def argumentsOf {σ : Type} (attr : Attribute) (step : NamePath → σ → Reader σ) (state : σ) :
    Except MarkerFault σ :=
  match attr.body with
  | .bare => .error (.noArguments attr.path.text)
  | .value _ => .error (.argumentsBehindEquals attr.path.text)
  | .list _ tokens => Grammar.KeyList.fold .grammar step state tokens

/-- Reads `=` and a literal, and keeps the value of a text. -/
def textValue (name : String) : Reader String := do
  let _ ← byGrammar (Grammar.op "=")
  match ← byGrammar Grammar.literal with
  | [.literal literal] =>
      match Literal.textValue? literal with
      | some value => return value
      | none => throw (.notText name)
  | _ => throw (.notText name)

/-- Reads `=` and a text that is an identifier. -/
def nameValue : Reader String := do
  let value ← textValue "name"
  match Grammar.identOfText? value with
  | .ok _ => return value
  | .error _ => throw .notIdentifier

/-! ## The four markers -/

/-- The builder marker of an item: nothing when it is absent, else the requested name, if any. -/
def builder? (attributes : List Attribute) : Except MarkerFault (Option (Option String)) := do
  match ← find? attributes "builder" with
  | none => return none
  | some attr =>
      match attr.body with
      | .bare => return some none
      | _ =>
          let name ← argumentsOf attr (fun path _ =>
            if path.isName "name" then some <$> nameValue
            else throw (.unknownKey "builder" path.text)) none
          return some name

/-- Whether an item has the provider marker. -/
def provides (attributes : List Attribute) : Except MarkerFault Bool := do
  match ← find? attributes "provides" with
  | none => return false
  | some attr =>
      match attr.body with
      | .bare => return true
      | _ => throw .superfluousArguments

/-- The requested name of a field's setter. -/
def setter? (attributes : List Attribute) : Except MarkerFault (Option String) := do
  match ← find? attributes "setter" with
  | none => return none
  | some attr =>
      let name ← argumentsOf attr (fun path _ =>
        if path.isName "name" then some <$> nameValue
        else throw (.unknownKey "setter" path.text)) none
      match name with
      | some name => return some name
      | none => throw .nameless

/-- Reads the strategy that a key of the optional marker stands for. -/
def strategy (path : NamePath) : Reader Marking := do
  let tokens ← get
  let g : Grammar.Parsers := .enough tokens
  let valued := Grammar.isOp "=" tokens
  if path.isName "nullable" then
    return .nullable
  else if path.isName "default" then
    if valued then
      let _ ← byGrammar (Grammar.op "=")
      let expression ← byGrammar (g.expression true)
      return .initializer (some (Token.print expression.tokens))
    else
      return .initializer none
  else if path.isName "enumerable" then
    if valued then
      match VariantEnd.ofKeyword? (← textValue "enumerable") with
      | some position => return .enumerable position
      | none => throw .badPosition
    else
      return .enumerable .first
  else if path.isName "provider" then
    let _ ← byGrammar (Grammar.op "=")
    let (leading, segments) ← byGrammar (Grammar.path g false)
    return .provider (Grammar.pathText leading segments)
  else
    throw (.unknownKey "optional" path.text)

def marking (attributes : List Attribute) : Except MarkerFault Marking := do
  match ← find? attributes "optional" with
  | none => return .mandatory
  | some attr =>
      match attr.body with
      | .bare => return .inferred
      | _ =>
          let marking ← argumentsOf attr (fun path (found : Option Marking) => do
            let marking ← strategy path
            match found with
            | some _ => throw .severalStrategies
            | none => return some marking) none
          return marking.getD .inferred

end Marker

end BuilderGen

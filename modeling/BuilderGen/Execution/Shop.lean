import BuilderGen.Execution.Run
import BuilderGen.Round

/-!
# A sample shop

The declarations of a small shop, and what the expressions in them mean.  The builders of its two
aggregates between them have parameters of every kind, so running them shows what builders do.
-/

namespace BuilderGen.Shop

/-! ## Declarations -/

def named (path : String) : DeclaredType :=
  { head := .named path }

def textType : DeclaredType := named "String"

def optional (type : DeclaredType) : DeclaredType :=
  { type with nullable := true }

/-- The capability of providing values of a type. -/
def provides (type : DeclaredType) : DeclaredType :=
  { head := .named "DefaultValueProvider", args := [type] }

/-- The provider of names, of which there is one instance. -/
def names : Provider where
  name := "Names"
  package := ""
  form := .singleton
  marked := true
  capabilities := [provides textType]

/-- The provider of ports, which is instantiated for every use. -/
def ports : Provider where
  name := "Ports"
  package := ""
  form := .instantiable
  marked := true
  capabilities := [provides (named "u16")]

/-- The provider of regions, which is not marked. -/
def regions : Provider where
  name := "Regions"
  package := ""
  form := .singleton
  marked := false
  capabilities := [provides (optional textType)]

def providers : List Provider :=
  [names, ports, regions]

/-- The service levels. -/
def level : Enumeration where
  name := "Level"
  package := ""
  variants := ["Low", "Mid", "High"]

/-- The default of the limit, which leaves an event. -/
def limitExpression : String := "\x7b log (\"init limit\") ; 42 \x7d"

def service : Aggregate where
  name := "Service"
  package := ""
  builderName := some "ServiceFactory"
  constructors := [{ path := "Service", parameters := [
    { name := "id", type := named "u32" },
    { name := "name", type := textType, marking := .inferred },
    { name := "retries", type := named "u8", marking := .inferred },
    { name := "port", type := named "u16", setterName := some "listen_on", marking := .inferred },
    { name := "tags", type := { head := .named "Vec", args := [textType] }, marking := .inferred },
    { name := "limit", type := named "i64", marking := .initializer (some limitExpression) },
    { name := "title", type := textType, marking := .initializer none },
    { name := "level", type := named "Level", marking := .enumerable .last },
    { name := "floor", type := optional (named "Level"), marking := .enumerable .first },
    { name := "note", type := { head := .named "Option", args := [textType], nullable := true },
      marking := .nullable },
    { name := "region", type := optional textType, marking := .provider "Regions" },
    { name := "owner", type := textType }] }]

def address : Aggregate where
  name := "Address"
  package := ""
  constructors := [{ path := "Address", parameters := [
    { name := "street", type := optional textType, marking := .inferred },
    { name := "town", type := textType, marking := .initializer none },
    { name := "state", type := textType, marking := .inferred }] }]

/-- What the shop declares. -/
def declarations : Declarations where
  aggregates := [service, address]
  providers := providers
  enumerations := [level]

/-! ## Meaning -/

abbrev Value := Datum Atom

def text (value : String) : Value :=
  .atom (.text value)

/-- A number of the shop. -/
def whole (value : Int) : Value :=
  .atom (.whole value)

/-- The level that an expression names between two texts. -/
def levelOf? (front back expression : String) : Option Value :=
  (level.variants.find? fun name => front ++ "Level :: " ++ name ++ back = expression).map fun name =>
    .atom (.variant name)

/-- The default of a field's type.  The fields with such a default are lists and texts. -/
def defaultOf (field : String) : Value :=
  if field = "tags" then .list [] else text ""

/-- The value of an expression in the place of a field's value.  An expression that is not listed asks for
the default of the type. -/
def evaluate (field : String) (expression : List Token) : Logged String Value :=
  let printed := Token.print expression
  let someOpen := ":: core :: option :: Option :: Some ("
  if printed = "0" then pure (whole 0)
  else if printed = limitExpression then do
    Logged.happen "init limit"
    return whole 42
  else
    match levelOf? "" "" printed, levelOf? someOpen ")" printed with
    | some value, _ => pure value
    | none, some value => pure (.present value)
    | none, none => pure (defaultOf field)

/-- The value that a provider gives.  A provider without a single instance is instantiated first. -/
def provide (call : ProviderCall) : Logged String Value := do
  let provider := Token.print call.provider
  if !call.singleton then
    Logged.happen ("default " ++ provider)
  Logged.happen ("get " ++ provider)
  match provider with
  | "Names" => return text "anonymous"
  | "Ports" => return whole 8080
  | _ => return .present (text "north")

def meaning : Meaning String Atom where
  evaluate := evaluate
  provide := provide

/-! ## Builders -/

/-- The outline of the builder of an aggregate of the shop. -/
def outline? (target : String) : Option Outline := do
  let round ← (Round.run {} declarations).2.toOption
  let builder ← round.builders.find? (·.target = target)
  (Render.outline builder "::optbuilder").toOption

end BuilderGen.Shop

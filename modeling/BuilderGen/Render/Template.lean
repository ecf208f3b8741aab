import BuilderGen.Render.Outline

/-!
# The generated code

The tokens of a builder: the struct with its slots, the methods `from_parts`, `new`, `create`, the setters
and `build`, and the implementations of `Default` and `Debug`.
-/

namespace BuilderGen.Outline

open Token (op parens braces phrase attr quoted)

variable (outline : Outline)

/-- The name of the type parameter for callbacks. -/
def callback : String := "OptbuilderFn"

/-- A documentation text in front of an item. -/
def documented (text : String) : List Token :=
  attr (phrase "doc =" ++ [quoted text])

/-- The tokens of a parameter. -/
def typed (name : String) (type : List Token) : List Token :=
  [.word name] ++ op ":" ++ type

/-- The type of a slot at run time. -/
def supplied (inner : List Token) : List Token :=
  outline.runtime ++ phrase ":: Supplied <" ++ inner ++ op ">"

/-- A function of the slots at run time. -/
def suppliedBy (function : String) (argument : List Token) : List Token :=
  outline.runtime ++ phrase ":: Supplied ::" ++ [.word function, parens argument]

def structTokens : List Token :=
  documented (" Builder for [`" ++ outline.shownTarget ++ "`] with optional, defaulted parameters.")
    ++ attr (phrase "must_use") ++ outline.visibility ++ [.word "struct", .word outline.name]
    ++ [braces (outline.fields.flatMap fun field =>
        typed field.name (outline.supplied field.slot) ++ op ",")]

/-- The function that fills every slot with a ready value. -/
def fromParts : List Token :=
  phrase "fn from_parts"
    ++ [parens (Render.commaSeparated (outline.fields.map fun field => typed field.name field.slot))]
    ++ phrase "-> Self"
    ++ [braces [.word "Self", braces (outline.fields.flatMap fun field =>
        typed field.name (outline.suppliedBy "ready" [.word field.name]) ++ op ",")]]

/-- The tokens of what a new builder holds in one slot. -/
def initialTokens : OutlineInitial → List Token
  | .argument name => [.word name]
  | .absent => Render.absent
  | .value expression => Render.someOf expression

/-- The function that starts a builder. -/
def newFunction : List Token :=
  documented (" Start a [`" ++ outline.shownName ++ "`] with every optional parameter at its default.")
    ++ attr (phrase "must_use") ++ outline.visibility ++ phrase "fn new"
    ++ [parens (Render.commaSeparated (outline.mandatory.map fun parameter =>
        typed parameter.name parameter.type))]
    ++ phrase "-> Self"
    ++ [braces (phrase "Self :: from_parts"
        ++ [parens (Render.commaSeparated (outline.initials.map initialTokens))])]

/-- The generic parameter for a callback. -/
def callbackParameter : List Token :=
  op "<" ++ [.word callback] ++ op ">"

def callbackConstraint (arguments rest : List Token) : List Token :=
  phrase "where" ++ [.word callback] ++ phrase ": :: core :: ops :: FnOnce" ++ [parens arguments] ++ rest
    ++ op ","

/-- The function that starts a builder, lets a callback adjust it, and builds. -/
def createFunction : List Token :=
  documented (" Build a [`" ++ outline.shownTarget
      ++ "`] after letting `optbuilder_configure` adjust the builder.")
    ++ outline.visibility ++ phrase "fn create" ++ callbackParameter
    ++ [parens ((outline.mandatory.flatMap fun parameter =>
          typed parameter.name parameter.type ++ op ",")
        ++ typed "optbuilder_configure" [.word callback])]
    ++ op "->" ++ [.word outline.target] ++ callbackConstraint (phrase "& mut Self") []
    ++ [braces (phrase "let mut builder = Self :: new"
        ++ [parens (Render.commaSeparated (outline.mandatory.map fun parameter =>
            [.word parameter.name]))]
        ++ op ";" ++ phrase "optbuilder_configure" ++ [parens (phrase "& mut builder")] ++ op ";"
        ++ phrase "builder . build" ++ [parens []])]

def setterTokens (setter : OutlineSetter) : List Token :=
  let stored :=
    if setter.wraps then
      phrase "move ||" ++ Render.someOf (phrase "value" ++ [parens []])
    else
      phrase "value"
  documented (" Set `" ++ setter.shown ++ "`. The callback runs when the builder is built.")
    ++ outline.visibility ++ [.word "fn", .word setter.name] ++ callbackParameter
    ++ [parens (phrase "& mut self ," ++ typed "value" [.word callback])] ++ phrase "-> & mut Self"
    ++ callbackConstraint [] (op "->" ++ setter.valueType ++ phrase "+ 'static")
    ++ [braces (phrase "self ." ++ [.word setter.field] ++ op "="
        ++ outline.suppliedBy "deferred" stored ++ phrase "; self")]

/-- The value of a slot when building. -/
def resolved (name : String) : List Token :=
  phrase "self ." ++ [.word name] ++ phrase ". resolve" ++ [parens []]

/-- A local variable of the method that builds. -/
def localTokens (item : OutlineLocal) : List Token :=
  phrase "let" ++ [.word item.name] ++ op "=" ++ resolved item.name
    ++ (match item.fallback with
      | none => []
      | some expression => phrase ". unwrap_or_else" ++ [parens (op "||" ++ expression)])
    ++ op ";"

def callTokens (call : ProviderCall) : List Token :=
  let provider :=
    if call.singleton then
      op "&" ++ call.provider
    else
      phrase "& <" ++ call.provider ++ phrase "as :: core :: default :: Default > :: default" ++ [parens []]
  op "<" ++ call.provider ++ phrase "as" ++ outline.runtime ++ phrase ":: DefaultValueProvider <"
    ++ call.produced ++ phrase ">> :: get" ++ [parens provider]

/-- The expression that constructs the aggregate. -/
def construction (members : List OutlineMember) : List Token :=
  outline.constructor ++ [braces (members.flatMap fun member =>
    (match member.call with
      | none => [.word member.name]
      | some call => typed member.name (outline.callTokens call)) ++ op ",")]

/-- An arm of the match over the provider-backed slots. -/
def armTokens (arm : OutlineArm) : List Token :=
  [parens (arm.patterns.flatMap fun pattern =>
      (match pattern with
        | some name => Render.someOf [.word name]
        | none => Render.absent) ++ op ",")]
    ++ op "=>" ++ outline.construction arm.members ++ op ","

/-- The end of the method that builds. -/
def bodyTokens : List Token :=
  match outline.body with
  | .direct members => outline.construction members
  | .branched slots arms =>
      phrase "match" ++ [parens (slots.flatMap fun name => resolved name ++ op ",")]
        ++ [braces (arms.flatMap outline.armTokens)]

/-- The method that builds. -/
def buildFunction : List Token :=
  documented (" Evaluate every supplied callback and construct the [`" ++ outline.shownTarget ++ "`].")
    ++ outline.visibility ++ phrase "fn build" ++ [parens (phrase "self")] ++ op "->"
    ++ [.word outline.target] ++ [braces (outline.locals.flatMap localTokens ++ outline.bodyTokens)]

/-- The mark of generated implementations. -/
def derived : List Token :=
  attr (phrase "automatically_derived")

/-- The implementation of the methods. -/
def implTokens : List Token :=
  derived ++ [.word "impl", .word outline.name]
    ++ [braces (outline.fromParts ++ outline.newFunction ++ outline.createFunction
        ++ outline.setters.flatMap outline.setterTokens ++ outline.buildFunction)]

/-- The implementation of `Default` for a builder without mandatory parameters. -/
def defaultTokens : List Token :=
  if outline.defaultable then
    derived ++ phrase "impl :: core :: default :: Default for" ++ [.word outline.name]
      ++ [braces (phrase "fn default" ++ [parens []] ++ phrase "-> Self"
          ++ [braces (phrase "Self :: new" ++ [parens []])])]
  else
    []

def debugTokens : List Token :=
  derived ++ phrase "impl :: core :: fmt :: Debug for" ++ [.word outline.name]
    ++ [braces (phrase "fn fmt"
        ++ [parens (phrase "& self , f : & mut :: core :: fmt :: Formatter < '_ >")]
        ++ phrase "-> :: core :: fmt :: Result"
        ++ [braces (phrase "f . debug_struct"
            ++ [parens (phrase ":: core :: stringify !" ++ [parens [.word outline.name]])]
            ++ phrase ". finish_non_exhaustive" ++ [parens []])])]

/-- The tokens of the generated code. -/
def tokens : List Token :=
  outline.structTokens ++ outline.implTokens ++ outline.defaultTokens ++ outline.debugTokens

end BuilderGen.Outline

namespace BuilderGen

/-- The generated code of a builder, which finds the run-time library under a path. -/
def Builder.render (builder : Builder) (cratePath : String) : Except RenderFault (List Token) :=
  (Render.outline builder cratePath).map Outline.tokens

end BuilderGen

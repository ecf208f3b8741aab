import BuilderGen.Builder.Plan

/-!
# Builders

A builder for an aggregate: its slots, the setters that fill them, the values they start with, and the plan
by which the aggregate is built.
-/

namespace BuilderGen

/-- A method that fills one slot. -/
structure Setter where
  name : String
  field : String
  valueType : DeclaredType
  /-- Whether the given value is wrapped before it is stored. -/
  wraps : Bool
deriving DecidableEq, Repr, Inhabited

/-- What a slot holds before any setter is called. -/
inductive Initial where
  /-- The absent value of a nullable type. -/
  | null
  /-- Nothing; the default is found when building. -/
  | unset
  | value (expression : String)
deriving DecidableEq, Repr, Inhabited

/-- The initial value of one field. -/
structure DefaultValue where
  field : String
  initial : Initial
deriving DecidableEq, Repr, Inhabited

/-- How a builder starts: which fields the caller supplies, and what the others hold. -/
structure Factory where
  mandatory : List String
  defaults : List DefaultValue
deriving DecidableEq, Repr, Inhabited

structure Builder where
  name : String
  package : String
  target : String
  constructorPath : String
  visibility : Visibility
  fields : List Field
  setters : List Setter
  factory : Factory
  plan : Plan
deriving DecidableEq, Repr, Inhabited

/-- Whether the slot of a strategy holds an optional value around the declared type. -/
def Strategy.widens : Strategy → Bool
  | .mandatory | .nullable => false
  | _ => true

/-- The slot of a chosen parameter. -/
def Choice.field (choice : Choice) : Field where
  name := choice.name
  type := choice.type
  widened := choice.strategy.widens
  strategy := choice.strategy

/-- The setter of a chosen parameter. -/
def Choice.fluentSetter (choice : Choice) : Setter where
  name := choice.setter
  field := choice.name
  valueType := choice.type
  wraps := choice.strategy.widens

/-- The initial value of a field that is not mandatory. -/
def Field.initial? (field : Field) : Option DefaultValue :=
  match field.strategy with
  | .mandatory => none
  | .nullable => some ⟨field.name, .null⟩
  | .initializer _ | .provider .. => some ⟨field.name, .unset⟩
  | .zero _ expression | .variant _ _ expression => some ⟨field.name, .value expression⟩

/-- How a builder with these fields starts. -/
def Factory.ofFields (fields : List Field) : Factory where
  mandatory := (fields.filter (·.strategy = .mandatory)).map Field.name
  defaults := fields.filterMap Field.initial?

namespace Builder

/-- The builder of an aggregate with the chosen parameters. -/
def ofChoices (aggregate : Aggregate) (constructorPath : String) (choices : List Choice) : Builder where
  name := aggregate.generatedName
  package := aggregate.package
  target := aggregate.name
  constructorPath := constructorPath
  visibility := aggregate.visibility
  fields := choices.map Choice.field
  setters := choices.map Choice.fluentSetter
  factory := Factory.ofFields (choices.map Choice.field)
  plan := Plan.ofFields (choices.map Choice.field)

def field? (builder : Builder) (name : String) : Option Field :=
  builder.fields.find? (·.name = name)

end Builder

end BuilderGen

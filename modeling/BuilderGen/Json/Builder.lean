import BuilderGen.Builder.Basic
import BuilderGen.Json.Model

/-!
# The JSON form of builders

The form in which a builder is written as an artefact, and its reader.
-/

namespace BuilderGen

open Json (required optional)

def Strategy.toJson : Strategy → Json
  | .mandatory => .object [("kind", .text "mandatory")]
  | .nullable => .object [("kind", .text "nullable")]
  | .variant name position expression =>
      .object [("kind", .text "enum"), ("variant", .text name), ("position", .text position.keyword),
        ("expression", .text expression)]
  | .zero kind expression =>
      .object [("kind", .text "literal"), ("shape", .text kind.keyword),
        ("expression", .text expression)]
  | .initializer expression =>
      .object [("kind", .text "initializer"), ("expression", Json.ofOption .text expression)]
  | .provider reference singleton =>
      .object [("kind", .text "provider"), ("provider", .text reference),
        ("singleton", .bool singleton)]

def Strategy.ofJson? (json : Json) : Option Strategy := do
  let fields ← json.object?
  match ← required fields "kind" Json.text? with
  | "mandatory" => some .mandatory
  | "nullable" => some .nullable
  | "enum" =>
      let name ← required fields "variant" Json.text?
      let position ← required fields "position" VariantEnd.ofJson?
      let expression ← required fields "expression" Json.text?
      some (.variant name position expression)
  | "literal" =>
      let kind ← required fields "shape" fun value => value.keyword?.bind ZeroKind.ofKeyword?
      let expression ← required fields "expression" Json.text?
      some (.zero kind expression)
  | "initializer" => (optional fields "expression" Json.text?).map .initializer
  | "provider" =>
      let reference ← required fields "provider" Json.text?
      let singleton ← required fields "singleton" Json.bool?
      some (.provider reference singleton)
  | _ => none

/-- The JSON form of a chosen parameter. -/
def Choice.toJson (choice : Choice) : Json :=
  .object [("name", .text choice.name), ("declared_type", choice.type.toJson),
    ("setter_name", .text choice.setter), ("kind", choice.strategy.toJson)]

/-- Reads a chosen parameter. -/
def Choice.ofJson? (json : Json) : Option Choice := do
  let fields ← json.record? ["name", "declared_type", "setter_name", "kind"]
  let name ← required fields "name" Json.text?
  let type ← required fields "declared_type" DeclaredType.ofJson?
  let setter ← required fields "setter_name" Json.text?
  let strategy ← required fields "kind" Strategy.ofJson?
  return { name, type, setter, strategy }

def Field.toJson (field : Field) : Json :=
  .object [("name", .text field.name), ("declared_type", field.type.toJson),
    ("widened", .bool field.widened), ("kind", field.strategy.toJson)]

def Field.ofJson? (json : Json) : Option Field := do
  let fields ← json.record? ["name", "declared_type", "widened", "kind"]
  let name ← required fields "name" Json.text?
  let type ← required fields "declared_type" DeclaredType.ofJson?
  let widened ← required fields "widened" Json.bool?
  let strategy ← required fields "kind" Strategy.ofJson?
  return { name, type, widened, strategy }

def Setter.toJson (setter : Setter) : Json :=
  .object [("name", .text setter.name), ("field", .text setter.field),
    ("value_type", setter.valueType.toJson), ("wraps", .bool setter.wraps)]

def Setter.ofJson? (json : Json) : Option Setter := do
  let fields ← json.record? ["name", "field", "value_type", "wraps"]
  let name ← required fields "name" Json.text?
  let field ← required fields "field" Json.text?
  let valueType ← required fields "value_type" DeclaredType.ofJson?
  let wraps ← required fields "wraps" Json.bool?
  return { name, field, valueType, wraps }

/-- The JSON form of an initial value. -/
def Initial.toJson : Initial → Json
  | .null => .object [("initial", .text "null")]
  | .unset => .object [("initial", .text "unset")]
  | .value expression => .object [("initial", .text "value"), ("expression", .text expression)]

/-- Reads an initial value. -/
def Initial.ofJson? (json : Json) : Option Initial := do
  let fields ← json.record? ["initial", "expression"]
  match ← required fields "initial" Json.text? with
  | "null" => (Json.vacant fields "expression").map fun _ => .null
  | "unset" => (Json.vacant fields "expression").map fun _ => .unset
  | "value" => (required fields "expression" Json.text?).map .value
  | _ => none

/-- The JSON form of the initial value of a field. -/
def DefaultValue.toJson (value : DefaultValue) : Json :=
  .object [("field", .text value.field), ("initial", value.initial.toJson)]

/-- Reads the initial value of a field. -/
def DefaultValue.ofJson? (json : Json) : Option DefaultValue := do
  let fields ← json.record? ["field", "initial"]
  let field ← required fields "field" Json.text?
  let initial ← required fields "initial" Initial.ofJson?
  return { field, initial }

def Factory.toJson (factory : Factory) : Json :=
  .object [("mandatory", Json.ofTexts factory.mandatory),
    ("defaults", .array (factory.defaults.map DefaultValue.toJson))]

def Factory.ofJson? (json : Json) : Option Factory := do
  let fields ← json.record? ["mandatory", "defaults"]
  let mandatory ← required fields "mandatory" (Json.list? Json.text?)
  let defaults ← required fields "defaults" (Json.list? DefaultValue.ofJson?)
  return { mandatory, defaults }

def Resolution.toJson : Resolution → Json
  | .value => .object [("resolution", .text "value")]
  | .orDefault expression =>
      .object [("resolution", .text "or_default"), ("expression", .text expression)]

def Resolution.ofJson? (json : Json) : Option Resolution := do
  let fields ← json.record? ["resolution", "expression"]
  match ← required fields "resolution" Json.text? with
  | "value" => (Json.vacant fields "expression").map fun _ => .value
  | "or_default" => (required fields "expression" Json.text?).map .orDefault
  | _ => none

def FieldResolution.toJson (resolution : FieldResolution) : Json :=
  .object [("field", .text resolution.field), ("strategy", resolution.resolution.toJson)]

def FieldResolution.ofJson? (json : Json) : Option FieldResolution := do
  let fields ← json.record? ["field", "strategy"]
  let field ← required fields "field" Json.text?
  let resolution ← required fields "strategy" Resolution.ofJson?
  return { field, resolution }

def Binding.toJson (binding : Binding) : Json :=
  .object [("field", .text binding.field), ("provider", .text binding.provider),
    ("singleton", .bool binding.singleton), ("produced", binding.produced.toJson)]

def Binding.ofJson? (json : Json) : Option Binding := do
  let fields ← json.record? ["field", "provider", "singleton", "produced"]
  let field ← required fields "field" Json.text?
  let provider ← required fields "provider" Json.text?
  let singleton ← required fields "singleton" Json.bool?
  let produced ← required fields "produced" DeclaredType.ofJson?
  return { field, provider, singleton, produced }

def Branch.toJson (branch : Branch) : Json :=
  .object [("set", Json.ofTexts branch.set), ("defaulted", Json.ofTexts branch.defaulted)]

def Branch.ofJson? (json : Json) : Option Branch := do
  let fields ← json.record? ["set", "defaulted"]
  let set ← required fields "set" (Json.list? Json.text?)
  let defaulted ← required fields "defaulted" (Json.list? Json.text?)
  return { set, defaulted }

def Plan.toJson : Plan → Json
  | .direct resolutions =>
      .object [("plan", .text "direct"),
        ("resolutions", .array (resolutions.map FieldResolution.toJson))]
  | .branched resolutions bindings branches =>
      .object [("plan", .text "branched"),
        ("resolutions", .array (resolutions.map FieldResolution.toJson)),
        ("bindings", .array (bindings.map Binding.toJson)),
        ("branches", .array (branches.map Branch.toJson))]

def Plan.ofJson? (json : Json) : Option Plan := do
  let fields ← json.object?
  match ← required fields "plan" Json.text? with
  | "direct" =>
      (required fields "resolutions" (Json.list? FieldResolution.ofJson?)).map .direct
  | "branched" =>
      let resolutions ← required fields "resolutions" (Json.list? FieldResolution.ofJson?)
      let bindings ← required fields "bindings" (Json.list? Binding.ofJson?)
      let branches ← required fields "branches" (Json.list? Branch.ofJson?)
      some (.branched resolutions bindings branches)
  | _ => none

namespace Builder

def toJson (builder : Builder) : Json :=
  .object [("name", .text builder.name), ("package", .text builder.package),
    ("target", .text builder.target), ("constructor_path", .text builder.constructorPath),
    ("visibility", builder.visibility.toJson),
    ("fields", .array (builder.fields.map Field.toJson)),
    ("setters", .array (builder.setters.map Setter.toJson)),
    ("factory", builder.factory.toJson), ("build", builder.plan.toJson)]

def ofJson? (json : Json) : Option Builder := do
  let fields ← json.record? ["name", "package", "target", "constructor_path", "visibility", "fields",
    "setters", "factory", "build"]
  let name ← required fields "name" Json.text?
  let package ← required fields "package" Json.text?
  let target ← required fields "target" Json.text?
  let constructorPath ← required fields "constructor_path" Json.text?
  let visibility ← required fields "visibility" Visibility.ofJson?
  let slots ← required fields "fields" (Json.list? Field.ofJson?)
  let setters ← required fields "setters" (Json.list? Setter.ofJson?)
  let factory ← required fields "factory" Factory.ofJson?
  let plan ← required fields "build" Plan.ofJson?
  return { name, package, target, constructorPath, visibility, fields := slots, setters, factory, plan }

end Builder

end BuilderGen

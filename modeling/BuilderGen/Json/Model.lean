import BuilderGen.Json.Basic
import BuilderGen.Model.Declarations
import BuilderGen.Model.Settings

/-!
# The JSON form of declarations and settings

Each type has a writer `toJson` and a reader `ofJson?`.  Fields come in a fixed order.  A reader refuses
values of a wrong form and ignores fields it does not know.
-/

namespace BuilderGen

open Json (required defaulted optional)

/-! ## Types -/

def TypeHead.toJson : TypeHead → Json
  | .unit => .object [("kind", .text "unit")]
  | .named path => .object [("kind", .text "named"), ("value", .text path)]
  | .array length =>
      .object [("kind", .text "array"), ("value", .object [("len", .text length)])]
  | .verbatim text => .object [("kind", .text "opaque"), ("value", .text text)]

def TypeHead.ofJson? (json : Json) : Option TypeHead := do
  let fields ← json.record? ["kind", "value"]
  match ← required fields "kind" Json.text? with
  | "unit" => (Json.vacant fields "value").map fun _ => .unit
  | "named" => (required fields "value" Json.text?).map .named
  | "array" =>
      let content ← required fields "value" (Json.record? ["len"])
      (required content "len" Json.text?).map .array
  | "opaque" => (required fields "value" Json.text?).map .verbatim
  | _ => none

namespace DeclaredType

mutual

/-- The JSON form of a declared type.  Arguments are left out when there are none. -/
def toJson : DeclaredType → Json
  | ⟨head, args, nullable⟩ =>
      let written := toJsonAll args
      .object ([("base", head.toJson)]
        ++ Json.field? "args" (if args.isEmpty then none else some (.array written))
        ++ [("nullable", .bool nullable)])

def toJsonAll : List DeclaredType → List Json
  | [] => []
  | first :: rest => toJson first :: toJsonAll rest

end

mutual

def ofJson? : Json → Option DeclaredType
  | .object fields => ofFields? none [] false fields
  | .array (base :: rest) => do
      let head ← TypeHead.ofJson? base
      ofTail? head rest
  | _ => none

/-- Reads the arguments and the flag of a type given as an array. -/
def ofTail? (head : TypeHead) : List Json → Option DeclaredType
  | [] => some ⟨head, [], false⟩
  | [.array args] => (listOfJson? args).map fun args => ⟨head, args, false⟩
  | [.array args, .bool nullable] => (listOfJson? args).map fun args => ⟨head, args, nullable⟩
  | _ => none

/-- Reads the fields of a declared type one by one, given what was read before. -/
def ofFields? (head : Option TypeHead) (args : List DeclaredType) (nullable : Bool) :
    List (String × Json) → Option DeclaredType
  | [] => head.map fun head => ⟨head, args, nullable⟩
  | (key, value) :: rest =>
      if key = "base" then
        match TypeHead.ofJson? value with
        | some head => ofFields? (some head) args nullable rest
        | none => none
      else if key = "args" then
        match value with
        | .array items =>
            match listOfJson? items with
            | some args => ofFields? head args nullable rest
            | none => none
        | _ => none
      else if key = "nullable" then
        match value with
        | .bool nullable => ofFields? head args nullable rest
        | _ => none
      else
        ofFields? head args nullable rest

def listOfJson? : List Json → Option (List DeclaredType)
  | [] => some []
  | json :: rest => do
      let type ← ofJson? json
      let types ← listOfJson? rest
      return type :: types

end

end DeclaredType

/-! ## Declarations -/

def Marking.toJson : Marking → Json
  | .mandatory => .object [("directive", .text "none")]
  | .inferred => .object [("directive", .text "optional")]
  | .nullable => .object [("directive", .text "optional_nullable")]
  | .initializer expression =>
      .object [("directive", .text "optional_has_initializer"),
        ("initializer", Json.ofOption .text expression)]
  | .enumerable position =>
      .object [("directive", .text "optional_enumerable"), ("position", .text position.keyword)]
  | .provider reference =>
      .object [("directive", .text "optional_value_provider"), ("provider", .text reference)]

def VariantEnd.ofJson? (json : Json) : Option VariantEnd :=
  json.keyword?.bind VariantEnd.ofKeyword?

def Marking.ofJson? (json : Json) : Option Marking := do
  let fields ← json.object?
  match ← required fields "directive" Json.text? with
  | "none" => some .mandatory
  | "optional" => some .inferred
  | "optional_nullable" => some .nullable
  | "optional_has_initializer" => (optional fields "initializer" Json.text?).map .initializer
  | "optional_enumerable" => (required fields "position" VariantEnd.ofJson?).map .enumerable
  | "optional_value_provider" => (required fields "provider" Json.text?).map .provider
  | _ => none

def Parameter.toJson (parameter : Parameter) : Json :=
  .object ([("name", .text parameter.name), ("declared_type", parameter.type.toJson)]
    ++ Json.field? "setter_name_override" (parameter.setterName.map .text)
    ++ [("directive", parameter.marking.toJson)])

def Parameter.ofJson? (json : Json) : Option Parameter := do
  let fields ← json.record? ["name", "declared_type", "setter_name_override", "directive"]
  let name ← required fields "name" Json.text?
  let type ← required fields "declared_type" DeclaredType.ofJson?
  let setterName ← optional fields "setter_name_override" Json.text?
  let marking ← defaulted fields "directive" .mandatory Marking.ofJson?
  return { name, type, setterName, marking }

def Constructor.toJson (constructor : Constructor) : Json :=
  .object [("path", .text constructor.path),
    ("parameters", .array (constructor.parameters.map Parameter.toJson))]

def Constructor.ofJson? (json : Json) : Option Constructor := do
  let fields ← json.record? ["path", "parameters"]
  let path ← required fields "path" Json.text?
  let parameters ← required fields "parameters" (Json.list? Parameter.ofJson?)
  return { path, parameters }

def Visibility.toJson : Visibility → Json
  | .everywhere => .object [("level", .text "public")]
  | .within scope => .object [("level", .text "internal"), ("scope", .text scope)]
  | .ownModule => .object [("level", .text "private")]

def Visibility.ofJson? (json : Json) : Option Visibility := do
  let fields ← json.object?
  match ← required fields "level" Json.text? with
  | "public" => some .everywhere
  | "internal" => (required fields "scope" Json.text?).map .within
  | "private" => some .ownModule
  | _ => none

def Aggregate.toJson (aggregate : Aggregate) : Json :=
  .object ([("name", .text aggregate.name), ("package", .text aggregate.package),
      ("visibility", aggregate.visibility.toJson)]
    ++ Json.field? "builder_name_override" (aggregate.builderName.map .text)
    ++ [("generic", .bool aggregate.generic),
      ("constructors", .array (aggregate.constructors.map Constructor.toJson))])

def Aggregate.ofJson? (json : Json) : Option Aggregate := do
  let fields ← json.record?
    ["name", "package", "visibility", "builder_name_override", "generic", "constructors"]
  let name ← required fields "name" Json.text?
  let package ← required fields "package" Json.text?
  let visibility ← defaulted fields "visibility" .everywhere Visibility.ofJson?
  let builderName ← optional fields "builder_name_override" Json.text?
  let generic ← defaulted fields "generic" false Json.bool?
  let constructors ← required fields "constructors" (Json.list? Constructor.ofJson?)
  return { name, package, visibility, builderName, generic, constructors }

def Enumeration.toJson (enumeration : Enumeration) : Json :=
  .object [("name", .text enumeration.name), ("package", .text enumeration.package),
    ("variants", Json.ofTexts enumeration.variants)]

def Enumeration.ofJson? (json : Json) : Option Enumeration := do
  let fields ← json.record? ["name", "package", "variants"]
  let name ← required fields "name" Json.text?
  let package ← required fields "package" Json.text?
  let variants ← required fields "variants" (Json.list? Json.text?)
  return { name, package, variants }

def Provider.Form.keyword : Provider.Form → String
  | .singleton => "singleton"
  | .instantiable => "instantiable"

/-- Reads a provider's form. -/
def Provider.Form.ofJson? (json : Json) : Option Provider.Form :=
  json.keyword?.bind fun
    | "singleton" => some .singleton
    | "instantiable" => some .instantiable
    | _ => none

def Provider.toJson (provider : Provider) : Json :=
  .object [("name", .text provider.name), ("package", .text provider.package),
    ("shape", .text provider.form.keyword), ("marked", .bool provider.marked),
    ("capabilities", .array (provider.capabilities.map DeclaredType.toJson))]

def Provider.ofJson? (json : Json) : Option Provider := do
  let fields ← json.record? ["name", "package", "shape", "marked", "capabilities"]
  let name ← required fields "name" Json.text?
  let package ← required fields "package" Json.text?
  let form ← required fields "shape" Provider.Form.ofJson?
  let marked ← required fields "marked" Json.bool?
  let capabilities ← defaulted fields "capabilities" [] (Json.list? DeclaredType.ofJson?)
  return { name, package, form, marked, capabilities }

/-- The JSON form of a set of declarations. -/
def Declarations.toJson (declarations : Declarations) : Json :=
  .object [("aggregates", .array (declarations.aggregates.map Aggregate.toJson)),
    ("providers", .array (declarations.providers.map Provider.toJson)),
    ("enums", .array (declarations.enumerations.map Enumeration.toJson))]

/-- Reads a set of declarations. -/
def Declarations.ofJson? (json : Json) : Option Declarations := do
  let fields ← json.record? ["aggregates", "providers", "enums"]
  let aggregates ← defaulted fields "aggregates" [] (Json.list? Aggregate.ofJson?)
  let providers ← defaulted fields "providers" [] (Json.list? Provider.ofJson?)
  let enumerations ← defaulted fields "enums" [] (Json.list? Enumeration.ofJson?)
  return { aggregates, providers, enumerations }

/-! ## Settings -/

def Settings.toJson (settings : Settings) : Json :=
  .object [("provider_strictness", .text settings.strictness.keyword),
    ("duplicate_providers", .text settings.duplicates.keyword),
    ("parallel", .bool settings.parallel), ("crate_path", .text settings.cratePath)]

/-- Reads settings.  Absent fields keep their defaults. -/
def Settings.ofJson? (json : Json) : Option Settings := do
  let fields ← json.record? ["provider_strictness", "duplicate_providers", "parallel", "crate_path"]
  let standard : Settings := {}
  let strictness ← defaulted fields "provider_strictness" standard.strictness fun value =>
    value.keyword?.bind Strictness.ofKeyword?
  let duplicates ← defaulted fields "duplicate_providers" standard.duplicates fun value =>
    value.keyword?.bind DuplicatePolicy.ofKeyword?
  let parallel ← defaulted fields "parallel" standard.parallel Json.bool?
  let cratePath ← defaulted fields "crate_path" standard.cratePath Json.text?
  return { strictness, duplicates, parallel, cratePath }

end BuilderGen

import BuilderGen.Builder.Basic
import BuilderGen.Render.Part

/-!
# Outlines of rendered builders

A builder whose texts have all been read: the fields of the generated struct, its methods, and the body of
the method that builds.  The body keeps its match arms as data.  An outline determines the tokens.
-/

namespace BuilderGen

/-- A field of the generated struct, with the type of its slot. -/
structure OutlineField where
  name : String
  slot : List Token
deriving Repr, Inhabited

/-- A parameter that the caller has to supply. -/
structure OutlineParameter where
  name : String
  type : List Token
deriving Repr, Inhabited

/-- What a new builder holds in one slot. -/
inductive OutlineInitial where
  /-- The argument of a mandatory parameter. -/
  | argument (name : String)
  | absent
  | value (expression : List Token)
deriving Repr, Inhabited

structure OutlineSetter where
  name : String
  field : String
  /-- The field as the documentation shows it. -/
  shown : String
  valueType : List Token
  wraps : Bool
deriving Repr, Inhabited

/-- A local variable of the method that builds, for a field that no provider backs. -/
structure OutlineLocal where
  name : String
  /-- The expression for a slot that was not set. -/
  fallback : Option (List Token)
deriving Repr, Inhabited

structure ProviderCall where
  provider : List Token
  produced : List Token
  singleton : Bool
deriving Repr, Inhabited

/-- One field in the expression that constructs the aggregate. -/
structure OutlineMember where
  name : String
  /-- The provider's value, or else the variable of the same name. -/
  call : Option ProviderCall
deriving Repr, Inhabited

/-- An arm of the match over the provider-backed slots. -/
structure OutlineArm where
  /-- For each slot the name bound by `Some`, or nothing for `None`. -/
  patterns : List (Option String)
  members : List OutlineMember
deriving Repr, Inhabited

/-- The expression at the end of the method that builds. -/
inductive OutlineBody where
  | direct (members : List OutlineMember)
  | branched (slots : List String) (arms : List OutlineArm)
deriving Repr, Inhabited

/-- A builder whose texts have all been read. -/
structure Outline where
  runtime : List Token
  name : String
  shownName : String
  target : String
  shownTarget : String
  visibility : List Token
  fields : List OutlineField
  mandatory : List OutlineParameter
  /-- Whether the builder has no mandatory parameters by its factory. -/
  defaultable : Bool
  initials : List OutlineInitial
  setters : List OutlineSetter
  constructor : List Token
  locals : List OutlineLocal
  body : OutlineBody
deriving Repr, Inhabited

namespace Render

/-- The field of the generated struct for a slot. -/
def outlineField (field : Field) : Except RenderFault OutlineField := do
  let name ← identifier field.name
  let slot ← slot field.type field.widened
  return { name, slot }

/-- The parameter for a mandatory field. -/
def outlineParameter (field : Field) : Except RenderFault OutlineParameter := do
  let name ← identifier field.name
  let type ← type field.type
  return { name, type }

/-- What a new builder holds for a field.  A field that the factory does not mention starts absent. -/
def outlineInitial (defaults : List DefaultValue) (field : Field) : Except RenderFault OutlineInitial :=
  if field.strategy = .mandatory then
    (identifier field.name).map .argument
  else
    match (defaults.find? (·.field = field.name)).map DefaultValue.initial with
    | some (.value text) => (expression text).map .value
    | some .null | some .unset | none => .ok .absent

/-- The setter for a slot. -/
def outlineSetter (setter : Setter) : Except RenderFault OutlineSetter := do
  let name ← identifier setter.name
  let field ← identifier setter.field
  let valueType ← type setter.valueType
  return { name, field, shown := setter.field, valueType, wraps := setter.wraps }

/-- The local variable for a resolution. -/
def outlineLocal (resolution : FieldResolution) : Except RenderFault OutlineLocal := do
  let name ← identifier resolution.field
  match resolution.resolution with
  | .value => return { name, fallback := none }
  | .orDefault text => return { name, fallback := some (← expression text) }

def providerCall (binding : Binding) : Except RenderFault ProviderCall := do
  let provider ← path binding.provider
  let produced ← type binding.produced
  return { provider, produced, singleton := binding.singleton }

/-- The members of the constructing expression, given for some fields the call of a provider. -/
def outlineMembers (fields : List Field) (call : Field → Except RenderFault (Option ProviderCall)) :
    Except RenderFault (List OutlineMember) :=
  fields.mapM fun field => do
    let name ← identifier field.name
    let call ← call field
    return { name, call }

/-- The arm for a branch.  The calls stand beside the fields they are for. -/
def outlineArm (fields : List Field) (bindings : List (Binding × String))
    (calls : List (String × Except RenderFault ProviderCall)) (branch : Branch) :
    Except RenderFault OutlineArm := do
  let patterns := bindings.map fun (binding, name) =>
    if binding.field ∈ branch.set then some name else none
  let members ← outlineMembers fields fun field =>
    if field.name ∈ branch.defaulted then
      match calls.lookup field.name with
      | some call => call.map some
      | none => .ok none
    else
      .ok none
  return { patterns, members }

/-- The end of the method that builds. -/
def outlineBody (builder : Builder) : Except RenderFault OutlineBody :=
  match builder.plan with
  | .direct _ => (outlineMembers builder.fields fun _ => .ok none).map .direct
  | .branched _ bindings branches => do
      let names ← bindings.mapM (identifier ·.field)
      let calls := bindings.map fun binding => (binding.field, providerCall binding)
      let arms ← branches.mapM (outlineArm builder.fields (bindings.zip names) calls)
      return .branched names arms

/-- Reads all texts of a builder, in the order in which the generated code uses them. -/
def outline (builder : Builder) (cratePath : String) : Except RenderFault Outline := do
  let runtime ← path cratePath
  let name ← identifier builder.name
  let target ← identifier builder.target
  let visibility ← visibility builder.visibility
  let fields ← builder.fields.mapM outlineField
  let mandatory ← (builder.fields.filter (·.strategy = .mandatory)).mapM outlineParameter
  let initials ← builder.fields.mapM (outlineInitial builder.factory.defaults)
  let setters ← builder.setters.mapM outlineSetter
  let constructor ← path builder.constructorPath
  let locals ← builder.plan.resolutions.mapM outlineLocal
  let body ← outlineBody builder
  return { runtime, name, shownName := builder.name, target, shownTarget := builder.target, visibility,
           fields, mandatory, defaultable := builder.factory.mandatory.isEmpty, initials, setters,
           constructor, locals, body }

end Render

end BuilderGen

import BuilderGen.Builder.Powerset
import BuilderGen.Default.Strategy

/-!
# Plans for building

How a builder turns its slots into the fields of the aggregate.  Fields without a provider are resolved one
by one.  If some fields are provider-backed, there is one branch per subset of them, which says which of
them were set and which fall back to their provider.
-/

namespace BuilderGen

/-- One slot of a builder. -/
structure Field where
  name : String
  type : DeclaredType
  /-- Whether the slot holds an optional value around the declared type. -/
  widened : Bool
  strategy : Strategy
deriving DecidableEq, Repr, Inhabited

/-- How the value of a slot becomes the value of the field. -/
inductive Resolution where
  /-- The slot's value is the field's value. -/
  | value
  /-- The expression is evaluated when the slot was not set. -/
  | orDefault (expression : String)
deriving DecidableEq, Repr, Inhabited

structure FieldResolution where
  field : String
  resolution : Resolution
deriving DecidableEq, Repr, Inhabited

/-- The provider of one field. -/
structure Binding where
  field : String
  provider : String
  singleton : Bool
  produced : DeclaredType
deriving DecidableEq, Repr, Inhabited

/-- One combination of provider-backed fields that were set and that were not. -/
structure Branch where
  set : List String
  defaulted : List String
deriving DecidableEq, Repr, Inhabited

/-- How a builder builds. -/
inductive Plan where
  /-- No field is provider-backed. -/
  | direct (resolutions : List FieldResolution)
  /-- There is one branch per subset of the bound fields. -/
  | branched (resolutions : List FieldResolution) (bindings : List Binding) (branches : List Branch)
deriving DecidableEq, Repr, Inhabited

/-- The default of a type, for an initializer without an expression. -/
def defaultExpression : String := "::core::default::Default::default()"

namespace Field

/-- The resolution of a field that no provider backs. -/
def resolution? (field : Field) : Option FieldResolution :=
  match field.strategy with
  | .mandatory | .nullable => some ⟨field.name, .value⟩
  | .zero _ expression | .variant _ _ expression => some ⟨field.name, .orDefault expression⟩
  | .initializer expression => some ⟨field.name, .orDefault (expression.getD defaultExpression)⟩
  | .provider .. => none

/-- The binding of a provider-backed field. -/
def binding? (field : Field) : Option Binding :=
  match field.strategy with
  | .provider reference singleton =>
      some { field := field.name, provider := reference, singleton, produced := field.type }
  | _ => none

end Field

namespace Plan

/-- The branch in which exactly these of the given fields were set. -/
def branchOf (names set : List String) : Branch where
  set := set
  defaulted := names.filter (· ∉ set)

/-- One branch per subset of the given fields, larger subsets first. -/
def branchesOf (names : List String) : List Branch :=
  (powerset names).map (branchOf names)

/-- The plan for the fields of a builder. -/
def ofFields (fields : List Field) : Plan :=
  let resolutions := fields.filterMap Field.resolution?
  match fields.filterMap Field.binding? with
  | [] => .direct resolutions
  | bindings => .branched resolutions bindings (branchesOf (bindings.map Binding.field))

def resolutions : Plan → List FieldResolution
  | direct resolutions => resolutions
  | branched resolutions _ _ => resolutions

def bindings : Plan → List Binding
  | direct _ => []
  | branched _ bindings _ => bindings

def branches : Plan → List Branch
  | direct _ => []
  | branched _ _ branches => branches

/-- The branch for a list of set fields: the first one whose fields were all set. -/
def branch? (plan : Plan) (set : List String) : Option Branch :=
  plan.branches.find? fun branch => branch.set.all (· ∈ set)

end Plan

end BuilderGen

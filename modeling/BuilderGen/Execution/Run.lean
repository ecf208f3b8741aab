import BuilderGen.Execution.Datum
import BuilderGen.Execution.Slot
import BuilderGen.Render.Outline

/-!
# Running generated builders

What the code of an outline does: it starts a builder, stores callbacks, and builds the aggregate.  The
meaning of the texts in an outline is a parameter.  Code that would not pass a type check has no run.
-/

namespace BuilderGen

/-- What the expressions and the providers in an outline stand for. -/
structure Meaning (ε α : Type) where
  /-- The value of an expression in the place of a field's value. -/
  evaluate : String → List Token → Logged ε (Datum α)
  /-- The value that a provider gives. -/
  provide : ProviderCall → Logged ε (Datum α)

/-- A computation of generated code.  Without a value the code does not pass a type check. -/
abbrev Execution (ε α : Type) := OptionT (Logged ε) α

/-- The slots of a builder by field. -/
abbrev Slots (ε α : Type) := List (String × Slot ε (Datum α))

namespace Slots

variable {ε α : Type}

/-- Puts a callback into the slot of a field. -/
def store (slots : Slots ε α) (field : String) (callback : Logged ε (Datum α)) : Slots ε α :=
  slots.map fun (name, slot) => (name, if name = field then .deferred callback else slot)

def resolve (slots : Slots ε α) (field : String) : Execution ε (Datum α) :=
  match slots.lookup field with
  | some slot => OptionT.lift slot.resolve
  | none => failure

end Slots

namespace Outline

variable {ε α : Type}

/-- What a new builder holds in one slot. -/
def initialValue (meaning : Meaning ε α) (arguments : List (String × Datum α)) (field : String) :
    OutlineInitial → Execution ε (Datum α)
  | .argument name => OptionT.mk (pure (arguments.lookup name))
  | .absent => pure .absent
  | .value expression => .present <$> OptionT.lift (meaning.evaluate field expression)

/-- Starts a builder with the arguments for the mandatory parameters. -/
def start (outline : Outline) (meaning : Meaning ε α) (arguments : List (Datum α)) :
    Execution ε (Slots ε α) := do
  if arguments.length ≠ outline.mandatory.length then
    failure
  let arguments := (outline.mandatory.map OutlineParameter.name).zip arguments
  (outline.fields.zip outline.initials).mapM fun (field, initial) => do
    let value ← initialValue meaning arguments field.name initial
    return (field.name, .ready value)

def call (outline : Outline) (slots : Slots ε α) (setter : String) (callback : Logged ε (Datum α)) :
    Execution ε (Slots ε α) :=
  match outline.setters.find? (·.name = setter) with
  | some setter =>
      pure (slots.store setter.field (if setter.wraps then .present <$> callback else callback))
  | none => failure

/-- Calls setters one after the other. -/
def callAll (outline : Outline) (slots : Slots ε α) (calls : List (String × Logged ε (Datum α))) :
    Execution ε (Slots ε α) :=
  calls.foldlM (fun slots (setter, callback) => outline.call slots setter callback) slots

/-! ## Building -/

/-- The values of the local variables, in order. -/
def resolveLocals (meaning : Meaning ε α) (slots : Slots ε α) :
    List OutlineLocal → Execution ε (List (String × Datum α))
  | [] => pure []
  | item :: rest => do
      let held ← slots.resolve item.name
      let value ←
        match item.fallback, held with
        | none, value => pure value
        | some _, .present value => pure value
        | some expression, .absent => OptionT.lift (meaning.evaluate item.name expression)
        | some _, _ => failure
      return (item.name, value) :: (← resolveLocals meaning slots rest)

/-- Matches the values of the provider-backed slots with the patterns of an arm, and gives the variables
that the patterns bind. -/
def bind? : List (Option String) → List (Datum α) → Option (List (String × Datum α))
  | [], [] => some []
  | some name :: patterns, .present value :: values => (bind? patterns values).map ((name, value) :: ·)
  | none :: patterns, .absent :: values => bind? patterns values
  | _, _ => none

/-- The first arm that matches, with the variables that it binds. -/
def arm? (arms : List OutlineArm) (values : List (Datum α)) :
    Option (OutlineArm × List (String × Datum α)) :=
  arms.findSome? fun arm => (bind? arm.patterns values).map fun bound => (arm, bound)

/-- Constructs an aggregate from variables and calls of providers. -/
def construct (meaning : Meaning ε α) (scope : List (String × Datum α)) :
    List OutlineMember → Execution ε (List (String × Datum α))
  | [] => pure []
  | member :: rest => do
      let value ←
        match member.call with
        | some call => OptionT.lift (meaning.provide call)
        | none => OptionT.mk (pure (scope.lookup member.name))
      return (member.name, value) :: (← construct meaning scope rest)

/-- Builds the aggregate from the slots: the values of its fields by name. -/
def build (outline : Outline) (meaning : Meaning ε α) (slots : Slots ε α) :
    Execution ε (List (String × Datum α)) := do
  let scope ← resolveLocals meaning slots outline.locals
  match outline.body with
  | .direct members => construct meaning scope members
  | .branched names arms => do
      let values ← names.mapM slots.resolve
      match arm? arms values with
      | some (arm, bound) => construct meaning (bound ++ scope) arm.members
      | none => failure

/-- Starts a builder, lets calls adjust it, and builds. -/
def create (outline : Outline) (meaning : Meaning ε α) (arguments : List (Datum α))
    (calls : List (String × Logged ε (Datum α))) : Execution ε (List (String × Datum α)) := do
  let slots ← outline.start meaning arguments
  outline.build meaning (← outline.callAll slots calls)

/-- The text of a builder as a developer sees it. -/
def shown (outline : Outline) : String :=
  outline.name ++ " \x7b .. \x7d"

end Outline

end BuilderGen

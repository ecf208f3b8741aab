/-!
# Slots at run time

A slot of a builder holds a value that is ready or a callback that gives the value later.  Running a
callback leaves events behind.
-/

namespace BuilderGen

/-- A value, and the events that happened before it was there. -/
structure Logged (ε α : Type) where
  events : List ε := []
  value : α
deriving DecidableEq, Repr, Inhabited

namespace Logged

variable {ε α β : Type}

/-- Goes on with a value.  The events of both parts happen in order. -/
def andThen (first : Logged ε α) (next : α → Logged ε β) : Logged ε β :=
  let second := next first.value
  { events := first.events ++ second.events, value := second.value }

instance : Monad (Logged ε) where
  pure value := { value }
  bind := andThen

/-- Only an event. -/
def happen (event : ε) : Logged ε Unit where
  events := [event]
  value := ()

@[simp] theorem events_pure (value : α) : (pure value : Logged ε α).events = [] := rfl

@[simp] theorem value_pure (value : α) : (pure value : Logged ε α).value = value := rfl

@[simp] theorem events_bind (first : Logged ε α) (next : α → Logged ε β) :
    (first >>= next).events = first.events ++ (next first.value).events := rfl

@[simp] theorem value_bind (first : Logged ε α) (next : α → Logged ε β) :
    (first >>= next).value = (next first.value).value := rfl

instance : LawfulMonad (Logged ε) :=
  LawfulMonad.mk' (Logged ε)
    (fun first => by simp [Functor.map, andThen])
    (fun value next => by simp [bind, andThen, pure])
    (fun first next last => by simp [bind, andThen])

end Logged

inductive Slot (ε α : Type) where
  | ready (value : α)
  | deferred (callback : Logged ε α)
deriving DecidableEq, Repr, Inhabited

namespace Slot

variable {ε α : Type}

/-- The value of a slot.  A callback runs now. -/
def resolve : Slot ε α → Logged ε α
  | ready value => pure value
  | deferred callback => callback

/-- Whether a callback waits in a slot. -/
def isDeferred : Slot ε α → Bool
  | ready _ => false
  | deferred _ => true

/-- The text of a slot as a developer sees it.  A callback is not run for it. -/
def shown (value : α → String) : Slot ε α → String
  | ready held => "Ready(" ++ value held ++ ")"
  | deferred _ => "Deferred(..)"

end Slot

end BuilderGen

import BuilderGen.Text.Character

/-!
# Settings of a round

What to do with marked declarations that provide nothing, and with two providers of one type; and the path
under which generated code finds the run-time library.
-/

namespace BuilderGen

/-- What happens when two providers produce the same type. -/
inductive DuplicatePolicy where
  /-- The later provider replaces the earlier one silently. -/
  | lastWins
  /-- The later provider replaces the earlier one and a warning is reported. -/
  | warn
  /-- The round stops. -/
  | error
deriving DecidableEq, Repr, Inhabited

namespace DuplicatePolicy

def keyword : DuplicatePolicy → String
  | lastWins => "last_wins"
  | warn => "warn"
  | error => "error"

/-- Reads exactly the keyword of a policy. -/
def ofKeyword? (text : String) : Option DuplicatePolicy :=
  if text = "last_wins" then some .lastWins
  else if text = "warn" then some .warn
  else if text = "error" then some .error
  else none

/-- Reads a policy as a person writes it: blanks around it and the case of ASCII letters do not count, and
a hyphen stands for an underscore. -/
def ofText? (text : String) : Option DuplicatePolicy :=
  ofKeyword? (String.ofList ((Text.trimList text.toList).map fun c =>
    if c = '-' then '_' else c.toLower))

theorem ofKeyword?_keyword (policy : DuplicatePolicy) : ofKeyword? policy.keyword = some policy := by
  cases policy <;> rfl

end DuplicatePolicy

/-- Whether a marked declaration that provides nothing stops the round. -/
inductive Strictness where
  /-- It is reported and skipped. -/
  | lenient
  /-- It stops the round. -/
  | strict
deriving DecidableEq, Repr, Inhabited

namespace Strictness

def keyword : Strictness → String
  | lenient => "lenient"
  | strict => "strict"

/-- Reads exactly the keyword of a strictness. -/
def ofKeyword? (text : String) : Option Strictness :=
  if text = "lenient" then some .lenient
  else if text = "strict" then some .strict
  else none

theorem ofKeyword?_keyword (strictness : Strictness) :
    ofKeyword? strictness.keyword = some strictness := by
  cases strictness <;> rfl

end Strictness

/-- Settings of one round.  `parallel` never changes an answer. -/
structure Settings where
  strictness : Strictness := .lenient
  duplicates : DuplicatePolicy := .warn
  parallel : Bool := true
  cratePath : String := "::optbuilder"
deriving DecidableEq, Repr, Inhabited

end BuilderGen

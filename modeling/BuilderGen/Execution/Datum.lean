import BuilderGen.Text.Quoted

/-!
# Data at run time

The values that generated builders handle: atoms of some kind, lists, and options.
-/

namespace BuilderGen

/-- A value over some kind of atoms. -/
inductive Datum (α : Type) where
  | atom (value : α)
  | list (items : List (Datum α))
  /-- The absent value of an option. -/
  | absent
  /-- The present value of an option. -/
  | present (inner : Datum α)
deriving Repr, Inhabited

namespace Datum

variable {α : Type}

mutual

/-- The text of a value as a developer sees it, given the texts of the atoms. -/
def shown (atom : α → String) : Datum α → String
  | .atom value => atom value
  | .list items => "[" ++ ", ".intercalate (shownAll atom items) ++ "]"
  | .absent => "None"
  | .present inner => "Some(" ++ shown atom inner ++ ")"

/-- The texts of values. -/
def shownAll (atom : α → String) : List (Datum α) → List String
  | [] => []
  | first :: rest => shown atom first :: shownAll atom rest

end

end Datum

/-- Atoms of the usual kinds. -/
inductive Atom where
  | whole (value : Int)
  | text (value : String)
  | truth (value : Bool)
  /-- A variant of an enumeration. -/
  | variant (name : String)
deriving DecidableEq, Repr, Inhabited

/-- The text of an atom as a developer sees it. -/
def Atom.shown : Atom → String
  | whole value => toString value
  | text value => Text.shown value
  | truth value => if value then "true" else "false"
  | variant name => name

end BuilderGen

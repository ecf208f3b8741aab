/-!
# Markings of parameters

How a parameter is marked in source: mandatory, or optional with one of five ways to find its default.
-/

namespace BuilderGen

/-- Which variant of an enumeration stands for the default. -/
inductive VariantEnd where
  | first
  | last
deriving DecidableEq, Repr, Inhabited

namespace VariantEnd

def keyword : VariantEnd → String
  | first => "first"
  | last => "last"

/-- Reads a keyword.  Case and blanks count. -/
def ofKeyword? (text : String) : Option VariantEnd :=
  if text = "first" then some .first
  else if text = "last" then some .last
  else none

theorem ofKeyword?_keyword (position : VariantEnd) : ofKeyword? position.keyword = some position := by
  cases position <;> rfl

end VariantEnd

/-- The marker of one parameter. -/
inductive Marking where
  /-- No marker: the caller has to supply the value. -/
  | mandatory
  /-- The default follows from the type. -/
  | inferred
  /-- The default is the absent value. -/
  | nullable
  /-- The default is an expression of the source, or the default of the type when there is none. -/
  | initializer (expression : Option String)
  /-- The default is the first or last variant of an enumeration. -/
  | enumerable (position : VariantEnd)
  /-- The default comes from the provider that the reference names. -/
  | provider (reference : String)
deriving DecidableEq, Repr, Inhabited

/-- Whether the parameter carries an optional marker. -/
def Marking.isOptional : Marking → Bool
  | .mandatory => false
  | _ => true

end BuilderGen

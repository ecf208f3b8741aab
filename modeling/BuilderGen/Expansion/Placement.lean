import BuilderGen.Grammar.Item
import BuilderGen.Text.Segments

/-!
# Placing items in modules

Finds the module that a package names among items, and adds items at its end.  A segment stands for the
first module of that name that has a body.
-/

namespace BuilderGen.Placement

open Grammar (Item)

/-- Changes the items of the first module of a name that has a body. -/
def inModule? (name : String) (change : List Item → Option (List Item)) :
    List Item → Option (List Item)
  | [] => none
  | .module head items :: rest =>
      if head.name = name then (change items).map fun items => .module head items :: rest
      else (inModule? name change rest).map (.module head items :: ·)
  | item :: rest => (inModule? name change rest).map (item :: ·)

/-- Adds items behind those of the module that segments lead to. -/
def addAt? (added : List Item) : List String → List Item → Option (List Item)
  | [], items => some (items ++ added)
  | segment :: rest, items => inModule? segment (addAt? added rest) items

/-- The segments that lead from the root module to a package. -/
def segments? (root package : String) : Option (List String) :=
  if root.toList.isPrefixOf package.toList then
    some (Segments.ofPackage (String.ofList (package.toList.drop root.toList.length)))
  else
    none

/-- Adds items behind those of a package, where the given items are those of the root module. -/
def add? (root package : String) (added items : List Item) : Option (List Item) := do
  addAt? added (← segments? root package) items

end BuilderGen.Placement

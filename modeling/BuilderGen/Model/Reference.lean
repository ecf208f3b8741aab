import BuilderGen.Model.Declarations

/-!
# References between modules

A reference such as `super::Names` is written in one module and denotes declarations of the round.  This
module says which qualified names it may denote, finds declarations by it, and writes a reference from one
module to another.
-/

namespace BuilderGen.Reference

/-- Drops the `self` and `super` a reference starts with, applying them to a module path.  The flag tells
whether there was one. -/
def climb : List String → List String → List String × List String × Bool
  | module, "self" :: rest =>
      let (module, rest, _) := climb module rest
      (module, rest, true)
  | module, "super" :: rest =>
      let (module, rest, _) := climb module.dropLast rest
      (module, rest, true)
  | module, rest => (module, rest, false)

/-- The qualified names a reference may denote when it is written in a module, most specific first.  A path
from `crate` starts at the root; `self` and `super` apply to the module; any other path is tried relative
to the module, then from the root. -/
def candidates (reference package : String) : List String :=
  match (Segments.split reference).map Text.trim with
  | "crate" :: rest => [Segments.join rest]
  | segments =>
      let (module, rest, relative) := climb (Segments.ofPackage package) segments
      let here := Segments.join (module ++ rest)
      if relative then [here] else [here, Segments.join rest]

/-- The only member with a property, if exactly one member has it. -/
def unique? {α : Type} (property : α → Bool) (members : List α) : Option α :=
  match members.filter property with
  | [only] => some only
  | _ => none

/-- The provider a reference denotes.  Among equal qualified names the last declared one counts.  When no
qualified name fits, the last segment decides if exactly one provider has that name. -/
def provider? (providers : List Provider) (reference package : String) : Option Provider :=
  let wanted := Segments.bare reference
  match (candidates wanted package).findSome? fun name =>
      providers.reverse.find? (·.qualifiedName = name) with
  | some provider => some provider
  | none => unique? (·.name = Segments.last wanted) providers

/-- The enumeration a type denotes.  Among equal qualified names the first declared one counts.  When no
qualified name fits, a path of one segment denotes the only enumeration of that name. -/
def enumeration? (enumerations : List Enumeration) (type : DeclaredType) (package : String) :
    Option Enumeration :=
  if type.args.isEmpty then
    type.path?.bind fun path =>
      let wanted := Segments.bare path
      match (candidates wanted package).findSome? fun name =>
          enumerations.find? (·.qualifiedName = name) with
      | some enumeration => some enumeration
      | none =>
          if Segments.qualified wanted then none else unique? (·.name = wanted) enumerations
  else
    none

/-- How many segments two module paths share at the start. -/
def shared : List String → List String → Nat
  | left :: lefts, right :: rights => if left = right then shared lefts rights + 1 else 0
  | _, _ => 0

/-- The reference from one module to a name in another: up with `super` as far as needed, then down. -/
def relative (origin target name : String) : String :=
  let origin := Segments.ofPackage origin
  let target := Segments.ofPackage target
  let common := shared origin target
  Segments.join (List.replicate (origin.length - common) "super" ++ target.drop common ++ [name])

end BuilderGen.Reference

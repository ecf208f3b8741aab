import BuilderGen.Expansion.Placement
import BuilderGen.Render.Template
import BuilderGen.Round
import BuilderGen.Source.Reading
import BuilderGen.Source.Strip

/-!
# Expansion of a module

A module with marked declarations becomes the module without its markers, with every builder at the end of
the module its target is declared in.  Behind the module stand a constant for every warning, whose use of
a deprecated name makes the compiler repeat the warning, and an error for every fault.
-/

namespace BuilderGen

open Grammar (Item ModuleHead)

/-- Why a module is not expanded. -/
inductive ExpansionFault where
  /-- The items of the module are in another file. -/
  | outline
  | marker (fault : MarkerFault)
deriving DecidableEq, Repr, Inhabited

def ExpansionFault.message : ExpansionFault → String
  | outline => "#[optbuilder::generate] requires an inline module body"
  | marker fault => fault.message

/-- A module with its builders, and what is to be said about them. -/
structure Expansion where
  head : ModuleHead
  items : List Item
  warnings : List String := []
  errors : List String := []
deriving Inhabited

namespace Expansion

/-! ## Building -/

/-- The items of a builder, or the wording of what is wrong with them. -/
def builderItems (settings : Settings) (builder : Builder) : Except String (List Item) := do
  let tokens ← (builder.render settings.cratePath).mapError RenderFault.message
  let file ← (Grammar.fileOfTokens? tokens).mapError Grammar.Failure.message
  return file.items

/-- Puts a builder in its module. -/
def place (settings : Settings) (expansion : Expansion) (builder : Builder) : Expansion :=
  let fails (message : String) := { expansion with errors := expansion.errors ++ [message] }
  match builderItems settings builder with
  | .error message => fails message
  | .ok added =>
      match Placement.add? expansion.head.name builder.package added expansion.items with
      | some items => { expansion with items }
      | none =>
          fails ("no inline module `" ++ builder.package ++ "` to place `" ++ builder.name ++ "` in")

/-- Adds what a round reports. -/
def report (expansion : Expansion) (diagnostic : Diagnostic) : Expansion :=
  if diagnostic.isError then { expansion with errors := expansion.errors ++ [diagnostic.message] }
  else { expansion with warnings := expansion.warnings ++ [diagnostic.message] }

/-- Expands a module of the given items. -/
def ofItems (settings : Settings) (head : ModuleHead) (items : List Item) :
    Except MarkerFault Expansion := do
  let reading ← Reading.ofItems head.name items
  let (reports, outcome) := Round.run settings reading.declarations
  let bare : Expansion := { head, items := Strip.items items }
  let reported := reports.foldl report bare
  match outcome with
  | .ok round => return round.builders.foldl (place settings) reported
  | .error _ => return reported

def ofModule (settings : Settings) : Item → Except ExpansionFault Expansion
  | .module head items => (ofItems settings head items).mapError .marker
  | _ => .error .outline

/-! ## Tokens -/

/-- The constant that makes the compiler repeat a warning. -/
def warningTokens (message : String) : List Token :=
  Token.phrase "const _ :" ++ [Token.parens []] ++ Token.op "=" ++
    [Token.braces
      (Token.attr [.word "deprecated",
          Token.parens (Token.phrase "note =" ++ [Token.quoted ("optbuilder: " ++ message)])]
        ++ Token.phrase "struct OptbuilderWarning ; let _ = OptbuilderWarning ;")]
    ++ Token.op ";"

/-- The error that the compiler reports. -/
def errorTokens (message : String) : List Token :=
  Token.phrase ":: core :: compile_error !" ++ [Token.braces [Token.quoted message]]

def tokens (expansion : Expansion) : List Token :=
  (Item.module expansion.head expansion.items).tokens
    ++ expansion.warnings.flatMap warningTokens
    ++ expansion.errors.flatMap errorTokens

end Expansion

end BuilderGen

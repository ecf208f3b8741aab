import BuilderGen.Model.Fault

/-!
# Diagnostics

What a round reports: an error that stems from a fault, or a warning, at a declaration or at one of its
parameters.
-/

namespace BuilderGen

/-- The place a diagnostic is about. -/
structure Site where
  package : String
  declaration : String
  parameter : Option String := none
deriving DecidableEq, Repr, Inhabited

/-- A place in source notation: `package::Declaration.parameter`. -/
def Site.display (site : Site) : String :=
  (if site.package = "" then "" else site.package ++ "::") ++ site.declaration
    ++ match site.parameter with
      | some parameter => "." ++ parameter
      | none => ""

/-- How grave a diagnostic is.  An error knows the family of its fault. -/
inductive Severity where
  | error (category : Fault.Category)
  | warning
deriving DecidableEq, Repr, Inhabited

/-- One reported problem. -/
structure Diagnostic where
  severity : Severity
  message : String
  site : Site
deriving DecidableEq, Repr, Inhabited

namespace Diagnostic

/-- The error that a fault at a declaration amounts to.  It points at the fault's parameter, if there is
one. -/
def ofFault (fault : Fault) (package declaration : String) : Diagnostic where
  severity := .error fault.category
  message := fault.message
  site := { package, declaration, parameter := fault.parameter? }

def ofWarning (message package declaration : String) : Diagnostic where
  severity := .warning
  message := message
  site := { package, declaration }

def isError (diagnostic : Diagnostic) : Bool :=
  match diagnostic.severity with
  | .error _ => true
  | .warning => false

/-- The word for the severity. -/
def label (diagnostic : Diagnostic) : String :=
  if diagnostic.isError then "error" else "warning"

/-- The line a user sees. -/
def display (diagnostic : Diagnostic) : String :=
  diagnostic.label ++ ": " ++ diagnostic.site.display ++ ": " ++ diagnostic.message

end Diagnostic

end BuilderGen

import BuilderGen.Command.Run

/-!
# The program

The program is called with the name of its one subcommand in front of the arguments.  It prints a line for
every report, or one for the fault that ended the run, and tells by its exit code how things went.
-/

namespace BuilderGen.Program

def subcommand : String := "optbuilder"

/-- What the arguments of the program ask for. -/
def arguments (texts : List String) : Except UsageFault Arguments :=
  match texts with
  | [] => .error .noInputs
  | first :: rest =>
      if first = subcommand then Arguments.ofTexts rest
      else if first = "help" then
        .error (if rest ∈ [[], [subcommand], ["help"]] then .helpRequested else .unknownArgument)
      else if first = "--help" ∨ "-h".toList.isPrefixOf first.toList then .error .helpRequested
      else .error .unknownArgument

/-- What the program leaves behind. -/
structure Result where
  exitCode : Nat
  lines : List String
  workspace : Workspace
deriving DecidableEq, Repr, Inhabited

/-- The exit code for arguments that do not start a run. -/
def usageCode : UsageFault → Nat
  | .helpRequested | .versionRequested => 0
  | _ => 2

def run (workspace : Workspace) (environment : List (String × String)) (texts : List String) :
    Result :=
  match arguments texts with
  | .error fault => { exitCode := usageCode fault, lines := [], workspace }
  | .ok arguments =>
      match Run.run workspace environment arguments with
      | (.error fault, workspace) =>
          { exitCode := 1, lines := ["error: " ++ fault.message], workspace }
      | (.ok outcome, workspace) =>
          { exitCode := if Round.hasErrors outcome.reports then 1 else 0
            lines := outcome.reports.map Diagnostic.display, workspace }

end BuilderGen.Program

import BuilderGen.Command.Program

/-!
# Entry point

Looks at the files that the arguments name, runs the program on them, and writes what has changed.
-/

namespace BuilderGen.Main

/-- The files among some paths, each with its text. -/
def filesAt (paths : List String) : IO (List (String × String)) := do
  let found ← paths.mapM fun (path : String) => do
    try
      return some (path, ← IO.FS.readFile path)
    catch _ =>
      return none
  return found.filterMap id

/-- The paths of the files that arguments name. -/
def pathsOf (arguments : Arguments) : List String :=
  arguments.directory :: arguments.config.getD Run.settingsFile :: arguments.inputs

/-- The variables that hold settings. -/
def settingVariables : IO (List (String × String)) := do
  let names := ["CRATE_PATH", "DUPLICATE_PROVIDERS", "PARALLEL", "PROVIDER_STRICTNESS"]
  let found ← names.mapM fun name => do
    let name := Environment.nameStart ++ name
    return (← IO.getEnv name).map fun value => (name, value)
  return found.filterMap id

end BuilderGen.Main

open BuilderGen

/-- Runs the program. -/
def main (texts : List String) : IO UInt32 := do
  let paths := match Program.arguments texts with
    | .ok arguments => Main.pathsOf arguments
    | .error _ => []
  let before := Workspace.ofFiles (← Main.filesAt paths.eraseDups)
  let result := Program.run before (← Main.settingVariables) texts
  for location in result.workspace.directories.reverse do
    IO.FS.createDirAll location.path
  for (location, text) in before.changes result.workspace do
    IO.FS.writeFile location.path text
  for line in result.lines do
    IO.eprintln line
  return result.exitCode.toUInt32

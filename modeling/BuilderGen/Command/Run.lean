import BuilderGen.Command.Arguments
import BuilderGen.Command.Environment
import BuilderGen.Command.Package
import BuilderGen.Command.Workspace
import BuilderGen.Round
import BuilderGen.Source.Reading

/-!
# A run of the command

A run loads the settings, reads the input files one after the other, runs a round over what they declare,
and writes an artefact for every builder.  Faults of declarations are reported; faults of files and of
settings end the run.  Artefacts written before that stay.
-/

namespace BuilderGen

/-- Why an input file is not understood. -/
inductive InputFault where
  | grammar (failure : Grammar.TextFailure)
  | marker (fault : MarkerFault)
deriving DecidableEq, Repr, Inhabited

def InputFault.message : InputFault → String
  | grammar failure => failure.message
  | marker fault => fault.message

/-- Why a run ends early. -/
inductive RunFault where
  /-- A layer of settings does not fit. -/
  | settings
  | noSettingsFile (path : String)
  | file (path : String) (fault : FileFault)
  | input (path : String) (fault : InputFault)
  /-- The name of an input file is no name of a package. -/
  | packageName (path : String)
  | render (builder : String) (fault : RenderFault)
deriving DecidableEq, Repr, Inhabited

def RunFault.message : RunFault → String
  | settings => "invalid configuration"
  | noSettingsFile path => "configuration file " ++ path ++ " not found"
  | file path fault => "I/O error at " ++ path ++ ": " ++ fault.message
  | input path fault => path ++ ": " ++ fault.message
  | packageName path => path ++ ": file stem is not a valid module name"
  | render builder fault => "cannot render " ++ builder ++ ": " ++ fault.message

/-- What a run achieved: the paths of the artefacts in the order of the builders, and the reports. -/
structure Outcome where
  written : List String := []
  reports : List Diagnostic := []
deriving DecidableEq, Repr, Inhabited

namespace Run

/-- The file that settings are read from unless another one is named. -/
def settingsFile : String := "optbuilder.toml"

/-- The text of the settings file.  Only a file that was named has to exist. -/
def settingsText (workspace : Workspace) : Option String → Except RunFault (Option String)
  | some path =>
      match workspace.fileAt? path with
      | some text => .ok (some text)
      | none => .error (.noSettingsFile path)
  | none => .ok (workspace.fileAt? settingsFile)

/-- Loads the settings of a run. -/
def settings (workspace : Workspace) (environment : List (String × String)) (arguments : Arguments) :
    Except RunFault Settings := do
  let text ← settingsText workspace arguments.config
  let file ←
    match text.map Toml.document? with
    | none => .ok []
    | some none => .error .settings
    | some (some entries) => .ok (Layer.ofToml entries)
  match Layer.settings? (file ++ Environment.layer environment ++ arguments.layer) with
  | some settings => return settings
  | none => throw .settings

/-- Reads an input file on top of what has been read. -/
def readInput (workspace : Workspace) (reading : Reading) (path : String) :
    Except RunFault Reading := do
  match packageOfFile? path, FilePath.fileName? path with
  | some package, some name =>
      let text ← (workspace.read path name).mapError (.file path)
      let file ← (Grammar.fileOfText? text).mapError fun failure => .input path (.grammar failure)
      (reading.extend package file.items).mapError fun fault => .input path (.marker fault)
  | _, _ => throw (.packageName path)

def readInputs (workspace : Workspace) (paths : List String) : Except RunFault Reading :=
  paths.foldlM (readInput workspace) {}

/-- Writes artefacts into a directory.  The path is the one by which the directory was named. -/
def writeBuilders (directory : Location) (path : String) (format : ArtefactFormat)
    (cratePath : String) : Workspace → List Builder → Except RunFault (List String) × Workspace
  | workspace, [] => (.ok [], workspace)
  | workspace, builder :: rest =>
      let name := builder.fileName format
      let target := FilePath.join path name
      match builder.contents format cratePath with
      | .error fault => (.error (.render builder.name fault), workspace)
      | .ok text =>
          match workspace.write directory name text with
          | .error fault => (.error (.file target fault), workspace)
          | .ok workspace =>
              let (written, workspace) := writeBuilders directory path format cratePath workspace rest
              (written.map (target :: ·), workspace)

/-- Runs the command, and answers with the workspace it leaves behind. -/
def run (workspace : Workspace) (environment : List (String × String)) (arguments : Arguments) :
    Except RunFault Outcome × Workspace :=
  let prepared : Except RunFault (Settings × Reading) := do
    let settings ← settings workspace environment arguments
    let reading ← readInputs workspace arguments.inputs
    return (settings, reading)
  match prepared with
  | .error fault => (.error fault, workspace)
  | .ok (settings, reading) =>
      let (reports, outcome) := Round.run settings reading.declarations
      let builders := match outcome with
        | .ok round => round.builders
        | .error _ => []
      match workspace.openDirectory arguments.directory with
      | .error fault => (.error (.file arguments.directory fault), workspace)
      | .ok (workspace, directory) =>
          let (written, workspace) := writeBuilders directory arguments.directory
            arguments.artefactFormat settings.cratePath workspace builders
          (written.map fun written => { written, reports }, workspace)

end Run

end BuilderGen

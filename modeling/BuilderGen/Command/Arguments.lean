import BuilderGen.Command.Artefact
import BuilderGen.Command.Layer

/-!
# Arguments of the command

The command takes input files, switches and options with a value.  The value of an option follows as the
next argument or behind an equals sign.  Behind a lone `--` everything is an input file.

A value that follows as an argument is looked at when the next argument has been understood.  So an
argument that cannot be understood is reported first.
-/

namespace BuilderGen

/-- Why arguments do not start a run. -/
inductive UsageFault where
  | helpRequested
  | versionRequested
  | noInputs
  | unknownArgument
  /-- An option or a switch is given twice. -/
  | repeated
  /-- A switch has a value. -/
  | superfluousValue
  /-- The value of an option is missing, or it is not among the possible ones. -/
  | badValue
  /-- The value of an option is no policy. -/
  | badPolicy
deriving DecidableEq, Repr, Inhabited

inductive ValueOption where
  | outDir
  | format
  | config
  | duplicates
  | cratePath
deriving DecidableEq, Repr, Inhabited

def ValueOption.name : ValueOption → String
  | outDir => "out-dir"
  | format => "format"
  | config => "config"
  | duplicates => "duplicate-providers"
  | cratePath => "crate-path"

def ValueOption.ofName? (name : String) : Option ValueOption :=
  [outDir, format, config, duplicates, cratePath].find? (·.name = name)

/-- What was asked for. -/
structure Arguments where
  inputs : List String := []
  outDir : Option String := none
  format : Option ArtefactFormat := none
  config : Option String := none
  duplicates : Option DuplicatePolicy := none
  cratePath : Option String := none
  strict : Bool := false
  sequential : Bool := false
deriving DecidableEq, Repr, Inhabited

namespace Arguments

/-- The directory for artefacts. -/
def directory (arguments : Arguments) : String :=
  arguments.outDir.getD "optbuilder-out"

def artefactFormat (arguments : Arguments) : ArtefactFormat :=
  arguments.format.getD .code

/-- Writes the settings that were given, each in its own way. -/
def overrides {α : Type} (text : String → α) (truth : Bool → α) (arguments : Arguments) :
    List (String × α) :=
  (if arguments.strict then [("provider_strictness", text Strictness.strict.keyword)] else [])
    ++ (match arguments.duplicates with
      | some policy => [("duplicate_providers", text policy.keyword)]
      | none => [])
    ++ (if arguments.sequential then [("parallel", truth false)] else [])
    ++ (match arguments.cratePath with
      | some path => [("crate_path", text path)]
      | none => [])

/-- The layer of the settings that were given. -/
def layer (arguments : Arguments) : Layer :=
  arguments.overrides .text .truth

/-! ## Reading -/

/-- Gives a slot a value, unless it has one. -/
def once {α : Type} (slot : Option α) (value : Except UsageFault α) : Except UsageFault (Option α) :=
  if slot.isSome then .error .repeated else value.map some

/-- Gives an option its value. -/
def setOption (arguments : Arguments) (option : ValueOption) (value : String) :
    Except UsageFault Arguments :=
  match option with
  | .outDir => return { arguments with outDir := ← once arguments.outDir (.ok value) }
  | .config => return { arguments with config := ← once arguments.config (.ok value) }
  | .cratePath => return { arguments with cratePath := ← once arguments.cratePath (.ok value) }
  | .format =>
      let format := (ArtefactFormat.ofKeyword? value).elim (.error .badValue) .ok
      return { arguments with format := ← once arguments.format format }
  | .duplicates =>
      let policy := (DuplicatePolicy.ofText? value).elim (.error .badPolicy) .ok
      return { arguments with duplicates := ← once arguments.duplicates policy }

/-- What is known between two arguments: what was asked for, and an option that has not been dealt with,
with its value once that has come. -/
structure Progress where
  arguments : Arguments := {}
  pending : Option (ValueOption × Option String) := none
deriving DecidableEq, Repr, Inhabited

/-- Deals with the pending option. -/
def Progress.settle (progress : Progress) : Except UsageFault Arguments :=
  match progress.pending with
  | none => .ok progress.arguments
  | some (_, none) => .error .badValue
  | some (option, some value) => progress.arguments.setOption option value

/-- Whether the next argument may be the value of an option. -/
def Progress.awaitsValue (progress : Progress) : Option ValueOption :=
  match progress.pending with
  | some (option, none) => some option
  | _ => none

/-- Splits the text behind two hyphens into a name and the value behind an equals sign. -/
def nameAndValue (text : List Char) : String × Option String :=
  let name := text.takeWhile (· ≠ '=')
  (String.ofList name, match text.drop name.length with
    | _ :: value => some (String.ofList value)
    | [] => none)

/-- Reads an argument that starts with two hyphens. -/
def longArgument (progress : Progress) (text : List Char) : Except UsageFault Progress :=
  let switch (use : Arguments → Except UsageFault Arguments) (value : Option String) :
      Except UsageFault Progress := do
    if value.isSome then
      throw .superfluousValue
    return { arguments := ← use (← progress.settle) }
  match nameAndValue text with
  | ("help", value) => switch (fun _ => .error .helpRequested) value
  | ("version", value) => switch (fun _ => .error .versionRequested) value
  | ("strict", value) =>
      switch (fun arguments =>
        if arguments.strict then .error .repeated else .ok { arguments with strict := true }) value
  | ("no-parallel", value) =>
      switch (fun arguments =>
        if arguments.sequential then .error .repeated
        else .ok { arguments with sequential := true }) value
  | (name, value) =>
      match ValueOption.ofName? name, value with
      | none, _ => .error .unknownArgument
      | some option, none => return { arguments := ← progress.settle, pending := some (option, none) }
      | some option, some value => return { arguments := ← (← progress.settle).setOption option value }

/-- Reads the letters behind a single hyphen. -/
def shortArgument (progress : Progress) (letter : Char) : Except UsageFault Progress := do
  if letter = 'h' then
    let _ ← progress.settle
    throw .helpRequested
  else if letter = 'V' then
    let _ ← progress.settle
    throw .versionRequested
  else
    throw .unknownArgument

/-- Reads an input file. -/
def input (progress : Progress) (path : String) : Except UsageFault Progress := do
  let arguments ← progress.settle
  return { arguments := { arguments with inputs := arguments.inputs ++ [path] } }

/-- Reads arguments.  The flag tells whether a lone `--` has been passed. -/
def readAll : Bool → Progress → List String → Except UsageFault Progress
  | _, progress, [] => .ok progress
  | true, progress, text :: rest => do readAll true (← input progress text) rest
  | false, progress, text :: rest =>
      match text.toList with
      | ['-', '-'] => readAll true progress rest
      | '-' :: '-' :: long => do readAll false (← longArgument progress long) rest
      | '-' :: letter :: _ => do readAll false (← shortArgument progress letter) rest
      | _ =>
          match progress.awaitsValue with
          | some option => readAll false { progress with pending := some (option, some text) } rest
          | none => do readAll false (← input progress text) rest

/-- Reads the arguments of the command. -/
def ofTexts (texts : List String) : Except UsageFault Arguments := do
  let arguments ← (← readAll false {} texts).settle
  if arguments.inputs.isEmpty then
    throw .noInputs
  return arguments

end Arguments

end BuilderGen

import BuilderGen.Command.FilePath

/-!
# Workspaces

The files that a run can see, as a map from locations to texts.  A location is given by names from a base
on: the working directory, a directory above it, or the root.  Directories exist when they were made or
when a file lies below them.
-/

namespace BuilderGen

/-- Where the names of a location start. -/
inductive Base where
  | working
  /-- The directory so many levels above the working directory. -/
  | above (levels : Nat)
  | root
deriving DecidableEq, Repr, Inhabited

/-- A place for a file or a directory. -/
structure Location where
  base : Base := .working
  names : List String := []
deriving DecidableEq, Repr, Inhabited

/-- Why a file or a directory cannot be used. -/
inductive FileFault where
  | missing
  | noDirectory
  | isDirectory
  | occupied
  | badName
deriving DecidableEq, Repr, Inhabited

def FileFault.message : FileFault → String
  | missing => "No such file or directory (os error 2)"
  | noDirectory => "Not a directory (os error 20)"
  | isDirectory => "Is a directory (os error 21)"
  | occupied => "File exists (os error 17)"
  | badName => "Invalid argument (os error 22)"

namespace Location

/-- The directory above. -/
def parent (location : Location) : Location :=
  match location.names, location.base with
  | _ :: _, _ => { location with names := location.names.dropLast }
  | [], .working => { base := .above 1 }
  | [], .above levels => { base := .above (levels + 1) }
  | [], .root => location

/-- The location that a piece of a path leads to. -/
def enter (location : Location) (piece : String) : Location :=
  if piece = "" ∨ piece = "." then location
  else if piece = ".." then location.parent
  else { location with names := location.names ++ [piece] }

/-- The location where a path starts. -/
def start (path : String) : Location :=
  { base := if FilePath.isRooted path then .root else .working }

def path (location : Location) : String :=
  match location.base with
  | .working => "/".intercalate location.names
  | .above levels => "/".intercalate (List.replicate levels ".." ++ location.names)
  | .root => "/" ++ "/".intercalate location.names

end Location

/-- Files by location, and the directories that were made. -/
structure Workspace where
  files : List (Location × String) := []
  directories : List Location := []
deriving DecidableEq, Repr, Inhabited

namespace Workspace

/-- The text of a file. -/
def file? (workspace : Workspace) (location : Location) : Option String :=
  workspace.files.lookup location

/-- Whether a location lies below another one. -/
def isBelow (location directory : Location) : Bool :=
  location.base = directory.base ∧ directory.names.isPrefixOf location.names
    ∧ directory.names.length < location.names.length

def isDirectory (workspace : Workspace) (location : Location) : Bool :=
  location.names.isEmpty
    || workspace.directories.any (fun made => made = location || isBelow made location)
    || workspace.files.any fun (file, _) => isBelow file location

/-- Why a location is no directory. -/
def directoryFault (workspace : Workspace) (location : Location) : FileFault :=
  if (workspace.file? location).isSome then .noDirectory else .missing

/-- Whether a name may be given to a new file or directory. -/
def isUsableName (name : String) : Bool :=
  !name.toList.contains (Char.ofNat 0) && name.utf8ByteSize ≤ 255

/-- Follows pieces of a path.  Every location that is left has to be a directory. -/
def follow (workspace : Workspace) (location : Location) : List String → Except FileFault Location
  | [] => .ok location
  | piece :: rest =>
      if workspace.isDirectory location then follow workspace (location.enter piece) rest
      else .error (workspace.directoryFault location)

/-- The location that a path leads to. -/
def locate (workspace : Workspace) (path : String) : Except FileFault Location :=
  if path = "" then .error .missing
  else workspace.follow (.start path) (FilePath.pieces path)

/-- The text of a file in a directory. -/
def readIn (workspace : Workspace) (directory : Location) (name : String) : Except FileFault String :=
  if !workspace.isDirectory directory then .error (workspace.directoryFault directory)
  else
    match workspace.file? (directory.enter name) with
    | some text => .ok text
    | none => .error (if workspace.isDirectory (directory.enter name) then .isDirectory else .missing)

/-- The text of the file that a path names.  Slashes and dots behind the name do not count. -/
def read (workspace : Workspace) (path name : String) : Except FileFault String := do
  let directory ← workspace.follow (.start path) (FilePath.directorySteps path)
  workspace.readIn directory name

/-- The text of the file that a path leads to, if there is one. -/
def fileAt? (workspace : Workspace) (path : String) : Option String :=
  match workspace.locate path with
  | .ok location => workspace.file? location
  | .error _ => none

/-- Makes a directory, unless it exists. -/
def makeDirectory (workspace : Workspace) (location : Location) : Except FileFault Workspace :=
  if workspace.isDirectory location then .ok workspace
  else if (workspace.file? location).isSome then .error .occupied
  else if !(location.names.getLast?.map isUsableName).getD true then .error .badName
  else .ok { workspace with directories := location :: workspace.directories }

/-- Makes the directories that pieces of a path lead to. -/
def makeAll (workspace : Workspace) (location : Location) :
    List String → Except FileFault (Workspace × Location)
  | [] => .ok (workspace, location)
  | piece :: rest => do
      if !workspace.isDirectory location then
        throw (workspace.directoryFault location)
      let next := location.enter piece
      match workspace.makeDirectory next with
      | .ok workspace => workspace.makeAll next rest
      | .error fault => throw (if rest.isEmpty then fault else .noDirectory)

/-- Makes the directory that a path leads to, with the directories above it. -/
def openDirectory (workspace : Workspace) (path : String) : Except FileFault (Workspace × Location) :=
  if path = "" then .error .missing
  else workspace.makeAll (.start path) (FilePath.pieces path)

/-- Gives a file in a directory its text. -/
def write (workspace : Workspace) (directory : Location) (name text : String) :
    Except FileFault Workspace :=
  let location := directory.enter name
  if workspace.isDirectory location then .error .isDirectory
  else if !isUsableName name then .error .badName
  else if (workspace.file? location).isSome then
    .ok { workspace with
      files := workspace.files.map fun (other, old) =>
        (other, if other = location then text else old) }
  else .ok { workspace with files := workspace.files ++ [(location, text)] }

/-- The workspace of files given by their paths from the working directory. -/
def ofFiles (files : List (String × String)) : Workspace where
  files := files.map fun (path, text) => ((FilePath.pieces path).foldl .enter (.start path), text)

/-- The files that are new or have another text than before. -/
def changes (before after : Workspace) : List (Location × String) :=
  after.files.filter fun (location, text) => before.file? location ≠ some text

end Workspace

end BuilderGen

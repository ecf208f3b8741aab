import BuilderGen.Command.FilePath
import BuilderGen.Grammar.Level
import BuilderGen.Text.SnakeCase

/-!
# Packages of files

The declarations of a file belong to the package named like the file: its name without the extension, in
snake case.
-/

namespace BuilderGen

/-- The package of the file at a path, if its name is an identifier. -/
def packageOfFile? (path : String) : Option String := do
  let package := Text.snakeCase (FilePath.stem (← FilePath.fileName? path))
  match Grammar.identOfText? package with
  | .ok _ => some package
  | .error _ => none

end BuilderGen

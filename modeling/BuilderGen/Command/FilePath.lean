import BuilderGen.Text.Character

/-!
# File paths

A path is a text of pieces with slashes between them.  Empty pieces and single dots stand for the place
reached so far, two dots for the directory above.
-/

namespace BuilderGen.FilePath

/-- Pieces of a path between the slashes. -/
def piecesList : List Char → List (List Char)
  | [] => [[]]
  | '/' :: rest => [] :: piecesList rest
  | c :: rest =>
      match piecesList rest with
      | [] => [[c]]
      | piece :: pieces => (c :: piece) :: pieces

/-- Pieces of a path between the slashes. -/
def pieces (path : String) : List String :=
  (piecesList path.toList).map String.ofList

/-- Whether a path starts at the root. -/
def isRooted (path : String) : Bool :=
  path.toList.head? == some '/'

/-- The pieces that lead somewhere. -/
def steps (path : String) : List String :=
  (pieces path).filter fun piece => piece ≠ "" ∧ piece ≠ "."

/-- The name of the file at a path.  A path that ends in two dots has none. -/
def fileName? (path : String) : Option String :=
  (steps path).getLast?.filter (· ≠ "..")

/-- The steps to the directory of a path. -/
def directorySteps (path : String) : List String :=
  (steps path).dropLast

/-- A file name without its extension.  A dot at the start begins no extension. -/
def stem (name : String) : String :=
  let chars := name.toList.reverse
  match (chars.dropWhile (· ≠ '.')).drop 1 with
  | [] => name
  | front => String.ofList front.reverse

/-- The path of a file in a directory. -/
def join (directory name : String) : String :=
  if directory = "" ∨ directory.toList.getLast? = some '/' then directory ++ name
  else directory ++ "/" ++ name

end BuilderGen.FilePath

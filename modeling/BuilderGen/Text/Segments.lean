import BuilderGen.Text.Character

/-!
# Paths as text

Module paths and references are texts whose segments are joined by `::`.  This module splits and joins
such texts.  `split` reads separators from the left; `last` reads from the right, which differs from the
last piece of `split` when three colons stand in a row.
-/

namespace BuilderGen.Segments

/-- Pieces of a text between the separators `::`, read from the left. -/
def splitList : List Char → List (List Char)
  | [] => [[]]
  | ':' :: ':' :: rest => [] :: splitList rest
  | c :: rest =>
      match splitList rest with
      | [] => [[c]]
      | piece :: pieces => (c :: piece) :: pieces

/-- Pieces of a text between the separators `::`, read from the left. -/
def split (text : String) : List String :=
  (splitList text.toList).map String.ofList

/-- Joins segments with `::`. -/
def join (segments : List String) : String :=
  "::".intercalate segments

/-- Characters before the first `::`, and the characters after it when there is one. -/
def cutList : List Char → List Char × Option (List Char)
  | [] => ([], none)
  | ':' :: ':' :: rest => ([], some rest)
  | c :: rest => (c :: (cutList rest).1, (cutList rest).2)

/-- The text before the first `::`, and the text after it when there is one. -/
def cut (text : String) : String × Option String :=
  let (head, tail) := cutList text.toList
  (String.ofList head, tail.map String.ofList)

/-- The text after the last `::`, or the whole text. -/
def last (text : String) : String :=
  String.ofList (cutList text.toList.reverse).1.reverse

/-- Whether a text has a separator. -/
def qualified (text : String) : Bool :=
  (cut text).2.isSome

/-- Drops the separators a text starts with. -/
def dropLeadingList : List Char → List Char
  | ':' :: ':' :: rest => dropLeadingList rest
  | chars => chars

/-- Drops the separators a text starts with. -/
def dropLeading (text : String) : String :=
  String.ofList (dropLeadingList text.toList)

/-- The reference a user means: blanks at the ends and leading separators do not count. -/
def bare (text : String) : String :=
  dropLeading (Text.trim text)

/-- Segments of a module path.  Empty segments do not count. -/
def ofPackage (package : String) : List String :=
  (split package).filter (· ≠ "")

/-- The qualified name of a declaration: its name behind the module path, if there is one. -/
def qualify (package name : String) : String :=
  if package = "" then name else package ++ "::" ++ name

end BuilderGen.Segments

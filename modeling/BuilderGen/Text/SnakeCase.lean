import BuilderGen.Text.Character

/-!
# Snake case

The words of a name in lower case, joined by underscores.  Words end at characters that are neither
letters nor digits, between a small and a capital letter, and in front of the last of several capitals
when a small letter follows it.
-/

namespace BuilderGen.Text

/-- Maximal runs of characters with a property. -/
def runs (property : Char → Bool) : List Char → List (List Char)
  | [] => []
  | c :: rest =>
      if property c then
        match rest, runs property rest with
        | next :: _, run :: more => if property next then (c :: run) :: more else [c] :: run :: more
        | _, more => [c] :: more
      else
        runs property rest

namespace SnakeCase

/-- The case that a word is in.  Digits and other letters keep it. -/
inductive Mode where
  | undecided
  | small
  | capital
deriving DecidableEq, Repr, Inhabited

/-- The case of a word behind one more character. -/
def Mode.next (mode : Mode) (c : Char) : Mode :=
  if isLowercase c then .small else if isUppercase c then .capital else mode

/-- Puts a character in front of the first word. -/
def extend (c : Char) : List (List Char) → List (List Char)
  | [] => [[c]]
  | word :: words => (c :: word) :: words

/-- The words of a run of letters and digits, given the case of the word that is under way.  A word
that has just begun is undecided. -/
def words (mode : Mode) : List Char → List (List Char)
  | [] => []
  | [c] => [[c]]
  | c :: next :: rest =>
      if mode.next c = .small ∧ isUppercase next then
        [c] :: words .undecided (next :: rest)
      else if mode = .capital ∧ isUppercase c ∧ isLowercase next then
        [] :: extend c (words .undecided (next :: rest))
      else
        extend c (words (mode.next c) (next :: rest))

/-- A word in lower case.  A capital sigma at the end becomes the final form. -/
def lower : List Char → List Char
  | [] => []
  | [c] => if c = 'Σ' then ['ς'] else lowerForm c
  | c :: rest => lowerForm c ++ lower rest

end SnakeCase

def snakeCase (name : String) : String :=
  let pieces := runs isAlphanumeric name.toList
  let words := pieces.flatMap (SnakeCase.words .undecided)
  "_".intercalate (words.map fun word => String.ofList (SnakeCase.lower word))

end BuilderGen.Text

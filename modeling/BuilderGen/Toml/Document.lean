import BuilderGen.Toml.Scalar
import BuilderGen.Toml.Text

/-!
# Reading TOML documents

A document is a sequence of lines.  A line is empty, opens a table by its header, or gives a key of the
table opened last a value.
-/

namespace BuilderGen.Toml

/-! ## Values -/

/-- Reads at most `fuel` items of an array, behind the opening bracket or a comma. -/
def items? (read : Reader Value) : Nat → Reader (List Value)
  | 0, _ => none
  | fuel + 1, chars =>
      match skipLines false chars with
      | ']' :: rest => some ([], rest)
      | chars => do
          let (item, rest) ← read chars
          match skipLines false rest with
          | ',' :: rest =>
              let (items, rest) ← items? read fuel rest
              return (item :: items, rest)
          | ']' :: rest => return ([item], rest)
          | _ => none

/-- Reads at most `fuel` pairs of keys and values between braces, behind the opening brace or a comma. -/
def pairs? (read : Reader Value) : Nat → Reader (List (List String × String × Value))
  | 0, _ => none
  | fuel + 1, chars => do
      let ((path, key), rest) ← path? chars
      let (value, rest) ← read (skipGap (← Scalar.mark? '=' rest))
      match skipGap rest with
      | ',' :: rest =>
          let (pairs, rest) ← pairs? read fuel rest
          return ((path, key, value) :: pairs, rest)
      | '\x7d' :: rest => return ([(path, key, value)], rest)
      | _ => none

/-- Reads a value with at most so many levels of nesting. -/
def value? : Nat → Reader Value
  | depth, chars =>
      match chars with
      | [] => none
      | c :: rest =>
          if c = '"' ∨ c = '\'' then
            (text? chars).map fun (text, rest) => (.text text, rest)
          else if c = '[' then
            match depth with
            | 0 => none
            | depth + 1 =>
                (items? (value? depth) (rest.length + 1) rest).map fun (items, rest) =>
                  (.array items, rest)
          else if c = '\x7b' then
            match depth with
            | 0 => none
            | depth + 1 =>
                match skipGap rest with
                | '\x7d' :: rest => some (.table .inline [], rest)
                | rest => do
                    let (pairs, rest) ← pairs? (value? depth) (rest.length + 1) rest
                    return (.table .inline (← Entries.ofPairs? [] pairs), rest)
          else do
            let word := Scalar.word chars
            return (← Scalar.ofWord? word, chars.drop word.length)

/-- The most levels of nesting of a value. -/
def depthLimit : Nat := 79

/-! ## Lines -/

/-- Drops what is left of a line: blanks, a comment and the end. -/
def restOfLine? (chars : List Char) : Option (List Char) :=
  let chars := skipGap chars
  let rest := match chars with
    | '#' :: comment => comment.dropWhile isLineChar
    | chars => chars
  if rest.isEmpty then some [] else lineEnd? rest

/-- What has been read of a document: its entries, and the keys of the table opened last. -/
structure Progress where
  entries : Entries := []
  path : List String := []
deriving Inhabited

/-- Reads a line that is not empty. -/
def line (progress : Progress) : Reader Progress
  | '[' :: '[' :: rest => do
      let ((path, key), rest) ← path? rest
      let rest ← Scalar.mark? ']' (← Scalar.mark? ']' rest)
      let entries ← progress.entries.openNext? path key
      return ({ entries, path := path ++ [key] }, rest)
  | '[' :: rest => do
      let ((path, key), rest) ← path? rest
      let rest ← Scalar.mark? ']' rest
      let entries ← progress.entries.openTable? path key
      return ({ entries, path := path ++ [key] }, rest)
  | chars => do
      let ((path, key), rest) ← path? chars
      let (value, rest) ← value? depthLimit (skipGap (← Scalar.mark? '=' rest))
      let entries ← Entries.changeAt? .implied
        (fun _ entries => entries.insert? path key value) progress.path .header progress.entries
      return ({ progress with entries }, rest)

/-- Reads at most `fuel` lines. -/
def linesUpTo? : Nat → Progress → List Char → Option Entries
  | 0, _, _ => none
  | fuel + 1, progress, chars =>
      match skipGap chars with
      | [] => some progress.entries
      | chars =>
          match restOfLine? chars with
          | some rest => linesUpTo? fuel progress rest
          | none => do
              let (progress, rest) ← line progress chars
              linesUpTo? fuel progress (← restOfLine? rest)

def document? (text : String) : Option Entries :=
  let chars := match text.toList with
    | '\ufeff' :: rest => rest
    | chars => chars
  linesUpTo? (chars.length + 1) {} chars

end BuilderGen.Toml

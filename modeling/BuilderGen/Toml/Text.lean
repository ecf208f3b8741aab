import BuilderGen.Text.Character

/-!
# TOML texts and keys

Texts stand in double quotes, with escapes, or in single quotes, without.  Three quotes open a text over
several lines.  A key is a text on one line or a bare word; dots join keys.
-/

namespace BuilderGen.Toml

/-- Reads a value from the front of a text and leaves the rest. -/
abbrev Reader (α : Type) := List Char → Option (α × List Char)

/-- Blanks inside of a line. -/
def isGap (c : Char) : Bool :=
  c == ' ' || c == '\t'

/-- Characters inside of a line. -/
def isLineChar (c : Char) : Bool :=
  c == '\t' || (0x20 ≤ c.toNat && c.toNat ≠ 0x7f)

/-- Drops the blanks inside of a line. -/
def skipGap (chars : List Char) : List Char :=
  chars.dropWhile isGap

/-- Drops the end of a line. -/
def lineEnd? : List Char → Option (List Char)
  | '\n' :: rest => some rest
  | '\r' :: '\n' :: rest => some rest
  | _ => none

/-- Drops blanks and ends of lines. -/
def skipBlank : List Char → List Char
  | '\r' :: '\n' :: rest => skipBlank rest
  | c :: rest => if isGap c || c == '\n' then skipBlank rest else c :: rest
  | [] => []

/-- Drops blanks, ends of lines and comments.  The flag tells whether a comment is under way. -/
def skipLines : Bool → List Char → List Char
  | _, '\r' :: '\n' :: rest => skipLines false rest
  | comment, c :: rest =>
      if c = '\n' then skipLines false rest
      else if comment then if isLineChar c then skipLines true rest else c :: rest
      else if isGap c then skipLines false rest
      else if c = '#' then skipLines true rest
      else c :: rest
  | _, [] => []

/-! ## Escapes -/

/-- The value of so many hexadecimal digits. -/
def hex? : Nat → Nat → Reader Nat
  | 0, value, rest => some (value, rest)
  | count + 1, value, c :: rest => do hex? count (value * 16 + (← Text.hexValue? c)) rest
  | _ + 1, _, [] => none

/-- The character of a code point given by so many digits. -/
def codePoint? (digits : Nat) : Reader Char := fun chars => do
  let (value, rest) ← hex? digits 0 chars
  if value.isValidChar then some (Char.ofNat value, rest) else none

/-- Reads an escape behind its backslash. -/
def escape? : Reader Char
  | 'b' :: rest => some (Char.ofNat 8, rest)
  | 't' :: rest => some ('\t', rest)
  | 'n' :: rest => some ('\n', rest)
  | 'f' :: rest => some (Char.ofNat 12, rest)
  | 'r' :: rest => some ('\r', rest)
  | '"' :: rest => some ('"', rest)
  | '\\' :: rest => some ('\\', rest)
  | 'u' :: rest => codePoint? 4 rest
  | 'U' :: rest => codePoint? 8 rest
  | _ => none

/-! ## Texts -/

/-- Puts a character in front of what is read. -/
def before (c : Char) (read : Option (List Char × List Char)) : Option (List Char × List Char) :=
  read.map fun (value, rest) => (c :: value, rest)

/-- Reads at most `fuel` characters of a text on one line, behind its opening quote. -/
def line? (quote : Char) : Nat → Reader (List Char)
  | 0, _ | _ + 1, [] => none
  | fuel + 1, c :: rest =>
      if c = quote then some ([], rest)
      else if c = '\\' ∧ quote = '"' then
        match escape? rest with
        | some (c, rest) => before c (line? quote fuel rest)
        | none => none
      else if isLineChar c then before c (line? quote fuel rest)
      else none

/-- Reads at most `fuel` characters of a text over several lines, behind its opening quotes.  Up to two
quotes in front of the closing ones belong to the text.  A backslash at the end of a line joins the text
to what follows the blanks. -/
def lines? (quote : Char) : Nat → Reader (List Char)
  | 0, _ | _ + 1, [] => none
  | fuel + 1, c :: rest =>
      let further := (rest.takeWhile (· == quote)).length
      if c = quote ∧ 2 ≤ further then
        let inside := min (further - 2) 2
        some (List.replicate inside quote, rest.drop (inside + 2))
      else if c = '\\' ∧ quote = '"' then
        match lineEnd? (skipGap rest) with
        | some rest => lines? quote fuel (skipBlank rest)
        | none =>
            match escape? rest with
            | some (c, rest) => before c (lines? quote fuel rest)
            | none => none
      else
        match lineEnd? (c :: rest) with
        | some rest => before '\n' (lines? quote fuel rest)
        | none => if isLineChar c then before c (lines? quote fuel rest) else none

/-- Reads a text on one line, behind its opening quote. -/
def lineText? (quote : Char) : Reader String := fun rest =>
  (line? quote (rest.length + 1) rest).map fun (value, rest) => (String.ofList value, rest)

def text? : Reader String
  | quote :: rest =>
      if quote ≠ '"' ∧ quote ≠ '\'' then none
      else if [quote, quote].isPrefixOf rest then
        let content := rest.drop 2
        let content := (lineEnd? content).getD content
        (lines? quote (content.length + 1) content).map fun (value, rest) =>
          (String.ofList value, rest)
      else
        lineText? quote rest
  | [] => none

/-! ## Keys -/

/-- Characters of a bare key. -/
def isBare (c : Char) : Bool :=
  Text.isDigit c || ('a' ≤ c && c ≤ 'z') || ('A' ≤ c && c ≤ 'Z') || c == '_' || c == '-'

/-- Reads a key without dots. -/
def key? : Reader String
  | [] => none
  | c :: rest =>
      if c = '"' ∨ c = '\'' then lineText? c rest
      else if isBare c then
        let tail := rest.takeWhile isBare
        some (String.ofList (c :: tail), rest.drop tail.length)
      else
        none

/-- The most keys that dots may join. -/
def keyLimit : Nat := 79

/-- Reads at most `fuel` keys with dots between them: those before the last, and the last. -/
def pathUpTo? : Nat → Reader (List String × String)
  | 0, _ => none
  | fuel + 1, chars => do
      let (key, rest) ← key? (skipGap chars)
      match skipGap rest with
      | '.' :: rest =>
          let ((path, last), rest) ← pathUpTo? fuel rest
          return ((key :: path, last), rest)
      | rest => return (([], key), rest)

/-- Reads keys with dots between them. -/
def path? : Reader (List String × String) :=
  pathUpTo? keyLimit

end BuilderGen.Toml

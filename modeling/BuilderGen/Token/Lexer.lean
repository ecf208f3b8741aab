import BuilderGen.Token.Basic

/-!
# Reading tokens

Cuts a text into tokens.  Every reader of a lexeme answers with the number of characters it takes, so the
lexeme and the rest are always two parts of the same text.  Blanks and comments vanish; a documentation
comment becomes an attribute with its text.
-/

namespace BuilderGen.Lexer

/-! ## Blanks and comments -/

/-- Whether a text starts with another. -/
def startsWith (start : String) (chars : List Char) : Bool :=
  start.toList.isPrefixOf chars

/-- Blanks between tokens: white space and the two marks of writing direction. -/
def isBlank (c : Char) : Bool :=
  Text.isBlank c || c.toNat == 0x200e || c.toNat == 0x200f

/-- The length of a line up to its end, which is not included. -/
def lineLength : List Char → Nat
  | [] => 0
  | '\n' :: _ => 0
  | '\r' :: '\n' :: _ => 0
  | _ :: rest => lineLength rest + 1

/-- The length of a block comment.  Block comments nest. -/
def blockLength : Nat → List Char → Option Nat
  | depth, '/' :: '*' :: rest => (blockLength (depth + 1) rest).map (· + 2)
  | depth, '*' :: '/' :: rest =>
      if depth ≤ 1 then some 2 else (blockLength (depth - 1) rest).map (· + 2)
  | depth, _ :: rest => (blockLength depth rest).map (· + 1)
  | _, [] => none

/-- The length of the blank or the plain comment at the start of a text. -/
def blankLength? (chars : List Char) : Option Nat :=
  if startsWith "//" chars && (!startsWith "///" chars || startsWith "////" chars)
      && !startsWith "//!" chars then
    some (lineLength chars)
  else if startsWith "/**/" chars then
    some 4
  else if startsWith "/*" chars && (!startsWith "/**" chars || startsWith "/***" chars)
      && !startsWith "/*!" chars then
    blockLength 0 chars
  else
    match chars with
    | c :: _ => if isBlank c then some 1 else none
    | [] => none

/-- Drops blanks and plain comments, at most `fuel` of them. -/
def skipBlanks : Nat → List Char → List Char
  | 0, chars => chars
  | fuel + 1, chars =>
      match blankLength? chars with
      | some length => skipBlanks fuel (chars.drop length)
      | none => chars

/-- Whether every carriage return is followed by a line feed. -/
def regularLines : List Char → Bool
  | [] => true
  | '\r' :: '\n' :: rest => regularLines rest
  | '\r' :: _ => false
  | _ :: rest => regularLines rest

/-- A documentation comment: its length, its text, and whether it documents what surrounds it. -/
def documentation? (chars : List Char) : Option (Nat × List Char × Bool) := do
  let (length, text, inner) ←
    if startsWith "//!" chars then
      let length := lineLength (chars.drop 3)
      some (length + 3, (chars.drop 3).take length, true)
    else if startsWith "/*!" chars then
      (blockLength 0 chars).map fun length => (length, (chars.drop 3).take (length - 5), true)
    else if startsWith "///" chars && !startsWith "////" chars then
      let length := lineLength (chars.drop 3)
      some (length + 3, (chars.drop 3).take length, false)
    else if startsWith "/**" chars && !startsWith "/***" chars then
      (blockLength 0 chars).map fun length => (length, (chars.drop 3).take (length - 5), false)
    else
      none
  if regularLines text then some (length, text, inner) else none

/-- The attribute that a documentation comment stands for. -/
def documentationTokens (text : List Char) (inner : Bool) : List Token :=
  [Token.mark '#' false] ++ (if inner then [Token.mark '!' false] else [])
    ++ [Token.brackets [.word "doc", .mark '=' false, .quoted (String.ofList text)]]

/-! ## Identifiers -/

/-- The length of the identifier at the start of a text, zero if there is none. -/
def wordLength : List Char → Nat
  | c :: rest =>
      if Text.isIdentStart c then (rest.takeWhile Text.isIdentContinue).length + 1 else 0
  | [] => 0

/-- The names that stay keywords behind `r#`. -/
def neverRaw : List String := ["_", "super", "self", "Self", "crate"]

/-- The length of an identifier, also of one behind `r#`. -/
def identLength? (chars : List Char) : Option Nat :=
  if startsWith "r#" chars then
    let length := wordLength (chars.drop 2)
    if length = 0 ∨ String.ofList ((chars.drop 2).take length) ∈ neverRaw then none
    else some (length + 2)
  else
    let length := wordLength chars
    if length = 0 then none else some length

/-- The starts of literals, which are never identifiers. -/
def literalStarts : List String :=
  ["r\"", "r#\"", "r##", "b\"", "b'", "br\"", "br#", "c\"", "cr\"", "cr#"]

/-- The length of an identifier that is not the start of a literal. -/
def nameLength? (chars : List Char) : Option Nat :=
  if literalStarts.any (startsWith · chars) then none else identLength? chars

/-! ## Quoted literals -/

/-- What a quoted literal consists of. -/
inductive Alphabet where
  | text
  | bytes
  | terminated
deriving DecidableEq, Repr

/-- The place inside a quoted literal. -/
inductive Place where
  | plain
  /-- Behind a backslash. -/
  | escape
  /-- Before the first digit of a two-digit escape. -/
  | firstDigit
  /-- Before the second digit; whether the first one was zero. -/
  | secondDigit (zero : Bool)
  /-- Before the brace of a code point. -/
  | codePoint
  /-- Inside the braces of a code point, with its value so far and the number of digits. -/
  | digits (value count : Nat)
  /-- Behind a carriage return. -/
  | carriage
  /-- In the blanks behind a line that ends in a backslash. -/
  | gap
  /-- Behind a carriage return in such blanks. -/
  | gapCarriage
deriving DecidableEq, Repr

/-- The next place behind a character that does not end the literal. -/
def advance (alphabet : Alphabet) : Place → Char → Option Place
  | .plain, c | .gap, c =>
      if c = '\\' then some .escape
      else if c = '\r' then some .carriage
      else if alphabet = .bytes ∧ 128 ≤ c.toNat then none
      else if alphabet = .terminated ∧ c.toNat = 0 then none
      else some .plain
  | .carriage, c => if c = '\n' then some .plain else none
  | .escape, c =>
      if c = 'x' then some .firstDigit
      else if c ∈ ['n', 'r', 't', '\\', '\'', '"'] then some .plain
      else if c = '0' then (if alphabet = .terminated then none else some .plain)
      else if c = 'u' then (if alphabet = .bytes then none else some .codePoint)
      else if c = '\n' then some .gap
      else if c = '\r' then some .gapCarriage
      else none
  | .firstDigit, c => do
      let value ← Text.hexValue? c
      if alphabet = .text ∧ 8 ≤ value then none else some (.secondDigit (value = 0))
  | .secondDigit zero, c => do
      let value ← Text.hexValue? c
      if alphabet = .terminated ∧ zero ∧ value = 0 then none else some .plain
  | .codePoint, c => if c = '\x7b' then some (.digits 0 0) else none
  | .digits value count, c =>
      match Text.hexValue? c with
      | some digit => if count = 6 then none else some (.digits (value * 16 + digit) (count + 1))
      | none =>
          if count = 0 then none
          else if c = '_' then some (.digits value count)
          else if c = '\x7d' ∧ value.isValidChar ∧ ¬ (alphabet = .terminated ∧ value = 0) then some .plain
          else none
  | .gapCarriage, c => if c = '\n' then some .gap else none

/-- The place behind a blank of a gap, or behind any other character. -/
def advanceOver (alphabet : Alphabet) (place : Place) (c : Char) : Option Place :=
  if place = .gap then
    if c = ' ' ∨ c = '\t' ∨ c = '\n' then some .gap
    else if c = '\r' then some .gapCarriage
    else advance alphabet .plain c
  else
    advance alphabet place c

/-- The length of a quoted literal behind its opening quote, up to and with the closing quote. -/
def cookedLength (alphabet : Alphabet) : Place → List Char → Option Nat
  | _, [] => none
  | place, c :: rest =>
      if c = '"' ∧ (place = .plain ∨ place = .gap) then some 1
      else do
        let next ← advanceOver alphabet place c
        let length ← cookedLength alphabet next rest
        return length + 1

/-- The length of an escape behind its backslash. -/
def escapeLength (alphabet : Alphabet) : Place → List Char → Option Nat
  | _, [] => none
  | place, c :: rest => do
      match ← advance alphabet place c with
      | .plain => some 1
      | .gap | .gapCarriage => none
      | next =>
          let length ← escapeLength alphabet next rest
          return length + 1

/-- The length of the rest of a raw literal that ends with a quote and the given fence. -/
def fencedLength (alphabet : Alphabet) (fence : List Char) : List Char → Option Nat
  | [] => none
  | '"' :: rest =>
      if fence.isPrefixOf rest then some (fence.length + 1)
      else (fencedLength alphabet fence rest).map (· + 1)
  | '\r' :: '\n' :: rest => (fencedLength alphabet fence rest).map (· + 2)
  | c :: rest =>
      if c = '\r' ∨ (alphabet = .bytes ∧ 128 ≤ c.toNat) ∨ (alphabet = .terminated ∧ c.toNat = 0) then none
      else (fencedLength alphabet fence rest).map (· + 1)

/-- The length of a raw literal behind its letters: a fence, a quote, the content, a quote, the fence. -/
def rawLength (alphabet : Alphabet) (chars : List Char) : Option Nat :=
  let fence := chars.takeWhile (· == '#')
  match chars.drop fence.length with
  | '"' :: rest =>
      if 255 < fence.length then none
      else (fencedLength alphabet fence rest).map (· + (fence.length + 1))
  | _ => none

/-- The length of a character behind its opening quote, up to and with the closing quote. -/
def singleLength (alphabet : Alphabet) (chars : List Char) : Option Nat := do
  let length ←
    match chars with
    | '\\' :: rest => (escapeLength alphabet .escape rest).map (· + 1)
    | c :: _ => if alphabet = .bytes ∧ 128 ≤ c.toNat then none else some 1
    | [] => none
  match chars.drop length with
  | '\'' :: _ => some (length + 1)
  | _ => none

/-- The length of a literal in quotes, without its suffix. -/
def quotedLength? (chars : List Char) : Option Nat :=
  let behind (start : String) (length : List Char → Option Nat) : Option Nat :=
    if startsWith start chars then
      (length (chars.drop start.length)).map (· + start.length)
    else
      none
  (behind "\"" (cookedLength .text .plain))
    <|> behind "r" (rawLength .text)
    <|> behind "b\"" (cookedLength .bytes .plain)
    <|> behind "br" (rawLength .bytes)
    <|> behind "c\"" (cookedLength .terminated .plain)
    <|> behind "cr" (rawLength .terminated)
    <|> behind "b'" (singleLength .bytes)
    <|> behind "'" (singleLength .text)

/-! ## Numbers -/

/-- Adds to the length of a result. -/
def longer (count : Nat) : Nat × Bool × Bool → Nat × Bool × Bool
  | (length, rest) => (length + count, rest)

/-- The length of digits with at most one point, up to and with an exponent mark; whether there is a
point, and whether there is an exponent mark. -/
def mantissaLength (point : Bool) : List Char → Option (Nat × Bool × Bool)
  | [] => some (0, point, false)
  | c :: rest =>
      if Text.isDigit c ∨ c = '_' then (mantissaLength point rest).map (longer 1)
      else if c = '.' then
        if point then some (0, point, false)
        else
          match rest with
          | next :: _ =>
              if next = '.' ∨ Text.isIdentStart next then none
              else (mantissaLength true rest).map (longer 1)
          | [] => some (1, true, false)
      else if c = 'e' ∨ c = 'E' then some (1, point, true)
      else some (0, point, false)

/-- The length of the digits of an exponent, which may have a sign in front. -/
def exponentLength (signed valued : Bool) : List Char → Option Nat
  | [] => if valued then some 0 else none
  | c :: rest =>
      if c = '+' ∨ c = '-' then
        if valued then some 0
        else if signed then none
        else (exponentLength true valued rest).map (· + 1)
      else if Text.isDigit c then (exponentLength signed true rest).map (· + 1)
      else if c = '_' then (exponentLength signed valued rest).map (· + 1)
      else if valued then some 0 else none

/-- The length of a number with a point or an exponent, without its suffix. -/
def floatLength? (chars : List Char) : Option Nat := do
  if (chars.head?.map Text.isDigit) != some true then none
  let (length, point, exponent) ← mantissaLength false chars
  if exponent then
    match exponentLength false false (chars.drop length) with
    | some more => some (length + more)
    | none => if point then some (length - 1) else none
  else if point then some length
  else none

/-- The length of digits of a base, and whether there are digits other than underscores. -/
def digitsLength (base : Nat) (empty : Bool) : List Char → Option (Nat × Bool)
  | [] => some (0, empty)
  | c :: rest =>
      if c = '_' then
        if empty ∧ base = 10 then none
        else (digitsLength base empty rest).map fun (length, empty) => (length + 1, empty)
      else
        match Text.hexValue? c with
        | some value =>
            if value < base then
              (digitsLength base false rest).map fun (length, empty) => (length + 1, empty)
            else if Text.isDigit c then none
            else some (0, empty)
        | none => some (0, empty)

/-- The length of a whole number, without its suffix. -/
def integerLength? (chars : List Char) : Option Nat := do
  let (base, start) :=
    if startsWith "0x" chars then (16, 2)
    else if startsWith "0o" chars then (8, 2)
    else if startsWith "0b" chars then (2, 2)
    else (10, 0)
  let (length, empty) ← digitsLength base true (chars.drop start)
  if empty then none else some (length + start)

/-- Adds the suffix of a number.  What follows must not continue an identifier. -/
def numberLength? (chars : List Char) (length : Nat) : Option Nat :=
  let total := length + wordLength (chars.drop length)
  match chars.drop total with
  | c :: _ => if Text.isIdentContinue c then none else some total
  | [] => some total

/-- The text that stands for a place where a program could not be read. -/
def errorMark : String := "(/*ERROR*/)"

/-- The length of a literal with its suffix. -/
def literalLength? (chars : List Char) : Option Nat :=
  (quotedLength? chars).map (fun length => length + wordLength (chars.drop length))
    <|> ((floatLength? chars).bind (numberLength? chars))
    <|> ((integerLength? chars).bind (numberLength? chars))

/-! ## Marks -/

/-- The punctuation characters. -/
def marks : List Char := "~!@#$%^&*-=+|;:,<.>/?'".toList

/-- Whether a text starts with a mark.  The slash of a comment is none. -/
def startsWithMark (chars : List Char) : Bool :=
  match chars with
  | c :: _ => c ∈ marks && !startsWith "//" chars && !startsWith "/*" chars
  | [] => false

/-- The mark at the start of a text.  A quote is a mark only in front of the name of a lifetime. -/
def mark? (chars : List Char) : Option Token :=
  if startsWithMark chars then
    match chars with
    | '\'' :: rest => do
        let length ← identLength? rest
        match rest.drop length with
        | '\'' :: _ => none
        | '#' :: _ => if startsWith "r#" rest then some (.mark '\'' true) else none
        | _ => some (.mark '\'' true)
    | c :: rest => some (.mark c (startsWithMark rest))
    | [] => none
  else
    none

/-! ## Texts -/

/-- A part of a text. -/
inductive Lexeme where
  | blank
  | tokens (tokens : List Token)
  | opening (delimiter : Delimiter)
  | closing (delimiter : Delimiter)
deriving Repr

def bracket? : Char → Option Lexeme
  | '(' => some (.opening .parenthesis)
  | '[' => some (.opening .bracket)
  | '\x7b' => some (.opening .brace)
  | ')' => some (.closing .parenthesis)
  | ']' => some (.closing .bracket)
  | '\x7d' => some (.closing .brace)
  | _ => none

/-- The part at the start of a text, with its length. -/
def lexeme? (chars : List Char) : Option (Lexeme × Nat) :=
  match blankLength? chars with
  | some length => some (.blank, length)
  | none =>
      match documentation? chars with
      | some (length, text, inner) => some (.tokens (documentationTokens text inner), length)
      | none =>
          if startsWith errorMark chars then
            some (.tokens [.literal errorMark], errorMark.length)
          else
            match chars.head?.bind bracket? with
            | some bracket => some (bracket, 1)
            | none =>
                match literalLength? chars with
                | some length => some (.tokens [.literal (String.ofList (chars.take length))], length)
                | none =>
                    match mark? chars with
                    | some token => some (.tokens [token], 1)
                    | none =>
                        (nameLength? chars).map fun length =>
                          (.tokens [.word (String.ofList (chars.take length))], length)

/-- The parts of a text, at most `fuel` of them. -/
def lexemes : Nat → List Char → Option (List Lexeme)
  | _, [] => some []
  | 0, _ :: _ => none
  | fuel + 1, chars => do
      let (lexeme, length) ← lexeme? chars
      let rest ← lexemes fuel (chars.drop length)
      return lexeme :: rest

/-- Puts the parts between brackets into groups.  The tokens so far are held in reverse, and so are those
in front of each bracket that is still open. -/
def assemble : List Lexeme → List (Delimiter × List Token) → List Token → Option (List Token)
  | [], [], tokens => some tokens.reverse
  | [], _ :: _, _ => none
  | .blank :: rest, outer, tokens => assemble rest outer tokens
  | .tokens more :: rest, outer, tokens => assemble rest outer (more.reverse ++ tokens)
  | .opening delimiter :: rest, outer, tokens => assemble rest ((delimiter, tokens) :: outer) []
  | .closing delimiter :: rest, outer, tokens =>
      match outer with
      | (opened, before) :: outer =>
          if opened = delimiter then
            assemble rest outer (.group delimiter tokens.reverse :: before)
          else
            none
      | [] => none

/-- Drops the mark of the byte order in front of a text. -/
def dropByteOrderMark : List Char → List Char
  | [] => []
  | c :: rest => if c.toNat = 0xfeff then rest else c :: rest

/-- The tokens of a text, or nothing when it does not consist of tokens. -/
def tokenize (text : String) : Option (List Token) :=
  let chars := dropByteOrderMark text.toList
  (lexemes chars.length chars).bind fun parts => assemble parts [] []

/-- Drops the line `#!…` in front of a file, unless it is an attribute. -/
def dropInterpreterLine (chars : List Char) : List Char :=
  if startsWith "#!" chars then
    match skipBlanks chars.length (chars.drop 2) with
    | '[' :: _ => chars
    | _ => chars.dropWhile (· ≠ '\n')
  else
    chars

/-- The tokens of a file, which may start with a byte order mark and a line for the interpreter. -/
def tokenizeFile (text : String) : Option (List Token) :=
  tokenize (String.ofList (dropInterpreterLine (dropByteOrderMark text.toList)))

end BuilderGen.Lexer

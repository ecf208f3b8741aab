import BuilderGen.Token.Lexer

/-!
# What literals stand for

Tells texts and numbers among literals apart and reads their values.  A literal has been cut out by the
lexer, so its form is known to be regular.
-/

namespace BuilderGen.Literal

/-! ## Texts -/

/-- Drops the blanks of a gap behind a line that ends in a backslash. -/
def dropGap : List Char → List Char :=
  List.dropWhile fun c => c = ' ' || c = '\t' || c = '\n' || c = '\r'

/-- The value of the digits of a code point, and what follows the closing brace. -/
def codePoint? (value : Nat) : List Char → Option (Char × List Char)
  | [] => none
  | '\x7d' :: rest => if value.isValidChar then some (Char.ofNat value, rest) else none
  | '_' :: rest => codePoint? value rest
  | c :: rest => (Text.hexValue? c).bind fun digit => codePoint? (value * 16 + digit) rest

/-- The character of an escape behind its backslash, and what follows it. -/
def escaped? : List Char → Option (Char × List Char)
  | 'x' :: first :: second :: rest => do
      let first ← Text.hexValue? first
      let second ← Text.hexValue? second
      return (Char.ofNat (first * 16 + second), rest)
  | 'u' :: '\x7b' :: rest => codePoint? 0 rest
  | 'n' :: rest => some ('\n', rest)
  | 'r' :: rest => some ('\r', rest)
  | 't' :: rest => some ('\t', rest)
  | '0' :: rest => some (Char.ofNat 0, rest)
  | c :: rest => if c = '\\' ∨ c = '\'' ∨ c = '"' then some (c, rest) else none
  | [] => none

/-- The value of a quoted text behind its opening quote, reading at most `fuel` characters. -/
def cooked? : Nat → List Char → Option (List Char)
  | 0, _ => none
  | _ + 1, [] => none
  | _ + 1, '"' :: _ => some []
  | fuel + 1, '\\' :: '\n' :: rest | fuel + 1, '\\' :: '\r' :: rest => cooked? fuel (dropGap rest)
  | fuel + 1, '\\' :: rest => do
      let (c, rest) ← escaped? rest
      let value ← cooked? fuel rest
      return c :: value
  | fuel + 1, '\r' :: '\n' :: rest => (cooked? fuel rest).map ('\n' :: ·)
  | fuel + 1, c :: rest => (cooked? fuel rest).map (c :: ·)

/-- The value of a raw text up to a quote and its fence. -/
def raw? (fence : List Char) : List Char → Option (List Char)
  | [] => none
  | c :: rest =>
      if c = '"' ∧ fence.isPrefixOf rest then some []
      else (raw? fence rest).map (c :: ·)

def textValue? (literal : String) : Option String :=
  match literal.toList with
  | '"' :: rest => (cooked? (rest.length + 1) rest).map String.ofList
  | 'r' :: rest =>
      let fence := rest.takeWhile (· == '#')
      match rest.drop fence.length with
      | '"' :: content => (raw? fence content).map String.ofList
      | _ => none
  | _ => none

/-- Whether a literal is a text. -/
def isText (literal : String) : Bool :=
  match literal.toList with
  | '"' :: _ | 'r' :: _ => true
  | _ => false

/-! ## Numbers -/

/-- Whether a literal is a number. -/
def isNumber (literal : String) : Bool :=
  (literal.toList.head?.map Text.isDigit).getD false

/-- The value of the digits at the start of a text, and what follows them. -/
def digits (base : Nat) (value : Nat) : List Char → Nat × List Char
  | [] => (value, [])
  | c :: rest =>
      if c = '_' then digits base value rest
      else
        match Text.hexValue? c with
        | some digit => if digit < base then digits base (value * base + digit) rest else (value, c :: rest)
        | none => (value, c :: rest)

/-- Whether the text behind the `e` of a decimal number is an exponent: a sign, or digits. -/
def isExponent (digit : Bool) : List Char → Bool
  | [] => digit
  | c :: rest =>
      if c = '+' ∨ c = '-' then true
      else if c = '_' then isExponent digit rest
      else if Text.isDigit c then isExponent true rest
      else digit

/-- The value and the suffix of a whole number. -/
def whole? (literal : String) : Option (Nat × String) :=
  match literal.toList with
  | '0' :: 'x' :: rest => some ((digits 16 0 rest).map id String.ofList)
  | '0' :: 'o' :: rest => some ((digits 8 0 rest).map id String.ofList)
  | '0' :: 'b' :: rest => some ((digits 2 0 rest).map id String.ofList)
  | c :: rest =>
      if Text.isDigit c then
        match digits 10 0 (c :: rest) with
        | (_, '.' :: _) => none
        | (value, c :: rest) =>
            if (c = 'e' ∨ c = 'E') ∧ isExponent false rest then none
            else some (value, String.ofList (c :: rest))
        | (value, []) => some (value, "")
      else
        none
  | [] => none

/-- Whether a literal is a number with a point or an exponent. -/
def isFraction (literal : String) : Bool :=
  isNumber literal && (whole? literal).isNone

end BuilderGen.Literal

import BuilderGen.Text.Character
import BuilderGen.Toml.Basic

/-!
# TOML numbers and moments

Tells which words are whole numbers, fractions, dates and times.  Whole numbers have 64 bits.  Days are
checked against the calendar.
-/

namespace BuilderGen.Toml.Scalar

/-! ## Numbers -/

/-- Digits, where single underscores may stand between two of them. -/
def isGrouped (digit : Char → Bool) : List Char → Bool
  | [] => false
  | [c] => digit c
  | c :: '_' :: rest => digit c && isGrouped digit rest
  | c :: rest => digit c && isGrouped digit rest

/-- Digits that start with a zero only if that is all. -/
def isPlain (chars : List Char) : Bool :=
  chars == ['0'] || (chars.head? != some '0' && isGrouped Text.isDigit chars)

/-- The value of digits, without regard to underscores. -/
def value (base : Nat) (chars : List Char) : Nat :=
  (chars.filterMap Text.hexValue?).foldl (fun value digit => value * base + digit) 0

/-- The least whole number that 64 bits with a sign cannot hold. -/
def wholeBound : Nat := 9223372036854775808

/-- A sign, if there is one, and the rest.  The flag is set for a minus. -/
def signed : List Char → Bool × List Char
  | '-' :: rest => (true, rest)
  | '+' :: rest => (false, rest)
  | chars => (false, chars)

/-- Whether a character is a digit of a base up to ten. -/
def isDigitOf (base : Nat) (c : Char) : Bool :=
  Text.isDigit c && c.toNat - 48 < base

/-- Whether a word is a whole number of 64 bits. -/
def isWhole : List Char → Bool
  | '0' :: 'x' :: rest => isGrouped (fun c => (Text.hexValue? c).isSome) rest && value 16 rest < wholeBound
  | '0' :: 'o' :: rest => isGrouped (isDigitOf 8) rest && value 8 rest < wholeBound
  | '0' :: 'b' :: rest => isGrouped (isDigitOf 2) rest && value 2 rest < wholeBound
  | chars =>
      let (negative, digits) := signed chars
      isPlain digits && value 10 digits < wholeBound + (if negative then 1 else 0)

/-- The parts of a fraction: the digits before and behind the point, and the exponent with its sign. -/
def fractionParts? (chars : List Char) : Option (List Char × List Char × List Char) :=
  let inDigits (c : Char) : Bool := Text.isDigit c || c == '_'
  let exponent? : List Char → Option (List Char)
    | [] => some []
    | c :: rest =>
        if (c = 'e' ∨ c = 'E') ∧ isGrouped Text.isDigit (signed rest).2 then some rest else none
  let whole := chars.takeWhile inDigits
  if !isPlain whole then none
  else
    match chars.drop whole.length with
    | [] => none
    | '.' :: rest =>
        let fraction := rest.takeWhile inDigits
        if isGrouped Text.isDigit fraction then
          (exponent? (rest.drop fraction.length)).map fun exponent => (whole, fraction, exponent)
        else
          none
    | rest => (exponent? rest).map fun exponent => (whole, [], exponent)

/-- Whether a fraction is too great for 64 bits, so that the nearest number is infinite. -/
def isTooGreat (whole fraction exponent : List Char) : Bool :=
  let digits := value 10 (whole ++ fraction)
  let count := (Nat.toDigits 10 digits).length
  let places := (fraction.filter Text.isDigit).length
  let (negative, exponent) := signed exponent
  let size := value 10 exponent
  let up := if negative then 0 else size
  let down := if negative then places + size else places
  let bound := Nat.pow 2 1024 - Nat.pow 2 970
  if digits = 0 ∨ count + up < 309 + down then false
  else if 309 + down < count + up then true
  else bound * Nat.pow 10 down ≤ digits * Nat.pow 10 up

/-- Whether a word is a fraction. -/
def isFraction (chars : List Char) : Bool :=
  let (negative, body) := signed chars
  body == "inf".toList || body == "nan".toList
    || match fractionParts? body with
      | some (whole, fraction, exponent) => negative || !isTooGreat whole fraction exponent
      | none => false

/-! ## Moments -/

/-- Reads so many decimal digits. -/
def digits? : Nat → Nat → List Char → Option (Nat × List Char)
  | 0, value, rest => some (value, rest)
  | count + 1, value, c :: rest =>
      if Text.isDigit c then digits? count (value * 10 + (c.toNat - 48)) rest else none
  | _ + 1, _, [] => none

/-- Drops a mark. -/
def mark? (mark : Char) : List Char → Option (List Char)
  | c :: rest => if c = mark then some rest else none
  | [] => none

/-- The number of days of a month. -/
def daysOf (year month : Nat) : Nat :=
  if month = 2 then
    if year % 4 = 0 ∧ (year % 100 ≠ 0 ∨ year % 400 = 0) then 29 else 28
  else if month ∈ [4, 6, 9, 11] then 30
  else 31

def date? (chars : List Char) : Option (List Char) := do
  let (year, rest) ← digits? 4 0 chars
  let (month, rest) ← digits? 2 0 (← mark? '-' rest)
  let (day, rest) ← digits? 2 0 (← mark? '-' rest)
  if 1 ≤ month ∧ month ≤ 12 ∧ 1 ≤ day ∧ day ≤ daysOf year month then some rest else none

/-- Drops hours and minutes. -/
def minutes? (chars : List Char) : Option (List Char) := do
  let (hour, rest) ← digits? 2 0 chars
  let (minute, rest) ← digits? 2 0 (← mark? ':' rest)
  if hour ≤ 23 ∧ minute ≤ 59 then some rest else none

/-- Drops a time of day, which may hold a leap second and a fraction of a second. -/
def time? (chars : List Char) : Option (List Char) := do
  let (second, rest) ← digits? 2 0 (← mark? ':' (← minutes? chars))
  if 60 < second then none
  else
    match rest with
    | '.' :: rest =>
        let fraction := rest.takeWhile Text.isDigit
        if fraction.isEmpty then none else some (rest.drop fraction.length)
    | rest => some rest

/-- Whether a word is the offset of a time zone, or nothing. -/
def isOffset : List Char → Bool
  | [] | ['Z'] | ['z'] => true
  | c :: rest => (c == '+' || c == '-') && minutes? rest == some []

/-- Whether a word is a date, a time of day, or both. -/
def isMoment (chars : List Char) : Bool :=
  time? chars == some []
    || match date? chars with
      | none => false
      | some [] => true
      | some (c :: rest) =>
          (c == 'T' || c == 't' || c == ' ') && ((time? rest).map isOffset).getD false

/-! ## Words -/

/-- The characters of numbers, moments and truth values. -/
def inWord (c : Char) : Bool :=
  Text.isDigit c || ('a' ≤ c && c ≤ 'z') || ('A' ≤ c && c ≤ 'Z') || c == '+' || c == '-' || c == '_'
    || c == '.' || c == ':'

/-- The word at the front of a text.  A blank between a date and a time belongs to it. -/
def word (chars : List Char) : List Char :=
  let first := chars.takeWhile inWord
  match chars.drop first.length with
  | ' ' :: rest =>
      if date? first = some [] ∧ (rest.head?.map Text.isDigit).getD false then
        first ++ ' ' :: rest.takeWhile inWord
      else
        first
  | _ => first

def ofWord? (word : List Char) : Option Value :=
  if word = "true".toList then some (.truth true)
  else if word = "false".toList then some (.truth false)
  else if isMoment word then some (.moment (String.ofList word))
  else if isWhole word || isFraction word then some (.number (String.ofList word))
  else none

end BuilderGen.Toml.Scalar

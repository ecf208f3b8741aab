import BuilderGen.Command.Layer

/-!
# Settings in the environment

A variable whose name starts with `OPTBUILDER_` holds a setting.  Its value is a truth value, a text in
quotes, a character, an array, a table or a number if all of it reads as one; else it is a text.
-/

namespace BuilderGen.Environment

open Toml (Reader)

/-! ## Values -/

/-- Blanks between the parts of a value. -/
def isBlank (c : Char) : Bool :=
  c == ' ' || c == '\t' || c == '\n' || c == '\r' || c.toNat == 12

/-- Drops the blanks between the parts of a value. -/
def skipBlank (chars : List Char) : List Char :=
  chars.dropWhile isBlank

/-- Characters of a value without quotes. -/
def inWord (c : Char) : Bool :=
  c ∉ [',', '\x7b', '\x7d', '[', ']']

/-- Characters of a key without quotes. -/
def inKey (c : Char) : Bool :=
  Toml.isBare c

/-- Whether a word is a whole number of 64 bits, with or without a sign. -/
def isWhole (word : List Char) : Bool :=
  let digits (chars : List Char) : Bool := !chars.isEmpty && chars.all Text.isDigit
  let value := Toml.Scalar.value 10
  match word with
  | '-' :: rest => digits rest && value rest ≤ Toml.Scalar.wholeBound
  | '+' :: rest => digits rest && value rest < 2 * Toml.Scalar.wholeBound
  | _ => digits word && value word < 2 * Toml.Scalar.wholeBound

/-- Whether a word is a number with a point. -/
def isFraction (word : List Char) : Bool :=
  let body := (Toml.Scalar.signed word).2
  let whole := body.takeWhile Text.isDigit
  match body.drop whole.length with
  | '.' :: rest =>
      let fraction := rest.takeWhile Text.isDigit
      let exponent := rest.drop fraction.length
      !(whole.isEmpty && fraction.isEmpty)
        && match exponent with
          | [] => true
          | c :: rest =>
              let digits := (Toml.Scalar.signed rest).2
              (c == 'e' || c == 'E') && !digits.isEmpty && digits.all Text.isDigit
  | _ => false

def ofWord (word : List Char) : LayerValue :=
  let word := Text.trimList word
  if isFraction word || isWhole word then .other else .text (String.ofList word)

def key? : Reader String
  | '"' :: rest => Toml.lineText? '"' rest
  | chars =>
      let key := chars.takeWhile inKey
      if key.isEmpty then none else some (String.ofList key, chars.drop key.length)

/-- Drops parts with commas between them up to a closing mark, at most `fuel` of them. -/
def parts? (part : List Char → Option (List Char)) (closing : Char) :
    Nat → List Char → Option (List Char)
  | 0, _ => none
  | fuel + 1, chars =>
      match Toml.Scalar.mark? closing chars with
      | some rest => some rest
      | none => do
          let rest ← part chars
          match rest with
          | ',' :: rest => parts? part closing fuel rest
          | rest => Toml.Scalar.mark? closing rest

/-- Reads a value with at most so many levels of nesting. -/
def value? : Nat → Reader LayerValue
  | 0, _ => none
  | depth + 1, chars => do
      let chars := skipBlank chars
      let item (chars : List Char) : Option (List Char) := (value? depth chars).map Prod.snd
      let pair (chars : List Char) : Option (List Char) := do
        let (_, rest) ← key? (skipBlank chars)
        item (skipBlank (← Toml.Scalar.mark? '=' (skipBlank rest)))
      let (value, rest) ←
        if "true".toList.isPrefixOf chars then some (.truth true, chars.drop 4)
        else if "false".toList.isPrefixOf chars then some (.truth false, chars.drop 5)
        else
          match chars with
          | '\x7b' :: rest =>
              (parts? pair '\x7d' (rest.length + 1) rest).map fun rest => (LayerValue.other, rest)
          | '[' :: rest =>
              (parts? item ']' (rest.length + 1) rest).map fun rest => (LayerValue.other, rest)
          | '"' :: rest => (Toml.lineText? '"' rest).map fun (text, rest) => (.text text, rest)
          | '\'' :: c :: rest => do
              let rest ← Toml.Scalar.mark? '\'' rest
              some (LayerValue.character c, rest)
          | ['\''] => none
          | chars =>
              let word := chars.takeWhile inWord
              some (ofWord word, chars.drop word.length)
      return (value, skipBlank rest)

/-- The value that a text stands for. -/
def value (text : String) : LayerValue :=
  match value? (text.toList.length + 1) text.toList with
  | some (value, []) => value
  | _ => .text text

/-! ## Variables -/

/-- The start of the names of variables that hold settings. -/
def nameStart : String := "OPTBUILDER_"

/-- The name of the setting behind the start of a variable's name.  The case of ASCII letters does not
count. -/
def settingName? (variableName : String) : Option String :=
  let chars := (Text.trimList variableName.toList).map Char.toLower
  let start := nameStart.toList.map Char.toLower
  if start.isPrefixOf chars then
    some (String.ofList (Text.trimList (chars.drop start.length)))
  else
    none

/-- The entry of a variable, if it holds a setting.  A dot in the name leads into a table. -/
def entry? (variableName text : String) : Option (String × LayerValue) := do
  let name ← settingName? variableName
  match name.splitOn "." with
  | [name] => if name = "" then none else some (name, value text)
  | pieces => if "" ∈ pieces then none else (pieces.head?).map fun name => (name, .other)

/-- The layer of the variables of an environment. -/
def layer (environment : List (String × String)) : Layer :=
  environment.filterMap fun (name, text) => entry? name text

end BuilderGen.Environment

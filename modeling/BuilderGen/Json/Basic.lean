/-!
# JSON values

Values of the artefact format, their indented text, and the reading of records from them.  Fields keep
their order.  The model has no numbers with a fraction, so numbers are whole.
-/

namespace BuilderGen

inductive Json where
  | null
  | bool (value : Bool)
  | number (value : Int)
  | text (value : String)
  | array (items : List Json)
  | object (fields : List (String × Json))
deriving Repr, Inhabited

namespace Json

/-! ## Indented text -/

/-- The lower-case hexadecimal digit of a number below sixteen. -/
def hexDigit (value : Nat) : Char :=
  if value < 10 then Char.ofNat (48 + value) else Char.ofNat (87 + value)

/-- A character inside a JSON string.  Only quotes, backslashes and control characters are escaped. -/
def escapeChar (c : Char) : List Char :=
  if c = '"' then ['\\', '"']
  else if c = '\\' then ['\\', '\\']
  else if c.toNat = 8 then ['\\', 'b']
  else if c.toNat = 12 then ['\\', 'f']
  else if c = '\n' then ['\\', 'n']
  else if c = '\r' then ['\\', 'r']
  else if c = '\t' then ['\\', 't']
  else if c.toNat < 32 then ['\\', 'u', '0', '0', hexDigit (c.toNat / 16), hexDigit (c.toNat % 16)]
  else [c]

/-- A text as a JSON string. -/
def quote (text : String) : String :=
  String.ofList ('"' :: text.toList.flatMap escapeChar ++ ['"'])

/-- Two spaces per level. -/
def indentation (depth : Nat) : String :=
  String.ofList (List.replicate (2 * depth) ' ')

mutual

/-- The indented text of a value that starts at a depth.  Empty arrays and objects stay on one line. -/
def layout (depth : Nat) : Json → String
  | .null => "null"
  | .bool value => if value then "true" else "false"
  | .number value => toString value
  | .text value => quote value
  | .array [] => "[]"
  | .array (item :: items) =>
      "[\n" ++ layoutItems (depth + 1) (item :: items) ++ "\n" ++ indentation depth ++ "]"
  | .object [] => "\x7b\x7d"
  | .object (field :: fields) =>
      "\x7b\n" ++ layoutFields (depth + 1) (field :: fields) ++ "\n" ++ indentation depth ++ "\x7d"

/-- The lines of the items of an array. -/
def layoutItems (depth : Nat) : List Json → String
  | [] => ""
  | [item] => indentation depth ++ layout depth item
  | item :: items => indentation depth ++ layout depth item ++ ",\n" ++ layoutItems depth items

/-- The lines of the fields of an object. -/
def layoutFields (depth : Nat) : List (String × Json) → String
  | [] => ""
  | [(key, value)] => indentation depth ++ quote key ++ ": " ++ layout depth value
  | (key, value) :: fields =>
      indentation depth ++ quote key ++ ": " ++ layout depth value ++ ",\n" ++ layoutFields depth fields

end

/-- The indented text of a value. -/
def pretty (value : Json) : String :=
  layout 0 value

/-! ## Reading -/

def text? : Json → Option String
  | .text value => some value
  | _ => none

/-- The value of a truth value. -/
def bool? : Json → Option Bool
  | .bool value => some value
  | _ => none

/-- The items of an array, each read by a function. -/
def list? {α : Type} (read : Json → Option α) : Json → Option (List α)
  | .array items => items.mapM read
  | _ => none

/-- A value that may be null. -/
def nullable? {α : Type} (read : Json → Option α) : Json → Option (Option α)
  | .null => some none
  | value => (read value).map some

/-- A bare keyword.  An object whose only field has the keyword as its name and null as its value stands
for the keyword too. -/
def keyword? : Json → Option String
  | .text value => some value
  | .object [(key, .null)] => some key
  | _ => none

/-- The fields of a record.  An array stands for the values of the fields in order. -/
def record? (keys : List String) : Json → Option (List (String × Json))
  | .object fields => some fields
  | .array values => if values.length ≤ keys.length then some (keys.zip values) else none
  | _ => none

/-- The fields of an object. -/
def object? : Json → Option (List (String × Json))
  | .object fields => some fields
  | _ => none

/-- Reads a field that has to be there. -/
def required {α : Type} (fields : List (String × Json)) (key : String) (read : Json → Option α) :
    Option α :=
  (fields.lookup key).bind read

/-- Reads a field that has a value of its own when it is absent. -/
def defaulted {α : Type} (fields : List (String × Json)) (key : String) (fallback : α)
    (read : Json → Option α) : Option α :=
  match fields.lookup key with
  | none => some fallback
  | some value => read value

/-- Reads a field that may be absent or null. -/
def optional {α : Type} (fields : List (String × Json)) (key : String) (read : Json → Option α) :
    Option (Option α) :=
  defaulted fields key none (nullable? read)

/-- Whether a field that carries no data is absent or null. -/
def vacant (fields : List (String × Json)) (key : String) : Option Unit :=
  match fields.lookup key with
  | none | some .null => some ()
  | some _ => none

/-- A field that is left out when there is no value. -/
def field? (key : String) : Option Json → List (String × Json)
  | none => []
  | some value => [(key, value)]

/-- Null for no value. -/
def ofOption {α : Type} (write : α → Json) : Option α → Json
  | none => .null
  | some value => write value

/-- An array of texts. -/
def ofTexts (texts : List String) : Json :=
  .array (texts.map .text)

end Json

end BuilderGen

import BuilderGen.Text.Table.Alphanumeric
import BuilderGen.Text.Table.Identifier
import BuilderGen.Text.Table.LetterCase
import BuilderGen.Text.Table.Visible

/-!
# Classes of characters

Membership in the Unicode tables, and the blanks.  Every class is a decidable predicate on `Char`.  The
tables are sorted, so a search stops at the first range that starts behind the character.
-/

namespace BuilderGen.Text

/-- Whether a code point lies in one of the sorted inclusive ranges. -/
def inRanges : List (Nat × Nat) → Nat → Bool
  | [], _ => false
  | (first, last) :: rest, point =>
      if point < first then false else point ≤ last || inRanges rest point

/-- Whether a code point lies in one of the runs `(first, last, step)`. -/
def inRuns (runs : List (Nat × Nat × Nat)) (point : Nat) : Bool :=
  runs.any fun (first, last, step) =>
    first ≤ point && point ≤ last && (point - first) % step == 0

/-- The characters with the Unicode property `White_Space`. -/
def isBlank (c : Char) : Bool :=
  inRanges [(0x9, 0xd), (0x20, 0x20), (0x85, 0x85), (0xa0, 0xa0), (0x1680, 0x1680), (0x2000, 0x200a),
    (0x2028, 0x2029), (0x202f, 0x202f), (0x205f, 0x205f), (0x3000, 0x3000)] c.toNat

/-- Characters that may start an identifier: the underscore and `XID_Start`. -/
def isIdentStart (c : Char) : Bool :=
  c == '_' || inRanges Table.identStart c.toNat

/-- Characters that may continue an identifier. -/
def isIdentContinue (c : Char) : Bool :=
  inRanges Table.identContinue c.toNat

def isDigit (c : Char) : Bool :=
  '0' ≤ c && c ≤ '9'

/-- The value of a hexadecimal digit. -/
def hexValue? (c : Char) : Option Nat :=
  if '0' ≤ c ∧ c ≤ '9' then some (c.toNat - 48)
  else if 'a' ≤ c ∧ c ≤ 'f' then some (c.toNat - 87)
  else if 'A' ≤ c ∧ c ≤ 'F' then some (c.toNat - 55)
  else none

/-- Letters and numbers of every script. -/
def isAlphanumeric (c : Char) : Bool :=
  inRanges Table.alphanumeric c.toNat

/-- Letters in lower case. -/
def isLowercase (c : Char) : Bool :=
  inRuns Table.lowercase c.toNat

/-- Letters in upper case. -/
def isUppercase (c : Char) : Bool :=
  inRuns Table.uppercase c.toNat

/-- The lower-case form of a character.  Only the dotted capital I becomes two characters. -/
def lowerForm (c : Char) : List Char :=
  if c.toNat = 0x130 then ['i', Char.ofNat 0x307]
  else
    match Table.toLower.find? fun (first, last, step, _) =>
        first ≤ c.toNat && c.toNat ≤ last && (c.toNat - first) % step == 0 with
    | some (first, _, _, image) => [Char.ofNat (image + (c.toNat - first))]
    | none => [c]

/-- Characters that combine with the one before them. -/
def isCombining (c : Char) : Bool :=
  inRanges Table.graphemeExtend c.toNat

/-- Characters with a visible form of their own, and the space. -/
def isGraphic (c : Char) : Bool :=
  inRanges Table.graphic c.toNat

/-- Drops the blanks at both ends of a list of characters. -/
def trimList (chars : List Char) : List Char :=
  ((chars.dropWhile isBlank).reverse.dropWhile isBlank).reverse

/-- Drops the blanks at both ends of a text. -/
def trim (text : String) : String :=
  String.ofList (trimList text.toList)

end BuilderGen.Text

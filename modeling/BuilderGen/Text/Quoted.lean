import BuilderGen.Text.Character

/-!
# Quoted text

Texts between double quotes, in two notations that differ only in how a NUL is written: the notation of a
string literal in generated code, and the notation in which a value is shown.
-/

namespace BuilderGen.Text

/-- The digits of a number in base sixteen, without leading zeros. -/
def hexDigits (value : Nat) : List Char :=
  Nat.toDigits 16 value

/-- The escape of a character by its code point. -/
def codePointEscape (c : Char) : List Char :=
  '\\' :: 'u' :: '\x7b' :: hexDigits c.toNat ++ ['\x7d']

/-- A character between double quotes.  Single quotes stand for themselves; characters without a form of
their own are written by their code point. -/
def escapeChar (c : Char) : List Char :=
  if c = '\t' then ['\\', 't']
  else if c = '\r' then ['\\', 'r']
  else if c = '\n' then ['\\', 'n']
  else if c = '\\' then ['\\', '\\']
  else if c = '"' then ['\\', '"']
  else if isCombining c then codePointEscape c
  else if isGraphic c then [c]
  else codePointEscape c

/-- The characters of a string literal.  A NUL is written with two digits when an octal digit follows. -/
def escapeLiteral : List Char → List Char
  | [] => []
  | c :: rest =>
      let written :=
        if c.toNat = 0 then
          match rest with
          | next :: _ => if '0' ≤ next ∧ next ≤ '7' then ['\\', 'x', '0', '0'] else ['\\', '0']
          | [] => ['\\', '0']
        else
          escapeChar c
      written ++ escapeLiteral rest

/-- A text as a string literal of generated code. -/
def literal (text : String) : String :=
  String.ofList ('"' :: escapeLiteral text.toList ++ ['"'])

/-- A text as it is shown to a user. -/
def shown (text : String) : String :=
  String.ofList ('"' :: text.toList.flatMap (fun c => if c.toNat = 0 then ['\\', '0'] else escapeChar c)
    ++ ['"'])

end BuilderGen.Text

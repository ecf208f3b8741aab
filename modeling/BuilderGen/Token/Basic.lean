import BuilderGen.Text.Quoted

/-!
# Tokens

The tokens of source and of generated code, and the text of a list of tokens.  Tokens are separated by one
space, except that nothing follows a mark that is joined to its successor.
-/

namespace BuilderGen

/-- The brackets of a group. -/
inductive Delimiter where
  | parenthesis
  | bracket
  | brace
deriving DecidableEq, Repr, Inhabited

inductive Token where
  /-- An identifier or a keyword. -/
  | word (text : String)
  /-- One punctuation character, and whether the next one is joined to it. -/
  | mark (char : Char) (joint : Bool)
  /-- A literal in its source spelling. -/
  | literal (text : String)
  /-- Tokens between brackets. -/
  | group (delimiter : Delimiter) (content : List Token)
deriving Repr, Inhabited

namespace Token

mutual

def decEq : (left right : Token) → Decidable (left = right)
  | .word left, .word right =>
      if h : left = right then isTrue (by rw [h]) else isFalse (by simp [h])
  | .mark left joint, .mark right joint' =>
      if h : left = right ∧ joint = joint' then isTrue (by rw [h.1, h.2]) else isFalse (by simpa using h)
  | .literal left, .literal right =>
      if h : left = right then isTrue (by rw [h]) else isFalse (by simp [h])
  | .group left content, .group right content' =>
      match decEqList content content' with
      | isTrue hcontent =>
          if h : left = right then isTrue (by rw [h, hcontent]) else isFalse (by simp [h])
      | isFalse hcontent => isFalse (by simp [hcontent])
  | .word _, .mark .. | .word _, .literal _ | .word _, .group .. | .mark .., .word _
  | .mark .., .literal _ | .mark .., .group .. | .literal _, .word _ | .literal _, .mark ..
  | .literal _, .group .. | .group .., .word _ | .group .., .mark .. | .group .., .literal _ =>
      isFalse (by simp)

def decEqList : (left right : List Token) → Decidable (left = right)
  | [], [] => isTrue rfl
  | [], _ :: _ => isFalse (by simp)
  | _ :: _, [] => isFalse (by simp)
  | left :: lefts, right :: rights =>
      match decEq left right, decEqList lefts rights with
      | isTrue hhead, isTrue htail => isTrue (by rw [hhead, htail])
      | isFalse hhead, _ => isFalse (by simp [hhead])
      | _, isFalse htail => isFalse (by simp [htail])

end

instance : DecidableEq Token := decEq

/-! ## Text -/

/-- Whether nothing may stand between the token and its successor. -/
def isJoint : Token → Bool
  | mark _ joint => joint
  | _ => false

/-- The text before the content of a group. -/
def opening : Delimiter → String
  | .parenthesis => "("
  | .bracket => "["
  | .brace => "\x7b "

/-- The text behind the content of a group. -/
def closing : Delimiter → Bool → String
  | .parenthesis, _ => ")"
  | .bracket, _ => "]"
  | .brace, true => "\x7d"
  | .brace, false => " \x7d"

mutual

/-- The texts that a token consists of. -/
def pieces : Token → List String
  | word text => [text]
  | mark char _ => [String.singleton char]
  | literal text => [text]
  | group delimiter content =>
      opening delimiter :: (piecesOfList content ++ [closing delimiter content.isEmpty])

/-- The texts that a list of tokens consists of, with the spaces between the tokens. -/
def piecesOfList : List Token → List String
  | [] => []
  | [token] => token.pieces
  | token :: rest =>
      token.pieces ++ ((if token.isJoint then [] else [" "]) ++ piecesOfList rest)

end

/-- The text of a list of tokens. -/
def print (tokens : List Token) : String :=
  String.join (piecesOfList tokens)

/-! ## Writing tokens -/

/-- The marks of an operator.  All but the last are joined to their successor. -/
def operator : List Char → List Token
  | [] => []
  | [c] => [mark c false]
  | c :: rest => mark c true :: operator rest

def op (text : String) : List Token :=
  operator text.toList

def lifetime (name : String) : List Token :=
  [mark '\'' true, word name]

/-- A string literal for a text. -/
def quoted (text : String) : Token :=
  literal (Text.literal text)

def parens (content : List Token) : Token :=
  group .parenthesis content

def brackets (content : List Token) : Token :=
  group .bracket content

def braces (content : List Token) : Token :=
  group .brace content

/-- An attribute in front of what follows. -/
def attr (content : List Token) : List Token :=
  [mark '#' false, brackets content]

end Token

end BuilderGen

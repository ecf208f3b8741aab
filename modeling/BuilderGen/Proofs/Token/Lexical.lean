import BuilderGen.Proofs.Token.Word

/-!
# Words among tokens

Every word among the tokens of a text, also inside of groups, is a word for the lexer.  Whoever only takes tokens
from such a list, from its front or from within its groups, has lexical tokens again.
-/

namespace BuilderGen

namespace Token

mutual

/-- Whether the words in a token are words for the lexer. -/
def isLexical : Token → Bool
  | .word text => Lexer.isWord text
  | .mark _ _ | .literal _ => true
  | .group _ content => areLexical content

/-- Whether the words in tokens are words for the lexer. -/
def areLexical : List Token → Bool
  | [] => true
  | token :: rest => token.isLexical && areLexical rest

end

end Token

/-- Tokens whose words are words for the lexer. -/
def Lexical (tokens : List Token) : Prop :=
  Token.areLexical tokens = true

namespace Lexical

variable {token : Token} {tokens front back : List Token}

theorem iff_forall : Lexical tokens ↔ ∀ token ∈ tokens, token.isLexical = true := by
  induction tokens with
  | nil => simp [Lexical, Token.areLexical]
  | cons token rest ih =>
      rw [Lexical, Token.areLexical, Bool.and_eq_true, List.forall_mem_cons, ← ih]
      rfl

theorem nil : Lexical [] :=
  rfl

theorem cons_iff : Lexical (token :: tokens) ↔ token.isLexical = true ∧ Lexical tokens := by
  rw [Lexical, Token.areLexical, Bool.and_eq_true]
  rfl

theorem append_iff : Lexical (front ++ back) ↔ Lexical front ∧ Lexical back := by
  simp only [iff_forall, List.forall_mem_append]

theorem reverse_iff : Lexical tokens.reverse ↔ Lexical tokens := by
  simp only [iff_forall, List.mem_reverse]

/-- The tokens behind the first ones. -/
theorem drop (h : Lexical tokens) (count : Nat) : Lexical (tokens.drop count) :=
  iff_forall.mpr fun token htoken => iff_forall.mp h token (List.mem_of_mem_drop htoken)

end Lexical

namespace Lexer

/-- A part of a text whose words are words. -/
def Lexeme.Lexical : Lexeme → Prop
  | .tokens found => BuilderGen.Lexical found
  | .blank | .opening _ | .closing _ => True

theorem lexical_documentationTokens (text : List Char) (inner : Bool) : Lexical (documentationTokens text inner) := by
  have hdoc : isWord "doc" = true := by decide
  cases inner <;> simp [Lexical, documentationTokens, Token.brackets, Token.quoted, Token.areLexical, Token.isLexical,
    hdoc]

theorem isLexical_mark? {chars : List Char} {token : Token} (h : mark? chars = some token) :
    token.isLexical = true := by
  unfold mark? at h
  split at h
  · split at h
    · obtain ⟨length, _, h⟩ := Option.bind_eq_some_iff.mp h
      split at h
      · cases h
      · split at h <;> cases h
        rfl
      · cases h
        rfl
    · cases h
      rfl
    · cases h
  · cases h

theorem lexical_bracket? {c : Char} {part : Lexeme} (h : bracket? c = some part) : part.Lexical := by
  unfold bracket? at h
  split at h <;> cases h <;> trivial

/-- Every part of a text has lexical tokens. -/
theorem lexical_lexeme? {chars : List Char} {part : Lexeme} {length : Nat}
    (h : lexeme? chars = some (part, length)) : part.Lexical := by
  unfold lexeme? at h
  split at h
  · cases h
    trivial
  · split at h
    · cases h
      exact lexical_documentationTokens _ _
    · split at h
      · cases h
        rfl
      · split at h
        · rename_i hbracket
          cases h
          obtain ⟨c, _, hc⟩ := Option.bind_eq_some_iff.mp hbracket
          exact lexical_bracket? hc
        · split at h
          · cases h
            rfl
          · split at h
            · rename_i hmark
              cases h
              exact Lexical.cons_iff.mpr ⟨isLexical_mark? hmark, Lexical.nil⟩
            · obtain ⟨count, hcount, heq⟩ := Option.map_eq_some_iff.mp h
              cases heq
              refine Lexical.cons_iff.mpr ⟨?_, Lexical.nil⟩
              rw [Token.isLexical, isWord, String.toList_ofList]
              exact isWordList_of_nameLength? hcount

theorem lexical_lexemes {fuel : Nat} {chars : List Char} {parts : List Lexeme}
    (h : lexemes fuel chars = some parts) : ∀ part ∈ parts, part.Lexical := by
  induction fuel generalizing chars parts with
  | zero =>
      cases chars with
      | nil =>
          cases h
          exact nofun
      | cons c chars => cases h
  | succ fuel ih =>
      cases chars with
      | nil =>
          rw [lexemes] at h
          cases h
          exact nofun
      | cons c chars =>
          rw [lexemes.eq_def] at h
          obtain ⟨⟨lexeme, length⟩, hlexeme, h⟩ := Option.bind_eq_some_iff.mp h
          obtain ⟨rest, hrest, h⟩ := Option.bind_eq_some_iff.mp h
          cases h
          exact List.forall_mem_cons.mpr ⟨lexical_lexeme? hlexeme, ih hrest⟩

/-- Lexical parts are assembled to lexical tokens. -/
theorem lexical_assemble {parts : List Lexeme} {outer : List (Delimiter × List Token)} {tokens found : List Token}
    (hparts : ∀ part ∈ parts, part.Lexical) (houter : ∀ frame ∈ outer, Lexical frame.2) (htokens : Lexical tokens)
    (h : assemble parts outer tokens = some found) : Lexical found := by
  induction parts generalizing outer tokens with
  | nil =>
      cases outer with
      | nil =>
          rw [assemble] at h
          cases h
          exact Lexical.reverse_iff.mpr htokens
      | cons frame outer => cases h
  | cons part parts ih =>
      obtain ⟨hpart, hrest⟩ := List.forall_mem_cons.mp hparts
      cases part with
      | blank => exact ih hrest houter htokens h
      | tokens more =>
          have hmore : Lexical more := hpart
          exact ih hrest houter (Lexical.append_iff.mpr ⟨Lexical.reverse_iff.mpr hmore, htokens⟩) h
      | opening delimiter => exact ih hrest (List.forall_mem_cons.mpr ⟨htokens, houter⟩) Lexical.nil h
      | closing delimiter =>
          rw [assemble.eq_def] at h
          cases outer with
          | nil => cases h
          | cons frame outer =>
              obtain ⟨hframe, houter⟩ := List.forall_mem_cons.mp houter
              dsimp only at h
              split at h
              · refine ih hrest houter (Lexical.cons_iff.mpr ⟨?_, hframe⟩) h
                exact Lexical.reverse_iff.mpr htokens
              · cases h

/-- The tokens of a text are lexical. -/
theorem lexical_tokenize {text : String} {tokens : List Token} (h : tokenize text = some tokens) :
    Lexical tokens := by
  obtain ⟨parts, hparts, h⟩ := Option.bind_eq_some_iff.mp h
  exact lexical_assemble (lexical_lexemes hparts) (by simp) Lexical.nil h

end Lexer

end BuilderGen

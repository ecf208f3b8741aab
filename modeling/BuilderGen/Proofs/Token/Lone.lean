import BuilderGen.Proofs.Token.Sequence

/-!
# Texts of one word

A text whose only token is a word consists of this word with blanks and comments around it, and every text of this
form has the word as its only token.
-/

namespace BuilderGen.Lexer

/-! ## One token -/

section Assembly

variable {parts : List Lexeme} {outer : List (Delimiter × List Token)} {before tokens : List Token} {token : Token}

/-- Tokens that have been put together stay in front, and so do those before the first open bracket, with its group
behind them. -/
theorem prefix_of_assemble (h : assemble parts outer before = some tokens) :
    (outer = [] → before.reverse <+: tokens) ∧
      ∀ bottom, outer.getLast? = some bottom →
        ∃ content, bottom.2.reverse ++ [.group bottom.1 content] <+: tokens := by
  induction parts generalizing outer before with
  | nil =>
      cases outer with
      | nil =>
          rw [assemble, Option.some.injEq] at h
          refine ⟨fun _ => h ▸ List.prefix_refl _, fun bottom hbottom => ?_⟩
          cases hbottom
      | cons bracket outer => cases h
  | cons part parts ih =>
      cases part with
      | blank => exact ih h
      | tokens more =>
          obtain ⟨hfirst, hbottom⟩ := ih h
          refine ⟨fun houter => ?_, hbottom⟩
          have hprefix := hfirst houter
          rw [List.reverse_append] at hprefix
          exact (List.prefix_append _ _).trans hprefix
      | opening delimiter =>
          obtain ⟨_, hbottom⟩ := ih h
          cases outer with
          | nil =>
              obtain ⟨content, hcontent⟩ := hbottom (delimiter, before) rfl
              refine ⟨fun _ => (List.prefix_append _ _).trans hcontent, fun bottom hbottom => ?_⟩
              cases hbottom
          | cons bracket outer =>
              refine ⟨fun hnil => absurd hnil (List.cons_ne_nil _ _), fun bottom heq => hbottom bottom ?_⟩
              rwa [List.getLast?_cons_cons]
      | closing delimiter =>
          cases outer with
          | nil => cases h
          | cons bracket outer =>
              obtain ⟨opened, inside⟩ := bracket
              rw [assemble] at h
              split at h
              · rename_i heq
                subst heq
                obtain ⟨hfirst, hbottom⟩ := ih h
                refine ⟨fun hnil => absurd hnil (List.cons_ne_nil _ _), fun bottom hlast => ?_⟩
                cases outer with
                | nil =>
                    cases hlast
                    have hprefix := hfirst rfl
                    rw [List.reverse_cons] at hprefix
                    exact ⟨_, hprefix⟩
                | cons next outer =>
                    rw [List.getLast?_cons_cons] at hlast
                    exact hbottom bottom hlast
              · cases h

/-- Whether a token is a group. -/
def isGroupToken : Token → Bool
  | .group .. => true
  | _ => false

/-- A part of a text that is no blank has tokens. -/
def substantial : Lexeme → Bool
  | .tokens tokens => !tokens.isEmpty
  | _ => true

/-- Parts that add no token are blanks. -/
theorem blank_of_assemble (hparts : ∀ part ∈ parts, substantial part = true)
    (h : assemble parts [] before = some before.reverse) : ∀ part ∈ parts, part = .blank := by
  induction parts with
  | nil => exact nofun
  | cons part parts ih =>
      obtain ⟨hpart, hrest⟩ := List.forall_mem_cons.mp hparts
      cases part with
      | blank => exact List.forall_mem_cons.mpr ⟨rfl, ih hrest h⟩
      | tokens more =>
          have hlater : assemble parts [] (more.reverse ++ before) = some before.reverse := h
          have hlength := ((prefix_of_assemble hlater).1 rfl).length_le
          simp only [List.length_reverse, List.length_append] at hlength
          have hmore : more = [] := List.length_eq_zero_iff.mp (by omega)
          rw [hmore] at hpart
          cases hpart
      | opening delimiter =>
          have hlater : assemble parts [(delimiter, before)] [] = some before.reverse := h
          obtain ⟨content, hcontent⟩ := (prefix_of_assemble hlater).2 (delimiter, before) rfl
          have hlength := hcontent.length_le
          simp only [List.length_append, List.length_reverse, List.length_singleton] at hlength
          omega
      | closing delimiter => cases h

/-- A text of one token that is no group consists of a part with this token and of blanks. -/
theorem exists_of_assemble (hparts : ∀ part ∈ parts, substantial part = true)
    (hgroup : isGroupToken token = false) (h : assemble parts [] [] = some [token]) :
    ∃ front back, parts = front ++ .tokens [token] :: back ∧ (∀ part ∈ front, part = .blank) ∧
      ∀ part ∈ back, part = .blank := by
  induction parts with
  | nil => cases h
  | cons part parts ih =>
      obtain ⟨hpart, hrest⟩ := List.forall_mem_cons.mp hparts
      cases part with
      | blank =>
          obtain ⟨front, back, rfl, hfront, hback⟩ := ih hrest h
          exact ⟨.blank :: front, back, rfl, List.forall_mem_cons.mpr ⟨rfl, hfront⟩, hback⟩
      | tokens more =>
          have hlater : assemble parts [] (more.reverse ++ []) = some [token] := h
          have hprefix := (prefix_of_assemble hlater).1 rfl
          rw [List.append_nil, List.reverse_reverse] at hprefix
          have hmore : more = [token] := by
            cases more with
            | nil => cases hpart
            | cons first more =>
                obtain ⟨rfl, hmore⟩ := List.cons_prefix_cons.mp hprefix
                rw [List.prefix_nil.mp hmore]
          subst hmore
          exact ⟨[], parts, rfl, nofun, blank_of_assemble hrest h⟩
      | opening delimiter =>
          have hlater : assemble parts [(delimiter, [])] [] = some [token] := h
          obtain ⟨content, hcontent⟩ := (prefix_of_assemble hlater).2 (delimiter, []) rfl
          obtain ⟨rfl, -⟩ := List.cons_prefix_cons.mp hcontent
          cases hgroup
      | closing delimiter => cases h

end Assembly

/-! ## Words between blanks -/

/-- Characters that are blanks and comments to the end. -/
inductive Blank : List Char → Prop
  | nil : Blank []
  | blank {chars : List Char} {length : Nat} (hlength : blankLength? chars = some length)
      (hrest : Blank (chars.drop length)) : Blank chars

/-- Characters that are a word between blanks and comments. -/
inductive Lone (text : String) : List Char → Prop
  | word {tail : List Char} (hword : isWord text = true) (htail : Blank tail) : Lone text (text.toList ++ tail)
  | blank {chars : List Char} {length : Nat} (hlength : blankLength? chars = some length)
      (hrest : Lone text (chars.drop length)) : Lone text chars

section Inversion

variable {chars : List Char} {length : Nat}

/-- Whether a part is neither a blank nor a word. -/
def isOther : Lexeme → Bool
  | .blank | .tokens [] | .tokens (.word _ :: _) => false
  | .opening _ | .closing _ | .tokens (_ :: _) => true

theorem isOther_of_bracket? {c : Char} {lexeme : Lexeme} (h : bracket? c = some lexeme) : isOther lexeme = true := by
  unfold bracket? at h
  split at h <;> cases h <;> rfl

theorem isOther_of_mark? {token : Token} (h : mark? chars = some token) : isOther (.tokens [token]) = true := by
  have hmark : ∃ c joint, token = .mark c joint := by
    unfold mark? at h
    split at h
    · split at h
      · obtain ⟨nameLength, _, h⟩ := Option.bind_eq_some_iff.mp h
        split at h
        · cases h
        · split at h <;> cases h
          exact ⟨_, _, rfl⟩
        · cases h
          exact ⟨_, _, rfl⟩
      · cases h
        exact ⟨_, _, rfl⟩
      · cases h
    · cases h
  obtain ⟨c, joint, rfl⟩ := hmark
  rfl

/-- What the part at the start of a text can be. -/
theorem lexeme?_cases {lexeme : Lexeme} (h : lexeme? chars = some (lexeme, length)) :
    (lexeme = .blank ∧ blankLength? chars = some length) ∨
      (lexeme = .tokens [.word (String.ofList (chars.take length))] ∧ nameLength? chars = some length) ∨
      isOther lexeme = true := by
  rw [lexeme?] at h
  split at h
  · cases h
    exact .inl ⟨rfl, by assumption⟩
  · split at h
    · cases h
      exact .inr (.inr rfl)
    · split at h
      · cases h
        exact .inr (.inr rfl)
      · split at h
        · rename_i bracket hbracket
          cases h
          obtain ⟨c, _, hbracket⟩ := Option.bind_eq_some_iff.mp hbracket
          exact .inr (.inr (isOther_of_bracket? hbracket))
        · split at h
          · cases h
            exact .inr (.inr rfl)
          · split at h
            · rename_i token hmark
              cases h
              exact .inr (.inr (isOther_of_mark? hmark))
            · obtain ⟨found, hname, heq⟩ := Option.map_eq_some_iff.mp h
              cases heq
              exact .inr (.inl ⟨rfl, hname⟩)

theorem substantial_of_lexeme? {lexeme : Lexeme} (h : lexeme? chars = some (lexeme, length)) :
    substantial lexeme = true := by
  rcases lexeme?_cases h with ⟨rfl, _⟩ | ⟨rfl, _⟩ | hother
  · rfl
  · rfl
  · unfold isOther at hother
    split at hother <;> first | rfl | cases hother

end Inversion

/-! ### From tokens to words -/

section Tokens

variable {chars : List Char} {text : String}

theorem nil_of_lexemes {fuel : Nat} (h : lexemes fuel chars = some []) : chars = [] := by
  cases chars with
  | nil => rfl
  | cons c chars =>
      cases fuel with
      | zero => cases h
      | succ fuel =>
          rw [lexemes] at h
          · obtain ⟨_, _, h⟩ := Option.bind_eq_some_iff.mp h
            obtain ⟨_, _, h⟩ := Option.bind_eq_some_iff.mp h
            cases h
          · exact List.cons_ne_nil _ _

theorem cons_of_lexemes {fuel : Nat} {part : Lexeme} {parts : List Lexeme}
    (h : lexemes fuel chars = some (part :: parts)) :
    ∃ less length, lexeme? chars = some (part, length) ∧ lexemes less (chars.drop length) = some parts := by
  cases chars with
  | nil =>
      rw [lexemes] at h
      cases h
  | cons c chars =>
      cases fuel with
      | zero => cases h
      | succ fuel =>
          rw [lexemes] at h
          · obtain ⟨⟨lexeme, length⟩, hlexeme, h⟩ := Option.bind_eq_some_iff.mp h
            obtain ⟨rest, hrest, h⟩ := Option.bind_eq_some_iff.mp h
            cases h
            exact ⟨fuel, length, hlexeme, hrest⟩
          · exact List.cons_ne_nil _ _

theorem substantial_of_lexemes {fuel : Nat} {parts : List Lexeme} (h : lexemes fuel chars = some parts) :
    ∀ part ∈ parts, substantial part = true := by
  induction parts generalizing chars fuel with
  | nil => exact nofun
  | cons part parts ih =>
      obtain ⟨less, length, hlexeme, hrest⟩ := cons_of_lexemes h
      exact List.forall_mem_cons.mpr ⟨substantial_of_lexeme? hlexeme, ih hrest⟩

theorem blankLength?_of_lexeme? {length : Nat} (h : lexeme? chars = some (.blank, length)) :
    blankLength? chars = some length := by
  rcases lexeme?_cases h with ⟨_, hlength⟩ | ⟨hword, _⟩ | hother
  · exact hlength
  · cases hword
  · cases hother

theorem blank_of_lexemes {fuel : Nat} {parts : List Lexeme} (h : lexemes fuel chars = some parts)
    (hparts : ∀ part ∈ parts, part = .blank) : Blank chars := by
  induction parts generalizing chars fuel with
  | nil =>
      rw [nil_of_lexemes h]
      exact .nil
  | cons part parts ih =>
      obtain ⟨rfl, hmore⟩ := List.forall_mem_cons.mp hparts
      obtain ⟨less, length, hlexeme, hrest⟩ := cons_of_lexemes h
      exact .blank (blankLength?_of_lexeme? hlexeme) (ih hrest hmore)

/-- Where the only part that is no blank is a word, the characters are this word between blanks. -/
theorem lone_of_lexemes {fuel : Nat} {front back : List Lexeme}
    (h : lexemes fuel chars = some (front ++ .tokens [.word text] :: back)) (hfront : ∀ part ∈ front, part = .blank)
    (hback : ∀ part ∈ back, part = .blank) : Lone text chars := by
  induction front generalizing chars fuel with
  | nil =>
      obtain ⟨less, length, hlexeme, hrest⟩ := cons_of_lexemes h
      have htail := blank_of_lexemes hrest hback
      rcases lexeme?_cases hlexeme with ⟨hblank, _⟩ | ⟨hword, hname⟩ | hother
      · cases hblank
      · have hchars : text.toList = chars.take length := by
          rw [Lexeme.tokens.injEq, List.cons.injEq, Token.word.injEq] at hword
          rw [hword.1, String.toList_ofList]
        rw [← List.take_append_drop length chars, ← hchars]
        refine .word ?_ htail
        rw [isWord, hchars]
        exact isWordList_of_nameLength? hname
      · cases hother
  | cons part front ih =>
      obtain ⟨rfl, hmore⟩ := List.forall_mem_cons.mp hfront
      obtain ⟨less, length, hlexeme, hrest⟩ := cons_of_lexemes h
      exact .blank (blankLength?_of_lexeme? hlexeme) (ih hrest hmore)

/-- A text whose only token is a word is this word between blanks. -/
theorem lone_of_tokenize {source : String} (h : tokenize source = some [.word text]) :
    Lone text (dropByteOrderMark source.toList) := by
  obtain ⟨parts, hparts, hassemble⟩ := Option.bind_eq_some_iff.mp h
  obtain ⟨front, back, rfl, hfront, hback⟩ := exists_of_assemble (substantial_of_lexemes hparts) rfl hassemble
  exact lone_of_lexemes hparts hfront hback

end Tokens

/-! ### The length of a blank -/

section Length

variable {chars : List Char} {length : Nat} {b : Char}

/-- What a blank or a comment is. -/
theorem blankLength?_cases (h : blankLength? chars = some length) :
    (∃ rest, chars = '/' :: '/' :: rest ∧ length = lineLength chars) ∨
      (∃ rest, chars = '/' :: '*' :: rest ∧ blockLength 0 chars = some length) ∨
      ∃ c rest, chars = c :: rest ∧ isBlank c = true ∧ length = 1 := by
  unfold blankLength? at h
  split at h
  · rename_i hline
    cases h
    rw [Bool.and_eq_true, Bool.and_eq_true] at hline
    obtain ⟨rest, hrest⟩ := List.isPrefixOf_iff_prefix.mp hline.1.1
    exact .inl ⟨rest, hrest.symm, rfl⟩
  · split at h
    · rename_i hclosed
      cases h
      obtain ⟨rest, hrest⟩ := List.isPrefixOf_iff_prefix.mp hclosed
      refine .inr (.inl ⟨'*' :: '/' :: rest, hrest.symm, ?_⟩)
      rw [← hrest]
      rfl
    · split at h
      · rename_i hblock
        rw [Bool.and_eq_true, Bool.and_eq_true] at hblock
        obtain ⟨rest, hrest⟩ := List.isPrefixOf_iff_prefix.mp hblock.1.1
        exact .inr (.inl ⟨rest, hrest.symm, h⟩)
      · split at h
        · rename_i c rest _ _ _
          split at h
          · rename_i hblank
            cases h
            exact .inr (.inr ⟨c, rest, rfl, hblank, rfl⟩)
          · cases h
        · cases h

theorem blankLength?_pos (h : blankLength? chars = some length) : 0 < length := by
  rcases blankLength?_cases h with ⟨rest, rfl, rfl⟩ | ⟨rest, rfl, hblock⟩ | ⟨c, rest, _, _, rfl⟩
  · rw [lineLength]
    · exact Nat.succ_pos _
    · exact nofun
    · exact nofun
  · rw [blockLength] at hblock
    obtain ⟨more, _, rfl⟩ := Option.map_eq_some_iff.mp hblock
    exact Nat.succ_pos _
  · exact Nat.one_pos

theorem Blank.leavesWord (h : Blank chars) : Lexer.leavesWord chars = true := by
  have hslash : ∀ rest, Lexer.leavesWord ('/' :: rest) = true := by
    intro rest
    have hcontinue : Text.isIdentContinue '/' = false := by decide
    simp [Lexer.leavesWord, hcontinue]
  cases h with
  | nil => rfl
  | blank hlength _ =>
      rcases blankLength?_cases hlength with ⟨rest, rfl, _⟩ | ⟨rest, rfl, _⟩ | ⟨c, rest, rfl, hblank, _⟩
      · exact hslash _
      · exact hslash _
      · have hmem : c ∉ ['"', '\'', '#'] := by
          rintro hc
          simp only [List.mem_cons, List.not_mem_nil, or_false] at hc
          rcases hc with rfl | rfl | rfl <;> exact absurd hblank (by decide)
        rw [Lexer.leavesWord, (not_isIdent_of_isBlank hblank).1, decide_eq_true hmem]
        rfl

end Length

/-! ### From words to tokens -/

section Words

variable {chars : List Char} {text : String}

theorem Blank.exists_lexes (h : Blank chars) :
    ∃ parts, Lexes chars parts ∧ ∀ outer before, assemble parts outer before = assemble [] outer before := by
  induction h with
  | nil => exact ⟨[], .nil, fun _ _ => rfl⟩
  | blank hlength hrest ih =>
      obtain ⟨parts, hparts, hassemble⟩ := ih
      refine ⟨.blank :: parts, .cons ?_ (blankLength?_pos hlength) hparts, hassemble⟩
      rw [lexeme?, hlength]

theorem Lone.exists_lexes (h : Lone text chars) :
    ∃ parts, Lexes chars parts ∧ assemble parts [] [] = some [.word text] := by
  induction h with
  | word hword htail =>
      obtain ⟨parts, hparts, hassemble⟩ := htail.exists_lexes
      exact ⟨_, hparts.word hword htail.leavesWord, hassemble _ _⟩
  | blank hlength hrest ih =>
      obtain ⟨parts, hparts, hassemble⟩ := ih
      refine ⟨.blank :: parts, .cons ?_ (blankLength?_pos hlength) hparts, hassemble⟩
      rw [lexeme?, hlength]

theorem tokenize_of_lone {source : String} (h : Lone text (dropByteOrderMark source.toList)) :
    tokenize source = some [.word text] := by
  obtain ⟨parts, hparts, hassemble⟩ := h.exists_lexes
  rw [tokenize_eq hparts, hassemble]

end Words

end BuilderGen.Lexer

import BuilderGen.Grammar.Tree
import BuilderGen.Proofs.Text.Segments
import BuilderGen.Proofs.Token.Word

/-!
# Sequences of tokens

How a text that is written token by token falls apart into these tokens again.  `Lexes` relates characters to the
parts that the lexer finds in them, without a bound on their number; there is one lemma for each part that texts of
names are made of, and one for a whole path of names.
-/

namespace BuilderGen.Lexer

open Grammar (NamePath)

/-- Characters and the parts that they fall apart into. -/
inductive Lexes : List Char → List Lexeme → Prop
  | nil : Lexes [] []
  | cons {chars : List Char} {lexeme : Lexeme} {length : Nat} {parts : List Lexeme}
      (hlexeme : lexeme? chars = some (lexeme, length)) (hlength : 0 < length)
      (hrest : Lexes (chars.drop length) parts) : Lexes chars (lexeme :: parts)

namespace Lexes

variable {chars tail : List Char} {parts : List Lexeme}

/-- Every part takes a character at least, so as many parts as characters are enough. -/
theorem lexemes_eq (h : Lexes chars parts) {fuel : Nat} (hfuel : chars.length ≤ fuel) :
    lexemes fuel chars = some parts := by
  induction h generalizing fuel with
  | nil => rw [lexemes]
  | @cons chars lexeme length parts hlexeme hlength hrest ih =>
      cases chars with
      | nil => cases hlexeme
      | cons c chars =>
          cases fuel with
          | zero => cases hfuel
          | succ fuel =>
              have hdrop : ((c :: chars).drop length).length ≤ fuel := by
                rw [List.length_drop, List.length_cons]
                rw [List.length_cons] at hfuel
                omega
              simp [lexemes, hlexeme, ih hdrop]

/-- A part in front of the others. -/
theorem part {piece : List Char} {lexeme : Lexeme} (hpiece : piece ≠ [])
    (hlexeme : lexeme? (piece ++ tail) = some (lexeme, piece.length)) (h : Lexes tail parts) :
    Lexes (piece ++ tail) (lexeme :: parts) := by
  refine .cons hlexeme (List.length_pos_iff.mpr hpiece) ?_
  rwa [List.drop_left]

end Lexes

/-! ## Single parts -/

section Parts

variable {tail : List Char} {parts : List Lexeme}

theorem exists_isIdentStart {text : String} (hword : isWord text = true) :
    ∃ c rest, text.toList = c :: rest ∧ Text.isIdentStart c = true := by
  rw [isWord] at hword
  generalize hchars : text.toList = chars at hword
  rw [isWordList.eq_def] at hword
  split at hword
  · rename_i name
    exact ⟨'r', '#' :: name, rfl, by decide⟩
  · cases chars with
    | nil => cases hword
    | cons c rest =>
        rw [isPlainWord, Bool.and_eq_true] at hword
        exact ⟨c, rest, rfl, hword.1⟩

/-- A word has neither blanks nor marks but the one of a raw identifier. -/
theorem mem_word {text : String} (hword : isWord text = true) {c : Char} (hc : c ∈ text.toList) :
    Text.isIdentStart c = true ∨ Text.isIdentContinue c = true ∨ c = '#' := by
  have hplain : ∀ name, isPlainWord name = true → ∀ c ∈ name,
      Text.isIdentStart c = true ∨ Text.isIdentContinue c = true ∨ c = '#' := by
    intro name hname c hc
    cases name with
    | nil => cases hname
    | cons d name =>
        rw [isPlainWord, Bool.and_eq_true] at hname
        rcases List.mem_cons.mp hc with rfl | hc
        · exact .inl hname.1
        · exact .inr (.inl (List.all_eq_true.mp hname.2 c hc))
  rw [isWord] at hword
  generalize text.toList = chars at hword hc
  rw [isWordList.eq_def] at hword
  split at hword
  · rename_i name
    rw [Bool.and_eq_true] at hword
    rcases List.mem_cons.mp hc with rfl | hc
    · exact .inl (by decide)
    · rcases List.mem_cons.mp hc with rfl | hc
      · exact .inr (.inr rfl)
      · exact hplain name hword.1 c hc
  · exact hplain chars hword c hc

theorem not_isBlank_of_isWord {text : String} (hword : isWord text = true) :
    ∀ c ∈ text.toList, isBlank c = false := by
  intro c hc
  cases hblank : isBlank c with
  | false => rfl
  | true =>
      obtain ⟨hcontinue, hstart⟩ := not_isIdent_of_isBlank hblank
      rcases mem_word hword hc with h | h | rfl
      · rw [hstart] at h
        cases h
      · rw [hcontinue] at h
        cases h
      · exact absurd hblank (by decide)

theorem leavesWord_colon (tail : List Char) : leavesWord (':' :: tail) = true := by
  have hcolon : Text.isIdentContinue ':' = false := by decide
  simp [leavesWord, hcolon]

theorem leavesWord_opening (tail : List Char) : leavesWord ('(' :: tail) = true := by
  have hopening : Text.isIdentContinue '(' = false := by decide
  simp [leavesWord, hopening]

theorem leavesWord_space (tail : List Char) : leavesWord (' ' :: tail) = true := by
  have hspace : Text.isIdentContinue ' ' = false := by decide
  simp [leavesWord, hspace]

theorem Lexes.word {text : String} (hword : isWord text = true) (htail : leavesWord tail = true)
    (h : Lexes tail parts) : Lexes (text.toList ++ tail) (.tokens [.word text] :: parts) := by
  obtain ⟨c, rest, hchars, _⟩ := exists_isIdentStart hword
  refine h.part ?_ (lexeme?_of_isWord hword htail)
  rw [hchars]
  exact List.cons_ne_nil c rest

theorem lexeme?_colon (rest : List Char) :
    lexeme? (':' :: rest) = some (.tokens [.mark ':' (startsWithMark rest)], 1) := by
  have hblank : isBlank ':' = false := by decide
  have hblanks : blankLength? (':' :: rest) = none := by
    simp [blankLength?, startsWith, hblank]
  have hdocumentation : documentation? (':' :: rest) = none := by
    simp [documentation?, startsWith]
  have hfloat : floatLength? (':' :: rest) = none := by
    simp [floatLength?, Text.isDigit]
  have hinteger : integerLength? (':' :: rest) = none := by
    have hvalue : Text.hexValue? ':' = none := by decide
    simp [integerLength?, startsWith, digitsLength, hvalue]
  have hliteral : literalLength? (':' :: rest) = none := by
    simp [literalLength?, quotedLength?, startsWith, hfloat, hinteger]
  have hmark : mark? (':' :: rest) = some (.mark ':' (startsWithMark rest)) := by
    have hmem : ':' ∈ marks := by decide
    simp [mark?, startsWithMark, hmem, startsWith]
  rw [lexeme?, hblanks]
  simp only
  rw [hdocumentation]
  simp [startsWith, errorMark, List.isPrefixOf, bracket?, hliteral, hmark]

/-- A separator in front of something that is no mark. -/
theorem Lexes.separator (hnext : startsWithMark tail = false) (h : Lexes tail parts) :
    Lexes (':' :: ':' :: tail)
      (.tokens [.mark ':' true] :: .tokens [.mark ':' false] :: parts) := by
  have hcolon : startsWithMark (':' :: tail) = true := by
    have hmem : ':' ∈ marks := by decide
    simp [startsWithMark, hmem, startsWith, List.isPrefixOf]
  refine .cons ?_ Nat.one_pos (.cons ?_ Nat.one_pos h)
  · rw [lexeme?_colon, hcolon]
  · rw [List.drop_succ_cons, List.drop_zero, lexeme?_colon, hnext]

theorem Lexes.space (h : Lexes tail parts) : Lexes (' ' :: tail) (.blank :: parts) := by
  refine .cons ?_ Nat.one_pos h
  have hblank : isBlank ' ' = true := by decide
  have hblanks : blankLength? (' ' :: tail) = some 1 := by
    simp [blankLength?, startsWith, hblank]
  rw [lexeme?, hblanks]

/-- An opening parenthesis, where no comment comes next. -/
theorem Lexes.opening (hnext : tail.head? ≠ some '/') (h : Lexes tail parts) :
    Lexes ('(' :: tail) (.opening .parenthesis :: parts) := by
  refine .cons ?_ Nat.one_pos h
  have hblank : isBlank '(' = false := by decide
  have hblanks : blankLength? ('(' :: tail) = none := by
    simp [blankLength?, startsWith, hblank]
  have hdocumentation : documentation? ('(' :: tail) = none := by
    simp [documentation?, startsWith]
  have herror : startsWith errorMark ('(' :: tail) = false := by
    cases tail with
    | nil => simp [startsWith, errorMark, List.isPrefixOf]
    | cons d tail =>
        have hd : '/' ≠ d := by
          rintro rfl
          exact hnext rfl
        simp [startsWith, errorMark, List.isPrefixOf, hd]
  rw [lexeme?, hblanks]
  simp only
  rw [hdocumentation]
  simp [herror, bracket?]

theorem Lexes.closing (h : Lexes tail parts) : Lexes (')' :: tail) (.closing .parenthesis :: parts) := by
  refine .cons ?_ Nat.one_pos h
  have hblank : isBlank ')' = false := by decide
  have hblanks : blankLength? (')' :: tail) = none := by
    simp [blankLength?, startsWith, hblank]
  have hdocumentation : documentation? (')' :: tail) = none := by
    simp [documentation?, startsWith]
  rw [lexeme?, hblanks]
  simp only
  rw [hdocumentation]
  simp [startsWith, errorMark, List.isPrefixOf, bracket?]

end Parts

/-! ## Paths of names -/

section Paths

variable {path : NamePath} {names : List String} {tail : List Char} {parts : List Lexeme}

/-- Parts that hold one token each. -/
def single (tokens : List Token) : List Lexeme :=
  tokens.map fun token => .tokens [token]

@[simp] theorem single_cons (token : Token) (tokens : List Token) :
    single (token :: tokens) = .tokens [token] :: single tokens := rfl

theorem toList_join_start (hnames : names ≠ []) (hwords : ∀ name ∈ names, isWord name = true) :
    ∃ c rest, (Segments.join names).toList = c :: rest ∧ Text.isIdentStart c = true := by
  cases names with
  | nil => exact absurd rfl hnames
  | cons name names =>
      obtain ⟨c, rest, hchars, hstart⟩ := exists_isIdentStart (hwords name List.mem_cons_self)
      by_cases hnil : names = []
      · subst hnil
        exact ⟨c, rest, by rw [Segments.join, String.intercalate_singleton, hchars], hstart⟩
      · rw [Segments.toList_join_cons name hnil, hchars]
        exact ⟨c, _, rfl, hstart⟩

theorem lexes_join (hnames : names ≠ []) (hwords : ∀ name ∈ names, isWord name = true)
    (htail : leavesWord tail = true) (h : Lexes tail parts) :
    Lexes ((Segments.join names).toList ++ tail) (single (NamePath.namesTokens names) ++ parts) := by
  induction names with
  | nil => exact absurd rfl hnames
  | cons name names ih =>
      obtain ⟨hname, hrest⟩ := List.forall_mem_cons.mp hwords
      cases names with
      | nil =>
          rw [Segments.join, String.intercalate_singleton]
          exact h.word hname htail
      | cons next names =>
          have hmore : next :: names ≠ [] := List.cons_ne_nil next names
          obtain ⟨c, chars, hchars, hstart⟩ := toList_join_start hmore hrest
          have hlater := ih hmore hrest
          rw [Segments.toList_join_cons name hmore, List.append_assoc]
          refine Lexes.word hname (leavesWord_colon _) (Lexes.separator ?_ hlater)
          rw [hchars]
          exact startsWithMark_of_isIdentStart hstart _

theorem toList_text_leading (names : List String) :
    (NamePath.text ⟨true, names⟩).toList = ':' :: ':' :: (Segments.join names).toList := by
  rw [NamePath.text, if_pos rfl, String.toList_append]
  rfl

/-- The text of a path of names falls apart into the tokens of the path. -/
theorem lexes_text (hnames : path.names ≠ []) (hwords : ∀ name ∈ path.names, isWord name = true)
    (htail : leavesWord tail = true) (h : Lexes tail parts) :
    Lexes (path.text.toList ++ tail) (single path.tokens ++ parts) := by
  obtain ⟨leading, names⟩ := path
  have hjoin := lexes_join hnames hwords htail h
  cases leading with
  | false =>
      rw [NamePath.text, if_neg Bool.false_ne_true, String.empty_append]
      exact hjoin
  | true =>
      obtain ⟨c, chars, hchars, hstart⟩ := toList_join_start hnames hwords
      have hseparated : Lexes (':' :: ':' :: ((Segments.join names).toList ++ tail))
          (.tokens [.mark ':' true] :: .tokens [.mark ':' false] ::
            (single (NamePath.namesTokens names) ++ parts)) := by
        refine Lexes.separator ?_ hjoin
        rw [hchars]
        exact startsWithMark_of_isIdentStart hstart _
      rw [toList_text_leading]
      exact hseparated

/-- No comment starts a path. -/
theorem head?_text_ne_slash (hnames : path.names ≠ []) (hwords : ∀ name ∈ path.names, isWord name = true)
    (tail : List Char) : (path.text.toList ++ tail).head? ≠ some '/' := by
  obtain ⟨leading, names⟩ := path
  cases leading with
  | false =>
      obtain ⟨c, chars, hchars, hstart⟩ := toList_join_start hnames hwords
      rw [NamePath.text, if_neg Bool.false_ne_true, String.empty_append, ← Segments.join, hchars]
      rintro ⟨⟩
      exact absurd hstart (by decide)
  | true =>
      rw [toList_text_leading]
      simp

end Paths

/-! ## Tokens of a text -/

theorem assemble_single (tokens : List Token) (parts : List Lexeme) (outer : List (Delimiter × List Token))
    (before : List Token) :
    assemble (single tokens ++ parts) outer before = assemble parts outer (tokens.reverse ++ before) := by
  induction tokens generalizing before with
  | nil => rfl
  | cons token tokens ih =>
      rw [single_cons, List.cons_append, assemble, ih]
      simp

theorem tokenize_eq {text : String} {parts : List Lexeme} (h : Lexes (dropByteOrderMark text.toList) parts) :
    tokenize text = assemble parts [] [] := by
  rw [tokenize]
  simp only [h.lexemes_eq (Nat.le_refl _), Option.bind_some]

/-- No byte order mark starts a word. -/
theorem dropByteOrderMark_of_isIdentStart {c : Char} (hstart : Text.isIdentStart c = true) (rest : List Char) :
    dropByteOrderMark (c :: rest) = c :: rest := by
  rw [dropByteOrderMark, if_neg]
  intro hmark
  have hrange : Text.inRanges Text.Table.identStart 0xfeff = false ∧ 0xfeff ≠ '_'.toNat := by decide +kernel
  have hne : c ≠ '_' := fun heq => hrange.2 (by rw [← hmark, heq])
  rw [Text.isIdentStart, hmark, hrange.1, Bool.or_false, beq_eq_false_iff_ne.mpr hne] at hstart
  cases hstart

theorem dropByteOrderMark_text {path : NamePath} (hnames : path.names ≠ [])
    (hwords : ∀ name ∈ path.names, isWord name = true) (tail : List Char) :
    dropByteOrderMark (path.text.toList ++ tail) = path.text.toList ++ tail := by
  obtain ⟨leading, names⟩ := path
  obtain ⟨c, chars, hchars, hstart⟩ := toList_join_start hnames hwords
  cases leading with
  | false =>
      have htext : (NamePath.text ⟨false, names⟩).toList = c :: chars := by
        rw [NamePath.text, if_neg Bool.false_ne_true, String.empty_append]
        exact hchars
      rw [htext]
      exact dropByteOrderMark_of_isIdentStart hstart _
  | true =>
      rw [toList_text_leading]
      rfl

theorem tokenize_text {path : NamePath} (hnames : path.names ≠ [])
    (hwords : ∀ name ∈ path.names, isWord name = true) : tokenize path.text = some path.tokens := by
  have hlexes := lexes_text hnames hwords rfl .nil
  rw [← dropByteOrderMark_text hnames hwords [], List.append_nil] at hlexes
  rw [tokenize_eq hlexes, assemble_single, List.append_nil, assemble, List.reverse_reverse]

theorem tokenize_word {text : String} (hword : isWord text = true) : tokenize text = some [.word text] := by
  have htext : NamePath.text { names := [text] } = text := by
    rw [NamePath.text, if_neg Bool.false_ne_true, String.empty_append, String.intercalate_singleton]
  have htokens := @tokenize_text { names := [text] } (List.cons_ne_nil text []) (List.forall_mem_singleton.mpr hword)
  rwa [htext] at htokens

end BuilderGen.Lexer

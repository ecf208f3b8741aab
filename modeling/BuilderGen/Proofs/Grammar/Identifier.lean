import BuilderGen.Proofs.Grammar.Names
import BuilderGen.Proofs.Token.Lexical
import BuilderGen.Proofs.Token.Trim

/-!
# Identifiers made from others

The name of a builder is an identifier when it is made from the name of its target, and also when it is a requested
identifier without the blanks around it.
-/

namespace BuilderGen.Grammar

section Trim

variable {text name : String}

/-- An identifier is a text whose only token is a word that is no keyword. -/
theorem identOfText?_eq_ok :
    identOfText? text = .ok name ↔ Lexer.tokenize text = some [.word name] ∧ name ∉ keywords := by
  rw [identOfText?, readText_eq_ok]
  constructor
  · rintro ⟨tokens, htokens, hident⟩
    unfold ident at hident
    split at hident
    · split at hident
      · rename_i hplain
        cases hident
        exact ⟨htokens, hplain⟩
      · cases hident
    · cases hident
  · rintro ⟨htokens, hplain⟩
    exact ⟨_, htokens, by simp [ident, hplain]⟩

/-- What a text is read as is an identifier. -/
theorem isIdentifier_of_identOfText? (h : identOfText? text = .ok name) : isIdentifier name = true := by
  obtain ⟨htokens, hplain⟩ := identOfText?_eq_ok.mp h
  have hword : Lexer.isWord name = true := (Lexical.cons_iff.mp (Lexer.lexical_tokenize htokens)).1
  rw [isIdentifier, hword, decide_eq_true hplain]
  rfl

/-- Blanks around an identifier do not count. -/
theorem identOfText?_trim (h : identOfText? text = .ok name) : identOfText? (Text.trim text) = .ok name := by
  obtain ⟨htokens, hplain⟩ := identOfText?_eq_ok.mp h
  exact identOfText?_eq_ok.mpr ⟨Lexer.tokenize_trim htokens, hplain⟩

end Trim

section Ending

variable {name : String}

/-- Letters behind a word make it a longer word. -/
theorem isPlainWord_append {chars more : List Char} (hchars : Lexer.isPlainWord chars = true)
    (hmore : more.all Text.isIdentContinue = true) : Lexer.isPlainWord (chars ++ more) = true := by
  cases chars with
  | nil => cases hchars
  | cons c chars =>
      rw [Lexer.isPlainWord, Bool.and_eq_true] at hchars
      rw [List.cons_append, Lexer.isPlainWord, List.all_append, hchars.1, hchars.2, hmore]
      rfl

/-- No keyword ends like the name of a builder. -/
theorem concat_builder_notMem (chars : List Char) :
    String.ofList (chars ++ "Builder".toList) ∉ keywords ++ Lexer.neverRaw := by
  have hall : ∀ keyword ∈ keywords ++ Lexer.neverRaw, ¬"Builder".toList <:+ keyword.toList := by decide
  intro hmem
  refine hall _ hmem ?_
  rw [@String.toList_ofList (chars ++ "Builder".toList)]
  exact List.suffix_append chars "Builder".toList

/-- The name of a builder that goes by the name of its target is an identifier. -/
theorem isIdentifier_builder (h : isIdentifier name = true) : isIdentifier (name ++ "Builder") = true := by
  have hword := isWord_of_isIdentifier h
  have hending : "Builder".toList.all Text.isIdentContinue = true := by decide
  have hplain : name ++ "Builder" ∉ keywords := by
    have hnot := concat_builder_notMem name.toList
    rw [← String.toList_append, String.ofList_toList] at hnot
    exact fun hmem => hnot (List.mem_append_left _ hmem)
  have hlonger : Lexer.isWord (name ++ "Builder") = true := by
    rw [Lexer.isWord] at hword ⊢
    rw [String.toList_append]
    generalize name.toList = chars at hword
    rw [Lexer.isWordList.eq_def] at hword
    split at hword
    · rename_i raw
      rw [Bool.and_eq_true] at hword
      have hraw : String.ofList (raw ++ "Builder".toList) ∉ Lexer.neverRaw := fun hmem =>
        concat_builder_notMem raw (List.mem_append_right _ hmem)
      rw [List.cons_append, List.cons_append, Lexer.isWordList, isPlainWord_append hword.1 hending,
        decide_eq_true hraw]
      rfl
    · exact Lexer.isWordList_of_isPlainWord (isPlainWord_append hword hending)
  rw [isIdentifier, hlonger, decide_eq_true hplain]
  rfl

end Ending

end BuilderGen.Grammar

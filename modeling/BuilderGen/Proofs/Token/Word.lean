import BuilderGen.Grammar.Parser

/-!
# Words

A word is what the lexer takes for an identifier or a keyword: letters in the sense of Unicode, also behind `r#`.
Where a word is followed by nothing that could belong to it, the lexer reads exactly this word, whatever else a text
may start with.
-/

namespace BuilderGen.Lexer

/-! ## Characters of words -/

/-- Whether characters are an identifier or a keyword without `r#` in front. -/
def isPlainWord : List Char → Bool
  | [] => false
  | c :: rest => Text.isIdentStart c && rest.all Text.isIdentContinue

/-- Whether characters are an identifier or a keyword. -/
def isWordList : List Char → Bool
  | 'r' :: '#' :: name => isPlainWord name && decide (String.ofList name ∉ neverRaw)
  | chars => isPlainWord chars

/-- Whether a text is an identifier or a keyword. -/
def isWord (text : String) : Bool :=
  isWordList text.toList

/-- Whether what follows a word leaves it alone. -/
def leavesWord : List Char → Bool
  | [] => true
  | c :: _ => !Text.isIdentContinue c && c ∉ ['"', '\'', '#']

section Character

variable {c : Char}

/-- The characters that stand in no word: a quote, the slash of a comment, brackets and marks. -/
def outsideWords : List Char :=
  '"' :: '/' :: '(' :: '[' :: '\x7b' :: ')' :: ']' :: '\x7d' :: marks

theorem not_isIdent_of_mem (hc : c ∈ outsideWords) :
    Text.isIdentContinue c = false ∧ Text.isIdentStart c = false := by
  have hall : (outsideWords.all fun c => !Text.isIdentContinue c && !Text.isIdentStart c) = true := by
    decide
  have hother := List.all_eq_true.mp hall c hc
  rwa [Bool.and_eq_true, Bool.not_eq_true', Bool.not_eq_true'] at hother

/-- The code points of blanks between tokens. -/
def blankPoints : List Nat :=
  [0x9, 0xa, 0xb, 0xc, 0xd, 0x20, 0x85, 0xa0, 0x1680, 0x2000, 0x2001, 0x2002, 0x2003, 0x2004, 0x2005, 0x2006, 0x2007,
    0x2008, 0x2009, 0x200a, 0x200e, 0x200f, 0x2028, 0x2029, 0x202f, 0x205f, 0x3000]

theorem exists_range_of_inRanges {ranges : List (Nat × Nat)} {point : Nat}
    (h : Text.inRanges ranges point = true) : ∃ range ∈ ranges, range.1 ≤ point ∧ point ≤ range.2 := by
  induction ranges with
  | nil => cases h
  | cons range rest ih =>
      rw [Text.inRanges] at h
      by_cases hfirst : point < range.1
      · rw [if_pos hfirst] at h
        cases h
      · rw [if_neg hfirst, Bool.or_eq_true, decide_eq_true_iff] at h
        rcases h with hlast | hrest
        · exact ⟨range, List.mem_cons_self, Nat.le_of_not_lt hfirst, hlast⟩
        · obtain ⟨other, hother, hbounds⟩ := ih hrest
          exact ⟨other, List.mem_cons_of_mem range hother, hbounds⟩

theorem mem_blankPoints (hblank : isBlank c = true) : c.toNat ∈ blankPoints := by
  rw [isBlank, Bool.or_eq_true, Bool.or_eq_true, beq_iff_eq, beq_iff_eq] at hblank
  rcases hblank with (hblank | hpoint) | hpoint
  · obtain ⟨range, hrange, hfirst, hlast⟩ := exists_range_of_inRanges hblank
    have hall : ∀ range ∈ [(0x9, 0xd), (0x20, 0x20), (0x85, 0x85), (0xa0, 0xa0), (0x1680, 0x1680),
        (0x2000, 0x200a), (0x2028, 0x2029), (0x202f, 0x202f), (0x205f, 0x205f), (0x3000, 0x3000)],
        ∀ point ∈ List.range' range.1 (range.2 + 1 - range.1), point ∈ blankPoints := by
      decide
    refine hall range hrange c.toNat (List.mem_range'_1.mpr ⟨hfirst, ?_⟩)
    omega
  · rw [hpoint]
    decide
  · rw [hpoint]
    decide

/-- No blank is part of a word. -/
theorem not_isIdent_of_isBlank (hblank : isBlank c = true) :
    Text.isIdentContinue c = false ∧ Text.isIdentStart c = false := by
  have hall : ∀ point ∈ blankPoints, Text.inRanges Text.Table.identContinue point = false ∧
      Text.inRanges Text.Table.identStart point = false ∧ point ≠ '_'.toNat := by
    decide +kernel
  obtain ⟨hcontinue, hstart, hline⟩ := hall c.toNat (mem_blankPoints hblank)
  have hne : c ≠ '_' := fun heq => hline (congrArg Char.toNat heq)
  exact ⟨hcontinue, by rw [Text.isIdentStart, hstart, Bool.or_false, beq_eq_false_iff_ne.mpr hne]⟩

end Character

/-! ## The lexer at a word -/

section Lexeme

variable {c d : Char} {rest tail : List Char}

/-- Characters that cannot go on with a quoted literal. -/
def unquoted : List Char → Bool
  | [] => true
  | c :: _ => c ∉ ['"', '\'', '#']

theorem rawLength_of_unquoted (alphabet : Alphabet) (h : unquoted rest = true) : rawLength alphabet rest = none := by
  cases rest with
  | nil => rfl
  | cons c rest =>
      rw [unquoted, decide_eq_true_iff] at h
      simp only [List.mem_cons, List.not_mem_nil, or_false, not_or] at h
      simp [rawLength, h]

/-- No quoted literal starts with a letter, unless the letters in front of the quote are just those of a prefix. -/
theorem quotedLength?_eq_none (hc : c ≠ '"' ∧ c ≠ '\'') (hraw : c = 'r' → rawLength .text rest = none)
    (hrest : c ≠ 'r' → unquoted rest = true) (hnext : c ≠ 'r' → ∀ more, rest = 'r' :: more → unquoted more = true) :
    quotedLength? (c :: rest) = none := by
  have hone : "r".length = 1 := rfl
  have htwo : "br".length = 2 ∧ "cr".length = 2 := ⟨rfl, rfl⟩
  by_cases hr : c = 'r'
  · subst hr
    simp [quotedLength?, startsWith, hone, hraw rfl]
  · have hrest := hrest hr
    have hfirst : ∀ more, rest ≠ '"' :: more ∧ rest ≠ '\'' :: more := by
      intro more
      refine ⟨?_, ?_⟩ <;> rintro rfl <;> simp [unquoted] at hrest
    cases rest with
    | nil => simp [quotedLength?, startsWith, Ne.symm hc.1, Ne.symm hc.2, Ne.symm hr]
    | cons d more =>
        have hd : '"' ≠ d ∧ '\'' ≠ d := by
          refine ⟨?_, ?_⟩
          · rintro rfl
            exact (hfirst more).1 rfl
          · rintro rfl
            exact (hfirst more).2 rfl
        by_cases hdr : d = 'r'
        · subst hdr
          have hmore := hnext hr more rfl
          simp [quotedLength?, startsWith, Ne.symm hc.1, Ne.symm hc.2, Ne.symm hr, htwo,
            rawLength_of_unquoted _ hmore]
        · simp [quotedLength?, startsWith, Ne.symm hc.1, Ne.symm hc.2, Ne.symm hr, hd, Ne.symm hdr]

theorem not_isDigit_of_isIdentStart (hstart : Text.isIdentStart c = true) : Text.isDigit c = false := by
  cases hdigit : Text.isDigit c with
  | false => rfl
  | true =>
      rw [Text.isDigit, Bool.and_eq_true, decide_eq_true_iff, decide_eq_true_iff, Char.le_def, Char.le_def,
        UInt32.le_iff_toNat_le, UInt32.le_iff_toNat_le] at hdigit
      have hall : ∀ point ∈ List.range' 48 10, Text.inRanges Text.Table.identStart point = false ∧
          point ≠ '_'.toNat := by
        decide
      obtain ⟨hrange, hline⟩ := hall c.toNat (List.mem_range'_1.mpr ⟨hdigit.1, Nat.lt_succ_of_le hdigit.2⟩)
      have hne : c ≠ '_' := fun heq => hline (congrArg Char.toNat heq)
      rw [Text.isIdentStart, hrange, Bool.or_false, beq_eq_false_iff_ne.mpr hne] at hstart
      cases hstart

/-- A hexadecimal digit that is no decimal one is worth ten or more. -/
theorem ten_le_hexValue {value : Nat} (hvalue : Text.hexValue? c = some value) (hdigit : Text.isDigit c = false) :
    10 ≤ value := by
  have hlow : ¬('0' ≤ c ∧ c ≤ '9') := by
    rintro ⟨hfirst, hlast⟩
    simp [Text.isDigit, hfirst, hlast] at hdigit
  rw [Text.hexValue?, if_neg hlow] at hvalue
  split at hvalue
  · rename_i hlower
    have hfirst : 97 ≤ c.toNat := hlower.1
    have heq := Option.some.inj hvalue
    omega
  · split at hvalue
    · rename_i hupper
      have hfirst : 65 ≤ c.toNat := hupper.1
      have heq := Option.some.inj hvalue
      omega
    · cases hvalue

/-- No number starts with the start of an identifier. -/
theorem numberLengths_eq_none (hstart : Text.isIdentStart c = true) :
    floatLength? (c :: rest) = none ∧ integerLength? (c :: rest) = none := by
  have hzero : c ≠ '0' := by
    rintro rfl
    exact absurd hstart (by decide)
  have hdigit := not_isDigit_of_isIdentStart hstart
  have hstarts : startsWith "0x" (c :: rest) = false ∧ startsWith "0o" (c :: rest) = false ∧
      startsWith "0b" (c :: rest) = false := by
    simp [startsWith, List.isPrefixOf, Ne.symm hzero]
  constructor
  · simp [floatLength?, hdigit]
  · rw [integerLength?, hstarts.1, hstarts.2.1, hstarts.2.2]
    have hlength : digitsLength 10 true (c :: rest) = none ∨ digitsLength 10 true (c :: rest) = some (0, true) := by
      rw [digitsLength]
      split
      · exact .inl (by simp)
      · split
        · split
          · rename_i value hvalue hsmall
            exact absurd hsmall (Nat.not_lt.mpr (ten_le_hexValue hvalue hdigit))
          · simp [hdigit]
        · exact .inr rfl
    rcases hlength with hnone | hzero
    · simp [hnone]
    · simp [hzero]

/-! ### Words -/

/-- What goes on behind the first letter of a word in a text. -/
theorem unquoted_of_leavesWord {name : List Char} (hname : name.all Text.isIdentContinue = true)
    (htail : leavesWord tail = true) : unquoted (name ++ tail) = true := by
  cases name with
  | nil =>
      cases tail with
      | nil => rfl
      | cons d tail =>
          rw [leavesWord, Bool.and_eq_true] at htail
          exact htail.2
  | cons d name =>
      rw [List.all_cons, Bool.and_eq_true] at hname
      rw [List.cons_append, unquoted, decide_eq_true_iff]
      intro hd
      have hmark : d ∈ outsideWords := by
        simp only [List.mem_cons, List.not_mem_nil, or_false] at hd
        rcases hd with rfl | rfl | rfl <;> decide
      rw [(not_isIdent_of_mem hmark).1] at hname
      cases hname.1

/-- The length of the letters of a word in a text. -/
theorem wordLength_append {name : List Char} (hname : isPlainWord name = true) (htail : leavesWord tail = true) :
    wordLength (name ++ tail) = name.length := by
  cases name with
  | nil => cases hname
  | cons d name =>
      rw [isPlainWord, Bool.and_eq_true] at hname
      have hstop : tail.takeWhile Text.isIdentContinue = [] := by
        cases tail with
        | nil => rfl
        | cons d tail =>
            rw [leavesWord, Bool.and_eq_true, Bool.not_eq_true'] at htail
            rw [List.takeWhile_cons_of_neg (by rw [htail.1]; exact Bool.false_ne_true)]
      rw [List.cons_append, wordLength, if_pos hname.1,
        List.takeWhile_append_of_pos (List.all_eq_true.mp hname.2), hstop, List.append_nil, List.length_cons]

theorem startsWithMark_of_isIdentStart (hstart : Text.isIdentStart c = true) (rest : List Char) :
    startsWithMark (c :: rest) = false := by
  have hmem : c ∉ marks := by
    intro hc
    rw [(not_isIdent_of_mem (by simp [outsideWords, hc])).2] at hstart
    cases hstart
  simp [startsWithMark, hmem]

/-- Nothing but a word starts with the start of an identifier, unless a quoted literal does. -/
theorem lexeme?_of_isIdentStart (hstart : Text.isIdentStart c = true) (hquoted : quotedLength? (c :: rest) = none) :
    lexeme? (c :: rest) = (nameLength? (c :: rest)).map fun length =>
      (.tokens [.word (String.ofList ((c :: rest).take length))], length) := by
  have hne : ∀ d ∈ outsideWords, d ≠ c := by
    rintro d hd rfl
    rw [(not_isIdent_of_mem hd).2] at hstart
    cases hstart
  have hblank : isBlank c = false := by
    cases hblank : isBlank c with
    | false => rfl
    | true =>
        rw [(not_isIdent_of_isBlank hblank).2] at hstart
        cases hstart
  have hslash : '/' ≠ c := hne '/' (by decide)
  have hblanks : blankLength? (c :: rest) = none := by
    simp [blankLength?, startsWith, hslash, hblank]
  have hdocumentation : documentation? (c :: rest) = none := by
    simp [documentation?, startsWith, hslash]
  have herror : startsWith errorMark (c :: rest) = false := by
    simp [startsWith, errorMark, List.isPrefixOf, hne '(' (by decide)]
  have hbracket : bracket? c = none := by
    have hbrackets := fun d hd => Ne.symm (hne d hd)
    unfold bracket?
    split <;> first | rfl | exact absurd rfl (hbrackets _ (by decide))
  have hliteral : literalLength? (c :: rest) = none := by
    rw [literalLength?, hquoted, (numberLengths_eq_none hstart).1, (numberLengths_eq_none hstart).2]
    rfl
  have hmark : mark? (c :: rest) = none := by
    simp [mark?, startsWithMark_of_isIdentStart hstart]
  rw [lexeme?, hblanks]
  simp only
  rw [hdocumentation]
  simp only
  rw [herror, if_neg Bool.false_ne_true, List.head?_cons, Option.bind_some, hbracket]
  simp only
  rw [hliteral, hmark]

/-- The second and the third character tell a word from the start of a literal. -/
theorem not_startsLiteral (c : Char) (hrest : unquoted rest = true)
    (hnext : ∀ more, rest = 'r' :: more → unquoted more = true) :
    literalStarts.any (startsWith · (c :: rest)) = false := by
  cases rest with
  | nil => simp [literalStarts, startsWith, List.isPrefixOf]
  | cons d more =>
      have hd : d ∉ ['"', '\'', '#'] := by simpa [unquoted] using hrest
      simp only [List.mem_cons, List.not_mem_nil, or_false, not_or] at hd
      obtain ⟨hdouble, hsingle, hhash⟩ := hd
      by_cases hr : d = 'r'
      · subst hr
        have hmore := hnext more rfl
        cases more with
        | nil => simp [literalStarts, startsWith, List.isPrefixOf]
        | cons e more =>
            have he : e ∉ ['"', '\'', '#'] := by simpa [unquoted] using hmore
            simp only [List.mem_cons, List.not_mem_nil, or_false, not_or] at he
            simp [literalStarts, startsWith, List.isPrefixOf, Ne.symm he.1, Ne.symm he.2.2]
      · simp [literalStarts, startsWith, List.isPrefixOf, Ne.symm hdouble, Ne.symm hsingle, Ne.symm hhash,
          Ne.symm hr]

theorem not_startsRaw (c : Char) (hrest : unquoted rest = true) : startsWith "r#" (c :: rest) = false := by
  cases rest with
  | nil => simp [startsWith, List.isPrefixOf]
  | cons d more =>
      have hd : '#' ≠ d := by
        rintro rfl
        cases hrest
      simp [startsWith, List.isPrefixOf, hd]

/-- A word without `r#` is read as such. -/
theorem lexeme?_of_isPlainWord {name : List Char} (hname : isPlainWord name = true) (htail : leavesWord tail = true) :
    lexeme? (name ++ tail) = some (.tokens [.word (String.ofList name)], name.length) := by
  have hlength := wordLength_append hname htail
  cases name with
  | nil => cases hname
  | cons c name =>
      rw [isPlainWord, Bool.and_eq_true] at hname
      obtain ⟨hstart, hall⟩ := hname
      have hrest : unquoted (name ++ tail) = true := unquoted_of_leavesWord hall htail
      have hmore : ∀ d more, name ++ tail = d :: more → Text.isIdentContinue d = true → unquoted more = true := by
        intro d more heq hd
        cases name with
        | nil =>
            rw [List.nil_append] at heq
            rw [heq, leavesWord, hd] at htail
            cases htail
        | cons e name =>
            rw [List.cons_append, List.cons.injEq] at heq
            rw [← heq.2]
            rw [List.all_cons, Bool.and_eq_true] at hall
            exact unquoted_of_leavesWord hall.2 htail
      have hquoted : quotedLength? (c :: (name ++ tail)) = none := by
        refine quotedLength?_eq_none ⟨?_, ?_⟩ (fun _ => rawLength_of_unquoted .text hrest) (fun _ => hrest) ?_
        · rintro rfl
          exact absurd hstart (by decide)
        · rintro rfl
          exact absurd hstart (by decide)
        · exact fun _ more heq => hmore 'r' more heq (by decide)
      have hliterals := not_startsLiteral c hrest fun more heq => hmore 'r' more heq (by decide)
      have hraw : startsWith "r#" (c :: (name ++ tail)) = false := not_startsRaw c hrest
      rw [List.cons_append] at hlength ⊢
      rw [lexeme?_of_isIdentStart hstart hquoted, nameLength?, hliterals, if_neg Bool.false_ne_true, identLength?,
        hraw, if_neg Bool.false_ne_true, hlength]
      simp only [List.length_cons, if_neg (Nat.succ_ne_zero name.length), Option.map_some, List.take_succ_cons,
        List.take_left]

/-- A raw identifier is read as such. -/
theorem lexeme?_of_rawName {name : List Char} (hname : isPlainWord name = true)
    (hraw : String.ofList name ∉ neverRaw) (htail : leavesWord tail = true) :
    lexeme? ('r' :: '#' :: (name ++ tail)) =
      some (.tokens [.word (String.ofList ('r' :: '#' :: name))], name.length + 2) := by
  have hlength := wordLength_append hname htail
  cases name with
  | nil => cases hname
  | cons c name =>
      rw [isPlainWord, Bool.and_eq_true] at hname
      have hne : c ≠ '"' ∧ c ≠ '#' := by
        refine ⟨?_, ?_⟩ <;> rintro rfl <;> exact absurd hname.1 (by decide)
      have hquoted : quotedLength? ('r' :: '#' :: (c :: name ++ tail)) = none := by
        refine quotedLength?_eq_none (by decide) (fun _ => ?_) (fun h => absurd rfl h) (fun h => absurd rfl h)
        simp [rawLength, hne]
      have hliterals : literalStarts.any (startsWith · ('r' :: '#' :: (c :: name ++ tail))) = false := by
        simp [literalStarts, startsWith, List.isPrefixOf, Ne.symm hne.1, Ne.symm hne.2]
      have hstarts : startsWith "r#" ('r' :: '#' :: (c :: name ++ tail)) = true := by
        simp [startsWith, List.isPrefixOf]
      rw [lexeme?_of_isIdentStart (by decide) hquoted, nameLength?, hliterals, if_neg Bool.false_ne_true,
        identLength?, hstarts, if_pos rfl]
      simp only [List.drop_succ_cons, List.drop_zero, hlength, List.take_left]
      have hsome : ¬((c :: name).length = 0 ∨ String.ofList (c :: name) ∈ neverRaw) :=
        not_or.mpr ⟨Nat.succ_ne_zero name.length, hraw⟩
      rw [if_neg hsome, Option.map_some,
        List.take_succ_cons, List.take_succ_cons, List.take_left]

/-- A word is read as one token, whatever follows it that cannot belong to it. -/
theorem lexeme?_of_isWord {text : String} (hword : isWord text = true) (htail : leavesWord tail = true) :
    lexeme? (text.toList ++ tail) = some (.tokens [.word text], text.toList.length) := by
  rw [isWord] at hword
  generalize hchars : text.toList = chars at hword ⊢
  have htext : text = String.ofList chars := by rw [← hchars, String.ofList_toList]
  rw [isWordList.eq_def] at hword
  split at hword
  · rename_i name
    rw [Bool.and_eq_true, decide_eq_true_iff] at hword
    rw [htext]
    exact lexeme?_of_rawName hword.1 hword.2 htail
  · rw [htext]
    exact lexeme?_of_isPlainWord hword htail

/-! ### Names that were read -/

theorem isWordList_of_isPlainWord {chars : List Char} (hplain : isPlainWord chars = true) :
    isWordList chars = true := by
  rw [isWordList.eq_def]
  split
  · have hhash : Text.isIdentContinue '#' = false := by decide
    rw [isPlainWord, List.all_cons, hhash, Bool.false_and, Bool.and_false] at hplain
    cases hplain
  · exact hplain

theorem isPlainWord_take_wordLength {chars : List Char} (hlength : wordLength chars ≠ 0) :
    isPlainWord (chars.take (wordLength chars)) = true := by
  cases chars with
  | nil => exact absurd rfl hlength
  | cons c rest =>
      rw [wordLength] at hlength ⊢
      split
      · rename_i hstart
        have htake := List.prefix_iff_eq_take.mp (List.takeWhile_prefix Text.isIdentContinue (l := rest))
        have hall : (rest.takeWhile Text.isIdentContinue).all Text.isIdentContinue = true :=
          List.all_takeWhile
        rw [List.take_succ_cons, ← htake, isPlainWord, hstart, hall]
        rfl
      · rename_i hstart
        rw [if_neg hstart] at hlength
        exact absurd rfl hlength

/-- What is read as a name is a word. -/
theorem isWordList_of_nameLength? {chars : List Char} {length : Nat} (h : nameLength? chars = some length) :
    isWordList (chars.take length) = true := by
  rw [nameLength?] at h
  split at h
  · cases h
  · rw [identLength?] at h
    split at h
    · rename_i hraw
      obtain ⟨rest, hrest⟩ := List.isPrefixOf_iff_prefix.mp hraw
      have hchars : chars = 'r' :: '#' :: rest := hrest.symm
      subst hchars
      simp only [List.drop_succ_cons, List.drop_zero] at h
      split at h
      · cases h
      · rename_i hname
        cases h
        rw [not_or] at hname
        rw [List.take_succ_cons, List.take_succ_cons, isWordList, isPlainWord_take_wordLength hname.1,
          decide_eq_true hname.2]
        rfl
    · rename_i hraw
      simp only at h
      split at h
      · cases h
      · rename_i hname
        cases h
        exact isWordList_of_isPlainWord (isPlainWord_take_wordLength hname)

end Lexeme

end BuilderGen.Lexer

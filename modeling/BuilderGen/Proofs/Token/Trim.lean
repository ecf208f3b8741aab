import BuilderGen.Proofs.Text.LastSegment
import BuilderGen.Proofs.Token.Lone

/-!
# Trimming texts of one word

A text whose only token is a word still has it when the blanks at its ends are taken away, although a blank at the
end may belong to a comment.  Blanks go one by one: in front each of them is a part of its own, and at the end each of
them is one, or ends a line, or lies in the line that a comment runs to.
-/

namespace BuilderGen.Lexer

/-! ## A blank at the end -/

section Last

variable {chars : List Char} {b : Char}

theorem ne_of_isBlank (hb : isBlank b = true) : b ≠ '/' ∧ b ≠ '*' := by
  constructor <;> rintro rfl <;> exact absurd hb (by decide)

theorem startsWith_concat {start : String} (hb : b ∉ start.toList) (chars : List Char) :
    startsWith start (chars ++ [b]) = startsWith start chars := by
  rw [startsWith, startsWith]
  generalize start.toList = start at hb
  induction start generalizing chars with
  | nil => rfl
  | cons c start ih =>
      rw [List.mem_cons, not_or] at hb
      cases chars with
      | nil => simp [List.isPrefixOf, Ne.symm hb.1]
      | cons d chars => rw [List.cons_append, List.isPrefixOf, List.isPrefixOf, ih chars hb.2]

/-- A character in front belongs to the line, unless it and the last one end the line together. -/
theorem lineLength_cons_concat {c : Char} {rest : List Char} (hfeed : c ≠ '\n')
    (hreturn : ∀ tail, c = '\r' → rest ≠ '\n' :: tail) (hsplit : ¬(c = '\r' ∧ rest ++ [b] = ['\n'])) :
    lineLength (c :: rest ++ [b]) = lineLength (rest ++ [b]) + 1 := by
  rw [List.cons_append, lineLength]
  · exact hfeed
  · rintro tail rfl htail
    cases rest with
    | nil =>
        obtain ⟨rfl, rfl⟩ := List.cons.inj htail
        exact hsplit ⟨rfl, rfl⟩
    | cons d rest =>
        rw [List.cons_append] at htail
        obtain ⟨rfl, _⟩ := List.cons.inj htail
        exact hreturn rest rfl rfl

/-- A line is as long without the blank behind it, unless it goes on to the end. -/
theorem lineLength_concat (hb : isBlank b = true) (chars : List Char) :
    lineLength (chars ++ [b]) = lineLength chars ∨
      (lineLength chars = chars.length ∧
        ∀ c ∈ (chars ++ [b]).drop (lineLength (chars ++ [b])), isBlank c = true) := by
  induction chars using lineLength.induct with
  | case1 =>
      refine .inr ⟨rfl, fun c hc => ?_⟩
      rw [List.mem_singleton.mp (List.mem_of_mem_drop hc), hb]
  | case2 rest => exact .inl rfl
  | case3 rest => exact .inl rfl
  | case4 c rest hfeed hreturn ih =>
      have hlength : lineLength (c :: rest) = lineLength rest + 1 := by
        rw [lineLength]
        · exact hfeed
        · exact hreturn
      by_cases hsplit : c = '\r' ∧ rest ++ [b] = ['\n']
      · -- The end of the line is taken apart.
        obtain ⟨rfl, hrest⟩ := hsplit
        have hnil : rest = [] := by
          cases rest with
          | nil => rfl
          | cons d rest => simp at hrest
        subst hnil
        refine .inr ⟨hlength, fun d hd => ?_⟩
        rw [List.cons_append, hrest] at hd
        have hmem := List.mem_of_mem_drop hd
        simp only [List.mem_cons, List.not_mem_nil, or_false] at hmem
        rcases hmem with rfl | rfl <;> decide
      · have hmore : lineLength (c :: rest ++ [b]) = lineLength (rest ++ [b]) + 1 :=
          lineLength_cons_concat hfeed hreturn hsplit
        rcases ih with hsame | ⟨hwhole, hend⟩
        · exact .inl (by rw [hmore, hlength, hsame])
        · refine .inr ⟨by rw [hlength, hwhole, List.length_cons], ?_⟩
          rw [hmore, List.cons_append, List.drop_succ_cons]
          exact hend

theorem blockLength_concat (hb : isBlank b = true) (depth : Nat) (chars : List Char) :
    blockLength depth (chars ++ [b]) = blockLength depth chars := by
  have hne := ne_of_isBlank hb
  induction depth, chars using blockLength.induct with
  | case1 depth rest ih => simp [blockLength, ih]
  | case2 depth rest hdepth => simp [blockLength, hdepth]
  | case3 depth rest hdepth ih => simp [blockLength, hdepth, ih]
  | case4 depth c rest hopen hclose ih =>
      rw [List.cons_append, blockLength, blockLength, ih]
      · exact hopen
      · exact hclose
      · rintro tail rfl htail
        cases rest with
        | nil => exact hne.2 (List.cons.inj htail).1
        | cons d rest => exact hopen rest rfl (congrArg (· :: rest) (List.cons.inj htail).1)
      · rintro tail rfl htail
        cases rest with
        | nil => exact hne.1 (List.cons.inj htail).1
        | cons d rest => exact hclose rest rfl (congrArg (· :: rest) (List.cons.inj htail).1)
  | case5 depth => simp [blockLength]

theorem lineLength_le (chars : List Char) : lineLength chars ≤ chars.length := by
  induction chars using lineLength.induct with
  | case1 => exact Nat.le_refl 0
  | case2 rest => exact Nat.zero_le _
  | case3 rest => exact Nat.zero_le _
  | case4 c rest hfeed hreturn ih =>
      rw [lineLength]
      · exact Nat.succ_le_succ ih
      · exact hfeed
      · exact hreturn

theorem blockLength_le {depth length : Nat} (h : blockLength depth chars = some length) : length ≤ chars.length := by
  induction depth, chars using blockLength.induct generalizing length with
  | case1 depth rest ih =>
      rw [blockLength] at h
      obtain ⟨more, hmore, rfl⟩ := Option.map_eq_some_iff.mp h
      exact Nat.add_le_add_right (ih hmore) 2
  | case2 depth rest hdepth =>
      rw [blockLength, if_pos hdepth] at h
      cases h
      exact Nat.le_add_left 2 _
  | case3 depth rest hdepth ih =>
      rw [blockLength, if_neg hdepth] at h
      obtain ⟨more, hmore, rfl⟩ := Option.map_eq_some_iff.mp h
      exact Nat.add_le_add_right (ih hmore) 2
  | case4 depth c rest hopen hclose ih =>
      rw [blockLength] at h
      · obtain ⟨more, hmore, rfl⟩ := Option.map_eq_some_iff.mp h
        exact Nat.add_le_add_right (ih hmore) 1
      · exact hopen
      · exact hclose
  | case5 depth => cases h

theorem blankLength?_le {length : Nat} (h : blankLength? chars = some length) : length ≤ chars.length := by
  rcases blankLength?_cases h with ⟨rest, _, rfl⟩ | ⟨rest, _, hblock⟩ | ⟨c, rest, rfl, _, rfl⟩
  · exact lineLength_le chars
  · exact blockLength_le hblock
  · exact Nat.succ_pos _

/-- The texts by which comments and their kinds are told. -/
def commentStarts : List String :=
  ["//", "///", "////", "//!", "/**/", "/*", "/**", "/***", "/*!"]

theorem startsWith_concat_of_mem {start : String} (hstart : start ∈ commentStarts) (hb : isBlank b = true)
    (chars : List Char) : startsWith start (chars ++ [b]) = startsWith start chars := by
  have hmarks : (commentStarts.all fun start => start.toList.all fun c => !isBlank c) = true := by decide
  refine startsWith_concat (fun hmem => ?_) chars
  have hmark := List.all_eq_true.mp (List.all_eq_true.mp hmarks start hstart) b hmem
  rw [hb] at hmark
  cases hmark

theorem blankLength?_concat {length : Nat} (hb : isBlank b = true) (hchars : chars ≠ [])
    (h : blankLength? (chars ++ [b]) = some length) :
    blankLength? chars = some length ∨
      (blankLength? chars = some chars.length ∧ ∀ c ∈ (chars ++ [b]).drop length, isBlank c = true) := by
  have hstarts : ∀ start ∈ commentStarts, startsWith start (chars ++ [b]) = startsWith start chars :=
    fun _ hstart => startsWith_concat_of_mem hstart hb chars
  unfold blankLength? at h ⊢
  simp only [commentStarts, List.forall_mem_cons, List.not_mem_nil, false_implies, implies_true, and_true] at hstarts
  simp only [hstarts, blockLength_concat hb] at h
  split at h
  · rename_i hline
    cases h
    rw [if_pos hline]
    rcases lineLength_concat hb chars with hsame | ⟨hwhole, hend⟩
    · exact .inl (congrArg some hsame.symm)
    · exact .inr ⟨congrArg some hwhole, hend⟩
  · rename_i hline
    rw [if_neg hline]
    split at h
    · rename_i hclosed
      rw [if_pos hclosed]
      exact .inl h
    · rename_i hclosed
      rw [if_neg hclosed]
      split at h
      · rename_i hblock
        rw [if_pos hblock]
        exact .inl h
      · rename_i hblock
        rw [if_neg hblock]
        cases chars with
        | nil => exact absurd rfl hchars
        | cons c chars => exact .inl h

/-- Blanks and comments stay such without a blank at the end. -/
theorem Blank.of_concat (hb : isBlank b = true) (h : Blank (chars ++ [b])) : Blank chars := by
  generalize hall : chars ++ [b] = all at h
  induction h generalizing chars with
  | nil => exact absurd hall (List.append_ne_nil_of_right_ne_nil _ (List.cons_ne_nil b []))
  | @blank all length hlength hrest ih =>
      subst hall
      by_cases hchars : chars = []
      · rw [hchars]
        exact .nil
      · rcases blankLength?_concat hb hchars hlength with hsame | ⟨hwhole, _⟩
        · refine .blank hsame (ih ?_)
          rw [List.drop_append_of_le_length (blankLength?_le hsame)]
        · refine .blank hwhole ?_
          rw [List.drop_length]
          exact .nil

theorem Lone.not_blank {text : String} (h : Lone text chars) : ∃ c ∈ chars, isBlank c = false := by
  induction h with
  | word hword htail =>
      obtain ⟨c, rest, hchars, _⟩ := exists_isIdentStart hword
      have hc : c ∈ text.toList := by
        rw [hchars]
        exact List.mem_cons_self
      exact ⟨c, List.mem_append_left _ hc, not_isBlank_of_isWord hword c hc⟩
  | blank hlength hrest ih =>
      obtain ⟨c, hc, hblank⟩ := ih
      exact ⟨c, List.mem_of_mem_drop hc, hblank⟩

/-- A word between blanks stays such without a blank at the end. -/
theorem Lone.of_concat {text : String} (hb : isBlank b = true) (h : Lone text (chars ++ [b])) : Lone text chars := by
  generalize hall : chars ++ [b] = all at h
  induction h generalizing chars with
  | @word tail hword htail =>
      rcases List.eq_nil_or_concat tail with rfl | ⟨front, last, rfl⟩
      · rw [List.append_nil] at hall
        have hmem : b ∈ text.toList := by
          rw [← hall]
          exact List.mem_append_right _ List.mem_cons_self
        rw [not_isBlank_of_isWord hword b hmem] at hb
        cases hb
      · rw [List.concat_eq_append] at hall htail
        rw [← List.append_assoc] at hall
        obtain ⟨rfl, hlast⟩ := List.append_inj' hall rfl
        obtain rfl := (List.cons.inj hlast).1
        exact .word hword (htail.of_concat hb)
  | @blank all length hlength hrest ih =>
      subst hall
      have hchars : chars ≠ [] := by
        rintro rfl
        obtain ⟨c, hc, hblank⟩ := hrest.not_blank
        rw [List.mem_singleton.mp (List.mem_of_mem_drop hc), hb] at hblank
        cases hblank
      rcases blankLength?_concat hb hchars hlength with hsame | ⟨_, hend⟩
      · refine .blank hsame (ih ?_)
        rw [List.drop_append_of_le_length (blankLength?_le hsame)]
      · obtain ⟨c, hc, hblank⟩ := hrest.not_blank
        rw [hend c hc] at hblank
        cases hblank

/-- A word between blanks stays such without blanks at the end. -/
theorem Lone.of_append {text : String} {back : List Char} (hback : ∀ c ∈ back, isBlank c = true)
    (h : Lone text (chars ++ back)) : Lone text chars := by
  induction back generalizing chars with
  | nil => rwa [List.append_nil] at h
  | cons b back ih =>
      obtain ⟨hb, hrest⟩ := List.forall_mem_cons.mp hback
      rw [List.append_cons] at h
      exact (ih hrest h).of_concat hb

/-- A word between blanks stays such without blanks in front. -/
theorem Lone.of_blanks {text : String} {front : List Char} (hfront : ∀ c ∈ front, isBlank c = true)
    (h : Lone text (front ++ chars)) : Lone text chars := by
  induction front with
  | nil => exact h
  | cons b front ih =>
      obtain ⟨hb, hrest⟩ := List.forall_mem_cons.mp hfront
      refine ih hrest ?_
      generalize hall : b :: front ++ chars = all at h
      cases h with
      | @word tail hword htail =>
          obtain ⟨c, rest, hchars, _⟩ := exists_isIdentStart hword
          have hc : c ∈ text.toList := by
            rw [hchars]
            exact List.mem_cons_self
          rw [hchars] at hall
          rw [← (List.cons.inj hall).1] at hc
          rw [not_isBlank_of_isWord hword b hc] at hb
          cases hb
      | @blank _ length hlength hmore =>
          subst hall
          rcases blankLength?_cases hlength with ⟨rest, heq, _⟩ | ⟨rest, heq, _⟩ | ⟨c, rest, _, _, rfl⟩
          · exact absurd (List.cons.inj heq).1 (ne_of_isBlank hb).1
          · exact absurd (List.cons.inj heq).1 (ne_of_isBlank hb).1
          · exact hmore

end Last

/-! ## Trimming -/

theorem isBlank_of_text {c : Char} (hc : Text.isBlank c = true) : isBlank c = true := by
  rw [isBlank, hc]
  rfl

theorem mem_of_mem_dropByteOrderMark {c : Char} {chars : List Char} (hc : c ∈ dropByteOrderMark chars) :
    c ∈ chars := by
  cases chars with
  | nil => exact hc
  | cons d chars =>
      rw [dropByteOrderMark] at hc
      split at hc
      · exact List.mem_cons_of_mem d hc
      · exact hc

theorem not_mark_of_isBlank {c : Char} (hc : isBlank c = true) : c.toNat ≠ 0xfeff := by
  intro hmark
  have hpoint := mem_blankPoints hc
  rw [hmark] at hpoint
  exact absurd hpoint (by decide)

/-- No byte order mark stands in front of a word between blanks. -/
theorem Lone.dropByteOrderMark {chars : List Char} {text : String} (h : Lone text chars) :
    Lexer.dropByteOrderMark chars = chars := by
  cases h with
  | word hword _ =>
      obtain ⟨c, rest, hchars, hstart⟩ := exists_isIdentStart hword
      rw [hchars]
      exact dropByteOrderMark_of_isIdentStart hstart _
  | blank hlength _ =>
      rcases blankLength?_cases hlength with ⟨rest, rfl, _⟩ | ⟨rest, rfl, _⟩ | ⟨c, rest, rfl, hblank, _⟩
      · rfl
      · rfl
      · rw [Lexer.dropByteOrderMark, if_neg (not_mark_of_isBlank hblank)]

/-- Trimming keeps a text whose only token is a word. -/
theorem tokenize_trim {source text : String} (h : tokenize source = some [.word text]) :
    tokenize (Text.trim source) = some [.word text] := by
  have hlone := lone_of_tokenize h
  obtain ⟨front, back, hchars, hfront, hback⟩ := Text.exists_blanks source.toList
  have hfront := fun c hc => isBlank_of_text (hfront c hc)
  have hback := fun c hc => isBlank_of_text (hback c hc)
  refine tokenize_of_lone ?_
  rw [Text.trim, String.toList_ofList]
  generalize Text.trimList source.toList = middle at hchars
  rw [hchars, List.append_assoc] at hlone
  cases front with
  | cons c front =>
      have hc : c.toNat ≠ 0xfeff := not_mark_of_isBlank (hfront c List.mem_cons_self)
      rw [List.cons_append, dropByteOrderMark, if_neg hc, ← List.cons_append] at hlone
      have hmiddle := (hlone.of_blanks hfront).of_append hback
      rwa [hmiddle.dropByteOrderMark]
  | nil =>
      cases middle with
      | nil =>
          rw [List.nil_append, List.nil_append] at hlone
          obtain ⟨c, hc, hblank⟩ := hlone.not_blank
          rw [hback c (mem_of_mem_dropByteOrderMark hc)] at hblank
          cases hblank
      | cons c middle =>
          rw [List.nil_append, List.cons_append, dropByteOrderMark] at hlone
          rw [dropByteOrderMark]
          split at hlone
          · rename_i hmark
            rw [if_pos hmark]
            exact hlone.of_append hback
          · rename_i hmark
            rw [if_neg hmark]
            rw [← List.cons_append] at hlone
            exact hlone.of_append hback

end BuilderGen.Lexer

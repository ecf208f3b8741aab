import BuilderGen.Proofs.Grammar.PathExpression

/-!
# Scopes of visibilities

The scope that a restricted visibility is written with is read back inside `pub(…)`: one of the three keywords, or a
path of names behind `in`.
-/

namespace BuilderGen.Grammar

section Scopes

variable {names : List String} {written : NamePath}

/-- A path that may stand behind `in`. -/
structure IsScope (written : NamePath) : Prop extends IsPath written where
  plain : "try" ∉ written.names

theorem pathNames_tokens {name : String} (hnames : ∀ other ∈ names, isSegmentName other = true ∧ other ≠ "try")
    {fuel : Nat} (hfuel : names.length < fuel) :
    pathNames fuel (.word name :: behindTokens names) = .ok (name :: names, []) := by
  induction names generalizing name fuel with
  | nil =>
      obtain ⟨fuel, rfl⟩ := Nat.exists_eq_succ_of_ne_zero (Nat.ne_of_gt hfuel)
      have hend : isOp "::" [] = false := rfl
      simp [pathNames, anyWord, behindTokens, hend]
  | cons next names ih =>
      obtain ⟨fuel, rfl⟩ := Nat.exists_eq_succ_of_ne_zero (Nat.ne_of_gt (Nat.lt_of_le_of_lt (Nat.zero_le _) hfuel))
      obtain ⟨hnext, hrest⟩ := List.forall_mem_cons.mp hnames
      have hmore := @ih next hrest fuel (Nat.lt_of_succ_lt_succ hfuel)
      have hmarks : op "::" (behindTokens (next :: names)) =
          .ok (Token.op "::", .word next :: behindTokens names) := rfl
      have hlook : isOp "::" (behindTokens (next :: names)) = true := rfl
      have hword := isPathWord_of_isSegmentName hnext.1 hnext.2 (behindTokens names)
      simp [pathNames, anyWord, hlook, hmarks, hword, hmore]

theorem namePath_tokens (h : IsScope written) : namePath written.tokens = .ok (written, []) := by
  obtain ⟨leading, names⟩ := written
  cases names with
  | nil => exact absurd rfl h.nonempty
  | cons name names =>
      have hall : ∀ other ∈ name :: names, isSegmentName other = true ∧ other ≠ "try" := by
        intro other hother
        refine ⟨h.names other hother, ?_⟩
        rintro rfl
        exact h.plain hother
      obtain ⟨hname, hnames⟩ := List.forall_mem_cons.mp hall
      have hleading : op? "::" (NamePath.tokens ⟨leading, name :: names⟩) =
          .ok (if leading then Token.op "::" else [], .word name :: behindTokens names) := by
        rw [NamePath.tokens, namesTokens_cons]
        cases leading <;> rfl
      have hflag : (!(if leading then Token.op "::" else []).isEmpty) = leading := by
        cases leading <;> rfl
      have hfuel : names.length < (.word name :: behindTokens names).length := by
        rw [List.length_cons, length_behindTokens]
        omega
      have hread := @pathNames_tokens names name hnames _ hfuel
      have hword := isPathWord_of_isSegmentName hname.1 hname.2 (behindTokens names)
      simp only [namePath, bind_apply, hleading, ok_bind, look_apply, hword, if_true, get_apply, hread, pure_apply,
        hflag]

/-- The tokens of a visibility inside of a path. -/
def inside (written : NamePath) : List Token :=
  [.word "pub", Token.parens (.word "in" :: written.tokens)]

theorem visibility_inside (h : IsScope written) :
    visibility (inside written) = .ok (.restricted true written, []) := by
  have hpath := namePath_tokens h
  have hwithin : within .parenthesis (do
      let _ ← word "in"
      namePath) [Token.parens (.word "in" :: written.tokens)] = .ok (written, []) := by
    have hword : word "in" (.word "in" :: written.tokens) = .ok ([.word "in"], written.tokens) := rfl
    have hcontent : complete (do
        let _ ← word "in"
        namePath) (.word "in" :: written.tokens) = .ok written := by
      simp [complete, hword, hpath]
    rw [Token.parens, within, if_pos rfl, hcontent]
    rfl
  have hpub : word "pub" (inside written) =
      .ok ([.word "pub"], [Token.parens (.word "in" :: written.tokens)]) := rfl
  have hlook : isWord "pub" (inside written) = true := rfl
  simp only [visibility, bind_apply, look_apply, ok_bind, hlook, if_true, hpub, get_apply]
  exact congrArg (· >>= fun read => .ok (VisibilityTree.restricted true read.1, read.2)) hwithin

theorem tokenize_inside (h : IsPath written) :
    Lexer.tokenize ("pub(" ++ ("in " ++ written.text) ++ ")") = some (inside written) := by
  have hwords := fun name hname => isWord_of_isSegmentName (h.names name hname)
  have hchars : ("pub(" ++ ("in " ++ written.text) ++ ")").toList =
      "pub".toList ++ '(' :: ("in".toList ++ ' ' :: (written.text.toList ++ [')'])) := by
    simp only [String.toList_append, List.append_assoc]
    rfl
  have hpath := Lexer.lexes_text h.nonempty hwords (by decide) Lexer.Lexes.nil.closing
  have hin : Lexer.Lexes ("in".toList ++ ' ' :: (written.text.toList ++ [')'])) _ :=
    hpath.space.word (by decide) (Lexer.leavesWord_space _)
  have hpub : Lexer.Lexes ("pub".toList ++ '(' :: ("in".toList ++ ' ' :: (written.text.toList ++ [')']))) _ :=
    (hin.opening (by simp)).word (by decide) (Lexer.leavesWord_opening _)
  have hmark : Lexer.dropByteOrderMark ("pub(" ++ ("in " ++ written.text) ++ ")").toList =
      "pub".toList ++ '(' :: ("in".toList ++ ' ' :: (written.text.toList ++ [')'])) := by
    rw [hchars]
    rfl
  rw [← hmark] at hpub
  rw [Lexer.tokenize_eq hpub, Lexer.assemble, Lexer.assemble, Lexer.assemble, Lexer.assemble, Lexer.assemble_single,
    Lexer.assemble, if_pos rfl, Lexer.assemble]
  simp [inside, Token.parens]

/-- The scope of a visibility inside of a path is read as such. -/
theorem IsScope.visibilityOfText? (h : IsScope written) :
    Grammar.visibilityOfText? ("pub(" ++ ("in " ++ written.text) ++ ")") = .ok (.restricted true written) :=
  readText_eq_ok.mpr ⟨_, tokenize_inside h.toIsPath, visibility_inside h⟩

end Scopes

end BuilderGen.Grammar

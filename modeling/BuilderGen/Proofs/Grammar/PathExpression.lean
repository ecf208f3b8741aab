import BuilderGen.Proofs.Grammar.Names

/-!
# Paths as expressions

A path of names is an expression when it does not consist of a lone `try`, and so is the call of such a path with
another one as its argument.  Every level of the grammar reads a path alone; the argument of a call costs two levels
more.
-/

namespace BuilderGen.Grammar

section Atoms

variable (g : Parsers) (records : Bool) {written : NamePath} {rest : List Token}

/-- A path that is an expression by itself. -/
structure IsOperand (written : NamePath) : Prop extends IsPath written where
  several : written.leading = true ∨ written.names ≠ ["try"]

/-- A name in a path is none of the other keywords. -/
theorem isWord_eq_false {name keyword : String} (hname : isSegmentName name = true)
    (hkeyword : keyword ∈ keywords ∧ keyword ∉ segmentKeywords) (rest : List Token) :
    isWord keyword (.word name :: rest) = false := by
  rw [isSegmentName, Bool.and_eq_true, Bool.or_eq_true, decide_eq_true_iff, decide_eq_true_iff] at hname
  rw [isWord, beq_eq_false_iff_ne]
  rintro rfl
  exact hname.2.elim (fun h => h hkeyword.1) hkeyword.2

theorem isPathWord_of_isSegmentName {name : String} (hname : isSegmentName name = true) (htry : name ≠ "try")
    (rest : List Token) : isPathWord (.word name :: rest) = true := by
  rw [isSegmentName, Bool.and_eq_true, Bool.or_eq_true, decide_eq_true_iff, decide_eq_true_iff] at hname
  rcases hname.2 with hplain | hsegment
  · simp [isPathWord, isIdent, hplain]
  · simp only [segmentKeywords, List.mem_cons, List.not_mem_nil, or_false] at hsegment
    rcases hsegment with rfl | rfl | rfl | rfl | rfl
    · rfl
    · rfl
    · rfl
    · rfl
    · exact absurd rfl htry

/-- What stands at the start of a path. -/
theorem tokens_cases (h : IsPath written) (rest : List Token) :
    (∃ more, written.tokens ++ rest = .mark ':' true :: .mark ':' false :: more) ∨
      ∃ name names, written.leading = false ∧ written.names = name :: names ∧ isSegmentName name = true ∧
        written.tokens ++ rest = .word name :: (behindTokens names ++ rest) := by
  obtain ⟨leading, names⟩ := written
  obtain ⟨hnonempty, hnames⟩ := h
  cases names with
  | nil => exact absurd rfl hnonempty
  | cons name names =>
      cases leading with
      | true => exact .inl ⟨_, rfl⟩
      | false =>
          refine .inr ⟨name, names, rfl, rfl, hnames name List.mem_cons_self, ?_⟩
          rw [NamePath.tokens, namesTokens_cons]
          rfl

theorem IsPath.tokens_ne_nil (h : IsPath written) : written.tokens ≠ [] := by
  rcases tokens_cases h [] with ⟨more, heq⟩ | ⟨name, names, _, _, _, heq⟩
  · rw [← List.append_nil written.tokens, heq]
    exact List.cons_ne_nil _ _
  · rw [← List.append_nil written.tokens, heq]
    exact List.cons_ne_nil _ _

/-- What is read of a path as an operand. -/
def pathOperand (written : NamePath) : Expression :=
  { tokens := (TypeTree.path written.leading (written.names.map bareSegment)).tokens }

/-- Whether tokens do not go on with an operand that is a path. -/
def endsOperand (tokens : List Token) : Bool :=
  endsPath tokens && !isOp "!" tokens && !isOp "#" tokens && !isGroup .brace tokens

theorem qualifiedPath_tokens (h : IsPath written) (hrest : endsPath rest = true) :
    qualifiedPath g true (written.tokens ++ rest) =
      .ok (.path written.leading (written.names.map bareSegment), rest) := by
  have hpath := path_tokens g true h.nonempty h.names hrest
  have hangle : isOp "<" (written.tokens ++ rest) = false := by
    rcases tokens_cases h rest with ⟨more, heq⟩ | ⟨name, names, _, _, _, heq⟩
    · rw [heq]
      rfl
    · rw [heq]
      rfl
  simp [qualifiedPath, hangle, hpath]

theorem pathExpression_tokens (h : IsPath written) (hrest : endsOperand rest = true) :
    pathExpression g records (written.tokens ++ rest) = .ok (pathOperand written, rest) := by
  simp only [endsOperand, Bool.and_eq_true, Bool.not_eq_true'] at hrest
  have hpath := qualifiedPath_tokens g h hrest.1.1.1
  simp [pathExpression, hpath, hrest.1.1.2, hrest.2, pathOperand]

/-- Whether tokens start with a path that an operand may start with. -/
def startsOperandPath (tokens : List Token) : Bool :=
  isPathWord tokens || isOp "::" tokens || isOp "<" tokens
    || (isWord "try" tokens && (isOp "!" (behind tokens) || isOp "::" (behind tokens)))

theorem startsOperandPath_tokens (h : IsOperand written) (rest : List Token) :
    startsOperandPath (written.tokens ++ rest) = true := by
  rcases tokens_cases h.toIsPath rest with ⟨more, heq⟩ | ⟨name, names, hleading, hnames, hname, heq⟩
  · rw [heq, startsOperandPath]
    have hseparator : isOp "::" (.mark ':' true :: .mark ':' false :: more) = true := rfl
    simp [hseparator]
  · rw [heq, startsOperandPath]
    by_cases htry : name = "try"
    · -- Only `try` depends on what follows it.
      subst htry
      cases names with
      | nil =>
          have hseveral := h.several
          rw [hleading, hnames] at hseveral
          exact absurd rfl (hseveral.resolve_left Bool.false_ne_true)
      | cons next names =>
          have hnext : isOp "::" (behind (.word "try" :: (behindTokens (next :: names) ++ rest))) = true := rfl
          simp [isWord, hnext]
    · simp [isPathWord_of_isSegmentName hname htry]

/-- Nothing that an operand may start with but a path stands at the start of a path. -/
theorem atom_eq_pathExpression (h : IsOperand written) (hrest : endsOperand rest = true) :
    atom g records (written.tokens ++ rest) = pathExpression g records (written.tokens ++ rest) := by
  have hstart := startsOperandPath_tokens h rest
  rw [startsOperandPath] at hstart
  have hothers : isLiteral (written.tokens ++ rest) = false ∧
      isWord "async" (written.tokens ++ rest) = false ∧ startsClosure (written.tokens ++ rest) = false ∧
      (isWord "builtin" (written.tokens ++ rest) && isOp "#" (behind (written.tokens ++ rest))) = false := by
    rcases tokens_cases h.toIsPath rest with ⟨more, heq⟩ | ⟨name, names, _, _, hname, heq⟩
    · rw [heq]
      exact ⟨rfl, rfl, rfl, rfl⟩
    · rw [heq]
      have hword := fun keyword hkeyword => @isWord_eq_false name keyword hname hkeyword (behindTokens names ++ rest)
      have hbar : isOp "|" (.word name :: (behindTokens names ++ rest)) = false := rfl
      have hhash : isOp "#" (behind (.word name :: (behindTokens names ++ rest))) = false := by
        cases names with
        | nil =>
            simp only [endsOperand, Bool.and_eq_true, Bool.not_eq_true'] at hrest
            exact hrest.1.2
        | cons next names => rfl
      refine ⟨?_, hword "async" (by decide), ?_, by rw [hhash, Bool.and_false]⟩
      · simp [isLiteral, isOneOf, hword "true" (by decide), hword "false" (by decide)]
      · simp [startsClosure, startsBoundClosure, hbar, hword "move" (by decide), hword "for" (by decide),
          hword "const" (by decide), hword "static" (by decide), hword "async" (by decide)]
  obtain ⟨hliteral, hasync, hclosure, hbuiltin⟩ := hothers
  simp only [atom, bind_apply, get_apply, ok_bind, hliteral, hasync, hclosure, hbuiltin, hstart, Bool.false_and,
    Bool.false_eq_true, if_false, if_true]

theorem atom_tokens (h : IsOperand written) (hrest : endsOperand rest = true) :
    atom g records (written.tokens ++ rest) = .ok (pathOperand written, rest) := by
  rw [atom_eq_pathExpression g records h hrest]
  exact pathExpression_tokens g records h.toIsPath hrest

end Atoms

/-! ## Operands and expressions -/

section Levels

variable (g : Parsers) (records : Bool) {tokens : List Token}

theorem outerTokens_none (htokens : isOp "#" tokens = false) : outerTokens g tokens = .ok ([], tokens) := by
  have hattributes : outerAttributes g tokens = .ok ([], tokens) := by
    simp [outerAttributes, manyWhile, many, repeatUpTo, htokens]
  simp [outerTokens, hattributes, Attribute.listTokens]

/-- Nothing follows an operand at the end. -/
theorem trailers_end (subject : Expression) : trailers g subject [] = .ok (subject, []) := by
  have hnone : trailer g subject [] = .ok (none, []) := by
    have hop : isOp "." [] = false ∧ isOp "?" [] = false := ⟨rfl, rfl⟩
    simp [trailer, isGroup, hop]
  simp [trailers, iterate, iterateUpTo, hnone]

/-- An operand that is called. -/
theorem trailers_call (subject : Expression) {inputs content : List Token}
    (hinputs : complete (expressionList g) content = .ok inputs) :
    trailers g subject [Token.parens content] = .ok ({ tokens := subject.tokens ++ [Token.parens inputs] }, []) := by
  have hcall : trailer g subject [Token.parens content] =
      .ok (some { tokens := subject.tokens ++ [Token.parens inputs] }, []) := by
    have hgroup : isGroup .parenthesis [Token.parens content] = true := rfl
    have hwithin : within .parenthesis (expressionList g) [Token.parens content] = .ok (inputs, []) := by
      rw [Token.parens, within, if_pos rfl, hinputs]
      rfl
    simp [trailer, hgroup, hwithin]
  have hend := trailers_end g { tokens := subject.tokens ++ [Token.parens inputs] }
  simp only [trailers, iterate, bind_apply, get_apply, ok_bind, List.length_cons, List.length_nil] at hend ⊢
  rw [iterateUpTo]
  simp only [bind_apply, hcall, ok_bind]
  exact hend

/-- No operator follows at the end. -/
theorem readOperators_end (base : Precedence) (left : Expression) :
    readOperators g records base left [] = .ok (left, []) := by
  have hnone : climbOnce g records base left [] = .ok (none, []) := by
    have hoperator : binaryOperator? [] = none := by decide
    have hop : isOp "=" [] = false ∧ isOp ".." [] = false ∧ isWord "as" [] = false := ⟨rfl, rfl, rfl⟩
    by_cases hrange : left.form = .range
    · simp [climbOnce, hrange]
    · simp [climbOnce, hrange, hoperator, hop]
  simp [readOperators, iterate, iterateUpTo, hnone]

/-- An operand that is read to the end is an expression, two levels up. -/
theorem expression_level {depth : Nat} {operand : Expression}
    (hoperand : readOperand (.level depth) records tokens = .ok (operand, [])) :
    (Parsers.level (depth + 2)).expression records tokens = .ok (operand, []) := by
  have hclimb := readOperators_end (.level depth) records .jump operand
  have hsteps : (Parsers.level (depth + 2)).expression records tokens =
      (readOperand (.level depth) records tokens >>= fun read =>
        readOperators (.level depth) records .jump read.1 read.2) := rfl
  rw [hsteps, hoperand]
  exact hclimb

/-- A path with what follows it directly is an operand. -/
theorem readOperand_tokens {written : NamePath} {rest : List Token} (h : IsOperand written)
    (hrest : endsOperand rest = true) {operand : Expression}
    (htrailers : trailers g (pathOperand written) rest = .ok (operand, [])) :
    readOperand g records (written.tokens ++ rest) = .ok (operand, []) := by
  have hatom := atom_tokens g records h hrest
  have hplain : isOp "#" (written.tokens ++ rest) = false ∧ isOp "&" (written.tokens ++ rest) = false ∧
      isOp "*" (written.tokens ++ rest) = false ∧ isOp "!" (written.tokens ++ rest) = false ∧
      isOp "-" (written.tokens ++ rest) = false := by
    rcases tokens_cases h.toIsPath rest with ⟨more, heq⟩ | ⟨name, names, _, _, _, heq⟩
    · rw [heq]
      exact ⟨rfl, rfl, rfl, rfl, rfl⟩
    · rw [heq]
      exact ⟨rfl, rfl, rfl, rfl, rfl⟩
  have hattributes := outerTokens_none g hplain.1
  simp only [readOperand, bind_apply, hattributes, ok_bind, get_apply, hplain, Bool.false_eq_true, if_false, hatom,
    htrailers, List.isEmpty_nil, Bool.not_true, Bool.false_and, pure_apply]
  rfl

/-- A path is an expression. -/
theorem expression_path (depth : Nat) {written : NamePath} (h : IsOperand written) :
    (Parsers.level (depth + 2)).expression records written.tokens = .ok (pathOperand written, []) := by
  have hoperand := readOperand_tokens (.level depth) records h (by decide) (trailers_end (.level depth) _)
  rw [List.append_nil] at hoperand
  exact expression_level records hoperand

/-- A path called with a path is an expression. -/
theorem expression_call (depth : Nat) {called argument : NamePath} (hcalled : IsOperand called)
    (hargument : IsOperand argument) :
    (Parsers.level (depth + 4)).expression records (called.tokens ++ [Token.parens argument.tokens]) =
      .ok ({ tokens := (pathOperand called).tokens ++ [Token.parens (pathOperand argument).tokens] }, []) := by
  have hinputs : complete (expressionList (.level (depth + 2))) argument.tokens =
      .ok (pathOperand argument).tokens := by
    have hexpression := expression_path true depth hargument
    have hsome := hargument.tokens_ne_nil
    simp [complete, expressionList, commaTokens, separated, separatedUpTo, hsome, hexpression, separatedTokens]
  exact expression_level records
    (readOperand_tokens (.level (depth + 2)) records hcalled rfl (trailers_call _ _ hinputs))

end Levels

/-! ## Texts of expressions -/

/-- The text of a path is read as an expression. -/
theorem IsOperand.expressionOfText? {written : NamePath} (h : IsOperand written) :
    ∃ tokens, Grammar.expressionOfText? written.text = .ok tokens := by
  have hexpression := expression_path true (8 * weightOfList written.tokens + 14) h
  refine ⟨(pathOperand written).tokens, readText_eq_ok.mpr ⟨_, h.tokenize_text, ?_⟩⟩
  rw [Parsers.enough, map_apply, hexpression]
  rfl

/-- The text of a path in parentheses falls apart into a group. -/
theorem IsPath.lexes_parens {written : NamePath} (h : IsPath written) :
    Lexer.Lexes ('(' :: (written.text.toList ++ [')']))
      (.opening .parenthesis :: (Lexer.single written.tokens ++ [.closing .parenthesis])) := by
  have hwords := fun name hname => isWord_of_isSegmentName (h.names name hname)
  exact (Lexer.lexes_text h.nonempty hwords (by decide) Lexer.Lexes.nil.closing).opening
    (Lexer.head?_text_ne_slash h.nonempty hwords _)

/-- The text of the call of a path with another one. -/
theorem IsPath.tokenize_call {called argument : NamePath} (hcalled : IsPath called) (hargument : IsPath argument) :
    Lexer.tokenize (called.text ++ "(" ++ argument.text ++ ")") =
      some (called.tokens ++ [Token.parens argument.tokens]) := by
  have hwords := fun name hname => isWord_of_isSegmentName (hcalled.names name hname)
  have hchars : (called.text ++ "(" ++ argument.text ++ ")").toList =
      called.text.toList ++ '(' :: (argument.text.toList ++ [')']) := by
    simp only [String.toList_append, List.append_assoc]
    rfl
  have hlexes := Lexer.lexes_text hcalled.nonempty hwords (Lexer.leavesWord_opening _) hargument.lexes_parens
  rw [← Lexer.dropByteOrderMark_text hcalled.nonempty hwords, ← hchars] at hlexes
  rw [Lexer.tokenize_eq hlexes, Lexer.assemble_single, Lexer.assemble, Lexer.assemble_single, Lexer.assemble,
    if_pos rfl, Lexer.assemble]
  simp [Token.parens]

/-- The text of the call of a path with another one is read as an expression. -/
theorem IsOperand.expressionOfText?_call {called argument : NamePath} (hcalled : IsOperand called)
    (hargument : IsOperand argument) :
    ∃ tokens, Grammar.expressionOfText? (called.text ++ "(" ++ argument.text ++ ")") = .ok tokens := by
  have htokens := hcalled.toIsPath.tokenize_call hargument.toIsPath
  generalize hweight : 8 * weightOfList (called.tokens ++ [Token.parens argument.tokens]) = weight
  have hexpression := expression_call true (weight + 12) hcalled hargument
  refine ⟨(pathOperand called).tokens ++ [Token.parens (pathOperand argument).tokens], ?_⟩
  refine readText_eq_ok.mpr ⟨_, htokens, ?_⟩
  rw [Parsers.enough, hweight, map_apply, hexpression]
  rfl

end BuilderGen.Grammar

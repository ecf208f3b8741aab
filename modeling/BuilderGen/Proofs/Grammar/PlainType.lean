import BuilderGen.Proofs.Grammar.Scope
import BuilderGen.Render.Part

/-!
# Types that come back

A type is read from its tokens when it is made of three things only: the unit type, arrays whose length is a literal,
and paths with types behind the last name.  `TypeTree.Returns` says so with what may follow a type, so that it can be
used for the types inside of another one; there is one lemma for each of the three.  Every level of nesting costs a
level of the grammar, and the tokens of a type outweigh those of the types in it.
-/

namespace BuilderGen.Grammar

/-! ## What stands around a type -/

/-- Whether tokens end a type: none are left, or one of the marks behind a type comes next. -/
def endsType : List Token → Bool
  | [] => true
  | .mark c _ :: _ => c == ',' || c == '>' || c == ';'
  | _ => false

/-- Whether a plain type may start with the first one of some tokens. -/
def startsType : List Token → Bool
  | .word name :: _ => isSegmentName name
  | .mark c _ :: _ => c == ':'
  | .group delimiter _ :: _ => delimiter != .brace
  | _ => false

/-- A type that is read from its tokens, whatever comes behind it, by a grammar with levels enough. -/
structure TypeTree.Returns (tree : TypeTree) : Prop where
  starts : startsType tree.tokens = true
  reads : ∀ depth, weightOfList tree.tokens + 2 ≤ depth → ∀ rest, endsType rest = true →
    (Parsers.level depth).type true (tree.tokens ++ rest) = .ok (tree, rest)

section Around

variable {tokens rest : List Token}

theorem endsType_cases (h : endsType rest = true) :
    rest = [] ∨ ∃ c joint more, rest = .mark c joint :: more ∧ c ∈ [',', '>', ';'] := by
  cases rest with
  | nil => exact .inl rfl
  | cons token more =>
      cases token with
      | mark c joint =>
          refine .inr ⟨c, joint, more, rfl, ?_⟩
          simpa [endsType, or_assoc] using h
      | word _ | literal _ | group _ _ => cases h

theorem endsPath_of_endsType (h : endsType rest = true) : endsPath rest = true := by
  rcases endsType_cases h with rfl | ⟨c, joint, more, rfl, hc⟩
  · rfl
  · simp only [List.mem_cons, List.not_mem_nil, or_false] at hc
    rcases hc with rfl | rfl | rfl <;> rfl

theorem startsType_append (h : startsType tokens = true) (rest : List Token) :
    startsType (tokens ++ rest) = true := by
  cases tokens with
  | nil => cases h
  | cons token more => cases token <;> exact h

/-- What starts a type starts nothing else that may stand between angle brackets. -/
theorem startsType_only (h : startsType tokens = true) :
    isLifetime tokens = false ∧ isLiteral tokens = false ∧ isGroup .brace tokens = false ∧ isOp ">" tokens = false ∧
      isWord "for" tokens = false := by
  have hmark : ">".toList = ['>'] := rfl
  cases tokens with
  | nil => cases h
  | cons token more =>
      cases token with
      | word name =>
          have hword := fun keyword hkeyword => @isWord_eq_false name keyword h hkeyword more
          refine ⟨rfl, ?_, rfl, rfl, hword "for" (by decide)⟩
          simp [isLiteral, isOneOf, hword "true" (by decide), hword "false" (by decide)]
      | mark c joint =>
          have hc : c = ':' := by simpa [startsType] using h
          subst hc
          exact ⟨rfl, rfl, rfl, rfl, rfl⟩
      | literal text => cases h
      | group delimiter content =>
          have hdelimiter : delimiter ≠ .brace := by simpa [startsType] using h
          exact ⟨rfl, rfl, by simp [isGroup, hdelimiter], rfl, rfl⟩

end Around

/-! ## The weight of tokens -/

theorem weightOfList_append (front back : List Token) :
    weightOfList (front ++ back) = weightOfList front + weightOfList back := by
  induction front with
  | nil => rw [List.nil_append, weightOfList, Nat.zero_add]
  | cons token front ih => rw [List.cons_append, weightOfList, weightOfList, ih, Nat.add_assoc]

theorem weightOfList_le_of_infix {part whole : List Token} (h : part <:+: whole) :
    weightOfList part ≤ weightOfList whole := by
  obtain ⟨front, back, rfl⟩ := h
  rw [weightOfList_append, weightOfList_append]
  omega

/-! ## Units and arrays -/

section Types

variable (g : Parsers) (plus : Bool) {rest : List Token}

theorem boundLifetimes?_none {tokens : List Token} (h : isWord "for" tokens = false) :
    boundLifetimes? g tokens = .ok ([], tokens) := by
  simp [boundLifetimes?, h]

theorem readType_unit (rest : List Token) : readType g plus (TypeTree.unit.tokens ++ rest) = .ok (.unit, rest) := by
  have hlifetimes : boundLifetimes? g (Token.parens [] :: rest) = .ok ([], Token.parens [] :: rest) :=
    boundLifetimes?_none g rfl
  have hgroup : isGroup .parenthesis (Token.parens [] :: rest) = true := rfl
  have hcontent : within .parenthesis (parenType g) (Token.parens [] :: rest) = .ok (.empty, rest) := by
    simp [within, Token.parens, complete, parenType, Except.map]
  simp [TypeTree.tokens, readType, hlifetimes, hgroup, typeInParens, hcontent]

theorem readType_array {element : TypeTree} {length : List Token} {form : ExpressionForm}
    (helement : g.type true (element.tokens ++ (Token.op ";" ++ length)) = .ok (element, Token.op ";" ++ length))
    (hlength : g.expression true length = .ok ({ tokens := length, form }, [])) (rest : List Token) :
    readType g plus ((TypeTree.array element length).tokens ++ rest) = .ok (.array element length, rest) := by
  generalize hcontent : element.tokens ++ (Token.op ";" ++ length) = content at helement
  have htokens : (TypeTree.array element length).tokens ++ rest = Token.brackets content :: rest := by
    rw [TypeTree.tokens, ← hcontent, List.append_assoc]
    rfl
  have hlifetimes : boundLifetimes? g (Token.brackets content :: rest) = .ok ([], Token.brackets content :: rest) :=
    boundLifetimes?_none g rfl
  have hothers : isGroup .parenthesis (Token.brackets content :: rest) = false ∧
      isOneOf ["fn", "unsafe", "extern"] (Token.brackets content :: rest) = false ∧
      isPathWord (Token.brackets content :: rest) = false ∧ isOp "::" (Token.brackets content :: rest) = false ∧
      isOp "<" (Token.brackets content :: rest) = false ∧ isWord "dyn" (Token.brackets content :: rest) = false ∧
      isGroup .bracket (Token.brackets content :: rest) = true := ⟨rfl, rfl, rfl, rfl, rfl, rfl, rfl⟩
  have hsemicolon : isOp ";" (Token.op ";" ++ length) = true ∧
      op ";" (Token.op ";" ++ length) = .ok (Token.op ";", length) := ⟨rfl, rfl⟩
  rw [htokens]
  simp only [readType, bind_apply, get_apply, ok_bind, hlifetimes, hothers, List.isEmpty_nil, Bool.not_true,
    Bool.false_and, Bool.or_false, Bool.false_eq_true, if_false, if_true]
  rw [Token.brackets, within, if_pos rfl]
  simp [complete, helement, hsemicolon, hlength, Except.map]

end Types

/-! ## Types as arguments -/

/-- Types as arguments, with commas between them. -/
def listed : List TypeTree → List Argument
  | [] => []
  | [tree] => [.type tree false]
  | tree :: next :: rest => .type tree true :: listed (next :: rest)

/-- The arguments of a segment that has types behind it. -/
def typeArguments : List TypeTree → Arguments
  | [] => .none
  | tree :: rest => .angle false (listed (tree :: rest))

section Listed

variable {trees : List TypeTree} {rest : List Token}

/-- No argument is a lifetime, and so they are written in their order. -/
theorem itemsTokens_listed (trees : List TypeTree) :
    (itemsTokens (listed trees)).filter (·.1) = [] ∧
      argumentTokens true (((itemsTokens (listed trees)).filter (!·.1)).map Prod.snd) =
        Render.commaSeparated (trees.map TypeTree.tokens) := by
  fun_induction listed trees with
  | case1 => exact ⟨rfl, rfl⟩
  | case2 tree => simp [itemsTokens, argumentTokens, Render.commaSeparated]
  | case3 tree next rest ih =>
      rw [itemsTokens, List.filter_cons_of_neg Bool.false_ne_true, List.filter_cons_of_pos rfl, List.map_cons,
        argumentTokens, ih.2]
      refine ⟨ih.1, ?_⟩
      simp [Render.commaSeparated]

theorem tokens_typeArguments (hnonempty : trees ≠ []) :
    (typeArguments trees).tokens =
      Token.op "<" ++ (Render.commaSeparated (trees.map TypeTree.tokens) ++ Token.op ">") := by
  cases trees with
  | nil => exact absurd rfl hnonempty
  | cons tree trees =>
      obtain ⟨hlifetimes, hothers⟩ := itemsTokens_listed (tree :: trees)
      simp [typeArguments, Arguments.tokens, hlifetimes, hothers]

/-- The tokens of each of several types are found between the commas. -/
theorem tokens_infix_commaSeparated {tree : TypeTree} (htree : tree ∈ trees) :
    tree.tokens <:+: Render.commaSeparated (trees.map TypeTree.tokens) := by
  fun_induction listed trees with
  | case1 => cases htree
  | case2 only =>
      rw [List.mem_singleton.mp htree]
      exact List.infix_rfl
  | case3 first next rest ih =>
      rw [List.map_cons, List.map_cons, Render.commaSeparated, ← List.map_cons]
      · rcases List.mem_cons.mp htree with rfl | htree
        · rw [List.append_assoc]
          exact (List.prefix_append _ _).isInfix
        · exact (ih htree).trans (List.suffix_append _ _).isInfix
      · exact List.cons_ne_nil _ _

/-- Types that are read are read one after the other up to the closing bracket. -/
theorem separatedUpTo_types (g : Parsers) (hnonempty : trees ≠ [])
    (hstarts : ∀ tree ∈ trees, startsType tree.tokens = true)
    (hreads : ∀ tree ∈ trees, ∀ rest, endsType rest = true →
      argument g (tree.tokens ++ rest) = .ok (Argument.type tree, rest))
    {fuel : Nat} (hfuel : trees.length ≤ fuel) (rest : List Token) :
    ∃ values, separatedUpTo "," (isOp ">") (argument g) fuel
        (Render.commaSeparated (trees.map TypeTree.tokens) ++ (Token.op ">" ++ rest)) =
          .ok (values, Token.op ">" ++ rest) ∧
      values.map (fun value => value.1 value.2) = listed trees := by
  fun_induction listed trees generalizing fuel with
  | case1 => exact absurd rfl hnonempty
  | case2 tree =>
      obtain ⟨fuel, rfl⟩ := Nat.exists_eq_succ_of_ne_zero (Nat.ne_of_gt hfuel)
      have hstart := (startsType_only (startsType_append (hstarts tree List.mem_cons_self)
        (Token.op ">" ++ rest))).2.2.2.1
      have hread := hreads tree List.mem_cons_self (Token.op ">" ++ rest) rfl
      have hstop : isOp ">" (Token.op ">" ++ rest) = true := rfl
      refine ⟨[(Argument.type tree, false)], ?_, rfl⟩
      simp [Render.commaSeparated, separatedUpTo, hstart, hread, hstop]
  | case3 tree next others ih =>
      obtain ⟨fuel, rfl⟩ := Nat.exists_eq_succ_of_ne_zero
        (Nat.ne_of_gt (Nat.lt_of_lt_of_le (Nat.succ_pos _) hfuel))
      obtain ⟨hstart, hstarts⟩ := List.forall_mem_cons.mp hstarts
      obtain ⟨hread, hreads⟩ := List.forall_mem_cons.mp hreads
      obtain ⟨values, hvalues, hlisted⟩ := ih (List.cons_ne_nil _ _) hstarts hreads (Nat.le_of_succ_le_succ hfuel)
      generalize hmore : Render.commaSeparated ((next :: others).map TypeTree.tokens) ++ (Token.op ">" ++ rest) = more
        at hvalues
      have htokens : Render.commaSeparated ((tree :: next :: others).map TypeTree.tokens) ++ (Token.op ">" ++ rest) =
          tree.tokens ++ (Token.op "," ++ more) := by
        rw [← hmore, List.map_cons, List.map_cons, Render.commaSeparated, ← List.map_cons]
        · simp only [List.append_assoc]
        · exact List.cons_ne_nil _ _
      have hstart := (startsType_only (startsType_append hstart (Token.op "," ++ more))).2.2.2.1
      have hread := hread (Token.op "," ++ more) rfl
      have hcomma : isOp ">" (Token.op "," ++ more) = false ∧
          op "," (Token.op "," ++ more) = .ok (Token.op ",", more) := ⟨rfl, rfl⟩
      refine ⟨(Argument.type tree, true) :: values, ?_, by rw [List.map_cons, hlisted]⟩
      rw [htokens]
      simp [separatedUpTo, hstart, hread, hcomma, hvalues]

theorem isOp_of_endsType (hrest : endsType rest = true) :
    isOp "=" rest = false ∧ isOp ":" rest = false ∧ isOp "!" rest = false ∧ isOp "+" rest = false := by
  rcases endsType_cases hrest with rfl | ⟨c, joint, more, rfl, hc⟩
  · exact ⟨rfl, rfl, rfl, rfl⟩
  · simp only [List.mem_cons, List.not_mem_nil, or_false] at hc
    rcases hc with rfl | rfl | rfl <;> exact ⟨rfl, rfl, rfl, rfl⟩

/-- A type between angle brackets is read as an argument. -/
theorem argument_type (g : Parsers) {tree : TypeTree} (hstarts : startsType tree.tokens = true)
    (hrest : endsType rest = true) (hread : g.type true (tree.tokens ++ rest) = .ok (tree, rest)) :
    argument g (tree.tokens ++ rest) = .ok (Argument.type tree, rest) := by
  obtain ⟨hlifetime, hliteral, hbrace, -, -⟩ := startsType_only (startsType_append hstarts rest)
  obtain ⟨hequals, hcolon, -, -⟩ := isOp_of_endsType hrest
  simp [argument, hlifetime, hliteral, hbrace, hread, hequals, hcolon]

theorem length_le_length_commaSeparated (hstarts : ∀ tree ∈ trees, startsType tree.tokens = true) :
    trees.length ≤ (Render.commaSeparated (trees.map TypeTree.tokens)).length := by
  fun_induction listed trees with
  | case1 => exact Nat.zero_le _
  | case2 tree =>
      rw [List.map_singleton, Render.commaSeparated]
      cases htokens : tree.tokens with
      | nil =>
          have hstart := hstarts tree List.mem_cons_self
          rw [htokens] at hstart
          cases hstart
      | cons token tokens => simp
  | case3 tree next others ih =>
      have hlater := ih (List.forall_mem_cons.mp hstarts).2
      have hcomma : (Token.op ",").length = 1 := rfl
      rw [List.map_cons, List.map_cons, Render.commaSeparated, ← List.map_cons, List.length_append, List.length_append,
        hcomma, List.length_cons]
      · omega
      · exact List.cons_ne_nil _ _

/-- Types in angle brackets are read as arguments. -/
theorem arguments_types (g : Parsers) (hnonempty : trees ≠ [])
    (hstarts : ∀ tree ∈ trees, startsType tree.tokens = true)
    (hreads : ∀ tree ∈ trees, ∀ rest, endsType rest = true →
      g.type true (tree.tokens ++ rest) = .ok (tree, rest)) (rest : List Token) :
    arguments g ((typeArguments trees).tokens ++ rest) = .ok (typeArguments trees, rest) := by
  have harguments : ∀ tree ∈ trees, ∀ rest, endsType rest = true →
      argument g (tree.tokens ++ rest) = .ok (Argument.type tree, rest) := fun tree htree rest hrest =>
    argument_type g (hstarts tree htree) hrest (hreads tree htree rest hrest)
  have hfuel : trees.length ≤
      (Render.commaSeparated (trees.map TypeTree.tokens) ++ (Token.op ">" ++ rest)).length + 1 := by
    have hlength := length_le_length_commaSeparated hstarts
    rw [List.length_append]
    omega
  obtain ⟨values, hvalues, hlisted⟩ := separatedUpTo_types g hnonempty hstarts harguments hfuel rest
  rw [tokens_typeArguments hnonempty, List.append_assoc, List.append_assoc]
  generalize Render.commaSeparated (trees.map TypeTree.tokens) ++ (Token.op ">" ++ rest) = inside at hvalues
  have hopening : op? "::" (Token.op "<" ++ inside) = .ok ([], Token.op "<" ++ inside) ∧
      op "<" (Token.op "<" ++ inside) = .ok (Token.op "<", inside) := ⟨rfl, rfl⟩
  have hclosing : op ">" (Token.op ">" ++ rest) = .ok (Token.op ">", rest) := rfl
  have htypes : typeArguments trees = .angle false (listed trees) := by
    cases trees with
    | nil => exact absurd rfl hnonempty
    | cons tree trees => rfl
  simp [arguments, hopening, separated, hvalues, hclosing, hlisted, htypes]

end Listed

/-! ## Paths with types behind the last name -/

/-- A path with types behind its last name. -/
def typePath (leading : Bool) (front : List String) (last : String) (trees : List TypeTree) : TypeTree :=
  .path leading (front.map bareSegment ++ [.mk last (typeArguments trees)])

section Paths

variable (g : Parsers) {front : List String} {last : String} {trees : List TypeTree} {rest : List Token}

/-- Whether types may stand behind a name. -/
def takesTypes (name : String) : Bool :=
  isIdentifier name || name == "Self"

theorem isSegmentName_of_takesTypes (h : takesTypes last = true) : isSegmentName last = true := by
  rw [takesTypes, Bool.or_eq_true, beq_iff_eq] at h
  rcases h with hidentifier | rfl
  · exact isSegmentName_of_isIdentifier hidentifier
  · decide

/-- A name is read with the types behind it. -/
theorem segment_types (hlast : takesTypes last = true)
    (harguments : trees ≠ [] → arguments g ((typeArguments trees).tokens ++ rest) = .ok (typeArguments trees, rest))
    (hrest : endsType rest = true) :
    segment g false (.word last :: ((typeArguments trees).tokens ++ rest)) =
      .ok (.mk last (typeArguments trees), rest) := by
  cases trees with
  | nil =>
      have hleaves := leavesSegment_of_endsPath (endsPath_of_endsType hrest)
      exact segment_name g false (isSegmentName_of_takesTypes hlast) hleaves
  | cons tree trees =>
      have harguments := harguments (List.cons_ne_nil _ _)
      rw [tokens_typeArguments (List.cons_ne_nil _ _), List.append_assoc] at harguments ⊢
      generalize Render.commaSeparated ((tree :: trees).map TypeTree.tokens) ++ Token.op ">" ++ rest = inside
        at harguments ⊢
      have hopening : isOp "<" (Token.op "<" ++ inside) = true ∧ isOp "<=" (Token.op "<" ++ inside) = false :=
        ⟨rfl, rfl⟩
      rw [takesTypes, Bool.or_eq_true, beq_iff_eq] at hlast
      rcases hlast with hidentifier | rfl
      · rw [isIdentifier, Bool.and_eq_true, decide_eq_true_iff] at hidentifier
        have hkeyword := fun keyword (hkeyword : keyword ∈ keywords) =>
          beq_eq_false_iff_ne.mpr fun heq : last = keyword => hidentifier.2 (heq ▸ hkeyword)
        simp [segment, isOneOf, isWord, hkeyword "super" (by decide), hkeyword "self" (by decide),
          hkeyword "crate" (by decide), hkeyword "try" (by decide), hkeyword "Self" (by decide), ident, hidentifier.2,
          hopening, harguments]
      · have hkeyword : isOneOf ["super", "self", "crate", "try"] (.word "Self" :: (Token.op "<" ++ inside)) = false :=
          rfl
        simp [segment, hkeyword, isWord, anyWord, hopening, harguments]

/-- A path goes on to its last name with what stands behind it, and ends there. -/
theorem repeatUpTo_nextSegment_last {tokens : List Token} {arguments : Arguments}
    (hsegment : segment g false (.word last :: tokens) = .ok (.mk last arguments, rest))
    (hrest : endsType rest = true) (fuel : Nat) :
    repeatUpTo (nextSegment g false) (fuel + 2) (Token.op "::" ++ .word last :: tokens) =
      .ok ([.mk last arguments], rest) := by
  have hmarks : op "::" (Token.op "::" ++ .word last :: tokens) = .ok (Token.op "::", .word last :: tokens) := rfl
  have hlook : (isOp "::" (Token.op "::" ++ .word last :: tokens) &&
      !isGroup .parenthesis (behindTwo (Token.op "::" ++ .word last :: tokens))) = true := rfl
  have hnext : nextSegment g false (Token.op "::" ++ .word last :: tokens) = .ok (some (.mk last arguments), rest) := by
    simp only [nextSegment, bind_apply, look_apply, ok_bind, hlook, if_true, hmarks, hsegment, pure_apply]
  have hend := repeatUpTo_nextSegment_end g false (endsPath_of_endsType hrest) fuel
  rw [repeatUpTo]
  simp [hnext, hend]

/-- The arguments of the last segment stand behind all names. -/
theorem segmentsTokens_concat (segments : List Segment) (name : String) (arguments : Arguments) :
    segmentsTokens (segments ++ [.mk name arguments]) =
      segmentsTokens (segments ++ [bareSegment name]) ++ arguments.tokens := by
  induction segments with
  | nil => simp [bareSegment, segmentsTokens, Segment.tokens, Arguments.tokens]
  | cons segment segments ih =>
      rw [List.cons_append, List.cons_append, segmentsTokens, segmentsTokens, ih]
      · simp only [List.append_assoc]
      · simp
      · simp

theorem tokens_typePath (leading : Bool) (front : List String) (last : String) (trees : List TypeTree) :
    (typePath leading front last trees).tokens =
      (TypeTree.path leading ((front ++ [last]).map bareSegment)).tokens ++ (typeArguments trees).tokens := by
  rw [typePath, TypeTree.tokens, TypeTree.tokens, segmentsTokens_concat, List.map_append, List.map_singleton,
    List.append_assoc]

/-- The tokens of a path with types behind its last name, from the first of several names on. -/
theorem segmentsTokens_typePath (name : String) (names : List String) (segment : Segment) :
    segmentsTokens ((name :: names).map bareSegment ++ [segment]) =
      .word name :: (behindTokens names ++ (Token.op "::" ++ segment.tokens)) := by
  induction names generalizing name with
  | nil => simp [bareSegment, segmentsTokens, Segment.tokens, Arguments.tokens, behindTokens]
  | cons next names ih =>
      have hlater := ih next
      rw [List.map_cons, List.cons_append, segmentsTokens, hlater]
      · simp [bareSegment, Segment.tokens, Arguments.tokens, behindTokens]
        rfl
      · simp

/-- A path is read with the types behind its last name. -/
theorem path_types (leading : Bool) (hfront : ∀ name ∈ front, isSegmentName name = true)
    (hlast : takesTypes last = true)
    (harguments : trees ≠ [] → arguments g ((typeArguments trees).tokens ++ rest) = .ok (typeArguments trees, rest))
    (hrest : endsType rest = true) :
    path g false ((typePath leading front last trees).tokens ++ rest) =
      .ok ((leading, front.map bareSegment ++ [.mk last (typeArguments trees)]), rest) := by
  have hsegment := segment_types g hlast harguments hrest
  cases front with
  | nil =>
      have hend := repeatUpTo_nextSegment_end g false (endsPath_of_endsType hrest) rest.length
      have hpath := path_segments g false leading hsegment hend
      rwa [← List.cons_append, ← List.append_assoc] at hpath
  | cons name names =>
      obtain ⟨hname, hnames⟩ := List.forall_mem_cons.mp hfront
      generalize hafter : Token.op "::" ++ .word last :: ((typeArguments trees).tokens ++ rest) = after
      have hleaves : leavesSegment after = true := by
        rw [← hafter]
        rfl
      have hfirst := segment_name g false hname (@leavesSegment_append names after hleaves)
      have hfuel : (behindTokens names ++ after).length + 1 =
          2 * names.length + (typeArguments trees).tokens.length + rest.length + 2 + 2 + names.length := by
        have hmarks : (Token.op "::").length = 2 := rfl
        rw [← hafter, List.length_append, length_behindTokens, List.length_append, List.length_cons, List.length_append,
          hmarks]
        omega
      have hlater := repeatUpTo_nextSegment_last g hsegment hrest
        (2 * names.length + (typeArguments trees).tokens.length + rest.length + 2)
      rw [hafter] at hlater
      have hmore := repeatUpTo_nextSegment_append g false hnames hleaves hlater
      rw [← hfuel] at hmore
      have hpath := path_segments g false leading hfirst hmore
      have htokens : (typePath leading (name :: names) last trees).tokens ++ rest =
          (if leading then Token.op "::" else []) ++ .word name :: (behindTokens names ++ after) := by
        rw [typePath, TypeTree.tokens, segmentsTokens_typePath, Segment.tokens, ← hafter]
        simp only [List.append_assoc, List.cons_append]
      rw [htokens]
      exact hpath

/-- Whether a type that starts with some tokens is a path, without anything in front of it. -/
structure StartsPath (tokens : List Token) : Prop where
  lifetimes : isWord "for" tokens = false
  group : isGroup .parenthesis tokens = false
  function : isOneOf ["fn", "unsafe", "extern"] tokens = false
  path : (isPathWord tokens || isOp "::" tokens) = true
  trait : isOp "<" tokens = false

theorem startsPath_word {name : String} (hname : isSegmentName name = true) (htry : name ≠ "try")
    (rest : List Token) : StartsPath (.word name :: rest) where
  lifetimes := isWord_eq_false hname (by decide) rest
  group := rfl
  function := by
    have hword := fun keyword hkeyword => @isWord_eq_false name keyword hname hkeyword rest
    simp [isOneOf, hword "fn" (by decide), hword "unsafe" (by decide), hword "extern" (by decide)]
  path := by rw [isPathWord_of_isSegmentName hname htry, Bool.true_or]
  trait := rfl

/-- What stands at the start of a path with types behind its last name. -/
theorem tokens_typePath_cases (leading : Bool) (hfront : ∀ name ∈ front, isSegmentName name = true ∧ name ≠ "try")
    (hlast : takesTypes last = true) (trees : List TypeTree) :
    ∃ more, (typePath leading front last trees).tokens = .mark ':' true :: .mark ':' false :: more ∨
      ∃ name, (typePath leading front last trees).tokens = .word name :: more ∧
        isSegmentName name = true ∧ name ≠ "try" := by
  cases leading with
  | true => exact ⟨_, .inl rfl⟩
  | false =>
      cases front with
      | nil =>
          have htry : last ≠ "try" := by
            rintro rfl
            exact absurd hlast (by decide)
          rw [typePath, TypeTree.tokens, List.map_nil, List.nil_append, segmentsTokens, Segment.tokens]
          exact ⟨_, .inr ⟨last, rfl, isSegmentName_of_takesTypes hlast, htry⟩⟩
      | cons name names =>
          rw [typePath, TypeTree.tokens, segmentsTokens_typePath]
          exact ⟨_, .inr ⟨name, rfl, hfront name List.mem_cons_self⟩⟩

theorem startsPath_typePath (leading : Bool) (hfront : ∀ name ∈ front, isSegmentName name = true ∧ name ≠ "try")
    (hlast : takesTypes last = true) (rest : List Token) :
    StartsPath ((typePath leading front last trees).tokens ++ rest) := by
  obtain ⟨more, heq | ⟨name, heq, hname, htry⟩⟩ := tokens_typePath_cases leading hfront hlast trees
  · rw [heq]
    exact ⟨rfl, rfl, rfl, rfl, rfl⟩
  · rw [heq]
    exact startsPath_word hname htry _

/-- A type that starts with a path is the path, when nothing goes on with it. -/
theorem readType_path {tokens : List Token} {leading : Bool} {segments : List Segment} (hstart : StartsPath tokens)
    (hrest : endsType rest = true) (hpath : path g false tokens = .ok ((leading, segments), rest)) :
    readType g true tokens = .ok (.path leading segments, rest) := by
  obtain ⟨-, -, hbang, hplus⟩ := isOp_of_endsType hrest
  have hlifetimes := boundLifetimes?_none g hstart.lifetimes
  have hqualified : qualifiedPath g false tokens = .ok (.path leading segments, rest) := by
    simp [qualifiedPath, hstart.trait, hpath]
  have htype : typeFromPath g true [] tokens = .ok (.path leading segments, rest) := by
    simp [typeFromPath, hqualified, hbang, hplus]
  have hdispatch := hstart.path
  simp only [readType, bind_apply, get_apply, ok_bind, hlifetimes, hstart.group, hstart.function, hdispatch,
    List.isEmpty_nil, Bool.not_true, Bool.false_and, Bool.true_or, Bool.false_eq_true, if_false, if_true]
  exact htype

end Paths

/-! ## Types that are made of such types -/

section Returns

variable {trees : List TypeTree}

theorem returns_unit : TypeTree.unit.Returns where
  starts := rfl
  reads := by
    intro depth hdepth rest _
    obtain ⟨depth, rfl⟩ := Nat.exists_eq_succ_of_ne_zero (Nat.ne_of_gt (Nat.lt_of_lt_of_le (Nat.succ_pos _) hdepth))
    exact readType_unit (.level depth) true rest

/-- A literal is an expression. -/
theorem expression_literal (depth : Nat) (records : Bool) (text : String) :
    (Parsers.level (depth + 2)).expression records [.literal text] = .ok ({ tokens := [.literal text] }, []) := by
  have hothers : isOp "#" [.literal text] = false ∧ isOp "&" [.literal text] = false ∧
      isOp "*" [.literal text] = false ∧ isOp "!" [.literal text] = false ∧ isOp "-" [.literal text] = false :=
    ⟨rfl, rfl, rfl, rfl, rfl⟩
  have hatom : atom (.level depth) records [.literal text] = .ok ({ tokens := [.literal text] }, []) := by
    have hliteral : isLiteral [.literal text] = true := rfl
    simp [atom, hliteral, literal]
  have hattributes := outerTokens_none (.level depth) hothers.1
  have htrailers := trailers_end (.level depth) { tokens := [.literal text] }
  refine expression_level records ?_
  simp only [readOperand, bind_apply, hattributes, ok_bind, get_apply, hothers, Bool.false_eq_true, if_false, hatom,
    htrailers, List.isEmpty_nil, Bool.not_true, Bool.false_and, pure_apply]
  rfl

/-- An array whose length is a literal comes back when its element type does. -/
theorem returns_array {element : TypeTree} (helement : element.Returns) (length : String) :
    (TypeTree.array element [.literal length]).Returns where
  starts := rfl
  reads := by
    intro depth hdepth rest _
    have hweight : weightOfList element.tokens + 2 + 1 ≤ depth := by
      simp only [TypeTree.tokens, Token.brackets, weightOfList, weight, weightOfList_append] at hdepth
      omega
    obtain ⟨depth, rfl⟩ := Nat.exists_eq_add_of_le' (Nat.le_of_add_left_le hweight)
    have hread := helement.reads depth (Nat.le_of_succ_le_succ hweight) (Token.op ";" ++ [.literal length]) rfl
    obtain ⟨less, rfl⟩ := Nat.exists_eq_add_of_le' (Nat.le_of_add_left_le (Nat.le_of_succ_le_succ hweight))
    exact readType_array (.level (less + 2)) true hread (expression_literal less true length) rest

/-- A path comes back when the types behind its last name do. -/
theorem returns_typePath (leading : Bool) {front : List String} {last : String}
    (hfront : ∀ name ∈ front, isSegmentName name = true ∧ name ≠ "try") (hlast : takesTypes last = true)
    (htrees : ∀ tree ∈ trees, tree.Returns) : (typePath leading front last trees).Returns where
  starts := by
    obtain ⟨more, heq | ⟨name, heq, hname, _⟩⟩ := tokens_typePath_cases leading hfront hlast trees
    · rw [heq]
      rfl
    · rw [heq]
      exact hname
  reads := by
    intro depth hdepth rest hrest
    have hfits : ∀ tree ∈ trees, weightOfList tree.tokens + 2 + 1 ≤ depth := by
      intro tree htree
      have hinside := weightOfList_le_of_infix (tokens_infix_commaSeparated htree)
      have hmarks : weightOfList (Token.op "<") = 1 ∧ weightOfList (Token.op ">") = 1 := ⟨rfl, rfl⟩
      rw [tokens_typePath, tokens_typeArguments (List.ne_nil_of_mem htree), weightOfList_append, weightOfList_append,
        weightOfList_append, hmarks.1, hmarks.2] at hdepth
      omega
    obtain ⟨depth, rfl⟩ := Nat.exists_eq_succ_of_ne_zero (Nat.ne_of_gt (Nat.lt_of_lt_of_le (Nat.succ_pos _) hdepth))
    refine readType_path (.level depth) (startsPath_typePath leading hfront hlast rest) hrest ?_
    refine path_types (.level depth) leading (fun name hname => (hfront name hname).1) hlast (fun hnonempty => ?_) hrest
    refine arguments_types (.level depth) hnonempty (fun tree htree => (htrees tree htree).starts) ?_ rest
    intro tree htree rest hrest
    exact (htrees tree htree).reads depth (Nat.le_of_succ_le_succ (hfits tree htree)) rest hrest

end Returns

end BuilderGen.Grammar

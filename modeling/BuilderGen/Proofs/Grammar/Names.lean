import BuilderGen.Grammar.Level
import BuilderGen.Proofs.Success
import BuilderGen.Proofs.Token.Sequence

/-!
# Names and paths of names

Texts that the grammar takes for identifiers and for paths of mere names.  A path of names is read from its tokens
segment by segment, whatever may follow that does not go on with the path.
-/

namespace BuilderGen.Grammar

open Lexer (tokenize tokenize_text tokenize_word)

/-! ## Names -/

/-- The keywords that a path may hold. -/
def segmentKeywords : List String := ["super", "self", "Self", "crate", "try"]

/-- Whether a text is an identifier. -/
def isIdentifier (text : String) : Bool :=
  Lexer.isWord text && decide (text ∉ keywords)

/-- Whether a text may stand between the separators of a path. -/
def isSegmentName (text : String) : Bool :=
  Lexer.isWord text && (decide (text ∉ keywords) || decide (text ∈ segmentKeywords))

theorem isSegmentName_of_isIdentifier {text : String} (h : isIdentifier text = true) : isSegmentName text = true := by
  rw [isIdentifier, Bool.and_eq_true] at h
  rw [isSegmentName, h.1, h.2]
  rfl

theorem isWord_of_isIdentifier {text : String} (h : isIdentifier text = true) : Lexer.isWord text = true := by
  rw [isIdentifier, Bool.and_eq_true] at h
  exact h.1

theorem isWord_of_isSegmentName {text : String} (h : isSegmentName text = true) : Lexer.isWord text = true := by
  rw [isSegmentName, Bool.and_eq_true] at h
  exact h.1

/-! ## Running parsers -/

section Running

variable {α β : Type}

@[simp] theorem bind_apply (parser : Parser α) (next : α → Parser β) (tokens : List Token) :
    (parser >>= next) tokens = (parser tokens >>= fun read => next read.1 read.2) := rfl

@[simp] theorem map_apply (function : α → β) (parser : Parser α) (tokens : List Token) :
    (function <$> parser) tokens = (parser tokens >>= fun read => .ok (function read.1, read.2)) := rfl

@[simp] theorem pure_apply (value : α) (tokens : List Token) :
    (pure value : Parser α) tokens = .ok (value, tokens) := rfl

@[simp] theorem get_apply (tokens : List Token) : (get : Parser (List Token)) tokens = .ok (tokens, tokens) := rfl

@[simp] theorem look_apply (property : List Token → Bool) (tokens : List Token) :
    look property tokens = .ok (property tokens, tokens) := rfl

@[simp] theorem ok_bind (value : α) (next : α → Except Failure β) : (Except.ok value >>= next) = next value := rfl

end Running

/-- A text is read to the end when its tokens are. -/
theorem readText_eq_ok {α : Type} {parser : Parsers → Parser α} {text : String} {value : α} :
    readText parser text = .ok value ↔
      ∃ tokens, tokenize text = some tokens ∧ parser (.enough tokens) tokens = .ok (value, []) := by
  rw [readText]
  cases htokens : tokenize text with
  | none => simp
  | some tokens =>
      rw [mapError_eq_ok, read, complete, bind_eq_ok]
      constructor
      · rintro ⟨⟨found, rest⟩, hread, h⟩
        cases rest with
        | nil =>
            cases h
            exact ⟨tokens, rfl, hread⟩
        | cons token rest => cases h
      · rintro ⟨found, heq, hread⟩
        cases heq
        exact ⟨_, hread, rfl⟩

theorem identOfText?_of_isIdentifier {text : String} (h : isIdentifier text = true) :
    identOfText? text = .ok text := by
  rw [isIdentifier, Bool.and_eq_true, decide_eq_true_iff] at h
  exact readText_eq_ok.mpr ⟨_, tokenize_word h.1, by simp [ident, h.2]⟩

/-! ## Paths of names -/

section Paths

variable (g : Parsers) (inExpression : Bool) {names : List String} {rest : List Token}

/-- A segment without arguments. -/
def bareSegment (name : String) : Segment :=
  .mk name .none

/-- The tokens of a path behind its first name. -/
def behindTokens (names : List String) : List Token :=
  names.flatMap fun name => [.mark ':' true, .mark ':' false, .word name]

theorem length_behindTokens (names : List String) : (behindTokens names).length = 3 * names.length := by
  induction names with
  | nil => rfl
  | cons name names ih =>
      have hcons : behindTokens (name :: names) =
          [.mark ':' true, .mark ':' false, .word name] ++ behindTokens names := rfl
      rw [hcons, List.length_append, ih, List.length_cons]
      simp only [List.length_cons, List.length_nil]
      omega

theorem namesTokens_cons (name : String) (names : List String) :
    NamePath.namesTokens (name :: names) = .word name :: behindTokens names := by
  induction names generalizing name with
  | nil => rfl
  | cons next names ih =>
      rw [NamePath.namesTokens, ih next]
      · rfl
      · exact List.cons_ne_nil next names

/-- Whether tokens do not go on with a path. -/
def endsPath : List Token → Bool
  | .mark c _ :: _ => c != ':' && c != '<'
  | _ => true

theorem isOp_of_endsPath (hrest : endsPath rest = true) : isOp "::" rest = false ∧ isOp "<" rest = false := by
  have hseparator : "::".toList = [':', ':'] := rfl
  have hopening : "<".toList = ['<'] := rfl
  rw [isOp, isOp, hseparator, hopening]
  cases rest with
  | nil => exact ⟨rfl, rfl⟩
  | cons token rest =>
      cases token with
      | mark c joint =>
          rw [endsPath, Bool.and_eq_true, bne_iff_ne, bne_iff_ne] at hrest
          simp [startsWithMarks, Ne.symm hrest.1, Ne.symm hrest.2]
      | word _ | literal _ | group _ _ => exact ⟨rfl, rfl⟩

/-- Whether neither arguments nor a turbofish come next. -/
def leavesSegment (tokens : List Token) : Bool :=
  !isOp "<" tokens && !(isOp "::" tokens && isOp "<" (behindTwo tokens))

theorem leavesSegment_of_endsPath (hrest : endsPath rest = true) : leavesSegment rest = true := by
  have hrest := isOp_of_endsPath hrest
  rw [leavesSegment, hrest.1, hrest.2]
  rfl

theorem leavesSegment_append {tokens : List Token} (htokens : leavesSegment tokens = true) :
    leavesSegment (behindTokens names ++ tokens) = true := by
  cases names with
  | nil => exact htokens
  | cons name names => rfl

/-- A name is read as a segment where it is left alone. -/
theorem segment_name {name : String} (hname : isSegmentName name = true) (hrest : leavesSegment rest = true) :
    segment g inExpression (.word name :: rest) = .ok (bareSegment name, rest) := by
  rw [isSegmentName, Bool.and_eq_true, Bool.or_eq_true, decide_eq_true_iff, decide_eq_true_iff] at hname
  rw [leavesSegment, Bool.and_eq_true, Bool.not_eq_true', Bool.not_eq_true'] at hrest
  by_cases hkeyword : isOneOf ["super", "self", "crate", "try"] (.word name :: rest) = true
  · simp [segment, hkeyword, anyWord, bareSegment]
  · have hplain : isWord "Self" (.word name :: rest) = true ∨ name ∉ keywords := by
      rcases hname.2 with hplain | hsegment
      · exact .inr hplain
      · simp only [segmentKeywords, List.mem_cons, List.not_mem_nil, or_false] at hsegment
        simp only [isOneOf, List.any_cons, List.any_nil, isWord, Bool.or_false, Bool.or_eq_true, beq_iff_eq,
          not_or] at hkeyword
        refine .inl (beq_iff_eq.mpr ?_)
        rcases hsegment with h | h | h | h | h
        · exact absurd h hkeyword.1
        · exact absurd h hkeyword.2.1
        · exact h
        · exact absurd h hkeyword.2.2.1
        · exact absurd h hkeyword.2.2.2
    have hturbofish : ¬(isOp "::" rest = true ∧ isOp "<" (behindTwo rest) = true) := by
      rw [← Bool.and_eq_true, hrest.2]
      exact Bool.false_ne_true
    by_cases hself : isWord "Self" (.word name :: rest) = true
    · simp [segment, hkeyword, hself, anyWord, hrest.1, hturbofish, bareSegment]
    · have hident : ident (.word name :: rest) = .ok (name, rest) := by
        rw [ident, if_pos (hplain.resolve_left hself)]
      simp [segment, hkeyword, hself, hident, hrest.1, hturbofish, bareSegment]

/-- The step by which a path goes on. -/
def nextSegment : Parser (Option Segment) := do
  if ← look fun tokens => isOp "::" tokens && !isGroup .parenthesis (behindTwo tokens) then
    return some (← (do let _ ← op "::"; segment g inExpression))
  else
    return none

theorem repeatUpTo_nextSegment_end (hrest : endsPath rest = true) (fuel : Nat) :
    repeatUpTo (nextSegment g inExpression) (fuel + 1) rest = .ok ([], rest) := by
  have hnext : nextSegment g inExpression rest = .ok (none, rest) := by
    simp [nextSegment, (isOp_of_endsPath hrest).1]
  simp [repeatUpTo, hnext]

/-- A path goes on over names, and then as what is left goes on. -/
theorem repeatUpTo_nextSegment_append (hnames : ∀ name ∈ names, isSegmentName name = true) {tokens : List Token}
    {segments : List Segment} (htokens : leavesSegment tokens = true) {fuel : Nat}
    (hmore : repeatUpTo (nextSegment g inExpression) fuel tokens = .ok (segments, rest)) :
    repeatUpTo (nextSegment g inExpression) (fuel + names.length) (behindTokens names ++ tokens) =
      .ok (names.map bareSegment ++ segments, rest) := by
  induction names with
  | nil => exact hmore
  | cons name names ih =>
      obtain ⟨hname, hnames⟩ := List.forall_mem_cons.mp hnames
      have hnext : nextSegment g inExpression (behindTokens (name :: names) ++ tokens) =
          .ok (some (bareSegment name), behindTokens names ++ tokens) := by
        have hsegment := segment_name g inExpression hname (@leavesSegment_append names tokens htokens)
        have hmarks : op "::" (behindTokens (name :: names) ++ tokens) =
            .ok (Token.op "::", .word name :: (behindTokens names ++ tokens)) := rfl
        have hlook : (isOp "::" (behindTokens (name :: names) ++ tokens) &&
            !isGroup .parenthesis (behindTwo (behindTokens (name :: names) ++ tokens))) = true := rfl
        simp only [nextSegment, bind_apply, look_apply, ok_bind, hlook, if_true, hmarks, hsegment, pure_apply]
      have hlater := ih hnames
      rw [List.length_cons, ← Nat.add_assoc]
      simp [repeatUpTo, hnext, hlater]

/-- A path is read when its first segment is, and when it goes on behind that. -/
theorem path_segments (leading : Bool) {name : String} {arguments : Arguments} {tokens after : List Token}
    {segments : List Segment}
    (hfirst : segment g inExpression (.word name :: tokens) = .ok (.mk name arguments, after))
    (hmore : repeatUpTo (nextSegment g inExpression) (after.length + 1) after = .ok (segments, rest)) :
    path g inExpression ((if leading then Token.op "::" else []) ++ .word name :: tokens) =
      .ok ((leading, .mk name arguments :: segments), rest) := by
  have hsteps : path g inExpression = (do
      let leading ← op? "::"
      let first ← segment g inExpression
      let more ← many (nextSegment g inExpression)
      return (!leading.isEmpty, first :: more)) := rfl
  have hleading : op? "::" ((if leading then Token.op "::" else []) ++ .word name :: tokens) =
      .ok (if leading then Token.op "::" else [], .word name :: tokens) := by
    cases leading <;> rfl
  have hflag : (!(if leading then Token.op "::" else []).isEmpty) = leading := by
    cases leading <;> rfl
  rw [hsteps]
  simp only [bind_apply, hleading, ok_bind, hfirst, many, get_apply, hmore, pure_apply, hflag]

/-- A path is read from the tokens of its names. -/
theorem path_tokens {written : NamePath} (hnonempty : written.names ≠ [])
    (hnames : ∀ name ∈ written.names, isSegmentName name = true) (hrest : endsPath rest = true) :
    path g inExpression (written.tokens ++ rest) =
      .ok ((written.leading, written.names.map bareSegment), rest) := by
  obtain ⟨leading, names⟩ := written
  cases names with
  | nil => exact absurd rfl hnonempty
  | cons name names =>
      obtain ⟨hname, hnames⟩ := List.forall_mem_cons.mp hnames
      have hleaves := leavesSegment_of_endsPath hrest
      have hfirst := segment_name g inExpression hname (@leavesSegment_append names rest hleaves)
      have hfuel : (behindTokens names ++ rest).length + 1 = 2 * names.length + rest.length + 1 + names.length := by
        rw [List.length_append, length_behindTokens]
        omega
      have hmore := repeatUpTo_nextSegment_append g inExpression hnames hleaves
        (repeatUpTo_nextSegment_end g inExpression hrest (2 * names.length + rest.length))
      rw [← hfuel, List.append_nil] at hmore
      have hpath := path_segments g inExpression leading hfirst hmore
      rwa [← List.cons_append, ← namesTokens_cons, ← List.append_assoc] at hpath

end Paths

/-! ## Texts of paths -/

/-- A path that consists of one name at least, and of names only. -/
structure IsPath (written : NamePath) : Prop where
  nonempty : written.names ≠ []
  names : ∀ name ∈ written.names, isSegmentName name = true

/-- A text that a path of names is written with. -/
def IsPathText (text : String) : Prop :=
  ∃ written : NamePath, IsPath written ∧ written.text = text

theorem IsPath.tokenize_text {written : NamePath} (h : IsPath written) : tokenize written.text = some written.tokens :=
  Lexer.tokenize_text h.nonempty fun name hname => isWord_of_isSegmentName (h.names name hname)

/-- The text of a path of names is read as the path. -/
theorem IsPath.pathOfText? {written : NamePath} (h : IsPath written) :
    Grammar.pathOfText? written.text =
      .ok (TypeTree.path written.leading (written.names.map bareSegment)).tokens := by
  have hend : endsPath [] = true := rfl
  have hpath := path_tokens (.enough written.tokens) false h.nonempty h.names hend
  rw [List.append_nil] at hpath
  refine readText_eq_ok.mpr ⟨_, h.tokenize_text, ?_⟩
  rw [bind_apply, hpath]
  rfl

theorem IsPathText.pathOfText? {text : String} (h : IsPathText text) :
    ∃ tokens, Grammar.pathOfText? text = .ok tokens := by
  obtain ⟨written, hwritten, rfl⟩ := h
  exact ⟨_, hwritten.pathOfText?⟩

theorem isPathText_join {names : List String} (hnonempty : names ≠ [])
    (hnames : ∀ name ∈ names, isSegmentName name = true) : IsPathText (Segments.join names) :=
  ⟨⟨false, names⟩, ⟨hnonempty, hnames⟩, String.empty_append⟩

theorem isPathText_of_isIdentifier {text : String} (h : isIdentifier text = true) : IsPathText text := by
  have hjoin := isPathText_join (List.cons_ne_nil text [])
    (List.forall_mem_singleton.mpr (isSegmentName_of_isIdentifier h))
  rwa [Segments.join, String.intercalate_singleton] at hjoin

theorem join_concat {names : List String} (hnonempty : names ≠ []) (name : String) :
    Segments.join (names ++ [name]) = Segments.join names ++ "::" ++ name := by
  induction names with
  | nil => exact absurd rfl hnonempty
  | cons first names ih =>
      by_cases hnil : names = []
      · subst hnil
        rfl
      · have hmore : names ++ [name] ≠ [] := List.append_ne_nil_of_left_ne_nil hnil [name]
        have hlater := ih hnil
        rw [Segments.join] at hlater ⊢
        rw [List.cons_append, String.intercalate_cons_of_ne_nil hmore, hlater, Segments.join, Segments.join,
          String.intercalate_cons_of_ne_nil hnil]
        simp only [String.append_assoc]

/-- A name behind a path of names. -/
theorem IsPath.text_concat {written : NamePath} (h : IsPath written) (name : String) :
    written.text ++ "::" ++ name = NamePath.text ⟨written.leading, written.names ++ [name]⟩ := by
  have hjoin := join_concat h.nonempty name
  rw [Segments.join, Segments.join] at hjoin
  rw [NamePath.text, NamePath.text, hjoin]
  simp only [String.append_assoc]

theorem IsPath.concat {written : NamePath} (h : IsPath written) {name : String} (hname : isSegmentName name = true) :
    IsPath ⟨written.leading, written.names ++ [name]⟩ where
  nonempty := List.append_ne_nil_of_right_ne_nil _ (List.cons_ne_nil name [])
  names := by
    intro other hother
    rcases List.mem_append.mp hother with hother | hother
    · exact h.names other hother
    · rwa [List.mem_singleton.mp hother]

end BuilderGen.Grammar

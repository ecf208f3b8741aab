import BuilderGen.Grammar.Function
import BuilderGen.Proofs.Grammar.Triple
import BuilderGen.Proofs.Grammar.WellNamed

/-!
# Types are well named

The parsers of literals, of paths of names, of attributes, of types and of expressions, over lexical tokens.  Types
contain expressions and expressions contain types, so these results are relative to a record of parsers: `Parsers.Sound`
says what is to be known of the parsers for the parts.

Of patterns, expressions and the heads of functions only the tokens are kept that stand for them.  Their parsers leave
lexical tokens, so that the names that are read behind them are words again.  What stands in a group is read from the
tokens of the group alone, and the tokens behind the group stay as they are.  So nothing is said of the parsers that are
run inside of groups only: those of statements, of the arms of a match, and of the fields of struct literals and struct
patterns.
-/

namespace BuilderGen.Grammar

open Std.Do

set_option mvcgen.warning false

/-- What is known of a record of parsers over lexical tokens.  Statements stand in groups, which are left behind
whatever is read of them. -/
class Parsers.Sound (g : Parsers) : Prop where
  type : ∀ plus, Gives TypeTree.WellNamed (g.type plus)
  bound : ∀ captures constants, Keeps (g.bound captures constants)
  expression : ∀ records, Keeps (g.expression records)
  operand : ∀ records, Keeps (g.operand records)
  climb : ∀ records base left, Keeps (g.climb records base left)
  pattern : Keeps g.pattern
  item : Gives Item.WellNamed g.item
  importTree : ∀ rooted, Keeps (g.importTree rooted)

attribute [spec] Parsers.Sound.type Parsers.Sound.bound Parsers.Sound.expression Parsers.Sound.operand
  Parsers.Sound.climb Parsers.Sound.pattern Parsers.Sound.item Parsers.Sound.importTree

/-! ## Literals -/

@[spec] theorem keeps_literal : Keeps literal := by
  refine triple_iff.mpr fun tokens value rest htokens h => ?_
  unfold literal at h
  split at h
  · cases h
    exact htokens.drop 1
  · split at h
    · cases h
      exact htokens.drop 2
    · cases h
  · split at h
    · exact triple_iff.mp (keeps_word "true") _ _ _ htokens h
    · split at h
      · exact triple_iff.mp (keeps_word "false") _ _ _ htokens h
      · cases h

@[spec] theorem keeps_textLiteral? : Keeps textLiteral? := by
  mvcgen [textLiteral?]

/-! ## Paths of names -/

/-- A name that may stand in a path of names. -/
def IsScopeName (name : String) : Prop :=
  isSegmentName name = true ∧ name ≠ "try"

theorem isScopeName_of_isPathWord {name : String} {tokens : List Token} (htokens : Lexical tokens)
    (hname : isWord name tokens = true) (hpath : isPathWord tokens = true) : IsScopeName name := by
  rw [isPathWord, Bool.or_eq_true] at hpath
  rcases hpath with hident | hkeyword
  · unfold isWord at hname
    split at hname
    · cases of_decide_eq_true hname
      have hplain := of_decide_eq_true hident
      refine ⟨isSegmentName_of_isIdentifier ?_, fun htry => hplain (by rw [htry]; decide)⟩
      rw [isIdentifier, Bool.and_eq_true, decide_eq_true_iff]
      exact ⟨(Lexical.cons_iff.mp htokens).1, hplain⟩
    · cases hname
  · have hall : ∀ name ∈ ["super", "self", "Self", "crate"], isSegmentName name = true ∧ name ≠ "try" := by
      decide
    exact hall name (mem_of_isOneOf hname hkeyword)

theorem isScope_of_names {leading : Bool} {names : List String} (hnames : names ≠ [])
    (hall : ∀ name ∈ names, IsScopeName name) : IsScope { leading, names } where
  nonempty := hnames
  names name hname := (hall name hname).1
  plain htry := (hall "try" htry).2 rfl

theorem gives_pathNames (fuel : Nat) :
    ⦃fun tokens => ⌜Lexical tokens ∧ isPathWord tokens = true⌝⦄
      pathNames fuel
    ⦃⇓? names tokens => ⌜(names ≠ [] ∧ ∀ name ∈ names, IsScopeName name) ∧ Lexical tokens⌝⦄ := by
  induction fuel with
  | zero => mvcgen [pathNames] <;> grind
  | succ fuel ih =>
      mvcgen [pathNames, look, -keeps_look, -gives_anyWord, gives_start, ih] <;> grind [isScopeName_of_isPathWord]

@[spec] theorem gives_namePath : Gives IsScope namePath := by
  have hnames := gives_pathNames
  mvcgen [namePath, look, -keeps_look, hnames] <;> grind [isScope_of_names]

/-! ## Attributes -/

variable (g : Parsers) [g.Sound]

@[spec] theorem gives_attributeBody : Gives AttributeBody.Lexical (attributeBody g) := by
  refine triple_iff.mpr fun tokens value rest htokens h => ?_
  unfold attributeBody at h
  split at h
  · cases h
    exact Lexical.cons_iff.mp htokens
  · split at h
    · refine (@triple_iff _ _ _ _ fun body rest => AttributeBody.Lexical body ∧ Lexical rest).mp ?_ _ _ _ htokens h
      mvcgen
      all_goals grind [Lexical.nil, AttributeBody.Lexical]
    · cases h
      exact ⟨trivial, htokens⟩

@[spec] theorem gives_attributeContent (inner : Bool) : Gives Attribute.Lexical (attributeContent g inner) := by
  mvcgen [attributeContent]
  all_goals grind

@[spec] theorem gives_outerAttribute : Gives Attribute.Lexical (outerAttribute g) := by
  have hcontent := gives_within .bracket (gives_attributeContent g false)
  mvcgen [outerAttribute, -keeps_within, hcontent]

@[spec] theorem gives_outerAttributes :
    Gives (fun attributes => ∀ attr ∈ attributes, attr.Lexical) (outerAttributes g) :=
  gives_manyWhile (gives_outerAttribute g)

omit [g.Sound] in
@[spec] theorem keeps_innerAttributes : Keeps (innerAttributes g) := by
  mvcgen [innerAttributes]

@[spec] theorem keeps_outerTokens : Keeps (outerTokens g) := by
  mvcgen [outerTokens]
  grind

/-! ## Paths with arguments -/

omit [g.Sound] in
@[spec] theorem keeps_constantArgument (names : Bool) : Keeps (constantArgument g names) := by
  mvcgen [constantArgument]
  grind

@[spec] theorem keeps_boundLifetimes : Keeps (boundLifetimes g) := by
  mvcgen [boundLifetimes]

@[spec] theorem keeps_boundLifetimes? : Keeps (boundLifetimes? g) := by
  mvcgen [boundLifetimes?]

@[spec] theorem keeps_result (plus : Bool) : Keeps (result g plus) := by
  mvcgen [result]
  grind

@[spec] theorem keeps_parenthesizedArguments : Keeps (parenthesizedArguments g) := by
  mvcgen [parenthesizedArguments]

@[spec] theorem keeps_boundsUntil (constants : Bool) (stop : List Token → Bool) :
    Keeps (boundsUntil g constants stop) := by
  mvcgen [boundsUntil]
  grind

@[spec] theorem gives_argument : Gives (fun build => ∀ comma, (build comma).WellNamed) (argument g) := by
  mvcgen [argument] <;> grind [Argument.WellNamed]

@[spec] theorem gives_arguments : Gives Arguments.WellNamed (arguments g) := by
  have hitems := @gives_built _ _ "," (isOp ">") _ (gives_argument g)
  mvcgen [arguments, -keeps_separated, hitems] <;> grind [Arguments.WellNamed]

theorem Segment.wellNamed_mk_iff {name : String} {arguments : Arguments} :
    (Segment.mk name arguments).WellNamed ↔ isSegmentName name = true ∧ arguments.WellNamed :=
  ⟨fun h => ⟨h.name, h.arguments⟩, fun h => ⟨h.1, h.2⟩⟩

@[spec] theorem gives_segment (inExpression : Bool) : Gives Segment.WellNamed (segment g inExpression) := by
  have hfirst : ∀ name ∈ ["super", "self", "crate", "try"], isSegmentName name = true := by decide
  have hself : isSegmentName "Self" = true := by decide
  mvcgen [segment, -gives_anyWord, gives_start] <;>
    grind [Segment.wellNamed_mk_iff, Arguments.WellNamed, isSegmentName_of_isIdentifier, mem_of_isOneOf, eq_of_isWord]

/-- The segments of a path behind its first one. -/
@[spec] theorem gives_moreSegments (inExpression : Bool) (continues : List Token → Bool) :
    Gives (fun segments => ∀ segment ∈ segments, segment.WellNamed)
      (manyWhile continues do
        let _ ← op "::"
        segment g inExpression) := by
  refine gives_manyWhile ?_
  mvcgen

@[spec] theorem gives_path (inExpression : Bool) :
    Gives (fun read => (TypeTree.path read.1 read.2).WellNamed) (path g inExpression) := by
  mvcgen [path, -keeps_manyWhile]
  all_goals grind [TypeTree.wellNamed_path_iff]

@[spec] theorem gives_qualifiedPath (inExpression : Bool) :
    Gives TypeTree.WellNamed (qualifiedPath g inExpression) := by
  mvcgen [qualifiedPath, -keeps_manyWhile] <;> grind [TypeTree.wellNamed_qualified]

/-! ## Bounds -/

@[spec] theorem keeps_traitBound (constants : Bool) : Keeps (traitBound g constants) := by
  mvcgen [traitBound]
  all_goals grind

@[spec] theorem keeps_readBound (captures constants : Bool) : Keeps (readBound g captures constants) := by
  mvcgen [readBound]
  all_goals grind

@[spec] theorem keeps_bounds (plus captures constants : Bool) : Keeps (bounds g plus captures constants) := by
  mvcgen [bounds]

@[spec] theorem keeps_objectBounds (plus : Bool) : Keeps (objectBounds g plus) := by
  mvcgen [objectBounds]
  all_goals grind

@[spec] theorem keeps_moreBounds : Keeps (moreBounds g) := by
  mvcgen [moreBounds]

/-! ## Functions as types -/

omit [g.Sound] in
@[spec] theorem keeps_convention? : Keeps convention? := by
  mvcgen [convention?]

@[spec] theorem keeps_functionType : Keeps (functionType g) := by
  mvcgen [functionType]

/-! ## Types -/

/-- What a group in parentheses holds in a type, with well-named types. -/
def ParenType.WellNamed : ParenType → Prop
  | .single type => type.WellNamed
  | .empty | .lifetimes _ | .maybe _ | .tuple _ => True

@[spec] theorem gives_parenType : Gives ParenType.WellNamed (parenType g) := by
  mvcgen [parenType] <;> grind [ParenType.WellNamed]

@[spec] theorem gives_typeInParens (plus : Bool) : Gives TypeTree.WellNamed (typeInParens g plus) := by
  have hcontent := gives_within .parenthesis (gives_parenType g)
  mvcgen [typeInParens, -keeps_within, hcontent] <;>
    grind [ParenType.WellNamed, TypeTree.wellNamed_paren_iff, TypeTree.wellNamed_other, TypeTree.wellNamed_unit]

@[spec] theorem gives_typeFromPath (plus : Bool) (lifetimes : List Token) :
    Gives TypeTree.WellNamed (typeFromPath g plus lifetimes) := by
  mvcgen [typeFromPath] <;> grind [TypeTree.wellNamed_other]

/-- An array or a slice. -/
theorem gives_bracketType :
    Gives TypeTree.WellNamed (within .bracket do
      let element ← g.type true
      if ← look (isOp ";") then
        let _ ← op ";"
        return .array element (← g.expression true).tokens
      else
        return .other [Token.brackets element.tokens]) := by
  refine gives_within .bracket ?_
  mvcgen <;> grind [TypeTree.wellNamed_other, TypeTree.wellNamed_array_iff]

theorem gives_readType (plus : Bool) : Gives TypeTree.WellNamed (readType g plus) := by
  have hbrackets := gives_bracketType g
  mvcgen [readType, -keeps_within, hbrackets] <;> grind [TypeTree.wellNamed_other]

/-! ## Generic parameters -/

omit [g.Sound] in
@[spec] theorem keeps_lifetimesUntil (stop : List Token → Bool) : Keeps (lifetimesUntil stop) := by
  mvcgen [lifetimesUntil]
  all_goals grind

@[spec] theorem keeps_genericParameter : Keeps (genericParameter g) := by
  mvcgen [genericParameter]
  all_goals grind

@[spec] theorem keeps_generics : Keeps (generics g) := by
  mvcgen [generics]

@[spec] theorem keeps_constraint : Keeps (constraint g) := by
  mvcgen [constraint]
  all_goals grind

@[spec] theorem keeps_whereClause : Keeps (whereClause g) := by
  mvcgen [whereClause]
  all_goals grind

/-! ## Patterns -/

omit [g.Sound] in
@[spec] theorem keeps_member : Keeps member := by
  refine triple_iff.mpr fun tokens value rest htokens h => ?_
  unfold member at h
  split at h
  · split at h <;> cases h
    exact htokens.drop 1
  · split at h
    · obtain ⟨⟨name, left⟩, hname, h⟩ := map_eq_ok.mp h
      cases h
      exact (triple_iff.mp gives_ident _ _ _ htokens hname).2
    · cases h

@[spec] theorem keeps_patternAlternatives : Keeps (patternAlternatives g) := by
  mvcgen [patternAlternatives]

omit [g.Sound] in
@[spec] theorem keeps_patternDots : Keeps patternDots := by
  mvcgen [patternDots]

@[spec] theorem keeps_rangeBound : Keeps (rangeBound g) := by
  mvcgen [rangeBound]
  all_goals grind

@[spec] theorem keeps_patternRange (start : List Token) : Keeps (patternRange g start) := by
  mvcgen [patternRange]
  all_goals grind

@[spec] theorem keeps_patternFromPath : Keeps (patternFromPath g) := by
  mvcgen [patternFromPath]
  all_goals grind

@[spec] theorem keeps_patternBinding : Keeps (patternBinding g) := by
  mvcgen [patternBinding]
  all_goals grind

theorem keeps_readPattern : Keeps (readPattern g) := by
  mvcgen [readPattern]
  all_goals grind

/-! ## Operators -/

@[spec] theorem keeps_rightSide (records : Bool) (precedence : Precedence) :
    Keeps (rightSide g records precedence) := by
  mvcgen [rightSide]

@[spec] theorem keeps_rangeFrom (records : Bool) (start : List Token) : Keeps (rangeFrom g records start) := by
  mvcgen [rangeFrom]
  all_goals grind

@[spec] theorem keeps_climbOnce (records : Bool) (base : Precedence) (left : Expression) :
    Keeps (climbOnce g records base left) := by
  mvcgen [climbOnce]
  all_goals grind

theorem keeps_readOperators (records : Bool) (base : Precedence) (left : Expression) :
    Keeps (readOperators g records base left) := by
  mvcgen [readOperators]

/-! ## Blocks -/

omit [g.Sound] in
@[spec] theorem keeps_block : Keeps (block g) := by
  mvcgen [block]

omit [g.Sound] in
@[spec] theorem keeps_attributedBlock : Keeps (attributedBlock g) :=
  keeps_within .brace

@[spec] theorem keeps_condition : Keeps (condition g) := by
  mvcgen [condition]

@[spec] theorem keeps_conditional (fuel : Nat) : Keeps (conditional g fuel) := by
  induction fuel with
  | zero =>
      mvcgen [conditional]
      grind
  | succ fuel ih => mvcgen [conditional, ih]

@[spec] theorem keeps_matchExpression : Keeps (matchExpression g) := by
  mvcgen [matchExpression]

@[spec] theorem keeps_whileLoop : Keeps (whileLoop g) := by
  mvcgen [whileLoop]

@[spec] theorem keeps_forLoop : Keeps (forLoop g) := by
  mvcgen [forLoop]

omit [g.Sound] in
@[spec] theorem keeps_endlessLoop : Keeps (endlessLoop g) := by
  mvcgen [endlessLoop]

omit [g.Sound] in
@[spec] theorem keeps_keywordBlock (keyword : String) : Keeps (keywordBlock g keyword) := by
  mvcgen [keywordBlock]

@[spec] theorem keeps_labeled : Keeps (labeled g) := by
  mvcgen [labeled]
  all_goals grind

@[spec] theorem keeps_blockExpression? : Keeps (blockExpression? g) := by
  mvcgen [blockExpression?]

/-! ## Operands -/

@[spec] theorem keeps_pathExpression (records : Bool) : Keeps (pathExpression g records) := by
  mvcgen [pathExpression]
  all_goals grind

@[spec] theorem keeps_closureInput : Keeps (closureInput g) := by
  mvcgen [closureInput]
  all_goals grind

@[spec] theorem keeps_closure (records : Bool) : Keeps (closure g records) := by
  mvcgen [closure]
  all_goals grind

@[spec] theorem keeps_expression? : Keeps (expression? g) := by
  mvcgen [expression?]

@[spec] theorem keeps_breakExpression (records : Bool) : Keeps (breakExpression g records) := by
  mvcgen [breakExpression]
  all_goals grind

@[spec] theorem keeps_letExpression (records : Bool) : Keeps (letExpression g records) := by
  mvcgen [letExpression]

@[spec] theorem keeps_atom (records : Bool) : Keeps (atom g records) := by
  mvcgen [atom]
  all_goals grind

@[spec] theorem keeps_memberAccess : Keeps (memberAccess g) := by
  mvcgen [memberAccess]
  all_goals grind

@[spec] theorem keeps_behindPoint : Keeps (behindPoint g) := by
  mvcgen [behindPoint]
  all_goals grind [Lexical.cons_iff]

@[spec] theorem keeps_trailer (subject : Expression) : Keeps (trailer g subject) := by
  mvcgen [trailer]

@[spec] theorem keeps_trailers (subject : Expression) : Keeps (trailers g subject) := by
  mvcgen [trailers]

theorem keeps_readOperand (records : Bool) : Keeps (readOperand g records) := by
  mvcgen [readOperand]
  all_goals grind

theorem keeps_readExpression (records : Bool) : Keeps (readExpression g records) := by
  mvcgen [readExpression]

/-! ## Functions -/

omit [g.Sound] in
@[spec] theorem keeps_since (start : List Token) : Keeps (since start) := by
  mvcgen [since]

@[spec] theorem keeps_signature (safe : Bool) : Keeps (signature g safe) := by
  mvcgen [signature]
  all_goals grind

@[spec] theorem keeps_aliasParts (constrainedBefore constrainedAfter : Bool) :
    Keeps (aliasParts g constrainedBefore constrainedAfter) := by
  mvcgen [aliasParts]
  all_goals grind

end BuilderGen.Grammar

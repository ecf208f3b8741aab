import BuilderGen.Grammar.Parser
import BuilderGen.Proofs.Grammar.Names
import BuilderGen.Proofs.Token.Lexical
import Mathlib

/-!
# Parsers over lexical tokens

A parser that starts on lexical tokens leaves lexical tokens, since it only drops tokens at the front or looks into
groups.  This is the precondition of every parser of the grammar and part of its postcondition: `Keeps` states it
alone, and `Gives` states it together with a property of the value.  Here are the statements for the parsers that read
single tokens and for the loops.
-/

namespace BuilderGen.Grammar

open Std.Do

set_option mvcgen.warning false

variable {ε α : Type}

/-- A parser that leaves lexical tokens when it starts on lexical tokens, whatever its failures are. -/
abbrev Keeps (parser : StateT (List Token) (Except ε) α) : Prop :=
  ⦃fun tokens => ⌜Lexical tokens⌝⦄ parser ⦃⇓? _ tokens => ⌜Lexical tokens⌝⦄

/-- A parser that gives values with a property, besides. -/
abbrev Gives (property : α → Prop) (parser : StateT (List Token) (Except ε) α) : Prop :=
  ⦃fun tokens => ⌜Lexical tokens⌝⦄ parser ⦃⇓? value tokens => ⌜property value ∧ Lexical tokens⌝⦄

section Triple

variable {parser : StateT (List Token) (Except ε) α} {property : α → Prop}

/-- A triple is about the runs that succeed. -/
theorem triple_iff {start : List Token → Prop} {result : α → List Token → Prop} :
    ⦃fun tokens => ⌜start tokens⌝⦄ parser ⦃⇓? value tokens => ⌜result value tokens⌝⦄ ↔
      ∀ tokens value rest, start tokens → parser tokens = .ok (value, rest) → result value rest := by
  have hrun : ∀ tokens, (wp⟦parser⟧ (⇓? value tokens => ⌜result value tokens⌝) tokens).down ↔
      ∀ value rest, parser tokens = .ok (value, rest) → result value rest := by
    intro tokens
    have hwp : wp⟦parser⟧ (⇓? value tokens => ⌜result value tokens⌝) tokens =
        wp⟦parser tokens⟧ (⇓? read => ⌜result read.1 read.2⌝) := rfl
    rw [hwp]
    cases parser tokens with
    | error failure => exact ⟨fun _ => nofun, fun _ => trivial⟩
    | ok read =>
        constructor
        · rintro h value rest ⟨⟩
          exact h
        · exact fun h => h read.1 read.2 rfl
  constructor
  · exact fun h tokens value rest htokens => (hrun tokens).mp (h tokens htokens) value rest
  · exact fun h tokens htokens => (hrun tokens).mpr fun value rest => h tokens value rest htokens

theorem keeps_of_gives (h : Gives property parser) : Keeps parser :=
  triple_iff.mpr fun tokens value rest htokens hread => (triple_iff.mp h tokens value rest htokens hread).2

/-- A parser that reads one part after another has read the first one when it succeeds. -/
theorem Keeps.of_bind {β : Type} (hparser : Keeps parser) {next : α → StateT (List Token) (Except ε) β}
    {tokens : List Token} (htokens : Lexical tokens) {result : β × List Token}
    (h : (parser >>= next) tokens = .ok result) :
    ∃ value rest, parser tokens = .ok (value, rest) ∧ Lexical rest ∧ next value rest = .ok result := by
  obtain ⟨⟨value, rest⟩, hread, hnext⟩ := bind_eq_ok.mp h
  exact ⟨value, rest, hread, triple_iff.mp hparser _ _ _ htokens hread, hnext⟩

end Triple

/-! ## Single tokens -/

section Primitive

@[spec] theorem keeps_look (property : List Token → Bool) : Keeps (look property) := by
  mvcgen [look]

/-- What a parser that fails gives may be taken to have any property. -/
@[spec] theorem gives_fail (expected : String) : Gives (fun _ => False) (fail expected : Parser α) :=
  triple_iff.mpr nofun

@[spec] theorem keeps_op (text : String) : Keeps (op text) := by
  refine triple_iff.mpr fun tokens value rest htokens h => ?_
  rw [op] at h
  split at h <;> cases h
  exact htokens.drop _

@[spec] theorem keeps_op? (text : String) : Keeps (op? text) := by
  refine triple_iff.mpr fun tokens value rest htokens h => ?_
  rw [op?] at h
  split at h <;> cases h
  · exact htokens.drop _
  · exact htokens

@[spec] theorem keeps_word (text : String) : Keeps (word text) := by
  refine triple_iff.mpr fun tokens value rest htokens h => ?_
  rw [word] at h
  split at h <;> cases h
  exact htokens.drop _

@[spec] theorem keeps_word? (text : String) : Keeps (word? text) := by
  refine triple_iff.mpr fun tokens value rest htokens h => ?_
  rw [word?] at h
  split at h <;> cases h
  · exact htokens.drop _
  · exact htokens

@[spec] theorem gives_ident : Gives (fun name => isIdentifier name = true) ident := by
  refine triple_iff.mpr fun tokens value rest htokens h => ?_
  unfold ident at h
  split at h
  · split at h
    · rename_i hplain
      cases h
      obtain ⟨hword, hrest⟩ := Lexical.cons_iff.mp htokens
      refine ⟨?_, hrest⟩
      rw [Token.isLexical] at hword
      unfold isIdentifier
      rw [hword, decide_eq_true hplain]
      rfl
    · cases h
  · cases h

@[spec] theorem gives_anyWord : Gives (fun name => Lexer.isWord name = true) anyWord := by
  refine triple_iff.mpr fun tokens value rest htokens h => ?_
  unfold anyWord at h
  split at h <;> cases h
  exact Lexical.cons_iff.mp htokens

/-- The word that is read is the one that the tokens start with. -/
theorem gives_start (start : List Token) :
    ⦃fun tokens => ⌜tokens = start⌝⦄
      anyWord
    ⦃⇓? name tokens => ⌜isWord name start = true ∧ (Lexical start → Lexical tokens)⌝⦄ := by
  refine triple_iff.mpr fun tokens name rest htokens h => ?_
  cases htokens
  unfold anyWord at h
  split at h <;> cases h
  exact ⟨decide_eq_true rfl, fun hstart => hstart.drop 1⟩

theorem eq_of_isWord {name other : String} {tokens : List Token} (hname : isWord name tokens = true)
    (hother : isWord other tokens = true) : name = other := by
  unfold isWord at hname
  split at hname
  · exact (of_decide_eq_true hname).symm.trans (of_decide_eq_true hother)
  · cases hname

/-- A word where one of some words comes next is one of them. -/
theorem mem_of_isOneOf {name : String} {allowed : List String} {tokens : List Token}
    (hname : isWord name tokens = true) (hallowed : isOneOf allowed tokens = true) : name ∈ allowed := by
  obtain ⟨other, hother, hword⟩ := List.any_eq_true.mp hallowed
  cases eq_of_isWord hname hword
  exact hother

@[spec] theorem keeps_lifetime : Keeps lifetime := by
  refine triple_iff.mpr fun tokens value rest htokens h => ?_
  unfold lifetime at h
  split at h <;> cases h
  exact htokens.drop 2

@[spec] theorem keeps_lifetime? : Keeps lifetime? := by
  mvcgen [lifetime?]

@[spec] theorem keeps_anyGroup : Keeps anyGroup := by
  refine triple_iff.mpr fun tokens value rest htokens h => ?_
  unfold anyGroup at h
  split at h <;> cases h
  exact htokens.drop 1

end Primitive

/-! ## Parsers for groups, and parsers that are tried -/

section Combinators

variable {parser : Parser α} {property : α → Prop}

theorem complete_eq_ok {tokens : List Token} {value : α} (h : complete parser tokens = .ok value) :
    parser tokens = .ok (value, []) := by
  obtain ⟨⟨read, left⟩, hread, h⟩ := bind_eq_ok.mp h
  cases left with
  | nil =>
      cases h
      exact hread
  | cons token left => cases h

theorem within_eq_ok {delimiter : Delimiter} {tokens rest : List Token} {value : α}
    (h : within delimiter parser tokens = .ok (value, rest)) :
    ∃ content, tokens = .group delimiter content :: rest ∧ parser content = .ok (value, []) := by
  unfold within at h
  split at h
  · split at h
    · rename_i content _ hdelimiter
      obtain ⟨found, hfound, heq⟩ := map_eq_ok.mp h
      cases heq
      exact ⟨content, by rw [hdelimiter], complete_eq_ok hfound⟩
    · cases h
  · cases h

/-- What a group holds is left behind, whatever is read of it. -/
@[spec] theorem keeps_within (delimiter : Delimiter) : Keeps (within delimiter parser) := by
  refine triple_iff.mpr fun tokens value rest htokens h => ?_
  obtain ⟨content, rfl, _⟩ := within_eq_ok h
  exact htokens.drop 1

theorem gives_within (delimiter : Delimiter) (hparser : Gives property parser) :
    Gives property (within delimiter parser) := by
  refine triple_iff.mpr fun tokens value rest htokens h => ?_
  obtain ⟨content, rfl, hread⟩ := within_eq_ok h
  obtain ⟨hcontent, hrest⟩ := Lexical.cons_iff.mp htokens
  exact ⟨(triple_iff.mp hparser content value [] hcontent hread).1, hrest⟩

@[spec] theorem keeps_ahead? : Keeps (ahead? parser) := by
  refine triple_iff.mpr fun tokens value rest htokens h => ?_
  unfold ahead? at h
  split at h <;> cases h <;> exact htokens

@[spec] theorem keeps_verbatim (hparser : Keeps parser) : Keeps (verbatim parser) := by
  refine triple_iff.mpr fun tokens value rest htokens h => ?_
  obtain ⟨⟨found, more⟩, hread, h⟩ := bind_eq_ok.mp h
  cases h
  exact triple_iff.mp hparser _ _ _ htokens hread

end Combinators

/-! ## Loops -/

section Loops

variable {parser : Parser α} {property : α → Prop}

theorem gives_repeatUpTo {step : Parser (Option α)} (hstep : Gives (fun found => ∀ value ∈ found, property value) step)
    (fuel : Nat) : Gives (fun values => ∀ value ∈ values, property value) (repeatUpTo step fuel) := by
  induction fuel with
  | zero =>
      mvcgen [repeatUpTo]
      grind
  | succ fuel ih => mvcgen [repeatUpTo, hstep, ih] <;> grind

theorem gives_many {step : Parser (Option α)} (hstep : Gives (fun found => ∀ value ∈ found, property value) step) :
    Gives (fun values => ∀ value ∈ values, property value) (many step) := by
  have hloop := gives_repeatUpTo hstep
  mvcgen [many, hloop]

@[spec] theorem keeps_many {step : Parser (Option α)} (hstep : Keeps step) : Keeps (many step) := by
  refine keeps_of_gives (@gives_many _ (fun _ => True) _ ?_)
  mvcgen [hstep]
  grind

theorem gives_manyWhile {condition : List Token → Bool} (hparser : Gives property parser) :
    Gives (fun values => ∀ value ∈ values, property value) (manyWhile condition parser) := by
  refine gives_many ?_
  mvcgen [hparser] <;> grind

@[spec] theorem keeps_manyWhile {condition : List Token → Bool} (hparser : Keeps parser) :
    Keeps (manyWhile condition parser) := by
  mvcgen [manyWhile, hparser]

theorem keeps_iterateUpTo {step : α → Parser (Option α)} (hstep : ∀ value, Keeps (step value)) (fuel : Nat)
    (value : α) : Keeps (iterateUpTo step fuel value) := by
  induction fuel generalizing value with
  | zero =>
      mvcgen [iterateUpTo]
      grind
  | succ fuel ih => mvcgen [iterateUpTo, hstep, ih]

@[spec] theorem keeps_iterate {step : α → Parser (Option α)} (hstep : ∀ value, Keeps (step value)) (value : α) :
    Keeps (iterate step value) := by
  have hloop := keeps_iterateUpTo hstep
  mvcgen [iterate, hloop]

theorem gives_separatedUpTo {separator : String} {stop : List Token → Bool} (hparser : Gives property parser)
    (fuel : Nat) :
    Gives (fun values => ∀ value ∈ values, property value.1) (separatedUpTo separator stop parser fuel) := by
  induction fuel with
  | zero =>
      mvcgen [separatedUpTo]
      grind
  | succ fuel ih => mvcgen [separatedUpTo, hparser, ih] <;> grind

theorem gives_separated {separator : String} {stop : List Token → Bool} (hparser : Gives property parser) :
    Gives (fun values => ∀ value ∈ values, property value.1) (separated separator stop parser) := by
  have hloop := @gives_separatedUpTo _ _ _ separator stop hparser
  mvcgen [separated, hloop]

/-- Values that are built from whether a separator follows them. -/
theorem gives_built {separator : String} {stop : List Token → Bool} {parser : Parser (Bool → α)}
    (hparser : Gives (fun build => ∀ comma, property (build comma)) parser) :
    Gives (fun found => ∀ value ∈ found.map fun (build, comma) => build comma, property value)
      (separated separator stop parser) := by
  have hfound := @gives_separated _ _ _ separator stop hparser
  refine triple_iff.mpr fun tokens found rest htokens h => ?_
  obtain ⟨hvalues, hrest⟩ := triple_iff.mp hfound _ _ _ htokens h
  exact ⟨List.forall_mem_map.mpr fun read hread => hvalues read hread read.2, hrest⟩

@[spec] theorem keeps_separated {separator : String} {stop : List Token → Bool} (hparser : Keeps parser) :
    Keeps (separated separator stop parser) := by
  refine keeps_of_gives (@gives_separated _ _ (fun _ => True) _ _ ?_)
  mvcgen [hparser]
  grind

@[spec] theorem keeps_commaTokens {parser : Parser (List Token)} (hparser : Keeps parser) :
    Keeps (commaTokens parser) := by
  mvcgen [commaTokens, hparser]

end Loops

end BuilderGen.Grammar

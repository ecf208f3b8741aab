import BuilderGen.Proofs.Grammar.ItemTriple
import BuilderGen.Proofs.Source.Requested

/-!
# Paths that markers name

A marker may name the provider of a field by a path.  The tokens of the marker are lexical, and the path is read from
them by the grammar, so that the text of the path is a path of names again.
-/

namespace BuilderGen

open Grammar

theorem Grammar.KeyList.keeps_key : Keeps key := by
  have hrest : Keeps restOfKey := by
    refine keeps_manyWhile (triple_iff.mpr fun tokens name rest htokens h => ?_)
    obtain ⟨_, behind, _, hbehind, h⟩ := (keeps_op "::").of_bind htokens h
    exact (triple_iff.mp gives_anyWord _ _ _ hbehind h).2
  refine triple_iff.mpr fun tokens path rest htokens h => ?_
  obtain ⟨leading, behind, _, hbehind, h⟩ := (keeps_op? "::").of_bind htokens h
  obtain ⟨_, hget, h⟩ := bind_apply_eq_ok.mp h
  cases hget
  split at h
  · obtain ⟨first, more, _, hmore, h⟩ := (keeps_of_gives gives_anyWord).of_bind hbehind h
    obtain ⟨names, left, _, hleft, h⟩ := hrest.of_bind hmore h
    cases h
    exact hleft
  · split at h
    · cases h
    · split at h <;> cases h

namespace Marker

theorem gives_byGrammar {α : Type} {parser : Parser α} {property : α → Prop} (hparser : Gives property parser) :
    Gives property (byGrammar parser) :=
  triple_iff.mpr fun _ _ _ htokens h => triple_iff.mp hparser _ _ _ htokens (mapError_eq_ok.mp h)

theorem keeps_byGrammar {α : Type} {parser : Parser α} (hparser : Keeps parser) : Keeps (byGrammar parser) :=
  triple_iff.mpr fun _ _ _ htokens h => triple_iff.mp hparser _ _ _ htokens (mapError_eq_ok.mp h)

theorem keeps_textValue (name : String) : Keeps (textValue name) := by
  refine triple_iff.mpr fun tokens value rest htokens h => ?_
  obtain ⟨_, behind, _, hbehind, h⟩ := (keeps_byGrammar (keeps_op "=")).of_bind htokens h
  obtain ⟨literal, left, _, hleft, h⟩ := (keeps_byGrammar keeps_literal).of_bind hbehind h
  split at h
  · rename_i text _
    cases hvalue : Literal.textValue? text with
    | none =>
        rw [hvalue] at h
        cases h
    | some found =>
        rw [hvalue] at h
        cases h
        exact hleft
  · cases h

/-- A marking whose provider, if it names one, is named by a path. -/
def NamesPath (marking : Marking) : Prop :=
  ∀ reference, marking = .provider reference → IsPathText reference

theorem namesPath_provider {leading : Bool} {segments : List Segment}
    (h : (TypeTree.path leading segments).WellNamed) : NamesPath (.provider (pathText leading segments)) := by
  rintro _ ⟨⟩
  refine isPathText_pathText (h _ ?_)
  rw [TypeTree.parts]
  exact List.mem_cons_self

/-- The strategy that is read from lexical tokens. -/
theorem gives_strategy (path : NamePath) : Gives NamesPath (strategy path) := by
  refine triple_iff.mpr fun tokens marking rest htokens h => ?_
  obtain ⟨_, hget, h⟩ := KeyList.bind_apply_eq_ok.mp h
  cases hget
  have hmark := keeps_byGrammar (keeps_op "=")
  dsimp only at h
  split at h
  · cases h
    exact ⟨nofun, htokens⟩
  split at h
  · split at h
    · obtain ⟨_, behind, _, hbehind, h⟩ := hmark.of_bind htokens h
      have hexpression := keeps_byGrammar (@Parsers.Sound.expression (.enough tokens) _ true)
      obtain ⟨_, left, _, hleft, h⟩ := hexpression.of_bind hbehind h
      cases h
      exact ⟨nofun, hleft⟩
    · cases h
      exact ⟨nofun, htokens⟩
  split at h
  · split at h
    · obtain ⟨keyword, behind, _, hbehind, h⟩ := (keeps_textValue "enumerable").of_bind htokens h
      cases hposition : VariantEnd.ofKeyword? keyword with
      | none =>
          rw [hposition] at h
          cases h
      | some position =>
          rw [hposition] at h
          cases h
          exact ⟨nofun, hbehind⟩
    · cases h
      exact ⟨nofun, htokens⟩
  split at h
  · obtain ⟨_, behind, _, hbehind, h⟩ := hmark.of_bind htokens h
    obtain ⟨⟨⟨leading, segments⟩, left⟩, hpath, h⟩ := KeyList.bind_apply_eq_ok.mp h
    have hread := gives_byGrammar (gives_path (.enough tokens) false)
    obtain ⟨hnamed, hleft⟩ := triple_iff.mp hread _ _ _ hbehind hpath
    cases h
    exact ⟨namesPath_provider hnamed, hleft⟩
  · cases h

theorem mem_of_find? {attributes : List Attribute} {marker : String} {attr : Attribute}
    (h : find? attributes marker = .ok (some attr)) : attr ∈ attributes := by
  unfold find? at h
  split at h <;> cases h
  rename_i hfilter
  exact List.mem_of_mem_filter (hfilter ▸ List.mem_singleton_self attr)

/-- The strategy among the arguments of an attribute with lexical tokens. -/
theorem namesPath_of_argumentsOf {attr : Attribute} (hlexical : attr.Lexical) {found : Option Marking}
    (h : argumentsOf attr (fun path (found : Option Marking) => do
      let marking ← strategy path
      match found with
      | some _ => throw .severalStrategies
      | none => return some marking) none = .ok found) : ∀ marking, found = some marking → NamesPath marking := by
  unfold argumentsOf at h
  split at h
  · cases h
  · cases h
  · rename_i tokens hbody
    have htokens : Lexical tokens := by
      rwa [Attribute.Lexical, hbody] at hlexical
    refine @KeyList.fold_induction _ _ _ _ (fun state => ∀ marking, state = some marking → NamesPath marking) Lexical
      (triple_iff.mp KeyList.keeps_key) (triple_iff.mp (keeps_op ","))
      (fun path state tokens next rest _ hkept hstep => ?_) _ _ _ (by simp) htokens h
    obtain ⟨⟨marking, more⟩, hmarking, hstep⟩ := KeyList.bind_apply_eq_ok.mp hstep
    obtain ⟨hnames, hmore⟩ := triple_iff.mp (gives_strategy path) _ _ _ hkept hmarking
    cases state with
    | some first => cases hstep
    | none =>
        cases hstep
        refine ⟨?_, hmore⟩
        rintro _ ⟨⟩
        exact hnames

/-- The provider that the marker among lexical attributes names. -/
theorem namesPath_of_marking {attributes : List Attribute} (hlexical : ∀ attr ∈ attributes, attr.Lexical)
    {found : Marking} (h : marking attributes = .ok found) : NamesPath found := by
  obtain ⟨only, honly, h⟩ := bind_eq_ok.mp h
  cases only with
  | none =>
      cases h
      exact nofun
  | some attr =>
      have hattr := hlexical attr (mem_of_find? honly)
      dsimp only at h
      split at h
      · cases h
        exact nofun
      · obtain ⟨requested, hrequested, h⟩ := bind_eq_ok.mp h
        cases h
        cases requested with
        | none => exact nofun
        | some marking => exact namesPath_of_argumentsOf hattr hrequested marking rfl

end Marker

end BuilderGen

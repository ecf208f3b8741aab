import BuilderGen.Proofs.Success
import BuilderGen.Source.Marker

/-!
# Names that markers ask for

A marker may ask for the name of a builder or of a setter.  The keys of a marker are read one by one, and a name
among them is refused unless it is an identifier.  So whatever name is left at the end of the keys is one.
-/

namespace BuilderGen

open Grammar (identOfText?)

namespace Grammar.KeyList

/-- Two readers after another succeed when each of them does. -/
theorem bind_apply_eq_ok {ε α β : Type} {first : Reader ε α} {next : α → Reader ε β}
    {tokens : List Token} {result : β × List Token} :
    (first >>= next) tokens = .ok result ↔ ∃ read, first tokens = .ok read ∧ next read.1 read.2 = .ok result :=
  bind_eq_ok

section Fold

variable {ε σ : Type} {refuse : Failure → ε} {step : NamePath → σ → Reader ε σ}
  {property : σ → Prop} {kept : List Token → Prop}
  (hkey : ∀ tokens path rest, kept tokens → key tokens = .ok (path, rest) → kept rest)
  (hcomma : ∀ tokens mark rest, kept tokens → op "," tokens = .ok (mark, rest) → kept rest)
  (hstep : ∀ path state tokens next rest, property state → kept tokens →
    step path state tokens = .ok (next, rest) → property next ∧ kept rest)

include hkey hcomma hstep

/-- One key after the other keeps the property of the state and that of the tokens. -/
theorem foldUpTo_induction {fuel : Nat} {state result : σ} {tokens rest : List Token}
    (hstate : property state) (htokens : kept tokens)
    (h : foldUpTo refuse step fuel state tokens = .ok (result, rest)) : property result := by
  induction fuel generalizing state tokens with
  | zero => cases h
  | succ fuel ih =>
      obtain ⟨⟨path, behind⟩, hpath, h⟩ := bind_apply_eq_ok.mp h
      obtain ⟨⟨next, more⟩, hnext, h⟩ := bind_apply_eq_ok.mp h
      have hbehind := hkey tokens path behind htokens (mapError_eq_ok.mp hpath)
      obtain ⟨hproperty, hmore⟩ := hstep path state behind next more hstate hbehind hnext
      obtain ⟨left, hleft, h⟩ := bind_apply_eq_ok.mp h
      cases hleft
      split at h
      · cases h
        exact hproperty
      · obtain ⟨⟨mark, after⟩, hmark, h⟩ := bind_apply_eq_ok.mp h
        obtain ⟨left, hleft, h⟩ := bind_apply_eq_ok.mp h
        cases hleft
        split at h
        · cases h
          exact hproperty
        · exact ih hproperty (hcomma more mark after hmore (mapError_eq_ok.mp hmark)) h

/-- What every key of a list preserves, and what the commas between them preserve, holds at its end. -/
theorem fold_induction {state result : σ} {tokens : List Token} (hstate : property state) (htokens : kept tokens)
    (h : fold refuse step state tokens = .ok result) : property result := by
  rw [fold] at h
  split at h
  · cases h
    exact hstate
  · obtain ⟨⟨found, rest⟩, hfound, rfl⟩ := map_eq_ok.mp h
    exact foldUpTo_induction hkey hcomma hstep hstate htokens hfound

end Fold

end Grammar.KeyList

namespace Marker

/-- Whether a text is an identifier with blanks around it. -/
def IsRequest (name : String) : Prop :=
  ∃ found, identOfText? name = .ok found

theorem isRequest_of_nameValue {tokens rest : List Token} {name : String}
    (h : nameValue tokens = .ok (name, rest)) : IsRequest name := by
  obtain ⟨⟨value, more⟩, _, h⟩ := bind_eq_ok.mp h
  cases hfound : identOfText? value with
  | error failure =>
      simp only [hfound] at h
      cases h
  | ok found =>
      simp only [hfound] at h
      cases h
      exact ⟨found, hfound⟩

/-- The name that the arguments of a marker with a single key ask for. -/
theorem isRequest_of_argumentsOf {attr : Grammar.Attribute} {marker : String} {name : String}
    (h : argumentsOf attr (fun path _ =>
      if path.isName "name" then some <$> nameValue else throw (.unknownKey marker path.text)) none =
        .ok (some name)) : IsRequest name := by
  have hstep : ∀ (path : Grammar.NamePath) (_ : Option String) (tokens : List Token) (next : Option String)
      (rest : List Token), (if path.isName "name" then some <$> nameValue
        else throw (.unknownKey marker path.text) : Reader (Option String)) tokens = .ok (next, rest) →
          ∀ name, next = some name → IsRequest name := by
    intro path _ tokens next rest h name hsome
    split at h
    · obtain ⟨⟨value, more⟩, hvalue, h⟩ := bind_eq_ok.mp h
      cases h
      cases hsome
      exact isRequest_of_nameValue hvalue
    · cases h
  unfold argumentsOf at h
  split at h
  · cases h
  · cases h
  · refine @Grammar.KeyList.fold_induction _ _ _ _ (fun state => ∀ name, state = some name → IsRequest name)
      (fun _ => True) (by simp) (by simp) (fun path state tokens next rest _ _ hread => ?_) _ _ _ (by simp) trivial h
      name rfl
    exact ⟨hstep path state tokens next rest hread, trivial⟩

/-- The name that a builder marker asks for. -/
theorem isRequest_of_builder? {attributes : List Grammar.Attribute} {name : String}
    (h : builder? attributes = .ok (some (some name))) : IsRequest name := by
  obtain ⟨found, _, h⟩ := bind_eq_ok.mp h
  cases found with
  | none => cases h
  | some attr =>
      dsimp only at h
      split at h
      · cases h
      · obtain ⟨requested, hrequested, h⟩ := bind_eq_ok.mp h
        cases h
        exact isRequest_of_argumentsOf hrequested

/-- The name that a setter marker asks for. -/
theorem isRequest_of_setter? {attributes : List Grammar.Attribute} {name : String}
    (h : setter? attributes = .ok (some name)) : IsRequest name := by
  obtain ⟨found, _, h⟩ := bind_eq_ok.mp h
  cases found with
  | none => cases h
  | some attr =>
      obtain ⟨requested, hrequested, h⟩ := bind_eq_ok.mp h
      cases requested with
      | none => cases h
      | some requested =>
          cases h
          exact isRequest_of_argumentsOf hrequested

end Marker

end BuilderGen

import BuilderGen.Proofs.Grammar.Names
import BuilderGen.Proofs.Render.Demands

/-!
# Which types are rendered

A declared type is rendered when the texts in it are read: the path of a named type and all its arguments, the length
and the element type of an array, and a type that is kept as text.  Whether the type is nullable does not matter.
-/

namespace BuilderGen.Render

open Grammar (expressionOfText? pathOfText? typeOfText?)

/-- Whether a declared type is rendered. -/
def Renders (declared : DeclaredType) : Prop :=
  ∃ tokens, Render.type declared = .ok tokens

theorem renders_iff_met {declared : DeclaredType} :
    Renders declared ↔ ∀ demand ∈ typeDemands declared, demand.Met :=
  (rests_type declared).exists_ok_iff

theorem forall_renders_iff_met {args : List DeclaredType} :
    (∀ arg ∈ args, Renders arg) ↔ ∀ demand ∈ typesDemands args, demand.Met := by
  induction args with
  | nil => exact ⟨fun _ => nofun, fun _ => nofun⟩
  | cons first rest ih => rw [typesDemands, List.forall_mem_cons, List.forall_mem_append, ih, renders_iff_met]

/-- The texts in a type that have to be read. -/
def Reads : TypeHead → List DeclaredType → Prop
  | .unit, _ => True
  | .named text, args => (∃ tokens, pathOfText? text = .ok tokens) ∧ ∀ arg ∈ args, Renders arg
  | .array length, args =>
      (∃ element rest, args = element :: rest ∧ Renders element) ∧ ∃ tokens, expressionOfText? length = .ok tokens
  | .verbatim text, _ => ∃ tree, typeOfText? text = .ok tree

/-- A type is rendered when its texts are read. -/
theorem renders_iff {head : TypeHead} {args : List DeclaredType} {nullable : Bool} :
    Renders ⟨head, args, nullable⟩ ↔ Reads head args := by
  rw [renders_iff_met, typeDemands.eq_def]
  cases head with
  | unit => exact ⟨fun _ => trivial, fun _ => nofun⟩
  | verbatim text => exact List.forall_mem_singleton
  | named text => exact List.forall_mem_cons.trans (and_congr_right' forall_renders_iff_met.symm)
  | array length =>
      refine List.forall_mem_append.trans (and_congr ?_ List.forall_mem_singleton)
      cases args with
      | nil =>
          refine List.forall_mem_singleton.trans ⟨False.elim, ?_⟩
          rintro ⟨element, rest, heq, _⟩
          cases heq
      | cons first rest =>
          rw [← renders_iff_met]
          constructor
          · intro hfirst
            exact ⟨first, rest, rfl, hfirst⟩
          · rintro ⟨_, _, heq, helement⟩
            obtain ⟨rfl, rfl⟩ := List.cons.inj heq
            exact helement

end BuilderGen.Render

namespace BuilderGen

/-- A declared type that is rendered.  If it is a named one, then its path consists of names. -/
structure DeclaredType.Legible (type : DeclaredType) : Prop where
  renders : Render.Renders type
  path : ∀ path, type.path? = some path → Grammar.IsPathText path

end BuilderGen

import BuilderGen.Proofs.Grammar.WellNamed
import BuilderGen.Proofs.Render.Types
import BuilderGen.Source.Describe

/-!
# Described types are legible

The description of a type is legible if the paths in the type consist of names and if its parts can be read again as
they are printed.  The parts of a type are the types that it is made of, as far as it has structure, and the type
itself: each of them may be the one that is kept as text.
-/

namespace BuilderGen

namespace Grammar

namespace TypeTree

/-- Whether the length of an array is read again as it is printed. -/
def lengthReadsBack : TypeTree → Bool
  | .array _ length => (expressionOfText? (Token.print length)).isOk
  | _ => true

/-- Whether a type is read again as it is printed, and so is the length of an array. -/
def readsBack (type : TypeTree) : Bool :=
  (typeOfText? (Token.print type.tokens)).isOk && type.lengthReadsBack

end TypeTree

end Grammar

open Grammar
open Render (renders_iff)

namespace TypeView

/-- Whether both descriptions of a type are legible. -/
def Legible (view : TypeView) : Prop :=
  view.folded.Legible ∧ view.plain.Legible

theorem legible_orAbsent {declared : DeclaredType} (h : declared.Legible) : declared.orAbsent.Legible := by
  obtain ⟨head, args, nullable⟩ := declared
  exact ⟨renders_iff.mpr (renders_iff.mp h.renders), h.path⟩

theorem legible_option {inner : TypeView} (h : inner.Legible) : inner.option.Legible := by
  rw [option]
  split
  · exact legible_orAbsent h.2
  · exact legible_orAbsent h.1

/-- A type that is kept as text is legible. -/
theorem legible_ofTokens {type : TypeTree} (h : type.readsBack = true) : (ofTokens type.tokens).Legible := by
  rw [TypeTree.readsBack, Bool.and_eq_true, isOk_iff] at h
  exact ⟨⟨renders_iff.mpr h.1, nofun⟩, ⟨renders_iff.mpr h.1, nofun⟩⟩

section Parts

/-- Whether a part of a type has its names and is read back. -/
def isSound (type : TypeTree) : Bool :=
  type.isNamed && type.readsBack

/-- A type that is sound itself can be kept as text. -/
theorem legible_of_isSound {type : TypeTree} (h : isSound type = true) : (ofTokens type.tokens).Legible := by
  rw [isSound, Bool.and_eq_true] at h
  exact legible_ofTokens h.2

/-- The description of a path is legible when those of the types behind its last name are. -/
theorem legible_ofPath {leading : Bool} {segments : List Segment}
    (hself : isSound (.path leading segments) = true)
    (hviews : ∀ views, ofLastSegment segments = some views → ∀ view ∈ views, view.Legible) :
    (ofTree (.path leading segments)).Legible := by
  have htext := (legible_of_isSound hself).2
  rw [isSound, Bool.and_eq_true] at hself
  have hpath := isPathText_pathText hself.1
  have hnamed : ∀ views, ofLastSegment segments = some views →
      DeclaredType.Legible { head := .named (pathText leading segments), args := views.map folded } := by
    intro views hsome
    refine ⟨renders_iff.mpr ⟨hpath.pathOfText?, fun arg harg => ?_⟩, fun path heq => Option.some.inj heq ▸ hpath⟩
    obtain ⟨view, hview, rfl⟩ := List.mem_map.mp harg
    exact (hviews views hsome view hview).1.renders
  have hplain : (ofTree (.path leading segments)).plain.Legible := by
    rw [ofTree]
    simp only
    split
    · split
      · rename_i views hsome _
        exact hnamed views hsome
      · exact htext
    · exact htext
  refine ⟨?_, hplain⟩
  rw [ofTree] at hplain ⊢
  simp only at hplain ⊢
  split
  · rename_i inner hsome
    split
    · exact legible_option (hviews _ hsome inner List.mem_cons_self)
    · exact hplain
  · exact hplain

mutual

/-- The description of a type with sound parts is legible. -/
theorem legible_ofTree {type : TypeTree} (h : ∀ part ∈ type.parts, isSound part = true) :
    (ofTree type).Legible := by
  have htext : isSound type = true → (ofTokens type.tokens).Legible := legible_of_isSound
  cases type with
  | path leading segments =>
      rw [TypeTree.parts] at h
      obtain ⟨hself, hsegments⟩ := List.forall_mem_cons.mp h
      exact legible_ofPath hself fun views => legible_ofLastSegment hsegments
  | qualified tokens text =>
      rw [TypeTree.parts, List.forall_mem_singleton] at h
      exact htext h
  | paren inner =>
      rw [TypeTree.parts] at h
      obtain ⟨hself, hinner⟩ := List.forall_mem_cons.mp h
      rw [TypeTree.tokens] at htext
      rw [ofTree]
      exact ⟨(legible_ofTree hinner).1, (htext hself).2⟩
  | unit =>
      rw [TypeTree.parts, List.forall_mem_singleton] at h
      rw [TypeTree.tokens] at htext
      rw [ofTree]
      exact ⟨⟨renders_iff.mpr trivial, nofun⟩, (htext h).2⟩
  | array element length =>
      rw [TypeTree.parts] at h
      obtain ⟨hself, helement⟩ := List.forall_mem_cons.mp h
      have hlength := hself
      rw [isSound, TypeTree.readsBack, Bool.and_eq_true, Bool.and_eq_true, TypeTree.lengthReadsBack, isOk_iff,
        isOk_iff] at hlength
      rw [ofTree]
      refine ⟨⟨renders_iff.mpr ⟨⟨_, [], rfl, ?_⟩, hlength.2.2⟩, nofun⟩, (htext hself).2⟩
      exact (legible_ofTree helement).1.renders
  | other tokens =>
      rw [TypeTree.parts, List.forall_mem_singleton] at h
      exact htext h

theorem legible_ofLastSegment {segments : List Segment} {views : List TypeView}
    (h : ∀ part ∈ partsOfSegments segments, isSound part = true) (hviews : ofLastSegment segments = some views) :
    ∀ view ∈ views, view.Legible := by
  cases segments with
  | nil => cases hviews
  | cons segment rest =>
      obtain ⟨name, arguments⟩ := segment
      rw [partsOfSegments] at h
      cases rest with
      | nil => exact legible_ofArguments (fun part hpart => h part (List.mem_append_left _ hpart)) hviews
      | cons next rest =>
          exact legible_ofLastSegment (fun part hpart => h part (List.mem_append_right _ hpart)) hviews

theorem legible_ofArguments {arguments : Arguments} {views : List TypeView}
    (h : ∀ part ∈ arguments.parts, isSound part = true) (hviews : ofArguments arguments = some views) :
    ∀ view ∈ views, view.Legible := by
  cases arguments with
  | none =>
      cases hviews
      exact nofun
  | angle separated items => exact legible_ofItems h hviews
  | parens tokens => cases hviews

theorem legible_ofItems {items : List Argument} {views : List TypeView}
    (h : ∀ part ∈ partsOfItems items, isSound part = true) (hviews : ofItems items = some views) :
    ∀ view ∈ views, view.Legible := by
  cases items with
  | nil =>
      cases hviews
      exact nofun
  | cons item rest =>
      cases item with
      | type type comma =>
          rw [partsOfItems] at h
          obtain ⟨others, hothers, rfl⟩ := Option.map_eq_some_iff.mp hviews
          refine List.forall_mem_cons.mpr ⟨?_, ?_⟩
          · exact legible_ofTree fun part hpart => h part (List.mem_append_left _ hpart)
          · exact legible_ofItems (fun part hpart => h part (List.mem_append_right _ hpart)) hothers
      | lifetime tokens comma => cases hviews
      | other tokens comma => cases hviews

end

end Parts

end TypeView

end BuilderGen

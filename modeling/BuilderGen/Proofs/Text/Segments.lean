import BuilderGen.Text.Segments

/-!
# Segments of a path

A path that was joined from segments falls apart into the same segments, as long as no segment has a colon.
Names satisfy more than that: `Segments.IsName` also leaves out blanks, and the three words that a path gives
a meaning of their own.  A text joined from names is changed by none of the ways in which references are
cleaned up.
-/

namespace BuilderGen

/-! ## Characters that stay -/

namespace Text

theorem dropWhile_of_not_isBlank {chars : List Char} (hchars : ∀ c ∈ chars, isBlank c = false) :
    chars.dropWhile isBlank = chars := by
  cases chars with
  | nil => rfl
  | cons c chars =>
      have hblank := hchars c List.mem_cons_self
      simp [hblank]

/-- Trimming does nothing where there are no blanks. -/
theorem trim_of_not_isBlank {text : String} (htext : ∀ c ∈ text.toList, isBlank c = false) :
    trim text = text := by
  have hreverse : ∀ c ∈ text.toList.reverse, isBlank c = false := by
    intro c hc
    exact htext c (List.mem_reverse.mp hc)
  rw [trim, trimList, dropWhile_of_not_isBlank htext, dropWhile_of_not_isBlank hreverse,
    List.reverse_reverse, String.ofList_toList]

end Text

namespace Segments

/-! ## Names -/

/-- A segment of a path: it is not empty, and it has neither a colon nor a blank. -/
structure IsSegment (segment : String) : Prop where
  nonempty : segment ≠ ""
  colon : ':' ∉ segment.toList
  blank : ∀ c ∈ segment.toList, Text.isBlank c = false

/-- A segment that names something: it is none of the words for the root, the same module, and the module
above. -/
structure IsName (segment : String) : Prop extends IsSegment segment where
  plain : segment ∉ ["crate", "self", "super"]

/-- A module path that is joined from names.  The empty path stands for the root. -/
def IsModule (package : String) : Prop :=
  ∃ segments, package = join segments ∧ ∀ segment ∈ segments, IsName segment

/-- Whether a text is a segment is checked character by character. -/
theorem isSegment_iff {segment : String} :
    IsSegment segment ↔
      segment ≠ "" ∧ segment.toList.all (fun c => decide (c ≠ ':') && !Text.isBlank c) = true := by
  rw [List.all_eq_true]
  constructor
  · intro hsegment
    refine ⟨hsegment.nonempty, fun c hc => ?_⟩
    have hcolon : c ≠ ':' := by
      rintro rfl
      exact hsegment.colon hc
    simp [hcolon, hsegment.blank c hc]
  · rintro ⟨hnonempty, hchars⟩
    refine ⟨hnonempty, fun hcolon => ?_, fun c hc => ?_⟩
    · simpa using hchars ':' hcolon
    · have hboth := hchars c hc
      simp only [Bool.and_eq_true, Bool.not_eq_true'] at hboth
      exact hboth.2

instance (segment : String) : Decidable (IsSegment segment) :=
  decidable_of_iff _ isSegment_iff.symm

instance (segment : String) : Decidable (IsName segment) :=
  decidable_of_iff (IsSegment segment ∧ segment ∉ ["crate", "self", "super"])
    ⟨fun h => ⟨h.1, h.2⟩, fun h => ⟨h.toIsSegment, h.plain⟩⟩

/-! ## Splitting and joining -/

/-- Without a colon there is one piece. -/
theorem splitList_of_colon_notMem {chars : List Char} (hcolon : ':' ∉ chars) : splitList chars = [chars] := by
  induction chars with
  | nil => rfl
  | cons c chars ih =>
      simp only [List.mem_cons, not_or] at hcolon
      rw [splitList, ih hcolon.2]
      rintro rest rfl
      exact absurd rfl hcolon.1

/-- A piece ends at the first separator. -/
theorem splitList_append {piece : List Char} (hcolon : ':' ∉ piece) (rest : List Char) :
    splitList (piece ++ ':' :: ':' :: rest) = piece :: splitList rest := by
  induction piece with
  | nil => rw [List.nil_append, splitList]
  | cons c piece ih =>
      simp only [List.mem_cons, not_or] at hcolon
      rw [List.cons_append, splitList, ih hcolon.2]
      intro tail heq
      exact absurd heq.symm hcolon.1

theorem toList_join_cons (segment : String) {segments : List String} (hsegments : segments ≠ []) :
    (join (segment :: segments)).toList = segment.toList ++ ':' :: ':' :: (join segments).toList := by
  rw [join, String.intercalate_cons_of_ne_nil hsegments, String.toList_append, String.toList_append,
    List.append_assoc]
  rfl

/-- Splitting gives back the segments that were joined. -/
theorem split_join {segments : List String} (hsegments : segments ≠ [])
    (hcolon : ∀ segment ∈ segments, ':' ∉ segment.toList) : split (join segments) = segments := by
  induction segments with
  | nil => exact absurd rfl hsegments
  | cons segment segments ih =>
      obtain ⟨hsegment, hrest⟩ := List.forall_mem_cons.mp hcolon
      by_cases hnil : segments = []
      · subst hnil
        rw [split, join, String.intercalate_singleton, splitList_of_colon_notMem hsegment]
        simp
      · have hsplit := ih hnil hrest
        rw [split] at hsplit ⊢
        rw [toList_join_cons segment hnil, splitList_append hsegment, List.map_cons, hsplit,
          String.ofList_toList]

/-- The segments of a module path are those it was joined from. -/
theorem ofPackage_join {segments : List String} (hsegments : ∀ segment ∈ segments, IsSegment segment) :
    ofPackage (join segments) = segments := by
  by_cases hnil : segments = []
  · subst hnil
    rfl
  · rw [ofPackage, split_join hnil fun segment hsegment => (hsegments segment hsegment).colon]
    refine List.filter_eq_self.mpr fun segment hsegment => ?_
    simpa using (hsegments segment hsegment).nonempty

/-- The qualified name of a declaration joins the segments of its path. -/
theorem qualify_join {segments : List String} (hsegments : ∀ segment ∈ segments, IsSegment segment)
    (name : String) : qualify (join segments) name = join (segments ++ [name]) := by
  have hpackage := ofPackage_join hsegments
  by_cases hnil : segments = []
  · subst hnil
    rw [join, String.intercalate_nil, qualify, if_pos rfl, List.nil_append, join,
      String.intercalate_singleton]
  · have hjoin : join segments ≠ "" := by
      intro hempty
      rw [hempty] at hpackage
      exact hnil hpackage.symm
    rw [qualify, if_neg hjoin, join, join,
      String.intercalate_append_of_ne_nil hnil (List.cons_ne_nil name []), String.intercalate_singleton]

/-! ## References that are clean already -/

/-- There are no blanks in a text that was joined from segments. -/
theorem not_isBlank_join {segments : List String} (hsegments : ∀ segment ∈ segments, IsSegment segment) :
    ∀ c ∈ (join segments).toList, Text.isBlank c = false := by
  induction segments with
  | nil =>
      intro c hc
      simp [join] at hc
  | cons segment segments ih =>
      obtain ⟨hsegment, hrest⟩ := List.forall_mem_cons.mp hsegments
      by_cases hnil : segments = []
      · subst hnil
        rw [join, String.intercalate_singleton]
        exact hsegment.blank
      · rw [toList_join_cons segment hnil]
        intro c hc
        simp only [List.mem_append, List.mem_cons] at hc
        rcases hc with hc | rfl | rfl | hc
        · exact hsegment.blank c hc
        · decide
        · decide
        · exact ih hrest c hc

/-- A text that was joined from segments does not start with a separator. -/
theorem dropLeading_join {segments : List String} (hsegments : ∀ segment ∈ segments, IsSegment segment) :
    dropLeading (join segments) = join segments := by
  cases segments with
  | nil => rfl
  | cons segment segments =>
      obtain ⟨hsegment, _⟩ := List.forall_mem_cons.mp hsegments
      have hstart : ∃ rest, (join (segment :: segments)).toList = segment.toList ++ rest := by
        by_cases hnil : segments = []
        · subst hnil
          exact ⟨[], by rw [join, String.intercalate_singleton, List.append_nil]⟩
        · exact ⟨_, toList_join_cons segment hnil⟩
      obtain ⟨rest, hstart⟩ := hstart
      have hcolon := hsegment.colon
      cases hchars : segment.toList with
      | nil => exact absurd (String.toList_eq_nil_iff.mp hchars) hsegment.nonempty
      | cons c chars =>
          rw [hchars] at hstart hcolon
          have hkeep : dropLeadingList (c :: chars ++ rest) = c :: chars ++ rest := by
            rw [List.cons_append, dropLeadingList]
            intro tail heq
            rw [(List.cons.inj heq).1] at hcolon
            exact hcolon List.mem_cons_self
          rw [dropLeading, hstart, hkeep, ← hstart, String.ofList_toList]

/-- Nothing is to be cleaned up in a reference that was joined from segments. -/
theorem bare_join {segments : List String} (hsegments : ∀ segment ∈ segments, IsSegment segment) :
    bare (join segments) = join segments := by
  rw [bare, Text.trim_of_not_isBlank (not_isBlank_join hsegments), dropLeading_join hsegments]

end Segments

end BuilderGen

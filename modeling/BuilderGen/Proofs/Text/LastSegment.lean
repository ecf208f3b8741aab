import BuilderGen.Proofs.Text.Segments
import Mathlib.Data.List.TakeWhile

/-!
# The last segment of a path

Three functions look at the end of a path: `Segments.last` reads from the right, `Segments.split` reads from the
left, and `Segments.bare` cleans up the front.  They disagree only where colons stand in a row.  What each of them
gives stands behind a separator, or is the whole text, and from that it follows that they agree on every name:
a name that one of them finds at the end is `Segments.lastName` of the text.
-/

namespace BuilderGen

namespace Text

/-! ## Trimming -/

section Trimming

variable {chars : List Char}

theorem dropWhile_append_isBlank {blanks : List Char} (hblanks : ∀ c ∈ blanks, isBlank c = true)
    (chars : List Char) : (blanks ++ chars).dropWhile isBlank = chars.dropWhile isBlank :=
  List.dropWhile_append_of_pos hblanks

/-- Blanks in front do not count. -/
theorem trimList_append_left {blanks : List Char} (hblanks : ∀ c ∈ blanks, isBlank c = true)
    (chars : List Char) : trimList (blanks ++ chars) = trimList chars := by
  rw [trimList, dropWhile_append_isBlank hblanks, ← trimList]

/-- Blanks at the end do not count. -/
theorem trimList_append_right {blanks : List Char} (hblanks : ∀ c ∈ blanks, isBlank c = true)
    (chars : List Char) : trimList (chars ++ blanks) = trimList chars := by
  have hreverse : ∀ c ∈ blanks.reverse, isBlank c = true := fun c hc => hblanks c (List.mem_reverse.mp hc)
  rw [trimList, trimList, List.dropWhile_append]
  split
  · rename_i hempty
    have hall : blanks.dropWhile isBlank = [] := List.dropWhile_eq_nil_iff.mpr hblanks
    rw [hall, List.isEmpty_iff.mp hempty]
  · rw [List.reverse_append, dropWhile_append_isBlank hreverse]

/-- A text is what trimming leaves of it, between blanks. -/
theorem exists_blanks (chars : List Char) :
    ∃ front back, chars = front ++ trimList chars ++ back ∧ (∀ c ∈ front, isBlank c = true) ∧
      ∀ c ∈ back, isBlank c = true := by
  have hfront := List.takeWhile_append_dropWhile (p := isBlank) (l := chars)
  have hback := List.takeWhile_append_dropWhile (p := isBlank) (l := (chars.dropWhile isBlank).reverse)
  refine ⟨chars.takeWhile isBlank, (((chars.dropWhile isBlank).reverse).takeWhile isBlank).reverse,
    ?_, fun c hc => List.mem_takeWhile_imp hc,
    fun c hc => List.mem_takeWhile_imp (List.mem_reverse.mp hc)⟩
  rw [trimList, List.append_assoc, ← List.reverse_append, hback, List.reverse_reverse, hfront]

theorem trimList_inside (chars : List Char) : trimList chars <:+: chars := by
  obtain ⟨front, back, hchars, _, _⟩ := exists_blanks chars
  exact ⟨front, back, hchars.symm⟩

/-- A colon is no blank, so trimming keeps it. -/
theorem colon_mem_trimList : ':' ∈ trimList chars ↔ ':' ∈ chars := by
  obtain ⟨front, back, hchars, hfront, hback⟩ := exists_blanks chars
  refine ⟨fun hmem => (trimList_inside chars).mem hmem, fun hmem => ?_⟩
  rw [hchars, List.mem_append, List.mem_append] at hmem
  rcases hmem with (hmem | hmem) | hmem
  · exact absurd (hfront _ hmem) (by decide)
  · exact hmem
  · exact absurd (hback _ hmem) (by decide)

end Trimming

end Text

namespace Segments

/-- The last segment of a path, without the blanks around it. -/
def lastName (text : String) : String :=
  Text.trim (last text)

/-! ## Behind a separator -/

/-- A text is the whole of another, or stands at its end behind a separator. -/
def Behind (text tail : List Char) : Prop :=
  text = tail ∨ ∃ front, text = front ++ ':' :: ':' :: tail

section Behind

variable {text tail : List Char}

theorem Behind.trans {rest : List Char} (htail : Behind text tail) (hrest : Behind tail rest) :
    Behind text rest := by
  rcases htail with rfl | ⟨front, rfl⟩
  · exact hrest
  · rcases hrest with rfl | ⟨more, rfl⟩
    · exact .inr ⟨front, rfl⟩
    · exact .inr ⟨front ++ ':' :: ':' :: more, by simp⟩

theorem Behind.append (htail : Behind text tail) (more : List Char) : Behind (text ++ more) (tail ++ more) := by
  rcases htail with rfl | ⟨front, rfl⟩
  · exact .inl rfl
  · exact .inr ⟨front, by simp⟩

theorem behind_dropLeadingList (text : List Char) : Behind text (dropLeadingList text) := by
  induction text using dropLeadingList.induct with
  | case1 rest ih =>
      rw [dropLeadingList]
      exact .trans (.inr ⟨[], rfl⟩) ih
  | case2 chars hchars =>
      rw [dropLeadingList]
      · exact .inl rfl
      · exact hchars

/-! ## Reading from the right -/

theorem cutList_of_colon_notMem (hcolon : ':' ∉ text) : cutList text = (text, none) := by
  induction text with
  | nil => rfl
  | cons c text ih =>
      simp only [List.mem_cons, not_or] at hcolon
      rw [cutList, ih hcolon.2]
      rintro rest rfl
      exact absurd rfl hcolon.1

theorem cutList_append (hcolon : ':' ∉ text) (rest : List Char) :
    cutList (text ++ ':' :: ':' :: rest) = (text, some rest) := by
  induction text with
  | nil => rw [List.nil_append, cutList]
  | cons c text ih =>
      simp only [List.mem_cons, not_or] at hcolon
      rw [List.cons_append, cutList, ih hcolon.2]
      rintro tail rfl
      exact absurd rfl hcolon.1

/-- What stands behind the last separator is the last segment. -/
theorem Behind.last_eq (htail : Behind text tail) (hcolon : ':' ∉ tail) :
    last (String.ofList text) = String.ofList tail := by
  have hreverse : ':' ∉ tail.reverse := fun hmem => hcolon (List.mem_reverse.mp hmem)
  rw [last, String.toList_ofList]
  rcases htail with rfl | ⟨front, rfl⟩
  · rw [cutList_of_colon_notMem hreverse, List.reverse_reverse]
  · have hfront : (front ++ ':' :: ':' :: tail).reverse = tail.reverse ++ ':' :: ':' :: front.reverse := by
      simp
    rw [hfront, cutList_append hreverse, List.reverse_reverse]

theorem cutList_spec (text : List Char) :
    text = (cutList text).1 ∨ ∃ rest, text = (cutList text).1 ++ ':' :: ':' :: rest := by
  induction text using cutList.induct with
  | case1 => exact .inl rfl
  | case2 rest => exact .inr ⟨rest, by rw [cutList]; rfl⟩
  | case3 c rest hstart ih =>
      have hcut : (cutList (c :: rest)).1 = c :: (cutList rest).1 := by
        rw [cutList]
        exact hstart
      rw [hcut]
      rcases ih with heq | ⟨more, heq⟩
      · exact .inl (congrArg (c :: ·) heq)
      · exact .inr ⟨more, congrArg (c :: ·) heq⟩

/-- The last segment stands behind a separator, unless it is the whole text. -/
theorem behind_last (text : String) : Behind text.toList (last text).toList := by
  have hspec := cutList_spec text.toList.reverse
  rw [last, String.toList_ofList]
  generalize (cutList text.toList.reverse).1 = piece at hspec ⊢
  rcases hspec with heq | ⟨rest, heq⟩
  · exact .inl (by rw [← heq, List.reverse_reverse])
  · have hreverse := congrArg List.reverse heq
    rw [List.reverse_reverse] at hreverse
    exact .inr ⟨rest.reverse, by rw [hreverse]; simp⟩

theorem cutList_isSome (front rest : List Char) : (cutList (front ++ ':' :: ':' :: rest)).2.isSome = true := by
  induction front with
  | nil => rw [List.nil_append, cutList, Option.isSome_some]
  | cons c front ih =>
      rw [List.cons_append, cutList.eq_def]
      split
      · rename_i heq
        cases heq
      · rfl
      · rename_i heq
        rwa [← (List.cons.inj heq).2]

/-- Without a separator the last segment is the whole text. -/
theorem last_of_not_qualified {text : String} (h : qualified text = false) : last text = text := by
  rcases behind_last text with heq | ⟨front, heq⟩
  · exact (String.toList_injective heq).symm
  · have hcut := cutList_isSome front (last text).toList
    rw [← heq] at hcut
    rw [qualified, cut, Option.isSome_map, hcut] at h
    cases h

/-! ## Reading from the left -/

/-- Splitting cuts at the first separator and goes on behind it. -/
theorem splitList_eq_cutList (text : List Char) :
    splitList text = (cutList text).1 :: ((cutList text).2.map splitList).getD [] := by
  induction text using cutList.induct with
  | case1 => rfl
  | case2 rest => rw [splitList, cutList]; rfl
  | case3 c rest hstart ih =>
      rw [splitList, cutList, ih]
      · exact hstart
      · exact hstart

/-- The last of the pieces between separators has no separator in it.  It stands behind one, unless it is the
only piece. -/
theorem exists_last_splitList (text : List Char) :
    ∃ pieces piece, splitList text = pieces ++ [piece] ∧ ¬[':', ':'] <:+: piece ∧
      (pieces = [] ∧ text = piece ∨ pieces ≠ [] ∧ ∃ front, text = front ++ ':' :: ':' :: piece) := by
  induction text using splitList.induct with
  | case1 => exact ⟨[], [], rfl, by simp, .inl ⟨rfl, rfl⟩⟩
  | case2 rest ih =>
      obtain ⟨pieces, piece, hsplit, hpiece, hwhere⟩ := ih
      refine ⟨[] :: pieces, piece, by rw [splitList, hsplit]; rfl, hpiece, .inr ⟨by simp, ?_⟩⟩
      rcases hwhere with ⟨_, rfl⟩ | ⟨_, front, rfl⟩
      · exact ⟨[], rfl⟩
      · exact ⟨':' :: ':' :: front, rfl⟩
  | case3 c rest _ hnil =>
      rename_i ih
      obtain ⟨pieces, piece, hsplit, _⟩ := ih
      rw [hnil] at hsplit
      simp at hsplit
  | case4 c rest hstart first others hrest ih =>
      obtain ⟨pieces, piece, hsplit, hpiece, hwhere⟩ := ih
      have hcons : splitList (c :: rest) = (c :: first) :: others := by
        rw [splitList, hrest]
        exact hstart
      rcases hwhere with ⟨rfl, rfl⟩ | ⟨hne, front, hfront⟩
      · -- the only piece takes one more character, which starts no separator
        obtain ⟨hfirst, hothers⟩ := List.cons.inj (hrest.symm.trans hsplit)
        rw [hfirst, hothers] at hcons
        refine ⟨[], _, hcons, fun hinside => ?_, .inl ⟨rfl, rfl⟩⟩
        rcases List.infix_cons_iff.mp hinside with ⟨more, hmore⟩ | hinside
        · exact hstart more (List.cons.inj hmore).1.symm (List.cons.inj hmore).2.symm
        · exact hpiece hinside
      · obtain ⟨front', pieces', rfl⟩ := List.exists_cons_of_ne_nil hne
        rw [hrest] at hsplit
        obtain ⟨rfl, rfl⟩ := List.cons.inj hsplit
        exact ⟨(c :: first) :: pieces', piece, hcons, hpiece, .inr ⟨by simp, c :: front, by simp [hfront]⟩⟩

end Behind

/-! ## Agreement -/

/-- What stands at the end of a cleaned-up text is the last name of the text, as long as it has no colon. -/
theorem lastName_of_behind_bare {text : String} {tail : List Char} (htail : Behind (bare text).toList tail)
    (hcolon : ':' ∉ tail) : lastName text = Text.trim (String.ofList tail) := by
  obtain ⟨front, back, htext, hfront, hback⟩ := Text.exists_blanks text.toList
  have hbare : Behind (Text.trimList text.toList ++ back) (tail ++ back) := by
    refine Behind.append (.trans ?_ htail) back
    have hdrop := behind_dropLeadingList (Text.trimList text.toList)
    rwa [bare, dropLeading, String.toList_ofList, Text.trim, String.toList_ofList]
  have hcolons : ':' ∉ tail ++ back := by
    rw [List.mem_append, not_or]
    exact ⟨hcolon, fun hmem => absurd (hback _ hmem) (by decide)⟩
  have htrim : Text.trimList (tail ++ back) = Text.trimList tail := Text.trimList_append_right hback tail
  rw [List.append_assoc] at htext
  rcases hbare with heq | ⟨more, heq⟩
  · -- there is no separator at all, so the blanks in front belong to the last segment
    have hwhole : Behind text.toList (front ++ (tail ++ back)) := .inl (by rw [htext, heq])
    have hlast := hwhole.last_eq (by
      rw [List.mem_append, not_or]
      exact ⟨fun hmem => absurd (hfront _ hmem) (by decide), hcolons⟩)
    rw [String.ofList_toList] at hlast
    rw [lastName, hlast, Text.trim, Text.trim, String.toList_ofList, String.toList_ofList,
      Text.trimList_append_left hfront, htrim]
  · have hbehind : Behind text.toList (tail ++ back) := .inr ⟨front ++ more, by rw [htext, heq]; simp⟩
    have hlast := hbehind.last_eq hcolons
    rw [String.ofList_toList] at hlast
    rw [lastName, hlast, Text.trim, Text.trim, String.toList_ofList, String.toList_ofList, htrim]

/-- The last segment of a cleaned-up text is the last name of the text, when it is a segment. -/
theorem lastName_eq_of_last_bare {text : String} (hsegment : IsSegment (last (bare text))) :
    lastName text = last (bare text) := by
  rw [lastName_of_behind_bare (behind_last (bare text)) hsegment.colon, String.ofList_toList,
    Text.trim_of_not_isBlank hsegment.blank]

/-- A text joined from segments does not start with a colon. -/
theorem join_ne_colon_cons {segments : List String} (hsegments : ∀ segment ∈ segments, IsSegment segment)
    (rest : List Char) : (join segments).toList ≠ ':' :: rest := by
  intro heq
  cases segments with
  | nil => cases heq
  | cons segment segments =>
      obtain ⟨hsegment, _⟩ := List.forall_mem_cons.mp hsegments
      have hcolon := hsegment.colon
      cases hchars : segment.toList with
      | nil => exact hsegment.nonempty (String.toList_eq_nil_iff.mp hchars)
      | cons c chars =>
          rw [hchars] at hcolon
          refine hcolon (List.mem_cons.mpr (.inl ?_))
          by_cases hnil : segments = []
          · rw [hnil, join, String.intercalate_singleton, hchars] at heq
            exact (List.cons.inj heq).1.symm
          · rw [toList_join_cons segment hnil, hchars] at heq
            exact (List.cons.inj heq).1.symm

/-- In a text joined from segments the last segment is all that stands behind a separator without holding one. -/
theorem eq_of_behind_join {segments : List String} {name : String}
    (hsegments : ∀ segment ∈ segments ++ [name], IsSegment segment) {tail : List Char}
    (htail : Behind (join (segments ++ [name])).toList tail) (hplain : ¬[':', ':'] <:+: tail) :
    tail = name.toList := by
  induction segments with
  | nil =>
      have hcolon := (hsegments name List.mem_cons_self).colon
      rw [List.nil_append, join, String.intercalate_singleton] at htail
      rcases htail with heq | ⟨front, heq⟩
      · exact heq.symm
      · rw [heq] at hcolon
        simp at hcolon
  | cons segment segments ih =>
      obtain ⟨hsegment, hrest⟩ := List.forall_mem_cons.mp hsegments
      rw [List.cons_append, toList_join_cons segment (by simp)] at htail
      rcases htail with rfl | ⟨front, heq⟩
      · exact absurd ⟨segment.toList, (join (segments ++ [name])).toList, by simp⟩ hplain
      · -- the separator before the tail is the one behind the first segment, or it stands further on
        rcases List.append_eq_append_iff.mp heq with ⟨more, hfront, hmore⟩ | ⟨more, hsegment', hmore⟩
        · rcases more with _ | ⟨_, _ | ⟨_, more⟩⟩
          · simp only [List.nil_append, List.cons.injEq, true_and] at hmore
            exact ih hrest (.inl hmore)
          · simp only [List.cons_append, List.nil_append, List.cons.injEq] at hmore
            exact absurd hmore.2.2 (join_ne_colon_cons hrest _)
          · simp only [List.cons_append, List.cons.injEq] at hmore
            exact ih hrest (.inr ⟨more, hmore.2.2⟩)
        · cases more with
          | nil =>
              simp only [List.nil_append, List.cons.injEq, true_and] at hmore
              exact ih hrest (.inl hmore.symm)
          | cons c more =>
              have hcolon := hsegment.colon
              rw [hsegment', ← (List.cons.inj hmore).1] at hcolon
              simp at hcolon

end Segments

end BuilderGen

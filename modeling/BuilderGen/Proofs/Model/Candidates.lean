import BuilderGen.Model.Reference
import BuilderGen.Proofs.Text.LastSegment

/-!
# The end of a candidate

Whatever a reference is resolved against, its last segment stays at the end: every candidate either ends in the
last piece of the reference, or that piece is one of the words that stand for a module.  So a declaration whose
qualified name is a candidate has the name that the reference ends in.
-/

namespace BuilderGen

namespace Segments

theorem behind_join_concat (segments : List String) (name : String) :
    Behind (join (segments ++ [name])).toList name.toList := by
  induction segments with
  | nil => exact .inl (by rw [List.nil_append, join, String.intercalate_singleton])
  | cons segment segments ih =>
      rw [List.cons_append, toList_join_cons segment (by simp)]
      exact .trans (.inr ⟨segment.toList, rfl⟩) ih

/-- Joined segments end in a name only if it is their last segment. -/
theorem eq_of_join_concat {segments others : List String} {name other : String}
    (hsegments : ∀ segment ∈ segments ++ [name], IsSegment segment)
    (hjoin : join (segments ++ [name]) = join (others ++ [other])) (hplain : ¬[':', ':'] <:+: other.toList) :
    other = name := by
  have hbehind := behind_join_concat others other
  rw [← hjoin] at hbehind
  exact String.toList_injective (eq_of_behind_join hsegments hbehind hplain)

/-- The words that stand for a module: the root, the same module, and the module above. -/
def moduleWords : List String :=
  ["crate", "self", "super"]

end Segments

namespace Reference

open Segments

/-- Climbing only drops words that stand for a module. -/
theorem exists_dropped_climb (module segments : List String) :
    ∃ dropped, segments = dropped ++ (climb module segments).2.1 ∧ ∀ word ∈ dropped, word ∈ moduleWords := by
  induction module, segments using climb.induct with
  | case1 module rest _ _ _ _ ih =>
      obtain ⟨dropped, hrest, hdropped⟩ := ih
      refine ⟨"self" :: dropped, ?_, List.forall_mem_cons.mpr ⟨by decide, hdropped⟩⟩
      rw [climb, List.cons_append, ← hrest]
  | case2 module rest _ _ _ _ ih =>
      obtain ⟨dropped, hrest, hdropped⟩ := ih
      refine ⟨"super" :: dropped, ?_, List.forall_mem_cons.mpr ⟨by decide, hdropped⟩⟩
      rw [climb, List.cons_append, ← hrest]
  | case3 module segments hself hsuper =>
      refine ⟨[], ?_, by simp⟩
      rw [climb, List.nil_append]
      · exact hself
      · exact hsuper

/-- What is left of the segments of a reference keeps the last of them, unless it is a word for a module. -/
theorem rest_eq_concat {dropped rest others : List String} {piece : String}
    (hsegments : others ++ [piece] = dropped ++ rest) (hdropped : ∀ word ∈ dropped, word ∈ moduleWords) :
    piece ∈ moduleWords ∨ ∃ before, rest = before ++ [piece] := by
  rcases List.eq_nil_or_concat rest with rfl | ⟨before, last, rfl⟩
  · left
    rw [List.append_nil] at hsegments
    exact hdropped piece (hsegments ▸ List.mem_append_right others List.mem_cons_self)
  · right
    rw [List.concat_eq_append, ← List.append_assoc] at hsegments
    exact ⟨before, by rw [List.concat_eq_append, (List.append_inj' hsegments rfl).2]⟩

/-- A candidate ends in the last piece of the reference, unless that is a word for a module. -/
theorem candidate_eq_join {reference package candidate : String} {others : List String} {piece : String}
    (hpieces : (split reference).map Text.trim = others ++ [piece])
    (hcandidate : candidate ∈ candidates reference package) :
    piece ∈ moduleWords ∨ ∃ before, candidate = join (before ++ [piece]) := by
  rw [candidates, hpieces] at hcandidate
  split at hcandidate
  · rename_i rest hcrate
    rw [List.mem_singleton] at hcandidate
    have hdropped : others ++ [piece] = ["crate"] ++ rest := hcrate
    rcases rest_eq_concat hdropped (by decide) with hword | ⟨before, rfl⟩
    · exact .inl hword
    · exact .inr ⟨before, hcandidate⟩
  · obtain ⟨dropped, hsegments, hdropped⟩ := exists_dropped_climb (ofPackage package) (others ++ [piece])
    rcases rest_eq_concat hsegments hdropped with hword | ⟨before, hrest⟩
    · exact .inl hword
    · right
      dsimp only at hcandidate
      rw [hrest] at hcandidate
      have hboth : candidate = join ((climb (ofPackage package) (others ++ [piece])).1 ++ (before ++ [piece])) ∨
          candidate = join (before ++ [piece]) := by
        split at hcandidate
        · exact .inl (List.mem_singleton.mp hcandidate)
        · simpa using hcandidate
      rcases hboth with heq | heq
      · exact ⟨_, by rw [heq, ← List.append_assoc]⟩
      · exact ⟨before, heq⟩

/-- A declaration whose qualified name is a candidate has the last name of the reference, as long as this is no
word for a module. -/
theorem lastName_of_mem_candidates {package name reference origin : String} (hpackage : IsModule package)
    (hname : IsName name) (hreference : lastName reference ∉ moduleWords)
    (hcandidate : qualify package name ∈ candidates (bare reference) origin) : lastName reference = name := by
  obtain ⟨segments, rfl, hsegments⟩ := hpackage
  rw [qualify_join fun segment hsegment => (hsegments segment hsegment).toIsSegment] at hcandidate
  obtain ⟨others, piece, hsplit, hplain, hwhere⟩ := exists_last_splitList (bare reference).toList
  have hpieces : (split (bare reference)).map Text.trim =
      others.map (fun other => Text.trim (String.ofList other)) ++ [Text.trim (String.ofList piece)] := by
    simp [split, hsplit]
  have hbehind : Behind (bare reference).toList piece := by
    rcases hwhere with ⟨_, heq⟩ | ⟨_, hfront⟩
    · exact .inl heq
    · exact .inr hfront
  have htrim : (Text.trim (String.ofList piece)).toList = Text.trimList piece := by
    rw [Text.trim, String.toList_ofList, String.toList_ofList]
  -- the last piece is the last name when no colon is in it
  have hlast : ':' ∉ (Text.trim (String.ofList piece)).toList →
      lastName reference = Text.trim (String.ofList piece) := by
    intro hcolon
    rw [htrim, Text.colon_mem_trimList] at hcolon
    exact lastName_of_behind_bare hbehind hcolon
  rcases candidate_eq_join hpieces hcandidate with hword | ⟨before, hjoin⟩
  · have hcolon : ∀ word ∈ moduleWords, ':' ∉ word.toList := by decide
    rw [hlast (hcolon _ hword)] at hreference
    exact absurd hword hreference
  · have hsegments' : ∀ segment ∈ segments ++ [name], IsSegment segment := by
      intro segment hsegment
      rcases List.mem_append.mp hsegment with hmem | hmem
      · exact (hsegments segment hmem).toIsSegment
      · rw [List.mem_singleton.mp hmem]
        exact hname.toIsSegment
    have heq := eq_of_join_concat hsegments' hjoin (by
      rw [htrim]
      exact fun hinside => hplain (hinside.trans (Text.trimList_inside piece)))
    rw [hlast (by rw [heq]; exact hname.colon), heq]

end Reference

end BuilderGen

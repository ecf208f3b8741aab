import BuilderGen.Text.SnakeCase

/-!
# Characters of snake case

A name in snake case holds underscores and letters and digits in lower case, and nothing else.  So it never
holds a character that has a meaning in a path.
-/

namespace BuilderGen.Text

/-- The runs of a text are the characters with the property, in order. -/
theorem flatten_runs (property : Char → Bool) (chars : List Char) :
    (runs property chars).flatten = chars.filter property := by
  induction chars with
  | nil => rfl
  | cons c rest ih =>
      rw [List.filter_cons, ← ih, runs.eq_def]
      dsimp only
      split
      · -- What the rest falls apart into does not matter here, only whether a run goes on.
        generalize runs property rest = more
        split
        · split <;> rfl
        · rfl
      · rfl

namespace SnakeCase

theorem flatten_extend (c : Char) (words : List (List Char)) :
    (extend c words).flatten = c :: words.flatten := by
  cases words <;> rfl

/-- The words of a run are its characters, in order. -/
theorem flatten_words (mode : Mode) (chars : List Char) : (words mode chars).flatten = chars := by
  fun_induction words mode chars with
  | case1 => rfl
  | case2 => rfl
  | case3 _ _ _ _ _ ih => rw [List.flatten_cons, ih, List.singleton_append]
  | case4 _ _ _ _ _ _ ih => rw [List.flatten_cons, flatten_extend, ih, List.nil_append]
  | case5 _ _ _ _ _ _ ih => rw [flatten_extend, ih]

/-- The characters in the lower case of a word. -/
theorem mem_lower {word : List Char} {c : Char} (hc : c ∈ lower word) :
    c = 'ς' ∨ ∃ letter ∈ word, c ∈ lowerForm letter := by
  induction word with
  | nil => cases hc
  | cons first rest ih =>
      cases rest with
      | nil =>
          rw [lower] at hc
          split at hc
          · exact .inl (List.mem_singleton.mp hc)
          · exact .inr ⟨first, List.mem_cons_self, hc⟩
      | cons next rest =>
          rw [lower, List.mem_append] at hc
          · rcases hc with hc | hc
            · exact .inr ⟨first, List.mem_cons_self, hc⟩
            · exact (ih hc).imp_right fun ⟨letter, hletter, hform⟩ =>
                ⟨letter, List.mem_cons_of_mem first hletter, hform⟩
          · exact List.cons_ne_nil next rest

end SnakeCase

/-- The characters of joined texts. -/
theorem mem_intercalate {c : Char} {separator : String} {texts : List String}
    (hc : c ∈ (separator.intercalate texts).toList) :
    c ∈ separator.toList ∨ ∃ text ∈ texts, c ∈ text.toList := by
  induction texts with
  | nil => simp at hc
  | cons text texts ih =>
      by_cases hnil : texts = []
      · subst hnil
        rw [String.intercalate_singleton] at hc
        exact .inr ⟨text, List.mem_cons_self, hc⟩
      · rw [String.intercalate_cons_of_ne_nil hnil, String.toList_append, String.toList_append,
          List.mem_append, List.mem_append] at hc
        rcases hc with (hc | hc) | hc
        · exact .inr ⟨text, List.mem_cons_self, hc⟩
        · exact .inl hc
        · exact (ih hc).imp_right fun ⟨other, hother, hmem⟩ =>
            ⟨other, List.mem_cons_of_mem text hother, hmem⟩

/-- The characters of a name in snake case are underscores and the lower case of its letters and digits. -/
theorem mem_snakeCase {name : String} {c : Char} (hc : c ∈ (snakeCase name).toList) :
    c = '_' ∨ c = 'ς' ∨ ∃ letter, isAlphanumeric letter = true ∧ c ∈ lowerForm letter := by
  rcases mem_intercalate hc with hunderscore | ⟨text, htext, hc⟩
  · exact .inl (List.mem_singleton.mp hunderscore)
  · obtain ⟨word, hword, rfl⟩ := List.mem_map.mp htext
    obtain ⟨run, hrun, hword⟩ := List.mem_flatMap.mp hword
    rw [String.toList_ofList] at hc
    refine .inr ((SnakeCase.mem_lower hc).imp_right fun ⟨letter, hletter, hform⟩ => ?_)
    have hmem : letter ∈ run := by
      rw [← SnakeCase.flatten_words .undecided run]
      exact List.mem_flatten_of_mem hword hletter
    have hfilter : letter ∈ name.toList.filter isAlphanumeric := by
      rw [← flatten_runs]
      exact List.mem_flatten_of_mem hrun hmem
    exact ⟨letter, (List.mem_filter.mp hfilter).2, hform⟩

/-- A code point that gives a character other than the null character is the code point of it. -/
theorem toNat_of_ofNat_eq {point : Nat} {c : Char} (hc : c.toNat ≠ 0) (hpoint : Char.ofNat point = c) :
    point = c.toNat := by
  subst hpoint
  by_cases hvalid : point.isValidChar
  · rw [Char.ofNat, dif_pos hvalid]
    rfl
  · rw [Char.ofNat, dif_neg hvalid] at hc
    exact absurd rfl hc

theorem slash_lt_image : ∀ run ∈ Table.toLower, '/'.toNat < run.2.2.2 := by
  decide +kernel

/-- No other character has a slash for its lower case. -/
theorem slash_notMem_lowerForm {c : Char} (hc : c ≠ '/') : '/' ∉ lowerForm c := by
  intro hslash
  rw [lowerForm] at hslash
  split at hslash
  · revert hslash
    decide
  · split at hslash
    · rename_i first _ _ image hfind
      have hlt : '/'.toNat < image := slash_lt_image _ (List.mem_of_find?_eq_some hfind)
      have hnat := toNat_of_ofNat_eq (by decide) (List.mem_singleton.mp hslash).symm
      omega
    · exact hc (List.mem_singleton.mp hslash).symm

/-- There is no slash in a name in snake case. -/
theorem slash_notMem_snakeCase (name : String) : '/' ∉ (snakeCase name).toList := by
  intro hslash
  rcases mem_snakeCase hslash with heq | heq | ⟨letter, hletter, hform⟩
  · exact absurd heq (by decide)
  · exact absurd heq (by decide)
  · refine slash_notMem_lowerForm ?_ hform
    rintro rfl
    revert hletter
    decide

end BuilderGen.Text

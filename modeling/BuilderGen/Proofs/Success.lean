import Mathlib.Data.List.Forall2
import Mathlib.Data.List.Induction

/-!
# Computations that succeed

A computation in `Except` is taken apart here: a sequence of steps succeeds when each step does, and a
traversal succeeds when it does so at every item.  Proofs about functions that can fail start from these
equations and never unfold the monad.  `error?` is the other side: the error of a sequence of steps or of a
traversal is that of the first part that fails.  The results of a traversal are in step with its items, and what
is true of such a pair of lists comes next.  A traversal that fails does so at a first item, which is found at the
end.
-/

namespace BuilderGen

variable {ε α β : Type}

theorem bind_eq_ok {first : Except ε α} {next : α → Except ε β} {result : β} :
    (first >>= next) = .ok result ↔ ∃ value, first = .ok value ∧ next value = .ok result := by
  cases first <;> simp [bind, Except.bind]

theorem pure_eq_ok {value result : α} : (pure value : Except ε α) = .ok result ↔ value = result := by
  simp [pure, Except.pure]

theorem map_eq_ok {first : Except ε α} {function : α → β} {result : β} :
    first.map function = .ok result ↔ ∃ value, first = .ok value ∧ function value = result := by
  cases first <;> simp [Except.map]

theorem mapError_eq_ok {δ : Type} {first : Except ε α} {function : ε → δ} {result : α} :
    first.mapError function = .ok result ↔ first = .ok result := by
  cases first <;> simp [Except.mapError]

theorem toOption_eq_some {first : Except ε α} {result : α} :
    first.toOption = some result ↔ first = .ok result := by
  cases first <;> simp [Except.toOption]

theorem isOk_iff {result : Except ε α} : result.isOk = true ↔ ∃ value, result = .ok value := by
  cases result <;> simp [Except.isOk, Except.toBool]

/-- A traversal succeeds with the results of its items, in order. -/
theorem mapM_eq_ok {step : α → Except ε β} {items : List α} {results : List β} :
    items.mapM step = .ok results ↔
      List.Forall₂ (fun item result => step item = .ok result) items results := by
  induction items generalizing results with
  | nil =>
      rw [List.mapM_nil, pure_eq_ok, List.forall₂_nil_left_iff]
      exact eq_comm
  | cons item items ih =>
      rw [List.mapM_cons, bind_eq_ok, List.forall₂_cons_left_iff]
      constructor
      · rintro ⟨result, hitem, hrest⟩
        obtain ⟨others, hothers, heq⟩ := bind_eq_ok.mp hrest
        exact ⟨result, others, hitem, ih.mp hothers, (pure_eq_ok.mp heq).symm⟩
      · rintro ⟨result, others, hitem, hothers, rfl⟩
        exact ⟨result, hitem, bind_eq_ok.mpr ⟨others, ih.mpr hothers, pure_eq_ok.mpr rfl⟩⟩

/-! ## The error of a computation -/

/-- The error with which a computation fails, if it does. -/
def error? : Except ε α → Option ε
  | .ok _ => none
  | .error error => some error

theorem error?_eq_some {result : Except ε α} {error : ε} : error? result = some error ↔ result = .error error := by
  cases result <;> simp [error?]

theorem error?_eq_none {result : Except ε α} : error? result = none ↔ ∃ value, result = .ok value := by
  cases result <;> simp [error?]

theorem error?_map (function : α → β) (result : Except ε α) : error? (result.map function) = error? result := by
  cases result <;> rfl

/-- Of two steps in a row, the second one is reached only when the first one succeeds. -/
theorem error?_bind {first : Except ε α} {next : α → Except ε β} {rest : Option ε}
    (hnext : ∀ value, first = .ok value → error? (next value) = rest) :
    error? (first >>= next) = (error? first).or rest := by
  cases first with
  | ok value => exact hnext value rfl
  | error error => rfl

/-- Where the last step cannot fail, the error is that of the first one. -/
theorem error?_bind_of_ok {first : Except ε α} {next : α → Except ε β}
    (hnext : ∀ value, ∃ result, next value = .ok result) : error? (first >>= next) = error? first := by
  cases first with
  | ok value =>
      obtain ⟨result, hresult⟩ := hnext value
      exact congrArg error? hresult
  | error error => rfl

/-- A traversal fails with the error of the first item that fails. -/
theorem error?_mapM (step : α → Except ε β) (items : List α) :
    error? (items.mapM step) = items.findSome? fun item => error? (step item) := by
  induction items with
  | nil => rfl
  | cons item items ih =>
      have hrest : ∀ result, step item = .ok result →
          error? (items.mapM step >>= fun results => pure (result :: results)) = error? (items.mapM step) :=
        fun _ _ => error?_bind_of_ok fun _ => ⟨_, rfl⟩
      rw [List.mapM_cons, error?_bind hrest, List.findSome?_cons, ih]
      cases error? (step item) <;> rfl

theorem findSome?_flatMap {γ : Type} (parts : α → List β) (find : β → Option γ) (items : List α) :
    (items.flatMap parts).findSome? find = items.findSome? fun item => (parts item).findSome? find := by
  induction items with
  | nil => rfl
  | cons item items ih =>
      rw [List.flatMap_cons, List.findSome?_append, ih, List.findSome?_cons]
      cases (parts item).findSome? find <;> rfl

/-! ## Lists in step -/

/-- Where the first of two lists in step is split, the second one is. -/
theorem exists_split_of_forall₂ {related : α → β → Prop} {front back : List α} {item : α}
    {items : List β} (h : List.Forall₂ related (front ++ item :: back) items) :
    ∃ front' other back', items = front' ++ other :: back' ∧ related item other ∧
      List.Forall₂ related back back' := by
  induction front generalizing items with
  | nil =>
      obtain ⟨other, back', hother, hback, rfl⟩ := List.forall₂_cons_left_iff.mp h
      exact ⟨[], other, back', rfl, hother, hback⟩
  | cons first front ih =>
      obtain ⟨first', rest, _, hrest, rfl⟩ := List.forall₂_cons_left_iff.mp h
      obtain ⟨front', other, back', rfl, hother, hback⟩ := ih hrest
      exact ⟨first' :: front', other, back', rfl, hother, hback⟩

/-- Every member of the second of two lists in step goes with one of the first. -/
theorem exists_of_forall₂_of_mem {related : α → β → Prop} {items : List α} {others : List β}
    (h : List.Forall₂ related items others) {other : β} (hother : other ∈ others) :
    ∃ item ∈ items, related item other := by
  induction h with
  | nil => cases hother
  | cons hfirst _ ih =>
      rcases List.mem_cons.mp hother with rfl | hother
      · exact ⟨_, List.mem_cons_self, hfirst⟩
      · obtain ⟨item, hitem, hrelated⟩ := ih hother
        exact ⟨item, List.mem_cons_of_mem _ hitem, hrelated⟩

/-- Functions that agree on what goes together agree on two lists in step. -/
theorem map_eq_map_of_forall₂ {γ : Type} {related : α → β → Prop} {first : α → γ} {second : β → γ} {items : List α}
    {others : List β} (h : List.Forall₂ related items others)
    (hagree : ∀ item other, related item other → first item = second other) :
    items.map first = others.map second := by
  rw [← List.forall₂_eq_eq_eq, List.forall₂_map_left_iff, List.forall₂_map_right_iff]
  exact h.imp hagree

/-- A list in step with items whose members are given by these is given by them. -/
theorem eq_map_of_forall₂ {related : α → β → Prop} {function : α → β} {items : List α} {others : List β}
    (h : List.Forall₂ related items others) (hgiven : ∀ item other, related item other → other = function item) :
    others = items.map function := by
  rw [← List.map_id others]
  exact (map_eq_map_of_forall₂ h fun item other hrelated => (hgiven item other hrelated).symm).symm

/-! ## The first item that fails -/

/-- What holds of no items holds of a list of them, or there is a first item with which it fails. -/
theorem holds_or_fails_first (holds : List α → Prop) (hnil : holds []) (items : List α) :
    holds items ∨ ∃ front item back, items = front ++ item :: back ∧ holds front ∧ ¬holds (front ++ [item]) := by
  induction items using List.reverseRecOn with
  | nil => exact .inl hnil
  | append_singleton front last ih =>
      rcases ih with hfront | ⟨before, item, after, rfl, hbefore, hfails⟩
      · by_cases hall : holds (front ++ [last])
        · exact .inl hall
        · exact .inr ⟨front, last, [], rfl, hfront, hall⟩
      · exact .inr ⟨before, item, after ++ [last], by rw [List.append_assoc, List.cons_append], hbefore, hfails⟩

end BuilderGen

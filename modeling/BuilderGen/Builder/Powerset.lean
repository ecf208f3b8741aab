/-!
# All sublists, largest first

A plan has one branch per subset of the provider-backed fields.  This module lists the subsets: in the
order of binary counting, where the first item is the lowest bit, and then stably by decreasing length.
-/

namespace BuilderGen

/-- All sublists of a list, in the order in which the chosen positions increase as binary numbers with the
first item as the lowest bit. -/
def sublistsByCounting {α : Type} (items : List α) : List (List α) :=
  items.foldl (fun subsets item => subsets ++ subsets.map (· ++ [item])) [[]]

/-- All sublists of a list, larger ones first.  Among equal lengths the order of counting stays. -/
def powerset {α : Type} (items : List α) : List (List α) :=
  (sublistsByCounting items).mergeSort fun left right => right.length ≤ left.length

end BuilderGen

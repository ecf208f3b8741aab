import Mathlib.Data.List.Nodup

/-!
# Records made from items

Lists of records appear wherever something is said about some of the items of a list: at most one record for
each item, in the order of the items, and under the name of the item.  Two facts carry over to every such
list.  The names in the records are the names of the items that have one, and a search by name finds the
record of the item, as long as the names of the items differ.
-/

namespace BuilderGen

variable {α β γ : Type} {record? : α → Option β} {key : β → γ} {name : α → γ} {has : α → Bool}

/-- A record has the name of the item it was made from. -/
theorem key_of_record?
    (hrecord : ∀ item, (record? item).map key = if has item then some (name item) else none)
    {item : α} {record : β} (h : record? item = some record) : key record = name item := by
  have hitem := hrecord item
  rw [h, Option.map_some] at hitem
  split at hitem
  · exact Option.some.inj hitem
  · cases hitem

/-- Records list the names of the items that have one. -/
theorem map_key_filterMap
    (hrecord : ∀ item, (record? item).map key = if has item then some (name item) else none)
    (items : List α) : (items.filterMap record?).map key = (items.filter has).map name := by
  induction items with
  | nil => rfl
  | cons item items ih =>
      have hitem := hrecord item
      cases hhas : has item with
      | false =>
          rw [hhas, if_neg (by decide), Option.map_eq_none_iff] at hitem
          rw [List.filterMap_cons_none hitem, List.filter_cons_of_neg (by simp [hhas]), ih]
      | true =>
          rw [hhas, if_pos rfl, Option.map_eq_some_iff] at hitem
          obtain ⟨record, hsome, hkey⟩ := hitem
          rw [List.filterMap_cons_some hsome, List.filter_cons_of_pos hhas, List.map_cons,
            List.map_cons, hkey, ih]

/-- A search by the name of an item finds the record of that item, or nothing when it has none. -/
theorem find?_key_filterMap [DecidableEq γ]
    (hrecord : ∀ item, (record? item).map key = if has item then some (name item) else none)
    {items : List α} (hnames : (items.map name).Nodup) {item : α} (hitem : item ∈ items) :
    (items.filterMap record?).find? (fun record => key record = name item) = record? item := by
  induction items with
  | nil => simp at hitem
  | cons head items ih =>
      obtain ⟨hhead, hrest⟩ := List.nodup_cons.mp hnames
      rcases List.mem_cons.mp hitem with rfl | hmem
      · cases hfound : record? item with
        | none =>
            rw [List.filterMap_cons_none hfound, List.find?_eq_none]
            intro record hmem heq
            obtain ⟨other, hother, hsome⟩ := List.mem_filterMap.mp hmem
            have hname : name other = name item := by
              rw [← key_of_record? hrecord hsome]
              exact of_decide_eq_true heq
            exact hhead (hname ▸ List.mem_map_of_mem hother)
        | some record =>
            rw [List.filterMap_cons_some hfound, List.find?_cons_of_pos]
            exact decide_eq_true (key_of_record? hrecord hfound)
      · have hne : name head ≠ name item := fun heq =>
          hhead (heq ▸ List.mem_map_of_mem hmem)
        cases hfound : record? head with
        | none =>
            rw [List.filterMap_cons_none hfound]
            exact ih hrest hmem
        | some record =>
            rw [List.filterMap_cons_some hfound, List.find?_cons_of_neg]
            · exact ih hrest hmem
            · rw [key_of_record? hrecord hfound]
              simpa using hne

/-- Among items with different names a search by name finds the item itself. -/
theorem find?_name [DecidableEq γ] {items : List α} (hnames : (items.map name).Nodup) {item : α}
    (hitem : item ∈ items) : items.find? (fun other => name other = name item) = some item := by
  have hrecord : ∀ item, (some item).map name = if true then some (name item) else none := fun _ => rfl
  have hfind := find?_key_filterMap hrecord hnames hitem
  rwa [List.filterMap_some] at hfind

end BuilderGen

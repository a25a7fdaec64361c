import Mathlib.Data.List.Induction
import Mathlib.Data.List.Perm.Basic

/-!
# Distinct items in the order of their first occurrence

`List.eraseDups` keeps the first of equal items. Adding an item at the end of a list adds it at
the end of the result (`eraseDups_concat_of_not_mem`), unless the list holds it already
(`eraseDups_concat_of_mem`).
-/

namespace PriorArt

variable {α : Type} [BEq α] [LawfulBEq α]

theorem eraseDups_concat_of_mem {items : List α} {item : α} (h : item ∈ items) :
    (items ++ [item]).eraseDups = items.eraseDups := by
  simp [List.eraseDups_append, List.removeAll, h]

theorem eraseDups_concat_of_not_mem {items : List α} {item : α} (h : item ∉ items) :
    (items ++ [item]).eraseDups = items.eraseDups ++ [item] := by
  simp [List.eraseDups_append, List.removeAll, h, List.eraseDups_cons]

theorem nodup_eraseDups (items : List α) : items.eraseDups.Nodup := by
  induction items using List.reverseRecOn with
  | nil => exact List.nodup_nil
  | append_singleton items item ih =>
    by_cases h : item ∈ items
    · rwa [eraseDups_concat_of_mem h]
    · rw [eraseDups_concat_of_not_mem h]
      refine List.nodup_append.2 ⟨ih, by simp, ?_⟩
      rintro first hf second hs rfl
      exact h (List.mem_singleton.1 hs ▸ List.mem_eraseDups.1 hf)

/-- The number of distinct items depends on nothing but what the list holds. -/
theorem length_eraseDups_congr {items others : List α} (h : ∀ a, a ∈ items ↔ a ∈ others) :
    items.eraseDups.length = others.eraseDups.length := by
  refine List.Perm.length_eq ?_
  rw [List.perm_ext_iff_of_nodup (nodup_eraseDups items) (nodup_eraseDups others)]
  intro a
  rw [List.mem_eraseDups, List.mem_eraseDups, h]

end PriorArt

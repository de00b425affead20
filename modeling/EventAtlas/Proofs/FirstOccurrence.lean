import Mathlib.Data.List.Induction
import Mathlib.Data.List.Nodup

/-!
# Items in order of first occurrence

A list without its repetitions keeps each item where it first stands. It grows with the list: a
known item adds nothing and a new one comes last.
-/

namespace EventAtlas

variable {α : Type} [BEq α] [LawfulBEq α]

/-- One more item at the end changes the list without repetitions if the item is new. -/
theorem eraseDups_concat (items : List α) (item : α) :
    (items ++ [item]).eraseDups =
      if item ∈ items then items.eraseDups else items.eraseDups ++ [item] := by
  rw [List.eraseDups_append]
  by_cases known : item ∈ items <;> simp [known, List.removeAll, List.eraseDups_cons]

/-- Items that are dropped leave no trace in the order of first occurrence. -/
theorem eraseDups_filter (keep : α → Bool) (items : List α) :
    (items.filter keep).eraseDups = items.eraseDups.filter keep := by
  induction items using List.reverseRecOn with
  | nil => simp
  | append_singleton items item ih =>
    rw [List.filter_append, eraseDups_concat]
    by_cases kept : keep item = true
    · have last : [item].filter keep = [item] := by simp [kept]
      rw [last, eraseDups_concat, ih]
      by_cases known : item ∈ items <;> simp [known, kept]
    · have last : [item].filter keep = [] := by simp [kept]
      rw [last, List.append_nil, ih]
      by_cases known : item ∈ items <;> simp [known, kept]

/-- Removing repetitions keeps the order of what stays. -/
theorem eraseDups_sublist (items : List α) : items.eraseDups.Sublist items := by
  induction items using List.reverseRecOn with
  | nil => simp
  | append_singleton items item ih =>
    rw [eraseDups_concat]
    split
    · exact ih.trans (List.sublist_append_left ..)
    · exact ih.append_right [item]

/-- Nothing is left twice. -/
theorem nodup_eraseDups (items : List α) : items.eraseDups.Nodup := by
  induction items using List.reverseRecOn with
  | nil => simp
  | append_singleton items item ih =>
    rw [eraseDups_concat]
    split
    · exact ih
    · next new =>
      rw [← List.concat_eq_append]
      exact ih.concat (by simpa using new)

/-- Nothing is lost exactly when nothing is repeated. -/
theorem length_eraseDups_eq_iff {items : List α} :
    items.eraseDups.length = items.length ↔ items.Nodup := by
  constructor
  · intro same
    rw [← (eraseDups_sublist items).eq_of_length same]
    exact nodup_eraseDups items
  · intro distinct
    exact ((List.perm_ext_iff_of_nodup (nodup_eraseDups items) distinct).2 (by simp)).length_eq

end EventAtlas

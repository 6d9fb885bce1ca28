import Mathlib.Data.List.Induction
import Mathlib.Data.List.Nodup

/-!
# Lists without repetitions

`List.eraseDups` keeps of equal elements the first. A list that is extended at its end, by elements that it does
not hold yet, comes to the same (`eraseDups_concat`).
-/

namespace WikiText

variable {α : Type} [BEq α] [LawfulBEq α] {items : List α}

/-- One more item stays at the end unless it was there before. -/
theorem eraseDups_concat (items : List α) (a : α) :
    (items ++ [a]).eraseDups = if a ∈ items then items.eraseDups else items.eraseDups ++ [a] := by
  rw [List.eraseDups_append, List.removeAll]
  by_cases ha : a ∈ items <;> simp [ha, List.eraseDups_cons]

/-- Without repetitions each item stands once. -/
theorem nodup_eraseDups (items : List α) : items.eraseDups.Nodup := by
  induction items using List.reverseRecOn with
  | nil => exact List.nodup_nil
  | append_singleton items a ih =>
    rw [eraseDups_concat]
    split
    · exact ih
    · next hnew =>
      rw [← List.concat_eq_append, List.nodup_concat]
      exact ⟨mt List.mem_eraseDups.mp hnew, ih⟩

/-- A list without repetitions stays as it is. -/
theorem eraseDups_of_nodup (h : items.Nodup) : items.eraseDups = items := by
  induction items using List.reverseRecOn with
  | nil => rfl
  | append_singleton items a ih =>
    rw [← List.concat_eq_append, List.nodup_concat] at h
    rw [eraseDups_concat, if_neg h.1, ih h.2]

end WikiText

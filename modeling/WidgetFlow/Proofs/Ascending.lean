import Mathlib.Data.List.Sort
import Mathlib.Data.String.Basic
import WidgetFlow.Search

/-!
# Answers in ascending order

What was gathered as a set is put in ascending order before it is given away. Such a list is known by
its members, so the order in which they were gathered does not show.
-/

namespace WidgetFlow

/-- What has no repetitions is put in strictly ascending order. -/
theorem sortedLT_mergeSort {α : Type} [LinearOrder α] {l : List α} (once : l.Nodup) :
    (l.mergeSort fun a b => decide (a ≤ b)).SortedLT := by
  have weakly := (List.pairwise_mergeSort' (· ≤ ·) l).sortedLE
  exact weakly.sortedLT_of_nodup ((List.mergeSort_perm l _).nodup_iff.2 once)

/-- What is put in order is known by its members. -/
theorem sorted_distinct_congr {l l' : List String} (same : ∀ c, c ∈ l ↔ c ∈ l') :
    (distinct l).mergeSort (fun a b => decide (a ≤ b)) =
      (distinct l').mergeSort fun a b => decide (a ≤ b) := by
  have sorted := sortedLT_mergeSort (nodup_distinct l)
  have sorted' := sortedLT_mergeSort (nodup_distinct l')
  apply sorted.eq_of_mem_iff sorted'
  intro c
  rw [List.mem_mergeSort, List.mem_mergeSort, mem_distinct, mem_distinct, same]

end WidgetFlow

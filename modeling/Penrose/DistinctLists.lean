import Mathlib.Data.List.Induction
import Mathlib.Data.List.Nodup
import Mathlib.Data.List.Perm.Subperm

/-! Lists of distinct elements made by adding one element after another, each unless it is there already. -/

namespace Penrose.DistinctLists

variable {α : Type} [BEq α] [LawfulBEq α]

theorem eraseDups_concat (elements : List α) (element : α) : (elements ++ [element]).eraseDups =
    if element ∈ elements then elements.eraseDups else elements.eraseDups ++ [element] := by
  rw [List.eraseDups_append]
  split_ifs with hmem
  · have hnone : [element].removeAll elements = [] := by simp [List.removeAll, hmem]
    rw [hnone, List.eraseDups_nil, List.append_nil]
  · have hone : [element].removeAll elements = [element] := by simp [List.removeAll, hmem]
    rw [hone]
    rfl

theorem nodup_eraseDups (elements : List α) : elements.eraseDups.Nodup := by
  induction elements using List.reverseRecOn with
  | nil => exact List.nodup_nil
  | append_singleton elements element ih =>
      rw [eraseDups_concat]
      split_ifs with hmem
      · exact ih
      · apply List.nodup_append.mpr
        refine ⟨ih, List.nodup_singleton element, ?_⟩
        intro earlier hearlier last hlast
        rw [List.mem_singleton.mp hlast]
        exact ne_of_mem_of_not_mem (List.mem_eraseDups.mp hearlier) hmem

theorem length_eraseDups_le (elements : List α) : elements.eraseDups.length ≤ elements.length :=
  ((nodup_eraseDups elements).subperm fun _ h => List.mem_eraseDups.mp h).length_le

end Penrose.DistinctLists

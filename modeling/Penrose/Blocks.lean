import Mathlib.Data.List.Range

/-! Lists in blocks of equal neighbours. -/

namespace Penrose

variable {α : Type} [DecidableEq α] {labels : List α} {label : α} {i p q : Nat}

/-- A block starts at the index: the element is the first one, or it differs from the one before it. -/
def StartsBlock (labels : List α) (i : Nat) : Prop := i < labels.length ∧ (i = 0 ∨ labels[i - 1]? ≠ labels[i]?)

instance (labels : List α) (i : Nat) : Decidable (StartsBlock labels i) := inferInstanceAs (Decidable (_ ∧ _))

/-- Where the blocks start. -/
def blockStarts (labels : List α) : List Nat := (List.range labels.length).filter fun i => StartsBlock labels i

theorem mem_blockStarts : i ∈ blockStarts labels ↔ StartsBlock labels i := by
  rw [blockStarts, List.mem_filter, List.mem_range, decide_eq_true_iff, and_iff_right_iff_imp]
  exact And.left

theorem blockStarts_pairwise (labels : List α) : (blockStarts labels).Pairwise (· < ·) :=
  List.pairwise_lt_range.filter _

/-- One more element starts a block if it differs from the last one. -/
theorem blockStarts_append_singleton (labels : List α) (label : α) :
    blockStarts (labels ++ [label]) =
      if labels.getLast? = some label then blockStarts labels else blockStarts labels ++ [labels.length] := by
  have hold : ((List.range labels.length).filter fun i => StartsBlock (labels ++ [label]) i) = blockStarts labels := by
    apply List.filter_congr
    intro i hi
    have hlt : i < labels.length := List.mem_range.mp hi
    have hlt' : i - 1 < labels.length := by omega
    have hlen : i < (labels ++ [label]).length := by
      rw [List.length_append]
      omega
    simp only [StartsBlock, List.getElem?_append_left hlt, List.getElem?_append_left hlt', hlt, hlen, true_and]
  have hnew : StartsBlock (labels ++ [label]) labels.length ↔ ¬ labels.getLast? = some label := by
    rw [StartsBlock, List.getLast?_eq_getElem?, List.getElem?_concat_length, List.length_append, List.length_singleton,
      and_iff_right (Nat.lt_succ_self _)]
    by_cases hempty : labels.length = 0
    · simp [List.eq_nil_of_length_eq_zero hempty]
    · rw [List.getElem?_append_left (by omega), or_iff_right hempty]
  rw [blockStarts, List.length_append, List.length_singleton, List.range_succ, List.filter_append, hold]
  split_ifs with hsame
  · rw [List.filter_cons_of_neg, List.filter_nil, List.append_nil]
    simpa using fun h => hnew.mp h hsame
  · rw [List.filter_cons_of_pos, List.filter_nil]
    exact decide_eq_true (hnew.mpr hsame)

theorem blockStarts_zero (h : labels ≠ []) : (blockStarts labels)[0]? = some 0 := by
  cases labels with
  | nil => exact absurd rfl h
  | cons label labels =>
      rw [blockStarts, List.length_cons, List.range_succ_eq_map, List.filter_cons_of_pos]
      · rfl
      · exact decide_eq_true ⟨Nat.succ_pos _, Or.inl rfl⟩

/-- Up to where the next block starts the elements are equal. -/
theorem getElem?_of_block (hnone : ∀ i, q < i → i ≤ p → ¬ StartsBlock labels i) (hp : p < labels.length) (hqi : q ≤ i)
    (hip : i ≤ p) : labels[i]? = labels[q]? := by
  induction i, hqi using Nat.le_induction with
  | base => rfl
  | succ i hqi ih =>
      rw [← ih (Nat.le_of_succ_le hip)]
      by_contra hne
      exact hnone (i + 1) (Nat.lt_succ_of_le hqi) hip ⟨Nat.lt_of_le_of_lt hip hp, Or.inr (Ne.symm hne)⟩

end Penrose

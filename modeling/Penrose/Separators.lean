import Mathlib.Data.List.TakeWhile

/-! Texts with separators. What is before the first separator and what is after it are found without splitting the
whole text. -/

namespace Penrose

variable {α : Type} [DecidableEq α] {separator : α} {text before after : List α}

/-- What is before the first separator, or the whole text. -/
def beforeSeparator (separator : α) (text : List α) : List α := text.takeWhile (· ≠ separator)

/-- What is after the first separator. -/
def afterSeparator (separator : α) (text : List α) : List α := (text.dropWhile (· ≠ separator)).drop 1

theorem all_ne_separator (h : separator ∉ text) : ∀ a ∈ text, decide (a ≠ separator) = true := by
  intro a ha
  exact decide_eq_true fun heq => h (heq ▸ ha)

theorem beforeSeparator_append (h : separator ∉ before) :
    beforeSeparator separator (before ++ separator :: after) = before := by
  rw [beforeSeparator, List.takeWhile_append_of_pos (all_ne_separator h), List.takeWhile_cons_of_neg (by simp),
    List.append_nil]

theorem afterSeparator_append (h : separator ∉ before) :
    afterSeparator separator (before ++ separator :: after) = after := by
  rw [afterSeparator, List.dropWhile_append_of_pos (all_ne_separator h), List.dropWhile_cons_of_neg (by simp),
    List.drop_one, List.tail_cons]

theorem beforeSeparator_of_notMem (h : separator ∉ text) : beforeSeparator separator text = text :=
  List.takeWhile_eq_self_iff.mpr (all_ne_separator h)

theorem afterSeparator_of_notMem (h : separator ∉ text) : afterSeparator separator text = [] := by
  have hnone : text.dropWhile (· ≠ separator) = [] := List.dropWhile_eq_nil_iff.mpr (all_ne_separator h)
  rw [afterSeparator, hnone, List.drop_nil]

/-- The first piece of a text that is split. -/
theorem getD_splitOn_zero (separator : α) (text : List α) :
    (text.splitOn separator).getD 0 [] = beforeSeparator separator text := by
  by_cases hmem : separator ∈ text
  · obtain ⟨before, after, rfl, hbefore⟩ := List.eq_append_cons_of_mem hmem
    rw [List.splitOn_append_cons_self_of_not_mem hbefore, beforeSeparator_append hbefore]
    rfl
  · rw [List.splitOn_eq_singleton hmem, beforeSeparator_of_notMem hmem]
    rfl

/-- The second piece of a text that is split, or nothing. -/
theorem getD_splitOn_one (separator : α) (text : List α) :
    (text.splitOn separator).getD 1 [] = beforeSeparator separator (afterSeparator separator text) := by
  by_cases hmem : separator ∈ text
  · obtain ⟨before, after, rfl, hbefore⟩ := List.eq_append_cons_of_mem hmem
    rw [List.splitOn_append_cons_self_of_not_mem hbefore, afterSeparator_append hbefore, ← getD_splitOn_zero]
    rfl
  · rw [List.splitOn_eq_singleton hmem, afterSeparator_of_notMem hmem]
    rfl

/-- Each piece is closed by a separator, and nothing follows the last one. -/
theorem splitOn_flatMap (pieces : List (List α)) (h : ∀ piece ∈ pieces, separator ∉ piece) :
    (pieces.flatMap fun piece => piece ++ [separator]).splitOn separator = pieces ++ [[]] := by
  induction pieces with
  | nil => exact List.splitOn_nil separator
  | cons piece pieces ih =>
      rw [List.flatMap_cons, List.append_assoc, List.singleton_append,
        List.splitOn_append_cons_self_of_not_mem (h piece List.mem_cons_self),
        ih fun other hother => h other (List.mem_cons_of_mem piece hother)]
      rfl

end Penrose

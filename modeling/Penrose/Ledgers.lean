import Mathlib.Data.List.Perm.Basic

/-! Accounts of what is held. What is taken and what was held before is what is given back and what is held after. -/

namespace Penrose

open scoped List

variable {α : Type} {taken given taken' given' before between after : List α}

/-- Taking and giving back leads from what was held before to what is held after. -/
def Balanced (taken given before after : List α) : Prop := taken ++ before ~ given ++ after

namespace Balanced

theorem refl (held : List α) : Balanced [] [] held held := List.Perm.refl _

theorem nil_iff : Balanced taken given [] after ↔ taken ~ given ++ after := by
  rw [Balanced, List.append_nil]

theorem trans (h : Balanced taken given before between) (h' : Balanced taken' given' between after) :
    Balanced (taken ++ taken') (given ++ given') before after := by
  rw [Balanced] at h h' ⊢
  calc taken ++ taken' ++ before
      ~ taken' ++ taken ++ before := List.perm_append_comm.append_right before
    _ = taken' ++ (taken ++ before) := List.append_assoc ..
    _ ~ taken' ++ (given ++ between) := h.append_left taken'
    _ = taken' ++ given ++ between := (List.append_assoc ..).symm
    _ ~ given ++ taken' ++ between := List.perm_append_comm.append_right between
    _ = given ++ (taken' ++ between) := List.append_assoc ..
    _ ~ given ++ (given' ++ after) := h'.append_left given
    _ = given ++ given' ++ after := (List.append_assoc ..).symm

/-- What else is held does not matter. -/
theorem frame (h : Balanced taken given before after) (rest : List α) :
    Balanced taken given (before ++ rest) (after ++ rest) := by
  rw [Balanced, ← List.append_assoc, ← List.append_assoc]
  exact h.append_right rest

/-- What is held may be listed in any order. -/
theorem congr (h : Balanced taken given before after) {before' after' : List α} (hbefore : before' ~ before)
    (hafter : after' ~ after) : Balanced taken given before' after' := by
  calc taken ++ before' ~ taken ++ before := hbefore.append_left taken
    _ ~ given ++ after := h
    _ ~ given ++ after' := (hafter.append_left given).symm

/-- What is held after is determined by what was held before. -/
theorem unique (h : Balanced taken given before after) {before' after' : List α} (hbefore : before ~ before')
    (h' : Balanced taken given before' after') : after ~ after' := by
  apply (List.perm_append_left_iff given).mp
  calc given ++ after ~ taken ++ before := h.symm
    _ ~ taken ++ before' := hbefore.append_left taken
    _ ~ given ++ after' := h'

end Balanced

end Penrose

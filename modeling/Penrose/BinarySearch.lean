import Mathlib.Order.Defs.LinearOrder
import Mathlib.Order.Lattice
import Mathlib.Tactic.SplitIfs

/-! Binary search in a list that strictly increases, with the result that says where a key is or where it would be. -/

namespace Penrose

variable {α : Type} [LinearOrder α] {a : List α} {key v w : α} {i j low high fuel : Nat}

/-- The search from `low` to before `high`. -/
def binarySearchFrom (a : List α) (key : α) : Nat → Nat → Nat → Int
  | 0, low, _ => -(low + 1)
  | fuel + 1, low, high =>
    if low < high then
      let mid := (low + (high - 1)) / 2
      match a[mid]? with
      | none => -(low + 1)
      | some midVal =>
        if midVal < key then binarySearchFrom a key fuel (mid + 1) high
        else if key < midVal then binarySearchFrom a key fuel low mid
        else mid
    else -(low + 1)

/-- The index of the key, or the negation of one more than the number of the elements below it. -/
def binarySearch (a : List α) (key : α) : Int := binarySearchFrom a key a.length 0 a.length

/-- The result is the index of the key, or the key is missing and would be inserted before index `i`. -/
def IsFound (a : List α) (key : α) (result : Int) : Prop :=
  (∃ i : Nat, result = i ∧ a[i]? = some key) ∨
    ∃ i ≤ a.length, result = -((i : Int) + 1) ∧ (∀ j v, j < i → a[j]? = some v → v < key) ∧
      ∀ j v, i ≤ j → a[j]? = some v → key < v

theorem lt_of_getElem? (hsorted : a.Pairwise (· < ·)) (hlt : i < j) (hv : a[i]? = some v) (hw : a[j]? = some w) :
    v < w := by
  obtain ⟨hi, rfl⟩ := List.getElem?_eq_some_iff.mp hv
  obtain ⟨hj, rfl⟩ := List.getElem?_eq_some_iff.mp hw
  exact List.pairwise_iff_getElem.mp hsorted i j hi hj hlt

/-- The elements before `low` are below the key and those from `high` on above it. -/
theorem isFound_binarySearchFrom (hsorted : a.Pairwise (· < ·)) (hle : low ≤ high) (hhigh : high ≤ a.length)
    (hfuel : high - low ≤ fuel) (hbelow : ∀ j v, j < low → a[j]? = some v → v < key)
    (habove : ∀ j v, high ≤ j → a[j]? = some v → key < v) :
    IsFound a key (binarySearchFrom a key fuel low high) := by
  induction fuel generalizing low high with
  | zero =>
      have heq : high = low := by omega
      subst heq
      exact Or.inr ⟨high, hhigh, rfl, hbelow, habove⟩
  | succ fuel ih =>
      rw [binarySearchFrom]
      by_cases hlt : low < high
      · rw [if_pos hlt]
        have hmid : (low + (high - 1)) / 2 < a.length := by omega
        have hvalue := List.getElem?_eq_getElem hmid
        simp only [hvalue]
        split_ifs with hless hgreater
        · refine ih (by omega) hhigh (by omega) ?_ habove
          intro j v hj hv
          obtain hj | rfl := Nat.lt_or_eq_of_le (Nat.le_of_lt_succ hj)
          · exact lt_trans (lt_of_getElem? hsorted hj hv hvalue) hless
          · cases hvalue.symm.trans hv
            exact hless
        · refine ih (by omega) (by omega) (by omega) hbelow ?_
          intro j v hj hv
          obtain hj | rfl := Nat.lt_or_eq_of_le hj
          · exact lt_trans hgreater (lt_of_getElem? hsorted hj hvalue hv)
          · cases hvalue.symm.trans hv
            exact hgreater
        · have heq := le_antisymm (not_lt.mp hgreater) (not_lt.mp hless)
          exact Or.inl ⟨_, rfl, heq ▸ hvalue⟩
      · have heq : high = low := by omega
        subst heq
        rw [if_neg hlt]
        exact Or.inr ⟨high, hhigh, rfl, hbelow, habove⟩

theorem isFound_binarySearch (hsorted : a.Pairwise (· < ·)) (key : α) : IsFound a key (binarySearch a key) := by
  apply isFound_binarySearchFrom hsorted (Nat.zero_le _) (Nat.le_refl _) (Nat.le_refl _)
  · intro j v hj
    cases hj
  · intro j v hj hv
    rw [List.getElem?_eq_none hj] at hv
    cases hv

/-- What the result says about the greatest element that is at most the key. -/
theorem IsFound.floor {result : Int} (h : IsFound a key result) (hsorted : a.Pairwise (· < ·)) (hfirst : a[0]? = some v)
    (hle : v ≤ key) :
    ∃ (s : Nat) (w : α), (if result ≥ 0 then result else -result - 2) = s ∧ a[s]? = some w ∧ w ≤ key ∧
      ∀ j w', s < j → a[j]? = some w' → key < w' := by
  obtain ⟨i, rfl, hfound⟩ | ⟨i, hi, rfl, hbelow, habove⟩ := h
  · refine ⟨i, key, if_pos (Int.natCast_nonneg i), hfound, le_refl key, ?_⟩
    intro j w' hlt hw'
    exact lt_of_getElem? hsorted hlt hfound hw'
  · cases i with
    | zero => exact absurd (habove 0 v (Nat.le_refl 0) hfirst) (not_lt.mpr hle)
    | succ s =>
        have hvalue := List.getElem?_eq_getElem hi
        refine ⟨s, a[s], ?_, hvalue, le_of_lt (hbelow s _ (Nat.lt_succ_self s) hvalue), fun j w' hlt => habove j w' hlt⟩
        rw [if_neg (by omega)]
        omega

end Penrose

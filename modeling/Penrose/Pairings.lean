import Mathlib.Logic.Equiv.Basic

/-! Exchanging values between partners. A pairing gives every place at most one partner; exchanging along it puts
at each place the value of its partner, and a second exchange undoes the first. -/

namespace Pairings

variable {ι α : Type}

structure Pairing (R : ι → ι → Prop) : Prop where
  symm : ∀ {i j}, R i j → R j i
  unique : ∀ {i j k}, R i j → R i k → j = k

/-- The second family holds the values of the first, exchanged between partners. -/
structure Exchanged (R : ι → ι → Prop) (f g : ι → α) : Prop where
  partner : ∀ {i j}, R i j → g i = f j
  other : ∀ {i}, (∀ j, ¬ R i j) → g i = f i

namespace Exchanged

variable {R R' : ι → ι → Prop} {f g h : ι → α}

theorem refl (hnone : ∀ i j, ¬ R i j) (f : ι → α) : Exchanged R f f :=
  ⟨fun {i j} hij => absurd hij (hnone i j), fun _ => rfl⟩

theorem congr (hsame : ∀ i j, R i j ↔ R' i j) (hexchanged : Exchanged R f g) : Exchanged R' f g where
  partner hij := hexchanged.partner ((hsame _ _).mpr hij)
  other hnone := hexchanged.other fun j hij => hnone j ((hsame _ j).mp hij)

/-- The second of two exchanges undoes the first. -/
theorem undo (hR : Pairing R) (hfirst : Exchanged R f g) (hsecond : Exchanged R g h) : h = f := by
  funext i
  by_cases hpartner : ∃ j, R i j
  · obtain ⟨j, hij⟩ := hpartner
    calc h i = g j := hsecond.partner hij
      _ = f i := hfirst.partner (hR.symm hij)
  · have hnone : ∀ j, ¬ R i j := fun j hij => hpartner ⟨j, hij⟩
    calc h i = g i := hsecond.other hnone
      _ = f i := hfirst.other hnone

/-- Exchanges between different places, one after the other. -/
theorem trans (hR' : Pairing R') (hapart : ∀ i j k, R i j → ¬ R' i k) (hfirst : Exchanged R f g)
    (hsecond : Exchanged R' g h) : Exchanged (fun i j => R i j ∨ R' i j) f h where
  partner := by
    rintro i j (hij | hij)
    · calc h i = g i := hsecond.other fun k hik => hapart i j k hij hik
        _ = f j := hfirst.partner hij
    · calc h i = g j := hsecond.partner hij
        _ = f j := hfirst.other fun k hjk => hapart j k i hjk (hR'.symm hij)
  other := by
    intro i hnone
    calc h i = g i := hsecond.other fun j hij => hnone j (Or.inr hij)
      _ = f i := hfirst.other fun j hij => hnone j (Or.inl hij)

end Exchanged

/-! ### The permutation of a pairing -/

section Perm

variable {R : ι → ι → Prop}

open Classical in
/-- The partner of a place, or the place itself when it has none. -/
noncomputable def partnerOf (R : ι → ι → Prop) (i : ι) : ι := if h : ∃ j, R i j then h.choose else i

theorem partnerOf_of_rel (hR : Pairing R) {i j : ι} (hij : R i j) : partnerOf R i = j := by
  have hpartner : ∃ j, R i j := ⟨j, hij⟩
  rw [partnerOf, dif_pos hpartner]
  exact hR.unique hpartner.choose_spec hij

theorem partnerOf_of_none {i : ι} (hnone : ∀ j, ¬ R i j) : partnerOf R i = i :=
  dif_neg fun ⟨j, hij⟩ => hnone j hij

theorem partnerOf_involutive (hR : Pairing R) : Function.Involutive (partnerOf R) := by
  intro i
  by_cases hpartner : ∃ j, R i j
  · obtain ⟨j, hij⟩ := hpartner
    rw [partnerOf_of_rel hR hij, partnerOf_of_rel hR (hR.symm hij)]
  · have hnone : ∀ j, ¬ R i j := fun j hij => hpartner ⟨j, hij⟩
    rw [partnerOf_of_none hnone, partnerOf_of_none hnone]

/-- The permutation that exchanges partners. -/
noncomputable def Pairing.perm (hR : Pairing R) : Equiv.Perm ι := (partnerOf_involutive hR).toPerm

theorem Pairing.perm_perm (hR : Pairing R) (i : ι) : hR.perm (hR.perm i) = i := partnerOf_involutive hR i

theorem Pairing.perm_eq_iff (hR : Pairing R) {i j : ι} (hij : i ≠ j) : hR.perm i = j ↔ R i j := by
  change partnerOf R i = j ↔ R i j
  constructor
  · intro h
    by_contra hnot
    by_cases hpartner : ∃ k, R i k
    · obtain ⟨k, hik⟩ := hpartner
      rw [partnerOf_of_rel hR hik] at h
      exact hnot (h ▸ hik)
    · rw [partnerOf_of_none fun k hik => hpartner ⟨k, hik⟩] at h
      exact hij h
  · exact partnerOf_of_rel hR

/-- Exchanging permutes the values. -/
theorem Exchanged.apply_perm {f g : ι → α} (hR : Pairing R) (hexchanged : Exchanged R f g) (i : ι) :
    g i = f (hR.perm i) := by
  change g i = f (partnerOf R i)
  by_cases hpartner : ∃ j, R i j
  · obtain ⟨j, hij⟩ := hpartner
    rw [partnerOf_of_rel hR hij]
    exact hexchanged.partner hij
  · have hnone : ∀ j, ¬ R i j := fun j hij => hpartner ⟨j, hij⟩
    rw [partnerOf_of_none hnone]
    exact hexchanged.other hnone

end Perm

end Pairings

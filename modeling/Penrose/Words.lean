import Mathlib.Algebra.Ring.Int.Defs
import Mathlib.Algebra.Ring.Nat
import Mathlib.Data.Option.Basic

/-! Arithmetic on 64-bit numbers that is written once and read in two ways: as the machine does it, with wrapping, and
checked, where an operation has a result only if that is exact. -/

namespace Penrose

/-- Operations on unsigned and signed 64-bit numbers. -/
structure Words (m : Type → Type) where
  add : Nat → Nat → m Nat
  mul : Nat → Nat → m Nat
  sub : Nat → Nat → m Nat
  toSigned : Nat → m Int
  toUnsigned : Int → m Nat

namespace Words

def wrapping : Words Id where
  add a b := (a + b) % 2 ^ 64
  mul a b := a * b % 2 ^ 64
  sub a b := (a + (2 ^ 64 - b)) % 2 ^ 64
  toSigned a := (a : Int).bmod (2 ^ 64)
  toUnsigned a := (a % 2 ^ 64).toNat

def checked : Words Option where
  add a b := if a + b < 2 ^ 64 then some (a + b) else none
  mul a b := if a * b < 2 ^ 64 then some (a * b) else none
  sub a b := if b ≤ a ∧ a < 2 ^ 64 then some (a - b) else none
  toSigned a := if a < 2 ^ 63 then some a else none
  toUnsigned a := if 0 ≤ a ∧ a < 2 ^ 64 then some a.toNat else none

/-! ### Where the checked operations have a result -/

variable {a b : Nat}

@[simp] theorem checked_add (h : a + b < 2 ^ 64) : checked.add a b = some (a + b) := if_pos h

@[simp] theorem checked_mul (h : a * b < 2 ^ 64) : checked.mul a b = some (a * b) := if_pos h

@[simp] theorem checked_sub (hle : b ≤ a) (h : a < 2 ^ 64) : checked.sub a b = some (a - b) := if_pos ⟨hle, h⟩

@[simp] theorem checked_toSigned (h : a < 2 ^ 63) : checked.toSigned a = some (a : Int) := if_pos h

@[simp] theorem checked_toUnsigned (h : a < 2 ^ 64) : checked.toUnsigned (a : Int) = some a := by
  have hfits : 0 ≤ (a : Int) ∧ (a : Int) < 2 ^ 64 := by omega
  simp only [checked, if_pos hfits, Int.toNat_natCast]

/-! ### The two readings -/

variable {α β : Type}

/-- The machine gives what the checked program gives. -/
def Agrees (exact : Option α) (machine : Id α) : Prop := ∀ value, exact = some value → machine = value

theorem agrees_pure (value : α) : Agrees (pure value) (pure value) := fun _ h => Option.some.inj h

theorem Agrees.bind {exact : Option α} {machine : Id α} {exactRest : α → Option β} {machineRest : α → Id β}
    (h : Agrees exact machine) (hrest : ∀ value, Agrees (exactRest value) (machineRest value)) :
    Agrees (exact >>= exactRest) (machine >>= machineRest) := by
  intro value hvalue
  obtain ⟨first, hfirst, hlater⟩ := Option.bind_eq_some_iff.mp hvalue
  rw [show machine = first from h first hfirst]
  exact hrest first value hlater

theorem agrees_mul (a b : Nat) : Agrees (checked.mul a b) (wrapping.mul a b) := by
  intro value hvalue
  obtain ⟨h, hsome⟩ := Option.ite_none_right_eq_some.mp hvalue
  rw [← Option.some.inj hsome]
  exact Nat.mod_eq_of_lt h

theorem agrees_sub (a b : Nat) : Agrees (checked.sub a b) (wrapping.sub a b) := by
  intro value hvalue
  obtain ⟨h, hsome⟩ := Option.ite_none_right_eq_some.mp hvalue
  rw [← Option.some.inj hsome]
  show (a + (2 ^ 64 - b)) % 2 ^ 64 = a - b
  omega

theorem agrees_toSigned (a : Nat) : Agrees (checked.toSigned a) (wrapping.toSigned a) := by
  intro value hvalue
  obtain ⟨h, hsome⟩ := Option.ite_none_right_eq_some.mp hvalue
  rw [← Option.some.inj hsome]
  simp only [wrapping]
  apply Int.bmod_eq_of_le <;> omega

theorem agrees_toUnsigned (a : Int) : Agrees (checked.toUnsigned a) (wrapping.toUnsigned a) := by
  intro value hvalue
  obtain ⟨h, hsome⟩ := Option.ite_none_right_eq_some.mp hvalue
  rw [← Option.some.inj hsome]
  show (a % 2 ^ 64).toNat = a.toNat
  rw [Int.emod_eq_of_lt h.1 h.2]

end Words

end Penrose

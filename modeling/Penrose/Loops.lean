import Mathlib.Order.Basic

/-! Loops of the form `do … while`, whose turns find something new each time. A loop ends if what goes on to another
turn has less to do. -/

namespace Penrose

variable {S T R : Type}

/-- How a turn of a loop's body ends. -/
inductive BodyEnd (S R : Type) where
  | fallsThrough (s : S)
  | continues (s : S)
  | leaves (result : R)

/-- `do body while (again)`, with at most `fuel` turns, each of which finds what the schedule has for it. A body that
continues goes on to the condition. -/
def doWhile (body : S → T → BodyEnd S R) (again : S → Bool) (done : S → R) : Nat → (Nat → T) → S → Option R
  | 0, _, _ => none
  | fuel + 1, schedule, s =>
      match body s (schedule 0) with
      | .fallsThrough s | .continues s =>
          if again s then doWhile body again done fuel (fun turn => schedule (turn + 1)) s else some (done s)
      | .leaves result => some result

variable {body : S → T → BodyEnd S R} {again : S → Bool} {done : S → R} {fuel : Nat} {schedule : Nat → T} {s : S}

theorem doWhile_of_leaves {result : R} (h : body s (schedule 0) = .leaves result) :
    doWhile body again done (fuel + 1) schedule s = some result := by
  rw [doWhile, h]

theorem doWhile_of_fallsThrough {next : S} (h : body s (schedule 0) = .fallsThrough next) :
    doWhile body again done (fuel + 1) schedule s =
      if again next then doWhile body again done fuel (fun turn => schedule (turn + 1)) next else some (done next) := by
  rw [doWhile, h]

/-- What a turn has to establish: the result if it is the last one, and otherwise the invariant with less to do. -/
def TurnKeeps (again : S → Bool) (done : S → R) (Inv : S → Prop) (Post : R → Prop) (measure : S → Nat) (s : S) :
    BodyEnd S R → Prop
  | .fallsThrough s' | .continues s' => if again s' then Inv s' ∧ measure s' < measure s else Post (done s')
  | .leaves result => Post result

/-- The rule for total correctness: whatever the turns find, the loop ends, with a result. -/
theorem doWhile_ends {Inv : S → Prop} {Post : R → Prop} {measure : S → Nat}
    (hbody : ∀ s turn, Inv s → TurnKeeps again done Inv Post measure s (body s turn)) (hinv : Inv s)
    (hfuel : measure s < fuel) (schedule : Nat → T) :
    ∃ result, doWhile body again done fuel schedule s = some result ∧ Post result := by
  induction fuel generalizing s schedule with
  | zero => exact absurd hfuel (Nat.not_lt_zero _)
  | succ fuel ih =>
      have hturn := hbody s (schedule 0) hinv
      rw [doWhile]
      cases hend : body s (schedule 0) with
      | leaves result =>
          rw [hend] at hturn
          exact ⟨result, rfl, hturn⟩
      | fallsThrough s' | continues s' =>
          rw [hend] at hturn
          simp only [TurnKeeps] at hturn ⊢
          split_ifs at hturn ⊢
          · exact ih hturn.1 (by omega) _
          · exact ⟨done s', rfl, hturn⟩

end Penrose

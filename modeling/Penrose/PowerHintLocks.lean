import Mathlib.Algebra.Ring.Int.Defs
import Mathlib.Data.List.Infix
import Mathlib.Data.List.Perm.Basic
import Penrose.Ledgers
import Penrose.PowerHints

/-! The locks of the hints for sustained performance and for encoding. A hint holds one lock however often it is
requested, and gives it back when the last request is taken back. -/

namespace Penrose.Power

/-- The hints that hold a lock. -/
def lockHints : List PowerHint := [.sustainedPerformance, .videoEncode]

/-- A call of `power_hint` for one of them: whether `data` is not null, and what `perf_hint` replies if it is asked. -/
structure HintCall where
  hint : PowerHint
  mem : hint ∈ lockHints
  data : Bool
  reply : Int

/-- The calls of the perf library. -/
inductive PerfCall where
  | perfHint (hintId : Nat) (reply : Int)
  | perfLockRel (handle : Int)

namespace PerfCall

/-- The lock that a call grants; a reply that is not positive grants none. -/
def granted : PerfCall → Option Int
  | perfHint _ reply => if reply > 0 then some reply else none
  | perfLockRel _ => none

def released : PerfCall → Option Int
  | perfHint _ _ => none
  | perfLockRel handle => some handle

end PerfCall

namespace HintCall

def apply (s : PowerState) (call : HintCall) : PowerState := s.powerHint call.hint call.data ⟨call.reply, 0⟩

/-- What `power_hint` calls of the perf library. -/
def perfCalls (s : PowerState) (call : HintCall) : List PerfCall :=
  if call.data then
    if (s.handles call.hint).refCount = 0 then [.perfHint (aospDelta + call.hint.value) call.reply] else []
  else if (s.handles call.hint).handle > 0 then
    if (s.handles call.hint).refCount - 1 = 0 then [.perfLockRel (s.handles call.hint).handle] else []
  else []

end HintCall

/-- What a run of calls calls of the perf library. -/
def perfTrace (s : PowerState) : List HintCall → List PerfCall
  | [] => []
  | call :: calls => call.perfCalls s ++ perfTrace (call.apply s) calls

/-- The positive handles. -/
def PowerState.heldHandles (s : PowerState) : List Int :=
  (lockHints.map fun hint => (s.handles hint).handle).filter (0 < ·)

/-! ### What a hint is for -/

/-- The lock that a hint holds, with the number of requests beyond the first. -/
abbrev Holding := Option (Int × Nat)

namespace Holding

def request (reply : Int) : Holding → Holding
  | none => if reply > 0 then some (reply, 0) else none
  | some (lock, nested) => some (lock, nested + 1)

def takeBack : Holding → Holding
  | some (lock, nested + 1) => some (lock, nested)
  | _ => none

/-- The number of requests that are not taken back. -/
def requests : Holding → Nat
  | none => 0
  | some (_, nested) => nested + 1

/-- What a call for the hint does. -/
def next (hint : PowerHint) (holding : Holding) (call : HintCall) : Holding :=
  if call.hint = hint then
    if call.data then holding.request call.reply else holding.takeBack
  else holding

/-- What a call for the hint calls of the perf library. -/
def calls (holding : Holding) (call : HintCall) : List PerfCall :=
  if call.data then
    match holding with
    | none => [.perfHint (aospDelta + call.hint.value) call.reply]
    | some _ => []
  else
    match holding with
    | some (lock, 0) => [.perfLockRel lock]
    | _ => []

end Holding

/-- The handle and the count are those of what the hint holds. -/
def HintHandles.Holds (handles : HintHandles) : Holding → Prop
  | none => handles.handle ≤ 0 ∧ handles.refCount = 0
  | some (lock, nested) => 0 < lock ∧ handles.handle = lock ∧ handles.refCount = nested + 1

/-- The state holds, for each hint, what the hint is to hold. -/
def PowerState.Holds (s : PowerState) (holdings : PowerHint → Holding) : Prop :=
  ∀ hint, (s.handles hint).Holds (holdings hint)

/-- What a call of the perf library does to the locks that are granted and not got back. -/
def PerfCall.effect (locks : List (Nat × Int)) : PerfCall → List (Nat × Int)
  | perfHint hintId reply => if reply > 0 then (hintId, reply) :: locks else locks
  | perfLockRel handle => locks.eraseP fun lock => lock.2 = handle

/-! ### One call -/

section Call

variable {s : PowerState} {holding : Holding} {call : HintCall}

theorem HintCall.apply_eq (s : PowerState) (call : HintCall) :
    call.apply s = s.countedHint call.hint call.data ⟨call.reply, 0⟩ := by
  obtain ⟨hint, hmem, data, reply⟩ := call
  simp only [lockHints, List.mem_cons, List.not_mem_nil, or_false] at hmem
  rcases hmem with rfl | rfl <;> rfl

/-- A call does to the handle, the count, the library and its locks what it does to the lock that the hint holds. -/
theorem HintCall.apply_spec (h : (s.handles call.hint).Holds holding) :
    call.perfCalls s = holding.calls call ∧
      ∃ handles : HintHandles, handles.Holds (holding.next call.hint call) ∧
        call.apply s = { s with
          handles := Function.update s.handles call.hint handles
          locks := (holding.calls call).foldl PerfCall.effect s.locks } := by
  rw [apply_eq, Holding.next, if_pos rfl]
  cases hdata : call.data with
  | true =>
      cases holding with
      | none =>
          obtain ⟨hhandle, hcount⟩ := h
          refine ⟨by simp [perfCalls, Holding.calls, hdata, hcount], ?_⟩
          by_cases hgranted : call.reply > 0
          · refine ⟨⟨call.reply, 1⟩, by simp [Holding.request, HintHandles.Holds, hgranted], ?_⟩
            simp [PowerState.countedHint, PowerState.perfHintEnable, PowerState.setHandles, Holding.calls,
              PerfCall.effect, hdata, hcount, hgranted]
          · have hnone := Int.not_lt.mp hgranted
            refine ⟨⟨call.reply, 0⟩, by simp [Holding.request, HintHandles.Holds, hgranted, hnone], ?_⟩
            simp [PowerState.countedHint, PowerState.perfHintEnable, PowerState.setHandles, Holding.calls,
              PerfCall.effect, hdata, hcount, hgranted]
      | some lock =>
          obtain ⟨lock, nested⟩ := lock
          obtain ⟨hlock, hhandle, hcount⟩ := h
          have hne : ¬ (nested : Int) + 1 = 0 := by omega
          refine ⟨by simp [perfCalls, Holding.calls, hdata, hcount, hne], ⟨lock, nested + 2⟩, ?_, ?_⟩
          · exact ⟨hlock, rfl, by show (nested : Int) + 2 = ((nested + 1 : Nat) : Int) + 1; omega⟩
          · simp [PowerState.countedHint, PowerState.setHandles, Holding.calls, hdata, hcount, hhandle, hne, hlock,
              Int.add_assoc]
  | false =>
      cases holding with
      | none =>
          obtain ⟨hhandle, hcount⟩ := h
          have hnone : ¬ (s.handles call.hint).handle > 0 := Int.not_lt.mpr hhandle
          refine ⟨by simp [perfCalls, Holding.calls, hdata, hnone], s.handles call.hint, ⟨hhandle, hcount⟩, ?_⟩
          simp [PowerState.countedHint, Holding.calls, hdata, hnone]
      | some lock =>
          obtain ⟨lock, nested⟩ := lock
          obtain ⟨hlock, hhandle, hcount⟩ := h
          cases nested with
          | zero =>
              refine ⟨by simp [perfCalls, Holding.calls, hdata, hhandle, hcount, hlock], ⟨0, 0⟩,
                ⟨Int.le_refl 0, rfl⟩, ?_⟩
              simp [PowerState.countedHint, PowerState.setHandles, PowerState.releaseRequest, Holding.calls,
                PerfCall.effect, hdata, hhandle, hcount, hlock]
          | succ nested =>
              have hne : ¬ (nested : Int) + 1 = 0 := by omega
              refine ⟨by simp [perfCalls, Holding.calls, hdata, hhandle, hcount, hlock, hne], ⟨lock, nested + 1⟩,
                ⟨hlock, rfl, rfl⟩, ?_⟩
              simp [PowerState.countedHint, PowerState.setHandles, Holding.calls, hdata, hhandle, hcount, hlock, hne]

/-- A call keeps the state true to what the hints are to hold. -/
theorem PowerState.Holds.apply {holdings : PowerHint → Holding} (h : s.Holds holdings) (call : HintCall) :
    (call.apply s).Holds fun hint => (holdings hint).next hint call := by
  obtain ⟨-, handles, hholds, happly⟩ := HintCall.apply_spec (h call.hint)
  intro hint
  rw [happly]
  show (Function.update s.handles call.hint handles hint).Holds ((holdings hint).next hint call)
  by_cases heq : hint = call.hint
  · rw [heq, Function.update_self]
    exact hholds
  · rw [Function.update_of_ne heq, Holding.next, if_neg (Ne.symm heq)]
    exact h hint

/-- A call for another hint leaves the handle and the count. -/
theorem HintCall.handles_apply_of_ne {hint : PowerHint} (hne : hint ≠ call.hint) :
    (call.apply s).handles hint = s.handles hint := by
  rw [apply_eq]
  simp only [PowerState.countedHint, PowerState.perfHintEnable, PowerState.setHandles, PowerState.releaseRequest]
  split_ifs <;> simp [Function.update_of_ne hne]

/-- The handle and the count after a call depend on those before it. -/
theorem HintCall.handles_apply_congr {s' : PowerState} {hint : PowerHint} (hsame : s.handles hint = s'.handles hint) :
    (call.apply s).handles hint = (call.apply s').handles hint := by
  by_cases heq : hint = call.hint
  · subst heq
    simp only [apply_eq, PowerState.countedHint, PowerState.perfHintEnable, PowerState.setHandles,
      PowerState.releaseRequest, hsame]
    split_ifs <;> simp_all
    omega
  · rw [handles_apply_of_ne heq, handles_apply_of_ne heq, hsame]

end Call

/-! ### The locks -/

open scoped List

/-- The handle of the lock that is held. -/
def Holding.lock : Holding → List Int
  | none => []
  | some (lock, _) => [lock]

/-- The library grants what a hint comes to hold, and gets back what it no longer holds. -/
theorem Holding.balanced_next (holding : Holding) (call : HintCall) :
    Balanced ((holding.calls call).filterMap PerfCall.granted) ((holding.calls call).filterMap PerfCall.released)
      holding.lock (holding.next call.hint call).lock := by
  rw [Holding.next, if_pos rfl, Holding.calls.eq_def]
  cases call.data with
  | true =>
      cases holding with
      | none => by_cases hgranted : call.reply > 0 <;> simp [Balanced, PerfCall.granted, PerfCall.released, request,
          lock, hgranted]
      | some held => exact Balanced.refl _
  | false =>
      cases holding with
      | none => exact Balanced.refl _
      | some held =>
          obtain ⟨lock, _ | nested⟩ := held
          · exact Balanced.refl _
          · exact Balanced.refl _

/-- A call of the library, if it gives back a lock that is held. -/
theorem PerfCall.balanced_effect (locks : List (Nat × Int)) (call : PerfCall)
    (hheld : ∀ handle, call.released = some handle → handle ∈ locks.map Prod.snd) :
    Balanced ([call].filterMap granted) ([call].filterMap released) (locks.map Prod.snd)
      ((call.effect locks).map Prod.snd) := by
  cases call with
  | perfHint hintId reply =>
      by_cases hgranted : reply > 0 <;> simp [Balanced, List.filterMap_cons, granted, released, effect, hgranted]
  | perfLockRel handle =>
      have hmem := hheld handle rfl
      have herase : (locks.eraseP fun lock => lock.2 = handle).map Prod.snd = (locks.map Prod.snd).erase handle := by
        rw [List.erase_eq_eraseP', List.eraseP_map]
        rfl
      show locks.map Prod.snd ~ handle :: (locks.eraseP fun lock => lock.2 = handle).map Prod.snd
      rw [herase]
      exact List.perm_cons_erase hmem

/-- What is given back is held. -/
theorem Holding.calls_cases (holding : Holding) (call : HintCall) :
    holding.calls call = [] ∨ ∃ perfCall, holding.calls call = [perfCall] ∧
      ∀ handle, perfCall.released = some handle → handle ∈ holding.lock := by
  rw [Holding.calls.eq_def]
  cases call.data with
  | true =>
      cases holding with
      | none => exact Or.inr ⟨_, rfl, fun handle hreleased => by cases hreleased⟩
      | some held => exact Or.inl rfl
  | false =>
      cases holding with
      | none => exact Or.inl rfl
      | some held =>
          obtain ⟨lock, _ | nested⟩ := held
          · exact Or.inr ⟨_, rfl, fun handle hreleased => by cases hreleased; exact List.mem_singleton_self _⟩
          · exact Or.inl rfl

section Run

variable {s : PowerState} {holdings : PowerHint → Holding}

theorem HintHandles.Holds.filter_handle {handles : HintHandles} {holding : Holding} (h : handles.Holds holding) :
    [handles.handle].filter (0 < ·) = holding.lock := by
  cases holding with
  | none => simp [Holding.lock, Int.not_lt.mpr h.1]
  | some held =>
      obtain ⟨hlock, hhandle, -⟩ := h
      simp [Holding.lock, hhandle, hlock]

theorem PowerState.Holds.heldHandles_eq (h : s.Holds holdings) :
    s.heldHandles = lockHints.flatMap fun hint => (holdings hint).lock := by
  show ([(s.handles .sustainedPerformance).handle] ++ [(s.handles .videoEncode).handle]).filter (0 < ·)
    = (holdings .sustainedPerformance).lock ++ ((holdings .videoEncode).lock ++ [])
  rw [List.filter_append, (h .sustainedPerformance).filter_handle, (h .videoEncode).filter_handle, List.append_nil]

/-- What the library grants in a call and what is held before it is what is given back and what is held after. -/
theorem PowerState.Holds.balanced_apply (h : s.Holds holdings) (call : HintCall) :
    Balanced ((call.perfCalls s).filterMap PerfCall.granted) ((call.perfCalls s).filterMap PerfCall.released)
      s.heldHandles (call.apply s).heldHandles := by
  rw [(HintCall.apply_spec (h call.hint)).1, h.heldHandles_eq, (h.apply call).heldHandles_eq]
  have hhint := (holdings call.hint).balanced_next call
  obtain ⟨hint, hmem, data, reply⟩ := call
  simp only [lockHints, List.mem_cons, List.not_mem_nil, or_false] at hmem
  rcases hmem with rfl | rfl
  · exact hhint.frame ((holdings .videoEncode).lock ++ [])
  · show Balanced _ _ ((holdings .sustainedPerformance).lock ++ ((holdings .videoEncode).lock ++ []))
      ((holdings .sustainedPerformance).lock ++ (((holdings .videoEncode).next .videoEncode _).lock ++ []))
    rw [List.append_nil, List.append_nil]
    exact (hhint.frame (holdings .sustainedPerformance).lock).congr List.perm_append_comm List.perm_append_comm

/-- The library holds for this HAL the locks that the hints hold. -/
theorem PowerState.Holds.locks_apply (h : s.Holds holdings) (hlocks : s.locks.map Prod.snd ~ s.heldHandles)
    (call : HintCall) : (call.apply s).locks.map Prod.snd ~ (call.apply s).heldHandles := by
  have hbalanced := h.balanced_apply call
  obtain ⟨hcalls, handles, -, happly⟩ := HintCall.apply_spec (h call.hint)
  rw [hcalls] at hbalanced
  have hheld (handle : Int) (hmem : handle ∈ (holdings call.hint).lock) : handle ∈ s.locks.map Prod.snd := by
    rw [hlocks.mem_iff, h.heldHandles_eq]
    exact List.mem_flatMap.mpr ⟨call.hint, call.mem, hmem⟩
  have hlibrary : (call.apply s).locks = ((holdings call.hint).calls call).foldl PerfCall.effect s.locks := by
    rw [happly]
  rw [hlibrary]
  obtain hnone | ⟨perfCall, hone, hreleased⟩ := (holdings call.hint).calls_cases call
  · rw [hnone] at hbalanced ⊢
    exact (Balanced.refl _).unique hlocks hbalanced
  · rw [hone] at hbalanced ⊢
    have heffect := perfCall.balanced_effect s.locks fun handle hsome => hheld handle (hreleased handle hsome)
    exact heffect.unique hlocks hbalanced

/-- What a run of calls keeps, and the account of its calls of the library. -/
theorem PowerState.Holds.run (h : s.Holds holdings) (hlocks : s.locks.map Prod.snd ~ s.heldHandles)
    (calls : List HintCall) :
    (calls.foldl HintCall.apply s).Holds (fun hint => calls.foldl (Holding.next hint) (holdings hint)) ∧
      (calls.foldl HintCall.apply s).locks.map Prod.snd ~ (calls.foldl HintCall.apply s).heldHandles ∧
      Balanced ((perfTrace s calls).filterMap PerfCall.granted) ((perfTrace s calls).filterMap PerfCall.released)
        s.heldHandles (calls.foldl HintCall.apply s).heldHandles := by
  induction calls generalizing s holdings with
  | nil => exact ⟨h, hlocks, Balanced.refl _⟩
  | cons call calls ih =>
      obtain ⟨hholds, hheld, hrest⟩ := ih (h.apply call) (h.locks_apply hlocks call)
      refine ⟨hholds, hheld, ?_⟩
      rw [perfTrace, List.filterMap_append, List.filterMap_append]
      exact (h.balanced_apply call).trans hrest

/-- What is called of the library depends on what the hints hold. -/
theorem PowerState.Holds.perfTrace_congr {s' : PowerState} (h : s.Holds holdings) (h' : s'.Holds holdings)
    (calls : List HintCall) : perfTrace s calls = perfTrace s' calls := by
  induction calls generalizing s s' holdings with
  | nil => rfl
  | cons call calls ih =>
      rw [perfTrace, perfTrace, (HintCall.apply_spec (h call.hint)).1, (HintCall.apply_spec (h' call.hint)).1,
        ih (h.apply call) (h'.apply call)]

/-- The handles and the counts of a hint depend on the calls for it. -/
theorem handles_foldl_filter {s' : PowerState} {hint : PowerHint} (hsame : s.handles hint = s'.handles hint)
    (calls : List HintCall) :
    (calls.foldl HintCall.apply s).handles hint =
      ((calls.filter fun call => call.hint = hint).foldl HintCall.apply s').handles hint := by
  induction calls generalizing s s' with
  | nil => exact hsame
  | cons call calls ih =>
      by_cases heq : call.hint = hint
      · rw [List.filter_cons_of_pos (by simpa using heq)]
        exact ih (HintCall.handles_apply_congr hsame)
      · rw [List.filter_cons_of_neg (by simpa using heq)]
        exact ih ((HintCall.handles_apply_of_ne (Ne.symm heq)).trans hsame)

/-! ### Requests and what takes them back -/

/-- Without a lock there is nothing to take back. -/
theorem HintCall.apply_of_no_lock {call : HintCall} (hdata : call.data = false)
    (hnone : (s.handles call.hint).handle ≤ 0) : call.apply s = s ∧ call.perfCalls s = [] := by
  have hnot : ¬ (s.handles call.hint).handle > 0 := Int.not_lt.mpr hnone
  rw [apply_eq]
  simp [PowerState.countedHint, perfCalls, hdata, hnot]

theorem HintHandles.Holds.eq_none_of_refCount {handles : HintHandles} {holding : Holding} (h : handles.Holds holding)
    (hcount : handles.refCount = 0) : holding = none := by
  cases holding with
  | none => rfl
  | some held =>
      have hnested := h.2.2
      omega

theorem HintHandles.Holds.eq_none_of_handle {handles : HintHandles} {holding : Holding} (h : handles.Holds holding)
    (hnone : handles.handle ≤ 0) : holding = none := by
  cases holding with
  | none => rfl
  | some held =>
      obtain ⟨hlock, hhandle, -⟩ := h
      omega

/-- A request that fails leaves everything held as it is. -/
theorem PowerState.Holds.apply_failed (h : s.Holds holdings) {call : HintCall} (hdata : call.data = true)
    (hcount : (s.handles call.hint).refCount = 0) (hfailed : call.reply ≤ 0) :
    (call.apply s).Holds holdings ∧ (call.apply s).locks = s.locks := by
  have hnone := (h call.hint).eq_none_of_refCount hcount
  have hnot : ¬ call.reply > 0 := Int.not_lt.mpr hfailed
  constructor
  · have hsame : (fun hint => (holdings hint).next hint call) = holdings := by
      funext hint
      by_cases heq : call.hint = hint
      · subst heq
        simp [Holding.next, hdata, hnone, Holding.request, hnot]
      · rw [Holding.next, if_neg heq]
    rw [← hsame]
    exact h.apply call
  · obtain ⟨-, handles, -, happly⟩ := HintCall.apply_spec (h call.hint)
    rw [happly]
    simp [hnone, Holding.calls, hdata, PerfCall.effect, hnot]

/-- By how much a call changes the number of requests for the hint that are to be taken back. -/
def HintCall.change (hint : PowerHint) (call : HintCall) : Int :=
  if call.hint = hint then if call.data then 1 else -1 else 0

/-- The requests for the hint, less those taken back. -/
def outstanding (hint : PowerHint) (calls : List HintCall) : Int := (calls.map (HintCall.change hint)).sum

theorem Holding.next_nested {hint : PowerHint} {lock : Int} {nested : Nat} {call : HintCall}
    (hnested : 0 ≤ nested + call.change hint) :
    ∃ nested' : Nat, Holding.next hint (some (lock, nested)) call = some (lock, nested') ∧
      (nested' : Int) = nested + call.change hint ∧
        (call.hint = hint → Holding.calls (some (lock, nested)) call = []) := by
  by_cases heq : call.hint = hint
  · rw [HintCall.change, if_pos heq] at hnested ⊢
    rw [Holding.next, if_pos heq, Holding.calls.eq_def]
    cases hdata : call.data with
    | true => exact ⟨nested + 1, rfl, rfl, fun _ => rfl⟩
    | false =>
        cases nested with
        | zero => simp [hdata] at hnested
        | succ nested => exact ⟨nested, rfl, (Int.add_sub_cancel (nested : Int) 1).symm, fun _ => rfl⟩
  · rw [HintCall.change, if_neg heq, Holding.next, if_neg heq]
    exact ⟨nested, rfl, (Int.add_zero _).symm, fun h => absurd h heq⟩

/-- While no more is taken back than is requested, the library is not called for a hint that holds a lock. -/
theorem PowerState.Holds.run_nested (h : s.Holds holdings) {hint : PowerHint} {lock : Int} {nested : Nat}
    (hheld : holdings hint = some (lock, nested)) {between : List HintCall}
    (hnested : ∀ done, done <+: between → 0 ≤ nested + outstanding hint done) :
    Run (fun s call => HintCall.apply s call) (fun s call => call.hint = hint → call.perfCalls s = []) s between ∧
      ∃ (holdings' : PowerHint → Holding) (nested' : Nat), (between.foldl HintCall.apply s).Holds holdings' ∧
        holdings' hint = some (lock, nested') ∧ (nested' : Int) = nested + outstanding hint between := by
  induction between generalizing s holdings nested with
  | nil => exact ⟨trivial, holdings, nested, h, hheld, by simp [outstanding]⟩
  | cons call between ih =>
      have hfirst := hnested [call] (List.prefix_cons_inj call |>.mpr List.nil_prefix)
      have hchange : 0 ≤ nested + call.change hint := by simpa [outstanding] using hfirst
      obtain ⟨nested', hlock, hcount, hcalls⟩ := @Holding.next_nested hint lock nested call hchange
      rw [← hheld] at hlock hcalls
      have hrest (done : List HintCall) (hdone : done <+: between) : 0 ≤ nested' + outstanding hint done := by
        have hall := hnested (call :: done) (List.prefix_cons_inj call |>.mpr hdone)
        rw [outstanding, List.map_cons, List.sum_cons] at hall
        rw [outstanding]
        omega
      obtain ⟨hrun, holdings', nested'', hholds, hlock', hcount'⟩ := ih (h.apply call) hlock hrest
      have hsilent (heq : call.hint = hint) : call.perfCalls s = [] := by
        rw [(HintCall.apply_spec (h call.hint)).1, heq]
        exact hcalls heq
      refine ⟨⟨hsilent, hrun⟩, holdings', nested'', hholds, hlock', ?_⟩
      rw [outstanding] at hcount'
      rw [outstanding, List.map_cons, List.sum_cons]
      omega

/-- The call that takes back as much as was requested gives the lock back, and no call for the hint before it does. -/
theorem PowerState.Holds.gives_back (h : s.Holds holdings) {request takeBack : HintCall} {between : List HintCall}
    (hdata : request.data = true) (hnone : (s.handles request.hint).handle ≤ 0) (hgranted : request.reply > 0)
    (hnested : ∀ done, done <+: between → 0 ≤ outstanding request.hint done)
    (heven : outstanding request.hint between = 0) (hhint : takeBack.hint = request.hint)
    (htakeBack : takeBack.data = false) :
    Run (fun s call => HintCall.apply s call) (fun s call => call.hint = request.hint → call.perfCalls s = [])
        (request.apply s) between ∧
      takeBack.perfCalls (between.foldl HintCall.apply (request.apply s)) = [.perfLockRel request.reply] ∧
        ((takeBack.apply (between.foldl HintCall.apply (request.apply s))).handles request.hint).refCount = 0 := by
  have hheld : (holdings request.hint).next request.hint request = some (request.reply, 0) := by
    rw [(h request.hint).eq_none_of_handle hnone]
    simp [Holding.next, hdata, Holding.request, hgranted]
  have hzero (count : Int) : ((0 : Nat) : Int) + count = count := Int.zero_add count
  obtain ⟨hrun, holdings', nested, hholds, hlock, hcount⟩ := (h.apply request).run_nested hheld
    fun done hdone => (hzero _).symm ▸ hnested done hdone
  have hlast : nested = 0 := by
    rw [heven] at hcount
    omega
  subst hlast
  obtain ⟨hcalls, handles, hafter, happly⟩ := HintCall.apply_spec (hholds takeBack.hint)
  have hreleases : (holdings' takeBack.hint).calls takeBack = [.perfLockRel request.reply] := by
    rw [hhint, hlock]
    simp [Holding.calls, htakeBack]
  have hfree : (holdings' takeBack.hint).next takeBack.hint takeBack = none := by
    rw [hhint, hlock, Holding.next, if_pos hhint]
    simp [Holding.takeBack, htakeBack]
  rw [hfree] at hafter
  refine ⟨hrun, hcalls.trans hreleases, ?_⟩
  rw [happly, ← hhint]
  simpa only [Function.update_self] using hafter.2

theorem HintHandles.Holds.counts {handles : HintHandles} {holding : Holding} (h : handles.Holds holding) :
    (0 < handles.handle ↔ 1 ≤ handles.refCount) ∧ handles.refCount = holding.requests := by
  cases holding with
  | none =>
      obtain ⟨hhandle, hcount⟩ := h
      exact ⟨by omega, hcount⟩
  | some held =>
      obtain ⟨hlock, hhandle, hcount⟩ := h
      exact ⟨by omega, hcount⟩

end Run

/-- After any calls: the handle of a hint is positive exactly if its count is not 0, the count is that of the requests
not taken back, and neither depends on the calls for the other hint; the locks granted and not given back are the
positive handles. From there: taking back without a lock changes nothing, a request that fails is as none, and a lock
is given back by the call that takes back as much as was requested, and by none before it. -/
theorem hints_countLocks (calls : List HintCall) :
    let s := calls.foldl HintCall.apply .init
    (∀ hint, (0 < (s.handles hint).handle ↔ 1 ≤ (s.handles hint).refCount) ∧
      (s.handles hint).refCount = (calls.foldl (Holding.next hint) none).requests ∧ 0 ≤ (s.handles hint).refCount ∧
        s.handles hint = ((calls.filter fun call => call.hint = hint).foldl HintCall.apply .init).handles hint) ∧
    s.locks.map Prod.snd ~ s.heldHandles ∧
    (perfTrace .init calls).filterMap PerfCall.granted ~
      (perfTrace .init calls).filterMap PerfCall.released ++ s.heldHandles ∧
    (∀ call : HintCall, call.data = false → (s.handles call.hint).handle ≤ 0 →
      call.apply s = s ∧ call.perfCalls s = []) ∧
    (∀ call : HintCall, call.data = true → (s.handles call.hint).refCount = 0 → call.reply ≤ 0 →
      (call.apply s).locks = s.locks ∧ (call.apply s).heldHandles = s.heldHandles ∧
        ((call.apply s).handles call.hint).refCount = 0 ∧
          ∀ later, perfTrace (call.apply s) later = perfTrace s later) ∧
    ∀ (request takeBack : HintCall) (between : List HintCall), request.data = true →
      (s.handles request.hint).handle ≤ 0 → request.reply > 0 →
      (∀ done, done <+: between → 0 ≤ outstanding request.hint done) → outstanding request.hint between = 0 →
      takeBack.hint = request.hint → takeBack.data = false →
        Run (fun s call => HintCall.apply s call) (fun s call => call.hint = request.hint → call.perfCalls s = [])
          (request.apply s) between ∧
        takeBack.perfCalls (between.foldl HintCall.apply (request.apply s)) = [.perfLockRel request.reply] ∧
        ((takeBack.apply (between.foldl HintCall.apply (request.apply s))).handles request.hint).refCount = 0 := by
  intro s
  have hstart : PowerState.init.Holds fun _ => none := fun _ => ⟨Int.le_refl 0, rfl⟩
  obtain ⟨hholds, hlocks, hbalanced⟩ := hstart.run (List.Perm.refl _) calls
  have hcounts (hint : PowerHint) := (hholds hint).counts
  refine ⟨?_, hlocks, ?_, fun call => HintCall.apply_of_no_lock, ?_, ?_⟩
  · intro hint
    obtain ⟨hpositive, hcount⟩ := hcounts hint
    exact ⟨hpositive, hcount, hcount.symm ▸ Int.natCast_nonneg _, handles_foldl_filter rfl calls⟩
  · have hnothing : PowerState.init.heldHandles = [] := by decide
    rwa [hnothing, Balanced.nil_iff] at hbalanced
  · intro call hdata hcount hfailed
    obtain ⟨hafter, hsame⟩ := hholds.apply_failed hdata hcount hfailed
    have hnone := (hholds call.hint).eq_none_of_refCount hcount
    refine ⟨hsame, by rw [hafter.heldHandles_eq, hholds.heldHandles_eq], ?_, hafter.perfTrace_congr hholds⟩
    rw [(hafter call.hint).counts.2, hnone]
    rfl
  · intro request takeBack between hdata hnone hgranted hnested heven hhint htakeBack
    exact hholds.gives_back hdata hnone hgranted hnested heven hhint htakeBack

/-- A request for encoding, with what the library replies, and the call that takes it back. -/
def requestEncode (reply : Int) : HintCall := ⟨.videoEncode, by decide, true, reply⟩
def takeBackEncode : HintCall := ⟨.videoEncode, by decide, false, 0⟩

theorem requestEncode_givesBack :
    takeBackEncode.perfCalls ([requestEncode 9, takeBackEncode].foldl HintCall.apply
      ((requestEncode 7).apply ([requestEncode (-1)].foldl HintCall.apply .init))) = [.perfLockRel 7] := by
  have hnested : ∀ done ∈ [requestEncode 9, takeBackEncode].inits, 0 ≤ outstanding .videoEncode done := by decide
  exact ((hints_countLocks [requestEncode (-1)]).2.2.2.2.2 (requestEncode 7) takeBackEncode
    [requestEncode 9, takeBackEncode] rfl (by decide) (by decide)
    (fun done hdone => hnested done ((List.mem_inits done _).mpr hdone)) (by decide) rfl rfl).2.1

end Penrose.Power

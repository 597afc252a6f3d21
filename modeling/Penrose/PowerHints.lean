import Mathlib.Logic.Function.Basic
import Mathlib.Tactic.SplitIfs
import Mathlib.Tactic.Tauto
import Penrose.Runs

/-! The power HAL: the hints that hold locks of the perf library, and the modes that the framework sets. Setting a
mode for sustained performance passes no data with the hint, which is how a hint is taken back, whether the mode is
enabled or not. -/

namespace Penrose.Power

/-- `power_hint_t`. -/
inductive PowerHint where
  | vsync | interaction | videoEncode | videoDecode | lowPower | sustainedPerformance | vrMode | launch | disableTouch
  deriving DecidableEq

def PowerHint.value : PowerHint → Nat
  | vsync => 1
  | interaction => 2
  | videoEncode => 3
  | videoDecode => 4
  | lowPower => 5
  | sustainedPerformance => 6
  | vrMode => 7
  | launch => 8
  | disableTouch => 9

/-- `struct hint_handles`. -/
structure HintHandles where
  handle : Int
  refCount : Int

/-- The state of the HAL: its handles, that of `interaction`, the last value sent for tapping to wake, and the locks
without a time limit that the perf library has granted and not got back, with the hints they are for. -/
structure PowerState where
  handles : PowerHint → HintHandles
  interactionHandle : Int
  doubletapMode : Option Bool
  locks : List (Nat × Int)

/-- What the perf library replies to `perf_hint` and to `perf_lock_acq`; a library that is not there replies 0. -/
structure PerfReplies where
  hint : Int
  lock : Int

def aospDelta : Nat := 0x1200
def vendorHintDisplayOff : Nat := 0x1040
def vendorHintDisplayOn : Nat := 0x1041

namespace PowerState

/-- `power_init`, before anything else is called. -/
def init : PowerState := ⟨fun _ => ⟨0, 0⟩, 0, none, []⟩

/-- `perf_hint_enable` for no limited duration: the handle, and the state with the lock if one is granted. -/
def perfHintEnable (s : PowerState) (hintId : Nat) (replies : PerfReplies) : PowerState × Int :=
  (if replies.hint > 0 then { s with locks := (hintId, replies.hint) :: s.locks } else s, replies.hint)

def releaseRequest (s : PowerState) (lockHandle : Int) : PowerState :=
  { s with locks := s.locks.eraseP fun lock => lock.2 = lockHandle }

def interaction (s : PowerState) (replies : PerfReplies) : PowerState := { s with interactionHandle := replies.lock }

def setHandles (s : PowerState) (hint : PowerHint) (handles : HintHandles) : PowerState :=
  { s with handles := Function.update s.handles hint handles }

/-- `power_hint` for the hints that hold a lock. `data` says whether the pointer is not null. -/
def countedHint (s : PowerState) (hint : PowerHint) (data : Bool) (replies : PerfReplies) : PowerState :=
  if data then
    let s :=
      if (s.handles hint).refCount = 0 then
        let (s, handle) := s.perfHintEnable (aospDelta + hint.value) replies
        s.setHandles hint ⟨handle, (s.handles hint).refCount⟩
      else s
    if (s.handles hint).handle > 0 then
      s.setHandles hint ⟨(s.handles hint).handle, (s.handles hint).refCount + 1⟩
    else s
  else if (s.handles hint).handle > 0 then
    let refCount := (s.handles hint).refCount - 1
    if refCount = 0 then (s.releaseRequest (s.handles hint).handle).setHandles hint ⟨0, refCount⟩
    else s.setHandles hint ⟨(s.handles hint).handle, refCount⟩
  else s

/-- `power_hint`; nothing overrides a hint. -/
def powerHint (s : PowerState) (hint : PowerHint) (data : Bool) (replies : PerfReplies) : PowerState :=
  match hint with
  | .interaction => s.interaction replies
  | .sustainedPerformance | .videoEncode => s.countedHint hint data replies
  | _ => s

/-- `set_interactive`; nothing overrides it. -/
def setInteractive (s : PowerState) (on : Bool) (replies : PerfReplies) : PowerState :=
  if !on then (s.perfHintEnable vendorHintDisplayOff replies).1 else (s.perfHintEnable vendorHintDisplayOn replies).1

def setTapToWake (s : PowerState) (enabled : Bool) : PowerState := { s with doubletapMode := some enabled }

end PowerState

/-- `Mode`; the others are not supported. -/
inductive Mode where
  | doubleTapToWake | interactive | sustainedPerformance | fixedPerformance
  | other (value : Int)
  deriving DecidableEq

/-- A call of `setMode`, with what the perf library replies during it. -/
structure SetMode where
  type : Mode
  enabled : Bool
  replies : PerfReplies

/-- `Power::setMode`. -/
def PowerState.setMode (s : PowerState) (call : SetMode) : PowerState :=
  match call.type with
  | .doubleTapToWake => s.setTapToWake call.enabled
  | .interactive => (s.setInteractive call.enabled call.replies).powerHint .interaction false call.replies
  | .sustainedPerformance | .fixedPerformance => s.powerHint .sustainedPerformance false call.replies
  | .other _ => s

/-- `Power::isModeSupported`. -/
def isModeSupported : Mode → Bool
  | .doubleTapToWake | .interactive | .sustainedPerformance | .fixedPerformance => true
  | .other _ => false

/-! ### Holding the lock while a mode is enabled -/

/-- The state, and what the last calls for the two modes said. -/
structure ModeRecord where
  state : PowerState
  sustained : Option Bool
  fixed : Option Bool

namespace ModeRecord

def init : ModeRecord := ⟨.init, none, none⟩

def next (record : ModeRecord) (call : SetMode) : ModeRecord where
  state := record.state.setMode call
  sustained := if call.type = .sustainedPerformance then some call.enabled else record.sustained
  fixed := if call.type = .fixedPerformance then some call.enabled else record.fixed

def sustainedHintId : Nat := aospDelta + PowerHint.sustainedPerformance.value

/-- The lock for sustained performance is held. -/
def HoldsLock (record : ModeRecord) : Prop := ∃ handle, (sustainedHintId, handle) ∈ record.state.locks

/-- The lock is held while a mode is enabled, and not once both are disabled. -/
def FollowsModes (record : ModeRecord) : Prop :=
  (record.sustained = some true ∨ record.fixed = some true → record.HoldsLock) ∧
    (record.sustained = some false ∧ record.fixed = some false → ¬ record.HoldsLock)

/-- The call enables neither mode. -/
def EnablesNeither (call : SetMode) : Prop :=
  call.type = .sustainedPerformance ∨ call.type = .fixedPerformance → call.enabled = false

/-- The lock was never asked for, and neither mode is enabled. -/
structure Idle (record : ModeRecord) : Prop where
  handle : (record.state.handles .sustainedPerformance).handle = 0
  lock : ¬ record.HoldsLock
  sustained : record.sustained ≠ some true
  fixed : record.fixed ≠ some true

variable {record : ModeRecord}

/-- Without a handle, taking the hint back changes nothing. -/
theorem countedHint_of_no_handle {s : PowerState} {hint : PowerHint} (hhandle : (s.handles hint).handle = 0)
    (replies : PerfReplies) : s.countedHint hint false replies = s := by
  simp [PowerState.countedHint, hhandle]

/-- A hint for the display is not the one for sustained performance. -/
theorem mem_locks_setInteractive (s : PowerState) (on : Bool) (replies : PerfReplies) (handle : Int) :
    (sustainedHintId, handle) ∈ (s.setInteractive on replies).locks ↔ (sustainedHintId, handle) ∈ s.locks := by
  have hdisplay (hintId : Nat) (hother : sustainedHintId ≠ hintId) :
      (sustainedHintId, handle) ∈ (s.perfHintEnable hintId replies).1.locks ↔ (sustainedHintId, handle) ∈ s.locks := by
    by_cases hgranted : replies.hint > 0
    · simp [PowerState.perfHintEnable, hgranted, hother]
    · simp [PowerState.perfHintEnable, hgranted]
  rw [PowerState.setInteractive]
  split_ifs
  · exact hdisplay vendorHintDisplayOff (by decide)
  · exact hdisplay vendorHintDisplayOn (by decide)

theorem handles_setInteractive (s : PowerState) (on : Bool) (replies : PerfReplies) :
    (s.setInteractive on replies).handles = s.handles := by
  by_cases hgranted : replies.hint > 0 <;> cases on <;>
    simp [PowerState.setInteractive, PowerState.perfHintEnable, hgranted]

/-- No call asks for the lock. -/
theorem state_next (hhandle : (record.state.handles .sustainedPerformance).handle = 0) (call : SetMode) :
    ((record.next call).state.handles .sustainedPerformance).handle = 0 ∧
      ((record.next call).HoldsLock ↔ record.HoldsLock) := by
  have hsame := countedHint_of_no_handle hhandle call.replies
  rw [HoldsLock, HoldsLock]
  cases htype : call.type <;> simp only [next, PowerState.setMode, htype, PowerState.powerHint, hsame]
  case interactive =>
    simp only [PowerState.interaction, handles_setInteractive, mem_locks_setInteractive]
    exact ⟨hhandle, trivial⟩
  case doubleTapToWake => exact ⟨hhandle, Iff.rfl⟩
  all_goals exact ⟨hhandle, trivial⟩

theorem followsModes_iff_of_unlocked (hlock : ¬ record.HoldsLock) :
    record.FollowsModes ↔ record.sustained ≠ some true ∧ record.fixed ≠ some true := by
  rw [FollowsModes]
  tauto

theorem not_enabled_next_iff (hsustained : record.sustained ≠ some true) (hfixed : record.fixed ≠ some true)
    (call : SetMode) : (record.next call).sustained ≠ some true ∧ (record.next call).fixed ≠ some true ↔
      EnablesNeither call := by
  rw [EnablesNeither, next]
  cases htype : call.type <;> simp [hsustained, hfixed]

/-- After a call the lock follows the modes exactly if the call enables neither. -/
theorem followsModes_next_iff (hidle : record.Idle) (call : SetMode) :
    (record.next call).FollowsModes ↔ EnablesNeither call := by
  have hlock : ¬ (record.next call).HoldsLock := by
    rw [(state_next hidle.handle call).2]
    exact hidle.lock
  rw [followsModes_iff_of_unlocked hlock]
  exact not_enabled_next_iff hidle.sustained hidle.fixed call

theorem idle_next (hidle : record.Idle) {call : SetMode} (hneither : EnablesNeither call) :
    (record.next call).Idle := by
  obtain ⟨hhandle, hlock⟩ := state_next hidle.handle call
  obtain ⟨hsustained, hfixed⟩ := (not_enabled_next_iff hidle.sustained hidle.fixed call).mpr hneither
  exact ⟨hhandle, fun h => hidle.lock (hlock.mp h), hsustained, hfixed⟩

/-- In a run of calls the lock follows the modes if and only if no call enables one of them. -/
theorem run_followsModes_iff (calls : List SetMode) :
    Run next (fun record call => (record.next call).FollowsModes) init calls ↔
      Run next (fun _ call => EnablesNeither call) init calls := by
  have hunlocked : ¬ init.HoldsLock := by
    rintro ⟨handle, hmem⟩
    cases hmem
  have hstart : init.Idle := ⟨rfl, hunlocked, by decide, by decide⟩
  have hiff (record : ModeRecord) (call : SetMode) (hidle : record.Idle) (_ : True) :=
    followsModes_next_iff hidle call
  exact Run.iff_of_inv hiff (fun record call hidle _ hneither => idle_next hidle hneither) hstart
    (Run.forall_iff.mpr fun _ _ => trivial)

/-- Sustained performance is enabled, and the perf library would grant the lock. -/
def enablesSustained : List SetMode := [⟨.sustainedPerformance, true, ⟨1, 1⟩⟩]

theorem enablesSustained_unlocked :
    ¬ Run next (fun record call => (record.next call).FollowsModes) init enablesSustained := by
  rintro ⟨hfollows, -⟩
  obtain ⟨handle, hmem⟩ := hfollows.1 (Or.inl rfl)
  cases hmem

end ModeRecord

end Penrose.Power

import Mathlib.Algebra.Ring.Int.Defs
import Mathlib.Logic.Basic
import Mathlib.Tactic.SplitIfs
import Penrose.Runs

/-! The proximity sensor, which lights up the screen when something was held over the sensor for a short time, or when
the device was in a pocket for a long one. The time is taken anew at every event but the one that ends it. -/

namespace Penrose.Doze

/-- An event of the sensor, with the gestures that are enabled when it arrives. Times are in nanoseconds. -/
structure SensorEvent (Value : Type) where
  value : Value
  timestamp : BitVec 64
  handwaveGestureEnabled : Bool
  pocketGestureEnabled : Bool

structure ProximitySensor where
  sawNear : Bool
  inPocketTime : BitVec 64

/-- What `shouldPulse` compares, and what it decides. -/
structure PulseDecision where
  delta : BitVec 64
  pulse : Bool

def handwaveMaxDeltaNs : BitVec 64 := 1000 * 1000 * 1000
def pocketMinDeltaNs : BitVec 64 := 2000 * 1000 * 1000

variable {Value : Type}

namespace ProximitySensor

def init : ProximitySensor := ⟨false, 0⟩

def shouldPulse (s : ProximitySensor) (event : SensorEvent Value) : PulseDecision :=
  let delta := event.timestamp - s.inPocketTime
  if event.handwaveGestureEnabled && event.pocketGestureEnabled then ⟨delta, true⟩
  else if event.handwaveGestureEnabled then ⟨delta, delta.slt handwaveMaxDeltaNs⟩
  else if event.pocketGestureEnabled then ⟨delta, pocketMinDeltaNs.sle delta⟩
  else ⟨delta, false⟩

theorem shouldPulse_delta (s : ProximitySensor) (event : SensorEvent Value) :
    (s.shouldPulse event).delta = event.timestamp - s.inPocketTime := by
  simp only [shouldPulse]
  split_ifs <;> rfl

end ProximitySensor

variable [LT Value] [DecidableLT Value] {maximumRange : Value}

/-- Something is near. -/
abbrev SensorEvent.IsNear (maximumRange : Value) (event : SensorEvent Value) : Prop := event.value < maximumRange

/-- `onSensorChanged`, with the decision if one is taken. -/
def ProximitySensor.onSensorChanged (maximumRange : Value) (s : ProximitySensor) (event : SensorEvent Value) :
    ProximitySensor × Option PulseDecision :=
  if s.sawNear ∧ ¬ event.IsNear maximumRange then ({ s with sawNear := false }, some (s.shouldPulse event))
  else (⟨decide (event.IsNear maximumRange), event.timestamp⟩, none)

/-! ### The time that something was near -/

/-- The sensor, and the times of the first and of the last event since when something is near, if it is. -/
structure PhaseRecord where
  sensor : ProximitySensor
  phase : Option (BitVec 64 × BitVec 64)

namespace PhaseRecord

def init : PhaseRecord := ⟨.init, none⟩

def next (maximumRange : Value) (record : PhaseRecord) (event : SensorEvent Value) : PhaseRecord where
  sensor := (record.sensor.onSensorChanged maximumRange event).1
  phase :=
    if event.IsNear maximumRange then
      match record.phase with
      | none => some (event.timestamp, event.timestamp)
      | some (first, _) => some (first, event.timestamp)
    else none

/-- The event ends a time when something was near, which began at `first`. -/
def Ends (maximumRange : Value) (record : PhaseRecord) (event : SensorEvent Value) (first : BitVec 64) : Prop :=
  ¬ event.IsNear maximumRange ∧ ∃ last, record.phase = some (first, last)

/-- At the end of a time when something was near the decision is about how long it was, and there is no decision at
any other event. -/
def MeasuresPhase (maximumRange : Value) (record : PhaseRecord) (event : SensorEvent Value) : Prop :=
  (∀ first, record.Ends maximumRange event first →
    ∃ decision, (record.sensor.onSensorChanged maximumRange event).2 = some decision ∧
      decision.delta.toInt = event.timestamp.toInt - first.toInt) ∧
    ((∀ first, ¬ record.Ends maximumRange event first) →
      (record.sensor.onSensorChanged maximumRange event).2 = none)

/-- Whatever was near was so for a single time, and how long ago that is fits in a `long`. -/
def NearOnce (maximumRange : Value) (record : PhaseRecord) (event : SensorEvent Value) : Prop :=
  ¬ event.IsNear maximumRange → ∀ first last, record.phase = some (first, last) →
    last = first ∧ -2 ^ 63 ≤ event.timestamp.toInt - first.toInt ∧ event.timestamp.toInt - first.toInt < 2 ^ 63

/-- The sensor saw something near exactly if something is, and it has the time of the last event then. -/
structure Tracks (record : PhaseRecord) : Prop where
  sawNear : record.sensor.sawNear = record.phase.isSome
  inPocketTime : ∀ first last, record.phase = some (first, last) → record.sensor.inPocketTime = last

variable {record : PhaseRecord}

theorem init_tracks : init.Tracks := ⟨rfl, fun first last h => by cases h⟩

theorem tracks_next (record : PhaseRecord) (event : SensorEvent Value) : (record.next maximumRange event).Tracks := by
  by_cases hnear : event.IsNear maximumRange
  · have hsensor : (record.sensor.onSensorChanged maximumRange event).1 = ⟨true, event.timestamp⟩ := by
      rw [ProximitySensor.onSensorChanged, if_neg fun h => h.2 hnear, decide_eq_true hnear]
    obtain ⟨first, hphase⟩ : ∃ first, (record.next maximumRange event).phase = some (first, event.timestamp) := by
      rw [next, if_pos hnear]
      cases record.phase with
      | none => exact ⟨event.timestamp, rfl⟩
      | some times => exact ⟨times.1, rfl⟩
    constructor
    · rw [hphase, next, hsensor]
      rfl
    · intro first' last' hphase'
      cases hphase.symm.trans hphase'
      rw [next, hsensor]
  · have hphase : (record.next maximumRange event).phase = none := by rw [next, if_neg hnear]
    constructor
    · rw [hphase, next, ProximitySensor.onSensorChanged, decide_eq_false hnear]
      split_ifs <;> rfl
    · intro first last hsome
      cases hphase.symm.trans hsome

theorem toInt_sub_eq_iff (timestamp first last : BitVec 64) :
    (timestamp - last).toInt = timestamp.toInt - first.toInt ↔
      last = first ∧ -2 ^ 63 ≤ timestamp.toInt - first.toInt ∧ timestamp.toInt - first.toInt < 2 ^ 63 := by
  constructor
  · intro heq
    have hsame : timestamp - last = timestamp - first := by
      apply BitVec.eq_of_toInt_eq
      rw [BitVec.toInt_sub (x := timestamp) (y := first), ← heq, BitVec.toInt_sub, Int.bmod_bmod]
    refine ⟨(BitVec.sub_right_inj timestamp).mp hsame, ?_, ?_⟩
    · rw [← heq]
      exact BitVec.le_toInt (timestamp - last)
    · rw [← heq]
      exact BitVec.toInt_lt
  · intro h
    obtain ⟨rfl, hle, hlt⟩ := h
    rw [BitVec.toInt_sub]
    exact Int.bmod_eq_of_le hle hlt

theorem measuresPhase_iff (h : record.Tracks) (event : SensorEvent Value) :
    record.MeasuresPhase maximumRange event ↔ record.NearOnce maximumRange event := by
  rw [MeasuresPhase, NearOnce, ProximitySensor.onSensorChanged, h.sawNear]
  cases hphase : record.phase with
  | none =>
      refine iff_of_true ⟨?_, ?_⟩ ?_
      · intro first hends
        obtain ⟨-, last, hlast⟩ := hends
        cases hphase.symm.trans hlast
      · intro _
        rw [if_neg (by simp)]
      · intro _ first last hlast
        cases hlast
  | some times =>
      obtain ⟨first, last⟩ := times
      by_cases hnear : event.IsNear maximumRange
      · refine iff_of_true ⟨?_, ?_⟩ ?_
        · intro _ hends
          exact absurd hnear hends.1
        · intro _
          rw [if_neg fun h => h.2 hnear]
        · intro hfar
          exact absurd hnear hfar
      · have hends : record.Ends maximumRange event first := ⟨hnear, last, hphase⟩
        have hiff := toInt_sub_eq_iff event.timestamp first last
        rw [← h.inPocketTime first last hphase, ← ProximitySensor.shouldPulse_delta,
          h.inPocketTime first last hphase] at hiff
        rw [if_pos ⟨rfl, hnear⟩]
        constructor
        · intro hmeasures _ first' last' htimes
          cases htimes
          obtain ⟨decision, hdecision, hdelta⟩ := hmeasures.1 first hends
          cases hdecision
          exact hiff.mp hdelta
        · intro honce
          refine ⟨?_, fun hnone => absurd hends (hnone first)⟩
          intro first' hends'
          obtain ⟨-, last', hlast'⟩ := hends'
          cases hphase.symm.trans hlast'
          exact ⟨_, rfl, hiff.mpr (honce hnear first last rfl)⟩

/-- In a run of events the decisions are about how long something was near if and only if, each time, it was so for a
single time that is not too long ago. -/
theorem run_measuresPhase_iff (maximumRange : Value) (events : List (SensorEvent Value)) :
    Run (next maximumRange) (MeasuresPhase maximumRange) init events ↔
      Run (next maximumRange) (NearOnce maximumRange) init events :=
  Run.iff_of_inv (W := fun _ _ => True) (fun _ event h _ => measuresPhase_iff h event)
    (fun record event _ _ _ => tracks_next record event) init_tracks (Run.forall_iff.mpr fun _ _ => trivial)

/-- Something is near for two seconds and a half, and is reported again after one second. -/
def nearTwice : List (SensorEvent Nat) :=
  [⟨0, 0, false, true⟩, ⟨0, 1000000000, false, true⟩, ⟨5, 2500000000, false, true⟩]

theorem nearTwice_measured : ¬ Run (next 5) (MeasuresPhase 5) init nearTwice := by
  intro hrun
  obtain ⟨decision, hdecision, hdelta⟩ := hrun.2.2.1.1 0 ⟨by decide, 1000000000, rfl⟩
  cases hdecision
  exact absurd hdelta (by decide)

end PhaseRecord

end Penrose.Doze

import Mathlib.Tactic.SplitIfs
import Penrose.Executors
import Penrose.Runs

/-! The pickup sensor, which lights up the screen when the device is picked up. Its interval of two seconds and a half
is counted from a time that two threads store: the main thread, which handles the changes of the sensor, and that of
the executor, which registers and unregisters the listener. Either reads the clock first and stores what it read
later. -/

namespace Penrose.Doze

/-- What `enable` and `disable` have the executor do. `mEntryTimestamp = SystemClock.elapsedRealtime()` is two steps. -/
inductive SensorTask where
  | registerListener
  | unregisterListener
  | readClock
  | storeEntry
  deriving DecidableEq

/-- Whether the listener is registered after the task. -/
def SensorTask.listens : SensorTask → Bool → Bool
  | .registerListener, _ => true
  | .unregisterListener, _ => false
  | .readClock, listening => listening
  | .storeEntry, listening => listening

/-- Times are in milliseconds since the boot. `taskTime` is what the executor's thread read last. -/
structure PickupSensor where
  listening : Bool
  entryTimestamp : Int
  taskTime : Int

/-- What the main thread does next, in `onSensorChanged` or outside of it. -/
inductive PickupHandler (Value : Type) where
  | idle
  | compareEntry (first : Int) (value : Value)
  | readClock (value : Value)
  | storeEntry (now : Int) (value : Value)

variable {Value : Type}

namespace PickupSensor

def init : PickupSensor := ⟨false, 0, 0⟩

def minPulseIntervalMs : Int := 2500

/-- What the executor's thread does at the time. -/
def perform (now : Int) (task : SensorTask) (s : PickupSensor) : PickupSensor :=
  match task with
  | .registerListener => { s with listening := true }
  | .unregisterListener => { s with listening := false }
  | .readClock => { s with taskTime := now }
  | .storeEntry => { s with entryTimestamp := s.taskTime }

theorem perform_listening (now : Int) (task : SensorTask) (s : PickupSensor) :
    (s.perform now task).listening = task.listens s.listening := by
  cases task <;> rfl

/-- The next step of `onSensorChanged` at the time. -/
def handle (now : Int) (handler : PickupHandler Value) (s : PickupSensor) : PickupHandler Value × PickupSensor :=
  match handler with
  | .idle => (.idle, s)
  | .compareEntry first value =>
      (if first - s.entryTimestamp < minPulseIntervalMs then .idle else .readClock value, s)
  | .readClock value => (.storeEntry now value, s)
  | .storeEntry now _ => (.idle, { s with entryTimestamp := now })

theorem handle_listening (now : Int) (handler : PickupHandler Value) (s : PickupSensor) :
    (s.handle now handler).2.listening = s.listening := by
  cases handler <;> rfl

/-- What `enable` submits to the executor. -/
def enable : List SensorTask := [.registerListener, .readClock, .storeEntry]

/-- What `disable` submits to the executor. -/
def disable : List SensorTask := [.unregisterListener]

end PickupSensor

/-- The pulse that the step launches, at the time that it stores. -/
def PickupHandler.pulse [BEq Value] [OfNat Value 1] : PickupHandler Value → Option Int
  | .storeEntry now value => if value == 1 then some now else none
  | _ => none

/-! ### The pulses of a sensor -/

/-- A step of the main thread, which enables and disables the sensor and is told of its changes, or of that of the
executor. -/
inductive PickupStep (Value : Type) where
  | enable
  | disable
  | runTask (now : Int)
  | sensorChanged (first : Int) (value : Value)
  | handle (now : Int)

/-- The sensor with its threads, the last reading of the clock, and when the sensor launched pulses, the latest one
first. -/
structure PulseRecord (Value : Type) where
  pickup : Executor SensorTask PickupSensor
  handler : PickupHandler Value
  now : Int
  pulses : List Int

namespace PulseRecord

def init : PulseRecord Value := ⟨⟨[], .init⟩, .idle, 0, []⟩

/-- The clock does not go back. -/
def Ticks (record : PulseRecord Value) : PickupStep Value → Prop
  | .enable | .disable => True
  | .runTask now => record.now ≤ now
  | .sensorChanged first _ => record.now ≤ first
  | .handle now => record.now ≤ now

instance (record : PulseRecord Value) (step : PickupStep Value) : Decidable (record.Ticks step) :=
  match step with
  | .enable | .disable => isTrue trivial
  | .runTask now => inferInstanceAs (Decidable (record.now ≤ now))
  | .sensorChanged first _ => inferInstanceAs (Decidable (record.now ≤ first))
  | .handle now => inferInstanceAs (Decidable (record.now ≤ now))

/-- There is an interval between any two pulses. -/
def Apart (pulses : List Int) : Prop :=
  pulses.Pairwise fun later earlier => earlier + PickupSensor.minPulseIntervalMs ≤ later

/-- The time from which the interval is counted is not before a pulse. -/
def Counts (record : PulseRecord Value) : Prop := ∀ pulse ∈ record.pulses, pulse ≤ record.pickup.state.entryTimestamp

/-- The executor's thread does not store a time that it read before a pulse that was launched since. -/
def StoresInTime (record : PulseRecord Value) : PickupStep Value → Prop
  | .runTask _ => record.pickup.tasks.head? = some .storeEntry →
      ∀ pulse ∈ record.pulses, pulse ≤ record.pickup.state.taskTime
  | .enable | .disable | .sensorChanged .. | .handle _ => True

instance (record : PulseRecord Value) (step : PickupStep Value) : Decidable (record.StoresInTime step) :=
  match step with
  | .runTask _ => inferInstanceAs (Decidable (_ → _))
  | .enable | .disable | .sensorChanged .. | .handle _ => isTrue trivial

/-- How far the interval after the last pulse is known to be over. -/
def IntervalOver (pulses : List Int) (last : Int) : PickupHandler Value → Prop
  | .idle => True
  | .compareEntry first _ => first ≤ last
  | .readClock _ => ∀ pulse ∈ pulses, pulse + PickupSensor.minPulseIntervalMs ≤ last
  | .storeEntry now _ => now ≤ last ∧ ∀ pulse ∈ pulses, pulse + PickupSensor.minPulseIntervalMs ≤ now

structure Inv (record : PulseRecord Value) : Prop where
  counts : record.Counts
  handler : IntervalOver record.pulses record.now record.handler
  apart : Apart record.pulses

theorem init_inv : (init : PulseRecord Value).Inv :=
  ⟨fun pulse h => (by cases h), trivial, List.Pairwise.nil⟩

theorem IntervalOver.mono {pulses : List Int} {last now : Int} {handler : PickupHandler Value}
    (h : IntervalOver pulses last handler) (hnow : last ≤ now) : IntervalOver pulses now handler := by
  cases handler with
  | idle => trivial
  | compareEntry first value => exact Int.le_trans h hnow
  | readClock value => exact fun pulse hpulse => Int.le_trans (h pulse hpulse) hnow
  | storeEntry stored value => exact ⟨Int.le_trans h.1 hnow, h.2⟩

variable [BEq Value] [OfNat Value 1]

/-- A registered listener is told of a change when the main thread has handled the one before. -/
def next (record : PulseRecord Value) : PickupStep Value → PulseRecord Value
  | .enable => { record with pickup := record.pickup.submit PickupSensor.enable }
  | .disable => { record with pickup := record.pickup.submit PickupSensor.disable }
  | .runTask now => { record with pickup := record.pickup.runNext (PickupSensor.perform now), now := now }
  | .sensorChanged first value =>
      match record.handler with
      | .idle =>
          if record.pickup.state.listening then { record with handler := .compareEntry first value, now := first }
          else record
      | _ => record
  | .handle now =>
      let handled := record.pickup.state.handle now record.handler
      { pickup := { record.pickup with state := handled.2 }
        handler := handled.1
        now := now
        pulses := record.handler.pulse.elim record.pulses fun pulse => pulse :: record.pulses }

variable {record : PulseRecord Value}

/-- A task of the executor only ever spoils the time that the interval is counted from. -/
theorem Inv.counts_runTask_iff (h : record.Inv) (now : Int) :
    (record.next (.runTask now)).Counts ↔ record.StoresInTime (.runTask now) := by
  obtain ⟨⟨tasks, s⟩, handler, last, pulses⟩ := record
  have hcounts : ∀ pulse ∈ pulses, pulse ≤ s.entryTimestamp := h.counts
  cases tasks with
  | nil => exact iff_of_true hcounts fun hhead => (by cases hhead)
  | cons task tasks =>
      cases task with
      | registerListener => exact iff_of_true hcounts fun hhead => (by cases hhead)
      | unregisterListener => exact iff_of_true hcounts fun hhead => (by cases hhead)
      | readClock => exact iff_of_true hcounts fun hhead => (by cases hhead)
      | storeEntry => exact ⟨fun hstored _ => hstored, fun hintime => hintime rfl⟩

/-- The main thread stores a time after every pulse, and launches a pulse only after the interval. -/
theorem Inv.handle (h : record.Inv) {now : Int} (hnow : record.now ≤ now) : (record.next (.handle now)).Inv := by
  obtain ⟨⟨tasks, s⟩, handler, last, pulses⟩ := record
  have hcounts : ∀ pulse ∈ pulses, pulse ≤ s.entryTimestamp := h.counts
  have hover : IntervalOver pulses last handler := h.handler
  have hlast : last ≤ now := hnow
  cases handler with
  | idle => exact ⟨hcounts, trivial, h.apart⟩
  | compareEntry first value =>
      refine ⟨hcounts, ?_, h.apart⟩
      simp only [next, PickupSensor.handle]
      split_ifs with hearly
      · trivial
      · intro pulse hpulse
        have hle := hcounts pulse hpulse
        have hfirst : first ≤ last := hover
        omega
  | readClock value =>
      refine ⟨hcounts, ⟨Int.le_refl now, fun pulse hpulse => ?_⟩, h.apart⟩
      exact Int.le_trans (hover pulse hpulse) hlast
  | storeEntry stored value =>
      obtain ⟨-, hstored⟩ := hover
      have hle : ∀ pulse ∈ pulses, pulse ≤ stored := by
        intro pulse hpulse
        have hinterval := hstored pulse hpulse
        simp only [PickupSensor.minPulseIntervalMs] at hinterval
        omega
      simp only [next, PickupHandler.pulse]
      by_cases hpicked : (value == 1) = true
      · rw [if_pos hpicked]
        refine ⟨?_, trivial, List.pairwise_cons.mpr ⟨hstored, h.apart⟩⟩
        exact List.forall_mem_cons.mpr ⟨Int.le_refl stored, hle⟩
      · rw [if_neg hpicked]
        exact ⟨hle, trivial, h.apart⟩

theorem Inv.sensorChanged (h : record.Inv) {first : Int} (hfirst : record.now ≤ first) (value : Value) :
    (record.next (.sensorChanged first value)).Inv := by
  obtain ⟨⟨tasks, s⟩, handler, last, pulses⟩ := record
  cases handler with
  | idle =>
      simp only [next]
      split_ifs
      · exact ⟨h.counts, Int.le_refl first, h.apart⟩
      · exact h
  | compareEntry first' value' => exact h
  | readClock value' => exact h
  | storeEntry stored value' => exact h

/-- What one step keeps, as long as the executor's thread stores in time. -/
theorem Inv.next (h : record.Inv) {step : PickupStep Value} (hticks : record.Ticks step)
    (hintime : record.StoresInTime step) : (record.next step).Inv := by
  cases step with
  | enable => exact ⟨h.counts, h.handler, h.apart⟩
  | disable => exact ⟨h.counts, h.handler, h.apart⟩
  | runTask now => exact ⟨(h.counts_runTask_iff now).mpr hintime, h.handler.mono hticks, h.apart⟩
  | sensorChanged first value => exact h.sensorChanged hticks value
  | handle now => exact h.handle hticks

theorem Inv.counts_next_iff (h : record.Inv) {step : PickupStep Value} (hticks : record.Ticks step) :
    (record.next step).Counts ↔ record.StoresInTime step := by
  cases step with
  | enable => exact iff_of_true h.counts trivial
  | disable => exact iff_of_true h.counts trivial
  | runTask now => exact h.counts_runTask_iff now
  | sensorChanged first value => exact iff_of_true (h.sensorChanged hticks value).counts trivial
  | handle now => exact iff_of_true (h.handle hticks).counts trivial

/-- The device is picked up three times, the second time too soon after the first. -/
def pickedUpThrice : List (PickupStep Nat) :=
  [.enable, .runTask 3000, .runTask 3001, .runTask 3002, .sensorChanged 6000 1, .handle 6001, .handle 6002,
    .handle 6003, .sensorChanged 7000 1, .handle 7001, .sensorChanged 8600 1, .handle 8601, .handle 8602, .handle 8603]

/-- The executor's thread reads the clock, is held up over a pulse and stores what it read: the next pulse comes after a
second and a half. -/
example :
    let steps : List (PickupStep Nat) := [.enable, .runTask 3000, .runTask 3001, .runTask 3002, .disable, .enable,
      .runTask 5998, .runTask 5999, .runTask 6000, .sensorChanged 7100 1, .handle 7101, .handle 7102, .handle 7103,
      .runTask 7104, .sensorChanged 8600 1, .handle 8601, .handle 8602, .handle 8603]
    Run PulseRecord.next Ticks init steps ∧ (steps.foldl PulseRecord.next init).pulses = [8602, 7102] := by decide

end PulseRecord

end Penrose.Doze

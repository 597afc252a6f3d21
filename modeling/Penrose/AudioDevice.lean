import Mathlib.Data.List.Nodup
import Mathlib.Logic.Function.Basic
import Mathlib.Tactic.SplitIfs
import Penrose.Runs

/-! The audio device and its streams, from version 6 of the interface on. The device counts the streams that it
opened, and each stream closes its own at the first close, or when it is destroyed. Closing the device waits for the
streams; opening a stream does not ask whether the device is closed. -/

namespace Penrose.Audio

/-- `Result`. -/
inductive Result where
  | ok | notInitialized | invalidArguments | invalidState | notSupported
  deriving DecidableEq

/-- `analyzeStatus`. -/
def analyzeStatus (status : Int) : Result :=
  if status = 0 then .ok
  else if status = -22 then .invalidArguments
  else if status = -61 then .invalidState
  else if status = -19 then .notInitialized
  else if status = -38 then .notSupported
  else .invalidState

/-- The device of the HAL: its streams that are opened and not closed, the number of those opened so far, which
numbers the streams, and how often it was closed. -/
structure HalDevice where
  openStreams : List Nat
  openings : Nat
  closings : Nat

/-- A `StreamOut` or a `StreamIn`, with the flag that stops its thread. -/
structure AudioStream where
  isInput : Bool
  stop : Bool

/-- A `Device` with its streams. `fatal` says that a stream was closed with none counted. -/
structure Device where
  isClosed : Bool
  openedStreamsCount : Int
  hal : HalDevice
  streams : Nat → Option AudioStream
  fatal : Bool

/-- What `openOutputStream` is called with: the status of each conversion of its arguments, and that of the HAL. -/
structure OpenOutputStream where
  sourceMetadata : Int
  config : Int
  device : Int
  flags : Int
  halStatus : Int

/-- What `openInputStream` is called with. -/
structure OpenInputStream where
  tracks : Nat
  sinkMetadata : Int
  config : Int
  device : Int
  flags : Int
  source : Int
  halStatus : Int

namespace Device

def init : Device := ⟨false, 0, ⟨[], 0, 0⟩, fun _ => none, false⟩

/-- The HAL opened a stream, and there is an object for it. -/
def addStream (d : Device) (isInput : Bool) : Device :=
  { d with
    openedStreamsCount := d.openedStreamsCount + 1
    hal := { d.hal with openStreams := d.hal.openings :: d.hal.openStreams, openings := d.hal.openings + 1 }
    streams := Function.update d.streams d.hal.openings (some ⟨isInput, false⟩) }

/-- What `openOutputStreamCore` and `openInputStreamCore` do, for the status of each conversion. -/
def openStreamCore (d : Device) (isInput : Bool) (conversions : List Int) (halStatus : Int) : Result × Device :=
  if ∃ status ∈ conversions, status ≠ 0 then (.invalidArguments, d)
  else (analyzeStatus halStatus, if halStatus = 0 then d.addStream isInput else d)

def openOutputStreamCore (d : Device) (request : OpenOutputStream) : Result × Device :=
  d.openStreamCore false [request.config, request.device, request.flags] request.halStatus

def openInputStreamCore (d : Device) (request : OpenInputStream) : Result × Device :=
  d.openStreamCore true [request.config, request.device, request.flags, request.source] request.halStatus

def openOutputStream (d : Device) (request : OpenOutputStream) : Result × Device :=
  if request.sourceMetadata ≠ 0 then (analyzeStatus request.sourceMetadata, d)
  else d.openOutputStreamCore request

def openInputStream (d : Device) (request : OpenInputStream) : Result × Device :=
  if request.tracks = 0 then (.invalidArguments, d)
  else if request.sinkMetadata ≠ 0 then (analyzeStatus request.sinkMetadata, d)
  else d.openInputStreamCore request

/-- `closeInputStream` and `closeOutputStream`. -/
def closeHalStream (d : Device) (stream : Nat) : Device :=
  let d := { d with hal := { d.hal with openStreams := d.hal.openStreams.erase stream } }
  if d.openedStreamsCount = 0 then { d with fatal := true }
  else { d with openedStreamsCount := d.openedStreamsCount - 1 }

/-- `StreamOut::close` and `StreamIn::close`. -/
def closeStream (d : Device) (stream : Nat) (object : AudioStream) : Result × Device :=
  if object.stop then (.invalidState, d)
  else
    (.ok, { d with streams := Function.update d.streams stream (some { object with stop := true }) }.closeHalStream
      stream)

/-- `~StreamOut` and `~StreamIn`. -/
def destroyStream (d : Device) (stream : Nat) (object : AudioStream) : Device :=
  let d := (d.closeStream stream object).2
  { d with streams := Function.update d.streams stream none }

/-- `doClose`, with the status that the HAL returns. -/
def doClose (d : Device) (halStatus : Int) : Result × Device :=
  if d.isClosed ∨ d.openedStreamsCount ≠ 0 then (.invalidState, d)
  else (analyzeStatus halStatus, { d with isClosed := true, hal := { d.hal with closings := d.hal.closings + 1 } })

end Device

/-- A call on the device or on one of its streams. -/
inductive DeviceCall where
  | openOutputStream (request : OpenOutputStream)
  | openInputStream (request : OpenInputStream)
  | closeStream (stream : Nat)
  | destroyStream (stream : Nat)
  | close (halStatus : Int)

/-- The arguments can be converted, and the HAL opens the stream. -/
def DeviceCall.Opens : DeviceCall → Prop
  | openOutputStream request =>
      request.sourceMetadata = 0 ∧ request.config = 0 ∧ request.device = 0 ∧ request.flags = 0 ∧
        request.halStatus = 0
  | openInputStream request =>
      request.tracks ≠ 0 ∧ request.sinkMetadata = 0 ∧ request.config = 0 ∧ request.device = 0 ∧
        request.flags = 0 ∧ request.source = 0 ∧ request.halStatus = 0
  | _ => False

namespace Device

/-- The state after a call; there are no calls on a stream that does not exist. -/
def next (d : Device) : DeviceCall → Device
  | .openOutputStream request => (d.openOutputStream request).2
  | .openInputStream request => (d.openInputStream request).2
  | .closeStream stream =>
      match d.streams stream with
      | none => d
      | some object => (d.closeStream stream object).2
  | .destroyStream stream =>
      match d.streams stream with
      | none => d
      | some object => d.destroyStream stream object
  | .close halStatus => (d.doClose halStatus).2

/-- The count is that of the streams of the HAL that are open, and none was closed with none counted; the device of the
HAL was closed at most once, and if it was, no stream is open. -/
structure Sound (d : Device) : Prop where
  count : d.openedStreamsCount = d.hal.openStreams.length
  fatal : d.fatal = false
  closings : d.hal.closings ≤ 1
  closed : 0 < d.hal.closings → d.hal.openStreams = []

/-- A call leads to a sound state, and opens no stream on a device of the HAL that is closed. -/
def KeepsLifetime (d : Device) (call : DeviceCall) : Prop :=
  (d.next call).Sound ∧ (0 < d.hal.closings → (d.next call).hal.openings = d.hal.openings)

/-- No stream is opened after the device is closed. -/
def OpensBeforeClose (d : Device) (call : DeviceCall) : Prop := d.isClosed = true → ¬ call.Opens

/-- What every call keeps. The streams that are open are those not closed by their objects. -/
structure Counted (d : Device) : Prop where
  count : d.openedStreamsCount = d.hal.openStreams.length
  fatal : d.fatal = false
  closings : d.hal.closings = if d.isClosed then 1 else 0
  nodup : d.hal.openStreams.Nodup
  mem_iff : ∀ stream, stream ∈ d.hal.openStreams ↔ ∃ object, d.streams stream = some object ∧ object.stop = false
  fresh : ∀ stream, d.hal.openings ≤ stream → d.streams stream = none

variable {d : Device}

theorem init_counted : init.Counted where
  count := rfl
  fatal := rfl
  closings := rfl
  nodup := List.nodup_nil
  mem_iff stream := by simp [init]
  fresh _ _ := rfl

/-- A call opens a stream, or it opens none. -/
theorem next_cases (d : Device) (call : DeviceCall) :
    (call.Opens ∧ ∃ isInput, d.next call = d.addStream isInput) ∨
      ¬ call.Opens ∧ ((∃ halStatus, d.next call = (d.doClose halStatus).2) ∨
        (∃ stream object, d.streams stream = some object ∧
          (d.next call = (d.closeStream stream object).2 ∨ d.next call = d.destroyStream stream object)) ∨
        d.next call = d) := by
  cases call with
  | openOutputStream request =>
      by_cases hopens : (DeviceCall.openOutputStream request).Opens
      · refine Or.inl ⟨hopens, false, ?_⟩
        obtain ⟨hmetadata, hconfig, hdevice, hflags, hstatus⟩ := hopens
        simp [next, openOutputStream, openOutputStreamCore, openStreamCore, hmetadata, hconfig, hdevice, hflags,
          hstatus]
      · refine Or.inr ⟨hopens, Or.inr (Or.inr ?_)⟩
        simp only [DeviceCall.Opens] at hopens
        simp only [next, openOutputStream, openOutputStreamCore, openStreamCore]
        split_ifs <;> simp_all
  | openInputStream request =>
      by_cases hopens : (DeviceCall.openInputStream request).Opens
      · refine Or.inl ⟨hopens, true, ?_⟩
        obtain ⟨htracks, hmetadata, hconfig, hdevice, hflags, hsource, hstatus⟩ := hopens
        simp [next, openInputStream, openInputStreamCore, openStreamCore, htracks, hmetadata, hconfig, hdevice, hflags,
          hsource, hstatus]
      · refine Or.inr ⟨hopens, Or.inr (Or.inr ?_)⟩
        simp only [DeviceCall.Opens] at hopens
        simp only [next, openInputStream, openInputStreamCore, openStreamCore]
        split_ifs <;> simp_all
  | closeStream stream =>
      refine Or.inr ⟨id, ?_⟩
      cases hobject : d.streams stream with
      | none => exact Or.inr (Or.inr (by simp [next, hobject]))
      | some object => exact Or.inr (Or.inl ⟨stream, object, hobject, Or.inl (by simp [next, hobject])⟩)
  | destroyStream stream =>
      refine Or.inr ⟨id, ?_⟩
      cases hobject : d.streams stream with
      | none => exact Or.inr (Or.inr (by simp [next, hobject]))
      | some object => exact Or.inr (Or.inl ⟨stream, object, hobject, Or.inr (by simp [next, hobject])⟩)
  | close halStatus => exact Or.inr ⟨id, Or.inl ⟨halStatus, rfl⟩⟩

theorem Counted.addStream (h : d.Counted) (isInput : Bool) : (d.addStream isInput).Counted := by
  have hnone := h.fresh d.hal.openings (Nat.le_refl _)
  have hnew : d.hal.openings ∉ d.hal.openStreams := by
    intro hmem
    obtain ⟨object, hobject, -⟩ := (h.mem_iff _).mp hmem
    cases hnone.symm.trans hobject
  refine ⟨?_, h.fatal, h.closings, List.nodup_cons.mpr ⟨hnew, h.nodup⟩, ?_, ?_⟩
  · show d.openedStreamsCount + 1 = ((d.hal.openings :: d.hal.openStreams).length : Int)
    rw [h.count, List.length_cons]
    rfl
  · intro stream
    show stream ∈ d.hal.openings :: d.hal.openStreams ↔
      ∃ object, Function.update d.streams d.hal.openings (some ⟨isInput, false⟩) stream = some object ∧
        object.stop = false
    by_cases heq : stream = d.hal.openings
    · simp [heq]
    · rw [Function.update_of_ne heq, List.mem_cons, h.mem_iff]
      simp [heq]
  · intro stream hle
    show Function.update d.streams d.hal.openings (some ⟨isInput, false⟩) stream = none
    rw [Function.update_of_ne (Nat.ne_of_gt hle)]
    exact h.fresh stream (Nat.le_of_succ_le hle)

/-- A stream that is not closed is counted. -/
theorem closeStream_eq (h : d.Counted) {stream : Nat} {object : AudioStream} (hobject : d.streams stream = some object)
    (hopen : object.stop = false) :
    stream ∈ d.hal.openStreams ∧ (d.closeStream stream object).2 = { d with
      openedStreamsCount := d.openedStreamsCount - 1
      hal := { d.hal with openStreams := d.hal.openStreams.erase stream }
      streams := Function.update d.streams stream (some { object with stop := true }) } := by
  have hmem := (h.mem_iff stream).mpr ⟨object, hobject, hopen⟩
  have hcount : d.openedStreamsCount ≠ 0 := by
    have hpos := List.length_pos_of_mem hmem
    rw [h.count]
    omega
  exact ⟨hmem, by simp [closeStream, closeHalStream, hopen, hcount]⟩

theorem Counted.closeStream (h : d.Counted) {stream : Nat} {object : AudioStream}
    (hobject : d.streams stream = some object) : (d.closeStream stream object).2.Counted := by
  cases hstop : object.stop with
  | true =>
      rw [Device.closeStream, if_pos hstop]
      exact h
  | false =>
      obtain ⟨hmem, hclose⟩ := closeStream_eq h hobject hstop
      rw [hclose]
      refine ⟨?_, h.fatal, h.closings, h.nodup.erase stream, ?_, ?_⟩
      · show d.openedStreamsCount - 1 = ((d.hal.openStreams.erase stream).length : Int)
        have hpos := List.length_pos_of_mem hmem
        rw [h.count, List.length_erase_of_mem hmem]
        omega
      · intro other
        show other ∈ d.hal.openStreams.erase stream ↔
          ∃ object', Function.update d.streams stream (some { object with stop := true }) other = some object' ∧
            object'.stop = false
        rw [h.nodup.mem_erase_iff]
        by_cases heq : other = stream
        · simp [heq]
        · rw [Function.update_of_ne heq, h.mem_iff]
          simp [heq]
      · intro other hle
        have hne : other ≠ stream := by
          intro heq
          cases (h.fresh other hle).symm.trans (heq ▸ hobject)
        show Function.update d.streams stream (some { object with stop := true }) other = none
        rw [Function.update_of_ne hne]
        exact h.fresh other hle

/-- An object whose stream is closed may go. -/
theorem Counted.forget (h : d.Counted) {stream : Nat} (hclosed : stream ∉ d.hal.openStreams) :
    Counted { d with streams := Function.update d.streams stream none } := by
  refine ⟨h.count, h.fatal, h.closings, h.nodup, ?_, ?_⟩
  · intro other
    show other ∈ d.hal.openStreams ↔
      ∃ object, Function.update d.streams stream none other = some object ∧ object.stop = false
    by_cases heq : other = stream
    · simp [heq, hclosed]
    · rw [Function.update_of_ne heq, h.mem_iff]
  · intro other hle
    show Function.update d.streams stream none other = none
    by_cases heq : other = stream
    · rw [heq, Function.update_self]
    · rw [Function.update_of_ne heq]
      exact h.fresh other hle

theorem Counted.destroyStream (h : d.Counted) {stream : Nat} {object : AudioStream}
    (hobject : d.streams stream = some object) : (d.destroyStream stream object).Counted := by
  apply (h.closeStream hobject).forget
  cases hstop : object.stop with
  | true =>
      rw [Device.closeStream, if_pos hstop, h.mem_iff]
      rintro ⟨object', hobject', hopen⟩
      cases hobject.symm.trans hobject'
      cases hstop.symm.trans hopen
  | false =>
      rw [(closeStream_eq h hobject hstop).2]
      exact h.nodup.not_mem_erase

theorem Counted.doClose (h : d.Counted) (halStatus : Int) : (d.doClose halStatus).2.Counted := by
  rw [Device.doClose]
  split_ifs with hrefused
  · exact h
  · rw [not_or] at hrefused
    refine ⟨h.count, h.fatal, ?_, h.nodup, h.mem_iff, h.fresh⟩
    show d.hal.closings + 1 = if true then 1 else 0
    rw [h.closings, if_neg hrefused.1, if_pos rfl]

theorem Counted.next (h : d.Counted) (call : DeviceCall) : (d.next call).Counted := by
  obtain ⟨-, isInput, hnext⟩ | ⟨-, ⟨halStatus, hnext⟩ | ⟨stream, object, hobject, hnext | hnext⟩ | hnext⟩ :=
    next_cases d call
  · rw [hnext]
    exact h.addStream isInput
  · rw [hnext]
    exact h.doClose halStatus
  · rw [hnext]
    exact h.closeStream hobject
  · rw [hnext]
    exact h.destroyStream hobject
  · rw [hnext]
    exact h

theorem openings_next_of_opens {call : DeviceCall} (hopens : call.Opens) :
    (d.next call).hal.openings = d.hal.openings + 1 := by
  obtain ⟨-, isInput, hnext⟩ | ⟨hnot, -⟩ := next_cases d call
  · rw [hnext]
    rfl
  · exact absurd hopens hnot

theorem closeStream_frame (d : Device) (stream : Nat) (object : AudioStream) :
    (d.closeStream stream object).2.isClosed = d.isClosed ∧
      (d.closeStream stream object).2.hal.openings = d.hal.openings ∧
        ∀ other, other ∈ (d.closeStream stream object).2.hal.openStreams → other ∈ d.hal.openStreams := by
  rw [Device.closeStream, closeHalStream]
  split_ifs
  · exact ⟨rfl, rfl, fun _ hmem => hmem⟩
  all_goals exact ⟨rfl, rfl, fun _ hmem => List.mem_of_mem_erase hmem⟩

/-- A call that opens nothing leaves a closed device without open streams. -/
theorem next_of_not_opens (h : d.Counted) (hclosed : d.isClosed = true → d.hal.openStreams = []) {call : DeviceCall}
    (hnot : ¬ call.Opens) :
    (d.next call).hal.openings = d.hal.openings ∧
      ((d.next call).isClosed = true → (d.next call).hal.openStreams = []) := by
  have hempty (stream : Nat) (object : AudioStream) (h : (d.closeStream stream object).2.isClosed = true) :
      (d.closeStream stream object).2.hal.openStreams = [] := by
    obtain ⟨hsame, -, hmem⟩ := closeStream_frame d stream object
    rw [hsame] at h
    apply List.eq_nil_iff_forall_not_mem.mpr
    intro other hother
    have hopen := hmem other hother
    rw [hclosed h] at hopen
    cases hopen
  obtain ⟨hopens, -⟩ | ⟨-, ⟨halStatus, hnext⟩ | ⟨stream, object, -, hnext | hnext⟩ | hnext⟩ := next_cases d call
  · exact absurd hopens hnot
  · rw [hnext, doClose]
    split_ifs with hrefused
    · exact ⟨rfl, hclosed⟩
    · rw [not_or, not_ne_iff, h.count] at hrefused
      exact ⟨rfl, fun _ => List.eq_nil_of_length_eq_zero (Int.ofNat.inj hrefused.2)⟩
  · rw [hnext]
    exact ⟨(closeStream_frame d stream object).2.1, hempty stream object⟩
  · rw [hnext]
    exact ⟨(closeStream_frame d stream object).2.1, hempty stream object⟩
  · rw [hnext]
    exact ⟨rfl, hclosed⟩

/-- A device where no stream is opened after it is closed. -/
structure Settled (d : Device) : Prop extends d.Counted where
  closed : d.isClosed = true → d.hal.openStreams = []

theorem Counted.closings_pos (h : d.Counted) : 0 < d.hal.closings ↔ d.isClosed = true := by
  rw [h.closings]
  cases d.isClosed <;> simp

theorem settled_next (h : d.Settled) {call : DeviceCall} (hbefore : d.OpensBeforeClose call) :
    (d.next call).Settled := by
  refine ⟨h.toCounted.next call, ?_⟩
  by_cases hopens : call.Opens
  · obtain ⟨-, isInput, hnext⟩ | ⟨hnot, -⟩ := next_cases d call
    · intro hclosed
      rw [hnext] at hclosed
      exact absurd hopens (hbefore hclosed)
    · exact absurd hopens hnot
  · exact (next_of_not_opens h.toCounted h.closed hopens).2

theorem keepsLifetime_iff (h : d.Settled) (call : DeviceCall) : d.KeepsLifetime call ↔ d.OpensBeforeClose call := by
  have hcounted := h.toCounted.next call
  constructor
  · intro hkeeps hclosed hopens
    have hsame := hkeeps.2 (h.toCounted.closings_pos.mpr hclosed)
    rw [openings_next_of_opens hopens] at hsame
    exact Nat.succ_ne_self _ hsame
  · intro hbefore
    have hsettled := settled_next h hbefore
    refine ⟨⟨hcounted.count, hcounted.fatal, ?_, ?_⟩, ?_⟩
    · rw [hcounted.closings]
      split_ifs
      · exact Nat.le_refl 1
      · exact Nat.zero_le 1
    · intro hclosings
      exact hsettled.closed (hcounted.closings_pos.mp hclosings)
    · intro hclosings
      have hnot := hbefore (h.toCounted.closings_pos.mp hclosings)
      exact (next_of_not_opens h.toCounted h.closed hnot).1

/-- In a run of calls the device keeps to the lifetime of its streams if and only if no stream is opened after the
device is closed. -/
theorem run_keepsLifetime_iff (calls : List DeviceCall) :
    Run next KeepsLifetime init calls ↔ Run next OpensBeforeClose init calls :=
  Run.iff_of_inv (W := fun _ _ => True) (fun d call h _ => keepsLifetime_iff h call)
    (fun d call h _ hbefore => settled_next h hbefore) ⟨init_counted, fun h => by cases h⟩
    (Run.forall_iff.mpr fun _ _ => trivial)

/-- The device is closed, and then a stream is opened that the HAL accepts. -/
def opensLate : List DeviceCall := [.close 0, .openOutputStream ⟨0, 0, 0, 0, 0⟩]

theorem opensLate_opened : ¬ Run next KeepsLifetime init opensLate := by
  intro hrun
  have hsame := hrun.2.1.2 (by decide)
  cases hsame

end Device

end Penrose.Audio

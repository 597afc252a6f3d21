import Mathlib.Data.List.Chain
import Penrose.BluetoothLatency
import Penrose.Words

/-! Presentation and capture positions. A stream answers from the counter of the stack, or from its own where the two
are too far apart, less what the remote device still buffers. The answer is within two latencies of what was
presented, but it falls back when the stack's counter is taken up again. -/

namespace Penrose.Bluetooth

/-! ### The position in frames -/

deriving instance DecidableEq for TimeSpec

/-- The counter of the stack is no further than the latency behind that of the stream, and not ahead of it. -/
def UsesStackCounter (presented counted latency : Nat) : Prop := counted ≤ presented ∧ presented ≤ counted + latency

instance (presented counted latency : Nat) : Decidable (UsesStackCounter presented counted latency) :=
  inferInstanceAs (Decidable (_ ∧ _))

/-- The counter that a position is told from. -/
def usedCounter (presented counted latency : Nat) : Nat :=
  if UsesStackCounter presented counted latency then counted else presented

theorem usedCounter_bounds (presented counted latency : Nat) :
    presented - latency ≤ usedCounter presented counted latency ∧
      usedCounter presented counted latency ≤ presented := by
  rw [usedCounter]
  split_ifs with huses
  · obtain ⟨hle, hlatency⟩ := huses
    omega
  · omega

theorem usedCounter_eq (presented counted latency : Nat) :
    (if presented < counted then presented else if latency < presented - counted then presented else counted) =
      usedCounter presented counted latency := by
  rw [usedCounter]
  by_cases huses : UsesStackCounter presented counted latency
  · obtain ⟨hle, hlatency⟩ := huses
    rw [if_neg (not_lt.mpr hle), if_neg (by omega), if_pos ⟨hle, hlatency⟩]
  · rw [if_neg huses]
    rw [UsesStackCounter] at huses
    split_ifs <;> omega

namespace BluetoothStreamOut

variable {Port : Type}

/-- The latency in frames. -/
def latencyFrames (out : BluetoothStreamOut Port) (fetched : PortPosition × Bool) : Nat :=
  (out.delayReportMs fetched).1 * out.sampleRate % 2 ^ 64 / 1000

/-- `out_get_presentation_position`. -/
def outGetPresentationPosition (out : BluetoothStreamOut Port) (framesNull timestampNull : Bool) (frameSize : Nat)
    (fetched : PortPosition × Bool) (now : TimeSpec) : Int × Option (Nat × TimeSpec) :=
  if framesNull || timestampNull then (-einval, none)
  else (0, some (out.outCalculateFeedingDelayMs frameSize fetched now))

theorem outCalculateFeedingDelayMs_fst (out : BluetoothStreamOut Port) (frameSize : Nat)
    (fetched : PortPosition × Bool) (now : TimeSpec) :
    (out.outCalculateFeedingDelayMs frameSize fetched now).1 =
      usedCounter out.framesPresented (fetched.1.bytes / frameSize) (out.latencyFrames fetched) -
        out.latencyFrames fetched := by
  rcases hdelay : out.delayReportMs fetched with ⟨delayReportMs, timestampFetched⟩
  simp only [outCalculateFeedingDelayMs, latencyFrames, hdelay, ← usedCounter_eq]
  generalize delayReportMs * out.sampleRate % 2 ^ 64 / 1000 = latencyFrames
  split_ifs <;> omega

end BluetoothStreamOut

/-! ### Successive positions -/

/-- A query for the position: the stream at the time, its frame size, what the port fetches and the clock. -/
structure PositionQuery (Port : Type) where
  out : BluetoothStreamOut Port
  frameSize : Nat
  fetched : PortPosition × Bool
  now : TimeSpec

namespace PositionQuery

variable {Port : Type}

/-- The frames that the query gives. -/
def frames (query : PositionQuery Port) : Nat :=
  (query.out.outCalculateFeedingDelayMs query.frameSize query.fetched query.now).1

def absorbedFrames (query : PositionQuery Port) : Nat := query.fetched.1.bytes / query.frameSize

def latencyFrames (query : PositionQuery Port) : Nat := query.out.latencyFrames query.fetched

/-- Neither the frames that were presented nor the bytes that were absorbed decrease, and the delay and the sample
rate stay what they are. -/
structure Follows (query next : PositionQuery Port) : Prop where
  framesPresented_le : query.out.framesPresented ≤ next.out.framesPresented
  bytes_le : query.fetched.1.bytes ≤ next.fetched.1.bytes
  delay_eq : (next.out.delayReportMs next.fetched).1 = (query.out.delayReportMs query.fetched).1
  sampleRate_eq : next.out.sampleRate = query.out.sampleRate

/-- The next query is answered from the stack's counter, and that counter is behind the one that answered this
query, which was past the latency. -/
def TakesUpOlderCounter (query next : PositionQuery Port) : Prop :=
  UsesStackCounter next.out.framesPresented next.absorbedFrames next.latencyFrames ∧
    if UsesStackCounter query.out.framesPresented query.absorbedFrames query.latencyFrames then
      query.latencyFrames < query.absorbedFrames ∧ next.absorbedFrames < query.absorbedFrames
    else query.latencyFrames < query.out.framesPresented ∧ next.absorbedFrames < query.out.framesPresented

theorem frames_eq (query : PositionQuery Port) : query.frames =
    usedCounter query.out.framesPresented query.absorbedFrames query.latencyFrames - query.latencyFrames :=
  query.out.outCalculateFeedingDelayMs_fst query.frameSize query.fetched query.now

theorem Follows.latencyFrames_eq {query next : PositionQuery Port} (h : query.Follows next) :
    next.latencyFrames = query.latencyFrames := by
  rw [latencyFrames, latencyFrames, BluetoothStreamOut.latencyFrames, BluetoothStreamOut.latencyFrames, h.delay_eq,
    h.sampleRate_eq]

/-- The position falls back exactly if an older counter of the stack is taken up. -/
theorem frames_le_iff {query next : PositionQuery Port} (h : query.Follows next) :
    query.frames ≤ next.frames ↔ ¬ query.TakesUpOlderCounter next := by
  have hpresented := h.framesPresented_le
  have hcounter : usedCounter query.out.framesPresented query.absorbedFrames query.latencyFrames ≤
      query.out.framesPresented := (usedCounter_bounds ..).2
  rw [frames_eq, frames_eq, TakesUpOlderCounter, h.latencyFrames_eq]
  by_cases hnext : UsesStackCounter next.out.framesPresented next.absorbedFrames query.latencyFrames
  · have hstack : usedCounter next.out.framesPresented next.absorbedFrames query.latencyFrames =
        next.absorbedFrames := if_pos hnext
    rw [hstack, usedCounter, and_iff_right hnext]
    split_ifs <;> omega
  · have hown : usedCounter next.out.framesPresented next.absorbedFrames query.latencyFrames =
        next.out.framesPresented := if_neg hnext
    rw [hown]
    exact iff_of_true (by omega) fun htakes => hnext htakes.1

/-- The positions of a stream never decrease if and only if it never takes up an older counter of the stack. -/
theorem frames_monotone_iff (queries : List (PositionQuery Port)) (h : queries.IsChain Follows) :
    (queries.map frames).IsChain (· ≤ ·) ↔
      queries.IsChain fun query next => ¬ query.TakesUpOlderCounter next := by
  rw [List.isChain_map]
  induction queries with
  | nil => exact iff_of_true .nil .nil
  | cons query queries ih =>
      cases queries with
      | nil => exact iff_of_true (.singleton _) (.singleton _)
      | cons next queries =>
          rw [List.isChain_cons_cons] at h
          rw [List.isChain_cons_cons, List.isChain_cons_cons, frames_le_iff h.1, ih h.2]

/-- A query of a stream over AIDL that is 20000 frames on. -/
def at20000 (bytes : Nat) : PositionQuery BluetoothAudioPortAidl :=
  ⟨{ overAidl with framesPresented := 20000 }, 4, (⟨0, bytes, ⟨0, 0⟩⟩, false), ⟨0, 0⟩⟩

/-- While the stack counts up in step, the position goes on. -/
theorem frames_monotone_iff_inStep :
    ([at20000 60000, at20000 64000].map frames).IsChain (· ≤ ·) :=
  (frames_monotone_iff [at20000 60000, at20000 64000]
    (.cons_cons ⟨le_rfl, by decide, rfl, rfl⟩ (.singleton _))).mpr
    (.cons_cons (fun htakes => absurd htakes.2 (by decide)) (.singleton _))

/-- The stack has absorbed nothing, then 11000 frames: the position falls back from 10739 to 1739. -/
theorem catchesUp_fallsBack :
    [at20000 0, at20000 44000].IsChain Follows ∧ [at20000 0, at20000 44000].map frames = [10739, 1739] ∧
      ¬ ([at20000 0, at20000 44000].map frames).IsChain (· ≤ ·) := by
  have hframes : [at20000 0, at20000 44000].map frames = [10739, 1739] := by decide
  refine ⟨.cons_cons ⟨le_rfl, by decide, rfl, rfl⟩ (.singleton _), hframes, ?_⟩
  rw [hframes]
  decide

end PositionQuery

/-! ### Exact arithmetic -/

/-- `frame_count`. -/
def frameCount (microseconds sampleRate : Nat) : Nat := microseconds * sampleRate % 2 ^ 64 / 1000000

theorem frameCount_le (microseconds sampleRate : Nat) : frameCount microseconds sampleRate ≤ (2 ^ 64 - 1) / 1000000 :=
  Nat.div_le_div_right (by omega)

/-- What every port can say. -/
class AudioPort (Port : Type) where
  getState : Port → BluetoothStreamState

instance : AudioPort BluetoothAudioPortAidl := ⟨BluetoothAudioPortAidl.state⟩

instance : AudioPort Hidl.BluetoothAudioPort := ⟨Hidl.BluetoothAudioPort.state⟩

/-- `BluetoothStreamIn` over a port. -/
structure BluetoothStreamIn (Port : Type) where
  bluetoothInput : Port
  sampleRate : Nat
  framesPresented : Nat

/-- The numbers that a position is told from. -/
structure PositionRange (framesPresented sampleRate frameSize : Nat) (position : PortPosition) : Prop where
  framesPresented_lt : framesPresented < 2 ^ 63
  delayNs_lt : position.delayNs < 2 ^ 64
  bytes_lt : position.bytes < 2 ^ 64
  sampleRate_pos : 1 ≤ sampleRate
  sampleRate_le : sampleRate ≤ 192000
  frameSize_le : 2 ≤ frameSize

namespace PositionRange

variable {framesPresented sampleRate frameSize : Nat} {position : PortPosition}

theorem absorbedFrames_lt (h : PositionRange framesPresented sampleRate frameSize position) :
    position.bytes / frameSize < 2 ^ 63 := by
  have hbytes := h.bytes_lt
  have hhalf : position.bytes / frameSize ≤ position.bytes / 2 := Nat.div_le_div_left h.frameSize_le (by decide)
  omega

/-- A delay in milliseconds that comes from nanoseconds leaves room for the rate. -/
theorem mul_sampleRate_lt (h : PositionRange framesPresented sampleRate frameSize position) :
    position.delayNs / 1000000 * sampleRate < 2 ^ 64 := by
  have hdelay := h.delayNs_lt
  have hproduct : position.delayNs / 1000000 * sampleRate ≤ (2 ^ 64 - 1) / 1000000 * 192000 :=
    Nat.mul_le_mul (Nat.div_le_div_right (by omega)) h.sampleRate_le
  omega

end PositionRange

variable {m : Type → Type} [Monad m] {Port : Type}

namespace BluetoothStreamOut

/-- The delay of `out_calculate_feeding_delay_ms`, with its arithmetic in `words`. -/
def outDelayMs (words : Words m) (out : BluetoothStreamOut Port) (fetched : PortPosition × Bool) : m Nat :=
  if (out.delayReportMs fetched).2 then pure (fetched.1.delayNs / 1000000)
  else do
    let scaled ← words.mul out.framesCount 1000
    words.add (scaled / out.sampleRate) kExtraAudioSyncMs

/-- The counter that it takes. -/
def outCounter (words : Words m) (out : BluetoothStreamOut Port) (absorbedFrames latencyFrames : Nat) : m Nat :=
  if out.framesPresented < absorbedFrames then pure out.framesPresented
  else do
    let behind ← words.sub out.framesPresented absorbedFrames
    pure (if latencyFrames < behind then out.framesPresented else absorbedFrames)

/-- Its frames. -/
def outFrames (words : Words m) (out : BluetoothStreamOut Port) (frameSize : Nat) (fetched : PortPosition × Bool) :
    m Nat := do
  let delayReportMs ← out.outDelayMs words fetched
  let scaled ← words.mul delayReportMs out.sampleRate
  let latencyFrames := scaled / 1000
  let frames ← out.outCounter words (fetched.1.bytes / frameSize) latencyFrames
  if latencyFrames < frames then words.sub frames latencyFrames else pure 0

end BluetoothStreamOut

namespace BluetoothStreamIn

/-- The latency in frames; it has no bound, and counts also where the port fetched nothing. -/
def latencyFrames (input : BluetoothStreamIn Port) (position : PortPosition) : Nat :=
  position.delayNs / 1000000 * input.sampleRate % 2 ^ 64 / 1000

/-- The counter that `in_calculate_starving_delay_ms` takes, with its arithmetic in `words`. A comparison with an
unsigned number takes the signed frames as unsigned ones. -/
def inCounter (words : Words m) (input : BluetoothStreamIn Port) (frames : Int) (latencyFrames : Nat) : m Int := do
  let dispersedFrames ← words.toUnsigned frames
  if input.framesPresented < dispersedFrames then words.toSigned input.framesPresented
  else do
    let behind ← words.sub input.framesPresented dispersedFrames
    if latencyFrames < behind then words.toSigned input.framesPresented else pure frames

/-- What it leaves of the counter. -/
def lessLatency (words : Words m) (frames : Int) (latencyFrames : Nat) : m Int := do
  let usedFrames ← words.toUnsigned frames
  if latencyFrames < usedFrames then do
    let left ← words.sub usedFrames latencyFrames
    words.toSigned left
  else pure 0

/-- Its frames. -/
def inFrames (words : Words m) (input : BluetoothStreamIn Port) (frameSize : Nat) (position : PortPosition) :
    m Int := do
  let scaled ← words.mul (position.delayNs / 1000000) input.sampleRate
  let latencyFrames := scaled / 1000
  let frames ← words.toSigned (position.bytes / frameSize)
  let frames ← input.inCounter words frames latencyFrames
  lessLatency words frames latencyFrames

/-- `in_calculate_starving_delay_ms`, with what the port stored; whether it stored something is not asked. -/
def inCalculateStarvingDelayMs (input : BluetoothStreamIn Port) (frameSize : Nat) (position : PortPosition) :
    Int × Int :=
  (Id.run (input.inFrames Words.wrapping frameSize position),
    (position.timestamp.tvSec * 1000000000 + position.timestamp.tvNSec).tdiv 1000)

/-- `in_get_capture_position`. -/
def inGetCapturePosition [AudioPort Port] (input : BluetoothStreamIn Port) (streamNull framesNull timeNull : Bool)
    (frameSize : Nat) (position : PortPosition) : Int × Option (Int × Int) :=
  if streamNull || framesNull || timeNull then (-einval, none)
  else if AudioPort.getState input.bluetoothInput = .standby then (-enosys, none)
  else (0, some (input.inCalculateStarvingDelayMs frameSize position))

end BluetoothStreamIn

/-! ### Both positions are exact and within two latencies -/

open Words

namespace BluetoothStreamOut

variable {out : BluetoothStreamOut Port} {frameSize : Nat} {fetched : PortPosition × Bool}

theorem checked_lessLatency {frames : Nat} (h : frames < 2 ^ 64) (latencyFrames : Nat) :
    (if latencyFrames < frames then checked.sub frames latencyFrames else pure 0) = some (frames - latencyFrames) := by
  split_ifs with hlatency
  · exact checked_sub hlatency.le h
  · rw [Nat.sub_eq_zero_of_le (not_lt.mp hlatency)]
    rfl

theorem checked_outDelayMs (hcount : out.framesCount ≤ (2 ^ 64 - 1) / 1000000) :
    out.outDelayMs checked fetched = some (out.delayReportMs fetched).1 := by
  have hscaled : out.framesCount * 1000 < 2 ^ 64 := by omega
  have hlegacy : out.framesCount * 1000 / out.sampleRate ≤ out.framesCount * 1000 := Nat.div_le_self _ _
  have hadd : checked.add (out.framesCount * 1000 / out.sampleRate) kExtraAudioSyncMs = some out.legacyDelayMs := by
    rw [checked_add (by rw [kExtraAudioSyncMs]; omega), legacyDelayMs, Nat.mod_eq_of_lt hscaled]
  rw [outDelayMs, checked_mul hscaled, Option.bind_eq_bind, Option.bind_some, hadd, delayReportMs]
  split_ifs <;> simp_all

theorem checked_outCounter (h : out.framesPresented < 2 ^ 64) (absorbedFrames latencyFrames : Nat) :
    out.outCounter checked absorbedFrames latencyFrames =
      some (usedCounter out.framesPresented absorbedFrames latencyFrames) := by
  rw [outCounter, ← usedCounter_eq]
  by_cases hahead : out.framesPresented < absorbedFrames
  · rw [if_pos hahead, if_pos hahead]
    rfl
  · rw [if_neg hahead, if_neg hahead, checked_sub (not_lt.mp hahead) h]
    rfl

/-- The delay that the stream computes is divided by the rate, so it fits with room for the rate too. -/
theorem delayReportMs_mul_lt (h : PositionRange out.framesPresented out.sampleRate frameSize fetched.1)
    (hcount : out.framesCount ≤ (2 ^ 64 - 1) / 1000000) :
    (out.delayReportMs fetched).1 * out.sampleRate < 2 ^ 64 := by
  have hreported : fetched.1.delayNs / 1000000 * out.sampleRate < 2 ^ 64 := h.mul_sampleRate_lt
  have hlegacy : out.legacyDelayMs * out.sampleRate < 2 ^ 64 := by
    have hdivided := Nat.div_mul_le_self (out.framesCount * 1000 % 2 ^ 64) out.sampleRate
    have hscaled := Nat.mod_le (out.framesCount * 1000) (2 ^ 64)
    have hrate := h.sampleRate_le
    rw [legacyDelayMs, kExtraAudioSyncMs, Nat.add_mul]
    omega
  rw [delayReportMs]
  split_ifs
  · exact hreported
  · exact hlegacy
  · exact hlegacy

theorem checked_outFrames (h : PositionRange out.framesPresented out.sampleRate frameSize fetched.1)
    (hcount : out.framesCount ≤ (2 ^ 64 - 1) / 1000000) (now : TimeSpec) :
    out.outFrames checked frameSize fetched = some (out.outCalculateFeedingDelayMs frameSize fetched now).1 := by
  have hpresented := h.framesPresented_lt
  have hmul := delayReportMs_mul_lt h hcount
  have hlatency : (out.delayReportMs fetched).1 * out.sampleRate / 1000 = out.latencyFrames fetched := by
    rw [latencyFrames, Nat.mod_eq_of_lt hmul]
  have hwrapped : out.framesPresented < 2 ^ 64 := by omega
  have hcounter := checked_outCounter hwrapped (fetched.1.bytes / frameSize) (out.latencyFrames fetched)
  have hle := (usedCounter_bounds out.framesPresented (fetched.1.bytes / frameSize) (out.latencyFrames fetched)).2
  simp only [outFrames, checked_outDelayMs hcount, checked_mul hmul, Option.bind_eq_bind, Option.bind_some, hlatency,
    hcounter, outCalculateFeedingDelayMs_fst]
  exact checked_lessLatency (by omega) _

/-- A presentation position is exact, and between one and two latencies behind what was presented. -/
theorem outGetPresentationPosition_bounds (h : PositionRange out.framesPresented out.sampleRate frameSize fetched.1)
    (hcount : out.framesCount ≤ (2 ^ 64 - 1) / 1000000) {framesNull timestampNull : Bool} {now timestamp : TimeSpec}
    {frames : Nat} (hgot : out.outGetPresentationPosition framesNull timestampNull frameSize fetched now =
      (0, some (frames, timestamp))) :
    out.outFrames checked frameSize fetched = some frames ∧
      out.framesPresented - 2 * out.latencyFrames fetched ≤ frames ∧
      frames ≤ out.framesPresented - out.latencyFrames fetched := by
  have hframes : (out.outCalculateFeedingDelayMs frameSize fetched now).1 = frames := by
    rw [outGetPresentationPosition] at hgot
    split_ifs at hgot
    · cases hgot
    · rw [Prod.mk.injEq, Option.some.injEq] at hgot
      rw [hgot.2]
  obtain ⟨hlow, hhigh⟩ :=
    usedCounter_bounds out.framesPresented (fetched.1.bytes / frameSize) (out.latencyFrames fetched)
  refine ⟨?_, ?_⟩
  · rw [checked_outFrames h hcount now, hframes]
  · rw [← hframes, outCalculateFeedingDelayMs_fst]
    omega

end BluetoothStreamOut

namespace BluetoothStreamIn

variable {input : BluetoothStreamIn Port} {frameSize : Nat} {position : PortPosition}

theorem checked_inCounter (h : input.framesPresented < 2 ^ 63) {dispersedFrames : Nat}
    (hdispersed : dispersedFrames < 2 ^ 63) (latencyFrames : Nat) :
    input.inCounter checked dispersedFrames latencyFrames =
      some (usedCounter input.framesPresented dispersedFrames latencyFrames : Int) := by
  rw [inCounter, checked_toUnsigned (by omega), Option.bind_eq_bind, Option.bind_some, ← usedCounter_eq]
  by_cases hahead : input.framesPresented < dispersedFrames
  · rw [if_pos hahead, if_pos hahead, checked_toSigned h]
  · rw [if_neg hahead, if_neg hahead, checked_sub (not_lt.mp hahead) (by omega), Option.bind_some,
      checked_toSigned h]
    split_ifs <;> rfl

theorem checked_lessLatency {usedFrames : Nat} (h : usedFrames < 2 ^ 63) (latencyFrames : Nat) :
    lessLatency checked (usedFrames : Int) latencyFrames = some ((usedFrames - latencyFrames : Nat) : Int) := by
  rw [lessLatency, checked_toUnsigned (by omega), Option.bind_eq_bind, Option.bind_some]
  split_ifs with hlatency
  · rw [checked_sub hlatency.le (by omega), Option.bind_some, checked_toSigned (by omega)]
  · rw [Nat.sub_eq_zero_of_le (not_lt.mp hlatency)]
    rfl

theorem checked_inFrames (h : PositionRange input.framesPresented input.sampleRate frameSize position) :
    input.inFrames checked frameSize position =
      some ((usedCounter input.framesPresented (position.bytes / frameSize) (input.latencyFrames position) -
        input.latencyFrames position : Nat) : Int) := by
  have hpresented := h.framesPresented_lt
  have hmul := h.mul_sampleRate_lt
  have hlatency : position.delayNs / 1000000 * input.sampleRate / 1000 = input.latencyFrames position := by
    rw [latencyFrames, Nat.mod_eq_of_lt hmul]
  have hle := (usedCounter_bounds input.framesPresented (position.bytes / frameSize) (input.latencyFrames position)).2
  rw [inFrames, checked_mul hmul, Option.bind_eq_bind, Option.bind_some]
  simp only [hlatency]
  rw [checked_toSigned h.absorbedFrames_lt, Option.bind_eq_bind, Option.bind_some,
    checked_inCounter hpresented h.absorbedFrames_lt, Option.bind_some,
    checked_lessLatency (hle.trans_lt hpresented)]

/-- Where the arithmetic is exact the machine gives its result. -/
theorem inFrames_agrees (input : BluetoothStreamIn Port) (frameSize : Nat) (position : PortPosition) :
    Agrees (input.inFrames checked frameSize position) (input.inFrames wrapping frameSize position) := by
  have hcounter (frames : Int) (latencyFrames : Nat) :
      Agrees (input.inCounter checked frames latencyFrames) (input.inCounter wrapping frames latencyFrames) := by
    apply (agrees_toUnsigned frames).bind
    intro dispersedFrames
    split_ifs
    · exact agrees_toSigned _
    · apply (agrees_sub _ _).bind
      intro behind
      split_ifs
      · exact agrees_toSigned _
      · exact agrees_pure _
  have hless (frames : Int) (latencyFrames : Nat) :
      Agrees (lessLatency checked frames latencyFrames) (lessLatency wrapping frames latencyFrames) := by
    apply (agrees_toUnsigned frames).bind
    intro usedFrames
    split_ifs
    · exact (agrees_sub _ _).bind agrees_toSigned
    · exact agrees_pure _
  apply (agrees_mul _ _).bind
  intro scaled
  apply (agrees_toSigned _).bind
  intro frames
  exact (hcounter frames _).bind fun frames => hless frames _

theorem inCalculateStarvingDelayMs_fst (h : PositionRange input.framesPresented input.sampleRate frameSize position) :
    (input.inCalculateStarvingDelayMs frameSize position).1 =
      ((usedCounter input.framesPresented (position.bytes / frameSize) (input.latencyFrames position) -
        input.latencyFrames position : Nat) : Int) := by
  have hmachine := inFrames_agrees input frameSize position _ (checked_inFrames h)
  rw [inCalculateStarvingDelayMs, hmachine, Id.run]

/-- So is a capture position. -/
theorem inGetCapturePosition_bounds [AudioPort Port]
    (h : PositionRange input.framesPresented input.sampleRate frameSize position)
    {streamNull framesNull timeNull : Bool} {frames time : Int}
    (hgot : input.inGetCapturePosition streamNull framesNull timeNull frameSize position = (0, some (frames, time))) :
    input.inFrames checked frameSize position = some frames ∧
      ((input.framesPresented - 2 * input.latencyFrames position : Nat) : Int) ≤ frames ∧
      frames ≤ (input.framesPresented - input.latencyFrames position : Nat) := by
  have hframes : (input.inCalculateStarvingDelayMs frameSize position).1 = frames := by
    rw [inGetCapturePosition] at hgot
    split_ifs at hgot
    · cases hgot
    · cases hgot
    · rw [Prod.mk.injEq, Option.some.injEq] at hgot
      rw [hgot.2]
  obtain ⟨hlow, hhigh⟩ :=
    usedCounter_bounds input.framesPresented (position.bytes / frameSize) (input.latencyFrames position)
  rw [← hframes, inCalculateStarvingDelayMs_fst h]
  refine ⟨checked_inFrames h, ?_⟩
  omega

end BluetoothStreamIn

/-- Every position that a stream gives, whatever the counters and the delay are, is computed without wrapping, and is
between one and two latencies behind what was presented. -/
theorem positions_bounded [AudioPort Port] :
    (∀ (out : BluetoothStreamOut Port) (frameSize : Nat) (fetched : PortPosition × Bool),
      PositionRange out.framesPresented out.sampleRate frameSize fetched.1 →
      (∃ microseconds sampleRate, out.framesCount = frameCount microseconds sampleRate) →
      ∀ (framesNull timestampNull : Bool) (now timestamp : TimeSpec) (frames : Nat),
        out.outGetPresentationPosition framesNull timestampNull frameSize fetched now = (0, some (frames, timestamp)) →
        out.outFrames checked frameSize fetched = some frames ∧
          out.framesPresented - 2 * out.latencyFrames fetched ≤ frames ∧
          frames ≤ out.framesPresented - out.latencyFrames fetched) ∧
    ∀ (input : BluetoothStreamIn Port) (frameSize : Nat) (position : PortPosition),
      PositionRange input.framesPresented input.sampleRate frameSize position →
      ∀ (streamNull framesNull timeNull : Bool) (frames time : Int),
        input.inGetCapturePosition streamNull framesNull timeNull frameSize position = (0, some (frames, time)) →
        input.inFrames checked frameSize position = some frames ∧
          ((input.framesPresented - 2 * input.latencyFrames position : Nat) : Int) ≤ frames ∧
          frames ≤ (input.framesPresented - input.latencyFrames position : Nat) := by
  refine ⟨fun out frameSize fetched h hcount framesNull timestampNull now timestamp frames hgot => ?_,
    fun input frameSize position h streamNull framesNull timeNull frames time hgot =>
      input.inGetCapturePosition_bounds h hgot⟩
  obtain ⟨microseconds, sampleRate, hcount⟩ := hcount
  exact out.outGetPresentationPosition_bounds h (hcount ▸ frameCount_le microseconds sampleRate) hgot

/-- A stream that was presented 60000 frames, of which the stack has absorbed 55000. -/
def at60000 : AidlStreamOut := { overAidl with sampleRate := 48000, framesCount := 480, framesPresented := 60000 }

def absorbed55000 : PortPosition := ⟨0, 220000, ⟨0, 0⟩⟩

def captured60000 : BluetoothStreamIn BluetoothAudioPortAidl := ⟨overAidl.bluetoothOutput, 48000, 60000⟩

theorem positions_bounded_at60000 :
    at60000.outFrames checked 4 (absorbed55000, false) = some 44920 ∧
      captured60000.inFrames checked 4 absorbed55000 = some 60000 := by
  have hpresented : at60000.outCalculateFeedingDelayMs 4 (absorbed55000, false) ⟨0, 0⟩ = (44920, ⟨0, 0⟩) := by decide
  have hcaptured : captured60000.inCalculateStarvingDelayMs 4 absorbed55000 = (60000, 0) := by decide
  refine ⟨?_, ?_⟩
  · exact (positions_bounded.1 at60000 4 (absorbed55000, false)
      ⟨by decide, by decide, by decide, by decide, by decide, by decide⟩ ⟨10000, 48000, by decide⟩ false false ⟨0, 0⟩
      ⟨0, 0⟩ 44920 (congrArg (fun position => (0, some position)) hpresented)).1
  · exact (positions_bounded.2 captured60000 4 absorbed55000
      ⟨by decide, by decide, by decide, by decide, by decide, by decide⟩ false false false 60000 0
      (congrArg (fun position => (0, some position)) hcaptured)).1

end Penrose.Bluetooth

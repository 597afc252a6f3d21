import Penrose.BluetoothStream

/-! The delay that a stream reports. The stack says how far behind the remote device is; over HIDL the answer reaches
the stream, over AIDL the session never says that there was one. -/

namespace Penrose.Bluetooth

variable {P O : Type}

structure TimeSpec where
  tvSec : Int
  tvNSec : Int

/-- The signed 64-bit numbers of AIDL as unsigned ones. -/
def toUInt64 (value : Int) : Nat := (value % 2 ^ 64).toNat

/-- What the stack answers over AIDL. -/
structure PresentationPosition where
  remoteDeviceAudioDelayNanos : Int
  transmittedOctets : Int
  transmittedOctetsTimestamp : TimeSpec

/-- What a port stores for a stream. -/
structure PortPosition where
  delayNs : Nat
  bytes : Nat
  timestamp : TimeSpec

def PresentationPosition.toPort (position : PresentationPosition) : PortPosition :=
  ⟨toUInt64 position.remoteDeviceAudioDelayNanos, toUInt64 position.transmittedOctets,
    position.transmittedOctetsTimestamp⟩

/-- `GetPresentationPosition` of the session: what it stores, and whether it says so. The stack's reply is `none`
if the call fails. -/
def BluetoothAudioSession.getPresentationPosition (session : BluetoothAudioSession P O)
    (reply : Option PresentationPosition) (position : PresentationPosition) : PresentationPosition × Bool :=
  if !session.isSessionReady then (position, false)
  else
    let retval := false
    match reply with
    | none => (position, false)
    | some position => (position, retval)

/-- `GetPresentationPosition` of the port. -/
def BluetoothAudioPortAidl.getPresentationPosition (port : BluetoothAudioPortAidl)
    (session : BluetoothAudioSession P O) (reply : Option PresentationPosition) (position : PortPosition) :
    PortPosition × Bool :=
  if !port.inUse then (position, false)
  else
    let (presentationPosition, retval) := session.getPresentationPosition reply ⟨0, 0, ⟨0, 0⟩⟩
    (presentationPosition.toPort, retval)

/-! ### HIDL -/

namespace Hidl

inductive SessionType where
  | unknown
  | a2dpSoftwareEncodingDatapath
  | a2dpHardwareOffloadDatapath
  | hearingAidSoftwareEncodingDatapath
  | leAudioSoftwareEncodingDatapath
  | leAudioSoftwareDecodedDatapath
  | leAudioHardwareOffloadEncodingDatapath
  | leAudioHardwareOffloadDecodingDatapath
  deriving DecidableEq

/-- `BluetoothAudioSession` where there is no AIDL to forward to, as far as the position needs it. -/
structure BluetoothAudioSession (P : Type) where
  sessionType : SessionType
  stackIface : Option P
  dataMQ : Option DataMQ

def BluetoothAudioSession.isSessionReady (session : BluetoothAudioSession P) : Bool :=
  let dataMQValid :=
    decide (session.sessionType = .a2dpHardwareOffloadDatapath) || session.dataMQ.any DataMQ.isValid
  session.stackIface.isSome && dataMQValid

inductive Status where
  | unknown | success | unsupportedCodecConfiguration | failure
  deriving DecidableEq

/-- What the stack replies: the call fails, or its callback gets a status and a position. -/
inductive Reply where
  | failed
  | answered (status : Status) (position : PortPosition)

/-- The position of a successful reply. -/
def Reply.position : Reply → Option PortPosition
  | .answered .success position => some position
  | _ => none

/-- `GetPresentationPosition` of the session. -/
def BluetoothAudioSession.getPresentationPosition (session : BluetoothAudioSession P) (reply : Reply)
    (position : PortPosition) : PortPosition × Bool :=
  if !session.isSessionReady then (position, false)
  else
    match reply with
    | .failed => (position, false)
    | .answered status answer => if status = .success then (answer, true) else (position, false)

structure BluetoothAudioPort where
  cookie : Nat
  state : BluetoothStreamState
  sessionType : SessionType
  isStereoToMono : Bool

def BluetoothAudioPort.inUse (port : BluetoothAudioPort) : Bool := port.cookie != kObserversCookieUndefined

/-- `GetPresentationPosition` of the port. -/
def BluetoothAudioPort.getPresentationPosition (port : BluetoothAudioPort) (session : BluetoothAudioSession P)
    (reply : Reply) (position : PortPosition) : PortPosition × Bool :=
  if !port.inUse then (position, false) else session.getPresentationPosition reply position

end Hidl

/-! ### The delay -/

def kMinimumDelayMs : Nat := 50
def kMaximumDelayMs : Nat := 1000
def kExtraAudioSyncMs : Nat := 200

namespace BluetoothStreamOut

variable {Port : Type}

/-- The delay that a stream computes for itself. -/
def legacyDelayMs (out : BluetoothStreamOut Port) : Nat :=
  out.framesCount * 1000 % 2 ^ 64 / out.sampleRate + kExtraAudioSyncMs

/-- The position that `out_calculate_feeding_delay_ms` starts with. -/
def noPosition : PortPosition := ⟨0, 0, ⟨0, 0⟩⟩

/-- The delay that `out_calculate_feeding_delay_ms` goes by, and whether it is that of the remote device; `fetched`
is what the port stored and said. -/
def delayReportMs (out : BluetoothStreamOut Port) (fetched : PortPosition × Bool) : Nat × Bool :=
  let delayReportMs := fetched.1.delayNs / 1000000
  if fetched.2 then
    if kMinimumDelayMs < delayReportMs ∧ delayReportMs < kMaximumDelayMs then (delayReportMs, true)
    else (out.legacyDelayMs, false)
  else (out.legacyDelayMs, false)

/-- `out_calculate_feeding_delay_ms` for the frames and the timestamp; `now` is what the clock says. -/
def outCalculateFeedingDelayMs (out : BluetoothStreamOut Port) (frameSize : Nat) (fetched : PortPosition × Bool)
    (now : TimeSpec) : Nat × TimeSpec :=
  let (delayReportMs, timestampFetched) := out.delayReportMs fetched
  let latencyFrames := delayReportMs * out.sampleRate % 2 ^ 64 / 1000
  let absorbedFrames := fetched.1.bytes / frameSize
  let frames :=
    if out.framesPresented < absorbedFrames then out.framesPresented
    else if latencyFrames < out.framesPresented - absorbedFrames then out.framesPresented
    else absorbedFrames
  (if latencyFrames < frames then frames - latencyFrames else 0,
    if timestampFetched then fetched.1.timestamp else now)

/-- `out_get_latency_ms`. -/
def outGetLatencyMs (out : BluetoothStreamOut Port) (fetched : PortPosition × Bool) : Nat :=
  (out.delayReportMs fetched).1 % 2 ^ 32

/-- The latency of a stream that uses what the stack says, if it says something in range. -/
def latencyOf (out : BluetoothStreamOut Port) (position : Option PortPosition) : Nat :=
  match position with
  | none => out.legacyDelayMs % 2 ^ 32
  | some position =>
      if 50 < position.delayNs / 1000000 ∧ position.delayNs / 1000000 < 1000 then position.delayNs / 1000000
      else out.legacyDelayMs % 2 ^ 32

end BluetoothStreamOut

/-! ### The two transports -/

/-- The session does not say that there was an answer, so neither does the port. -/
theorem BluetoothAudioPortAidl.getPresentationPosition_snd (port : BluetoothAudioPortAidl)
    (session : BluetoothAudioSession P O) (reply : Option PresentationPosition) (position : PortPosition) :
    (port.getPresentationPosition session reply position).2 = false := by
  rw [getPresentationPosition]
  split_ifs
  · rfl
  · rw [BluetoothAudioSession.getPresentationPosition]
    split_ifs
    · rfl
    · cases reply <;> rfl

theorem outGetLatencyMs_aidl (out : AidlStreamOut) (session : BluetoothAudioSession P O)
    (reply : Option PresentationPosition) (position : PortPosition) :
    out.outGetLatencyMs (out.bluetoothOutput.getPresentationPosition session reply position) =
      out.legacyDelayMs % 2 ^ 32 := by
  rw [BluetoothStreamOut.outGetLatencyMs, BluetoothStreamOut.delayReportMs,
    BluetoothAudioPortAidl.getPresentationPosition_snd]
  rfl

theorem outGetLatencyMs_hidl (out : BluetoothStreamOut Hidl.BluetoothAudioPort)
    {session : Hidl.BluetoothAudioSession P} (hinUse : out.bluetoothOutput.inUse = true)
    (hready : session.isSessionReady = true) (reply : Hidl.Reply) (position : PortPosition) :
    out.outGetLatencyMs (out.bluetoothOutput.getPresentationPosition session reply position) =
      out.latencyOf reply.position := by
  rw [Hidl.BluetoothAudioPort.getPresentationPosition, hinUse,
    Hidl.BluetoothAudioSession.getPresentationPosition.eq_def, hready]
  cases reply with
  | failed => rfl
  | answered status answer =>
      cases status with
      | success =>
          simp only [Hidl.Reply.position, BluetoothStreamOut.outGetLatencyMs, BluetoothStreamOut.delayReportMs,
            BluetoothStreamOut.latencyOf, kMinimumDelayMs, kMaximumDelayMs, Bool.not_true, Bool.false_eq_true,
            if_false, if_true]
          split_ifs <;> simp only
          omega
      | _ => rfl

/-- For the same answer of the stack, both transports give the latency that it asks for if and only if there is no
usable answer or the stream computes the same delay for itself. -/
theorem outGetLatencyMs_iff {out : AidlStreamOut} {hidlOut : BluetoothStreamOut Hidl.BluetoothAudioPort}
    {session : BluetoothAudioSession P O} {hidlSession : Hidl.BluetoothAudioSession P}
    (hframes : hidlOut.framesCount = out.framesCount) (hrate : hidlOut.sampleRate = out.sampleRate)
    (hinUse : hidlOut.bluetoothOutput.inUse = true) (hready : hidlSession.isSessionReady = true)
    {reply : Option PresentationPosition} {hidlReply : Hidl.Reply}
    (hsame : hidlReply.position = reply.map PresentationPosition.toPort) :
    let latency := out.outGetLatencyMs
      (out.bluetoothOutput.getPresentationPosition session reply BluetoothStreamOut.noPosition)
    let hidlLatency := hidlOut.outGetLatencyMs
      (hidlOut.bluetoothOutput.getPresentationPosition hidlSession hidlReply BluetoothStreamOut.noPosition)
    (latency = out.latencyOf (reply.map PresentationPosition.toPort) ∧
        hidlLatency = out.latencyOf (reply.map PresentationPosition.toPort) ∧ latency = hidlLatency) ↔
      ∀ position, reply = some position →
        50 < position.toPort.delayNs / 1000000 → position.toPort.delayNs / 1000000 < 1000 →
          position.toPort.delayNs / 1000000 = out.legacyDelayMs % 2 ^ 32 := by
  intro latency hidlLatency
  have haidl : latency = out.legacyDelayMs % 2 ^ 32 := outGetLatencyMs_aidl out session reply _
  have hhidl : hidlLatency = out.latencyOf (reply.map PresentationPosition.toPort) := by
    rw [← hsame]
    have h := outGetLatencyMs_hidl hidlOut hinUse hready hidlReply BluetoothStreamOut.noPosition
    have hstream (position : Option PortPosition) : hidlOut.latencyOf position = out.latencyOf position := by
      simp only [BluetoothStreamOut.latencyOf, BluetoothStreamOut.legacyDelayMs, hframes, hrate]
    exact h.trans (hstream _)
  rw [haidl, hhidl]
  cases reply with
  | none => simp [BluetoothStreamOut.latencyOf]
  | some position =>
      simp only [Option.map_some, BluetoothStreamOut.latencyOf, Option.some.injEq, forall_eq']
      generalize out.legacyDelayMs % 2 ^ 32 = legacy
      generalize position.toPort.delayNs / 1000000 = delay
      split_ifs with hrange
      · exact ⟨fun h _ _ => h.1.symm, fun h => ⟨(h hrange.1 hrange.2).symm, trivial, (h hrange.1 hrange.2).symm⟩⟩
      · exact ⟨fun _ hmin hmax => absurd ⟨hmin, hmax⟩ hrange, fun _ => ⟨rfl, trivial, rfl⟩⟩

/-- A stream on a session that is ready, over each of the transports. -/
def overAidl : AidlStreamOut :=
  ⟨⟨0x100, .started, .a2dpSoftwareEncodingDatapath, false⟩, 0, 44100, .outStereo, .pcm16Bit, 10000, 441, 0, 0⟩

def aidlSession : BluetoothAudioSession Unit Unit :=
  ⟨.a2dpSoftwareEncodingDatapath, some (), some ⟨⟨true⟩⟩, some (.pcmConfig ⟨44100, .stereo, 16, 10000⟩), [], []⟩

def overHidl : BluetoothStreamOut Hidl.BluetoothAudioPort :=
  ⟨⟨0x100, .started, .a2dpSoftwareEncodingDatapath, false⟩, 0, 44100, .outStereo, .pcm16Bit, 10000, 441, 0, 0⟩

def hidlSession : Hidl.BluetoothAudioSession Unit := ⟨.a2dpSoftwareEncodingDatapath, some (), some ⟨⟨true⟩⟩⟩

/-- A remote device that is behind by just what the stream computes for itself. -/
def asFarAsComputed : PresentationPosition := ⟨210000000, 0, ⟨0, 0⟩⟩

theorem outGetLatencyMs_iff_asFarAsComputed :
    overAidl.outGetLatencyMs (overAidl.bluetoothOutput.getPresentationPosition aidlSession (some asFarAsComputed)
        BluetoothStreamOut.noPosition) =
      overHidl.outGetLatencyMs (overHidl.bluetoothOutput.getPresentationPosition hidlSession
        (.answered .success asFarAsComputed.toPort) BluetoothStreamOut.noPosition) := by
  have hlegacy : ∀ position, some asFarAsComputed = some position →
      50 < position.toPort.delayNs / 1000000 → position.toPort.delayNs / 1000000 < 1000 →
        position.toPort.delayNs / 1000000 = overAidl.legacyDelayMs % 2 ^ 32 := by
    rintro position hposition - -
    obtain rfl := Option.some.inj hposition
    decide
  exact ((@outGetLatencyMs_iff _ _ overAidl overHidl aidlSession hidlSession rfl rfl rfl rfl (some asFarAsComputed)
    (.answered .success asFarAsComputed.toPort) rfl).mpr hlegacy).2.2

/-- A remote device that is 100 ms behind. -/
def farBehind : PresentationPosition := ⟨100000000, 0, ⟨0, 0⟩⟩

/-- Over AIDL the stream says 210 ms. -/
theorem farBehind_ignored :
    overAidl.outGetLatencyMs (overAidl.bluetoothOutput.getPresentationPosition aidlSession (some farBehind)
        BluetoothStreamOut.noPosition) = 210 ∧
      overAidl.latencyOf (some farBehind.toPort) = 100 ∧
        ¬ overAidl.outGetLatencyMs (overAidl.bluetoothOutput.getPresentationPosition aidlSession (some farBehind)
          BluetoothStreamOut.noPosition) = overAidl.latencyOf (some farBehind.toPort) := by
  decide

end Penrose.Bluetooth

import Penrose.BluetoothLegacy
import Penrose.BluetoothMiddleware

/-! The HIDL sessions where there is no AIDL to forward to. A session of version 2.1 has one of version 2.0, and the
configurations of the older types go through it. What the clients of both versions are shown follows the reports of the
stack, and they are told when it changes, except after a ready session is started anew with an invalid queue. -/

namespace Penrose.Bluetooth.Hidl

open Middleware (AudioConfiguration21 HidlCallback HidlStatus)

/-- `PcmParameters` of version 2.0. -/
structure PcmParameters20 where
  sampleRate : SampleRate
  channelMode : ChannelMode
  bitsPerSample : BitsPerSample

/-- `AudioConfiguration` of version 2.0. -/
inductive AudioConfiguration20 where
  | pcmConfig (config : PcmParameters20)
  | codecConfig (config : CodecConfiguration)

def kInvalidPcmParameters : PcmParameters20 := ⟨.rateUnknown, .unknown, .bitsUnknown⟩

def kInvalidCodecConfiguration : CodecConfiguration :=
  ⟨CodecType.unknown, 0x00000000, 0xffff, false, .sbcConfig ⟨0, 0, 0, 0, 0, 0, 0, 0⟩⟩

def kInvalidSoftwareAudioConfiguration : AudioConfiguration20 := .pcmConfig kInvalidPcmParameters

def kInvalidOffloadAudioConfiguration : AudioConfiguration20 := .codecConfig kInvalidCodecConfiguration

/-- The configuration that a session of the type has while it has none. -/
def invalidAudioConfig (sessionType : SessionType) : AudioConfiguration20 :=
  if sessionType = .a2dpHardwareOffloadDatapath then kInvalidOffloadAudioConfiguration
  else kInvalidSoftwareAudioConfiguration

/-- Both invalid configurations of version 2.1, which nothing is assigned to. -/
def kInvalidAudioConfiguration21 : AudioConfiguration21 := .pcmConfig ⟨.rateUnknown, .unknown, .bitsUnknown, 0⟩

/-- `BluetoothAudioSession` with its configuration and its observers. -/
structure SessionV20 (P O : Type) extends BluetoothAudioSession P where
  audioConfig : AudioConfiguration20
  observers : List (Nat × PortStatusCallbacks O)

variable {P O : Type}

namespace SessionV20

def create (sessionType : SessionType) : SessionV20 P O :=
  ⟨⟨sessionType, none, none⟩, kInvalidSoftwareAudioConfiguration, []⟩

def updateDataPath (session : SessionV20 P O) : Option DataMQDesc → SessionV20 P O × Bool
  | none => ({ session with dataMQ := none }, true)
  | some dataMq =>
      let tempDataMq : DataMQ := ⟨dataMq⟩
      if !tempDataMq.isValid then ({ session with dataMQ := none }, false)
      else ({ session with dataMQ := some tempDataMq }, true)

/-- The test of `UpdateAudioConfig`. -/
def takesAudioConfig (sessionType : SessionType) : AudioConfiguration20 → Bool
  | .pcmConfig _ =>
      sessionType == .a2dpSoftwareEncodingDatapath || sessionType == .hearingAidSoftwareEncodingDatapath
  | .codecConfig _ => sessionType == .a2dpHardwareOffloadDatapath

def updateAudioConfig (session : SessionV20 P O) (audioConfig : AudioConfiguration20) : SessionV20 P O × Bool :=
  if !takesAudioConfig session.sessionType audioConfig then (session, false)
  else ({ session with audioConfig := audioConfig }, true)

def reportSessionStatus (session : SessionV20 P O) : List (HidlCallback O) :=
  session.observers.map fun observer => .sessionChangedCb observer.2.owner observer.1

def onSessionStarted (session : SessionV20 P O) (stackIface : Option P) (dataMq : Option DataMQDesc)
    (audioConfig : AudioConfiguration20) : SessionV20 P O × List (HidlCallback O) :=
  match stackIface with
  | none => (session, [])
  | some stackIface =>
      let (session, configured) := session.updateAudioConfig audioConfig
      if !configured then (session, [])
      else
        let (session, connected) := session.updateDataPath dataMq
        if !connected then ({ session with audioConfig := invalidAudioConfig session.sessionType }, [])
        else
          let session := { session with stackIface := some stackIface }
          (session, session.reportSessionStatus)

def onSessionEnded (session : SessionV20 P O) : SessionV20 P O × List (HidlCallback O) :=
  let toggled := session.isSessionReady
  let session := { session with audioConfig := invalidAudioConfig session.sessionType, stackIface := none }
  let session := (session.updateDataPath none).1
  (session, if toggled then session.reportSessionStatus else [])

def reportControlStatus (session : SessionV20 P O) (startResp : Bool) (status : HidlStatus) : List (HidlCallback O) :=
  session.observers.map fun observer => .controlResultCb observer.2.owner observer.1 startResp status

def registerStatusCback (session : SessionV20 P O) (cbacks : PortStatusCallbacks O) : SessionV20 P O × Nat :=
  let initValue := session.sessionType.value <<< 8 &&& 0xff00
  let cookie := Bluetooth.BluetoothAudioSession.freeCookie session.observers kObserversCookieSize initValue
  if initValue + kObserversCookieSize ≤ cookie then (session, kObserversCookieUndefined)
  else ({ session with observers := session.observers ++ [(cookie, cbacks)] }, cookie)

def unregisterStatusCback (session : SessionV20 P O) (cookie : Nat) : SessionV20 P O :=
  { session with observers := session.observers.filter fun observer => observer.1 ≠ cookie }

def getAudioConfig (session : SessionV20 P O) : AudioConfiguration20 :=
  if session.isSessionReady then session.audioConfig else invalidAudioConfig session.sessionType

/-- The port that `StartStream`, `SuspendStream`, `StopStream` and `GetPresentationPosition` call. -/
def controlledPort (session : SessionV20 P O) : Option P :=
  if session.isSessionReady then session.stackIface else none

end SessionV20

/-- `BluetoothAudioSession_2_1`, whose type is that of `raw_session_type_`. -/
structure SessionV21 (P O : Type) where
  rawSessionType : SessionType
  audioSession : SessionV20 P O
  audioConfig21 : AudioConfiguration21

/-- `session_type_2_1_`, from the type that the session is made for. -/
def sessionType21 (sessionType : SessionType) : SessionType :=
  if is20SessionType sessionType || isUnsupported21SessionType sessionType then .unknown else sessionType

/-- The configuration that `OnSessionStarted` passes on to version 2.0. That of an LE codec has no member `pcmConfig`,
and the access to it ends the process. -/
def toAudioConfiguration20 : AudioConfiguration21 → Option AudioConfiguration20
  | .pcmConfig tmpPcm => some (.pcmConfig ⟨tmpPcm.sampleRate, tmpPcm.channelMode, tmpPcm.bitsPerSample⟩)
  | .codecConfig codecConfig => some (.codecConfig codecConfig)
  | .leAudioCodecConfig _ => none

/-- The configuration that `GetAudioConfig` makes of one of version 2.0. -/
def toAudioConfiguration21 : AudioConfiguration20 → AudioConfiguration21
  | .pcmConfig fromConf => .pcmConfig ⟨fromConf.sampleRate, fromConf.channelMode, fromConf.bitsPerSample, 0⟩
  | .codecConfig codecConfig => .codecConfig codecConfig

namespace SessionV21

def create (sessionType : SessionType) : SessionV21 P O :=
  ⟨sessionType, SessionV20.create sessionType, kInvalidAudioConfiguration21⟩

def getAudioConfig (session : SessionV21 P O) : AudioConfiguration21 :=
  if session.audioSession.isSessionReady then
    if sessionType21 session.rawSessionType ≠ .unknown then session.audioConfig21
    else toAudioConfiguration21 session.audioSession.getAudioConfig
  else kInvalidAudioConfiguration21

/-- The test of `UpdateAudioConfig`. -/
def takesAudioConfig (sessionType : SessionType) : AudioConfiguration21 → Bool
  | .pcmConfig _ =>
      sessionType == .a2dpSoftwareEncodingDatapath || sessionType == .hearingAidSoftwareEncodingDatapath ||
        sessionType == .leAudioSoftwareEncodingDatapath || sessionType == .leAudioSoftwareDecodedDatapath
  | .codecConfig _ => sessionType == .a2dpHardwareOffloadDatapath
  | .leAudioCodecConfig _ => false

def updateAudioConfig (session : SessionV21 P O) (audioConfig : AudioConfiguration21) : SessionV21 P O × Bool :=
  if !takesAudioConfig (sessionType21 session.rawSessionType) audioConfig then (session, false)
  else ({ session with audioConfig21 := audioConfig }, true)

def onSessionStarted (session : SessionV21 P O) (stackIface : Option P) (dataMq : Option DataMQDesc)
    (audioConfig : AudioConfiguration21) : Option (SessionV21 P O × List (HidlCallback O)) :=
  if sessionType21 session.rawSessionType = .unknown then
    (toAudioConfiguration20 audioConfig).map fun config =>
      let (audioSession, callbacks) := session.audioSession.onSessionStarted stackIface dataMq config
      ({ session with audioSession := audioSession }, callbacks)
  else
    match stackIface with
    | none => some (session, [])
    | some stackIface =>
        let (session, configured) := session.updateAudioConfig audioConfig
        if !configured then some (session, [])
        else
          let (audioSession, connected) := session.audioSession.updateDataPath dataMq
          if !connected then
            some ({ session with audioSession := audioSession, audioConfig21 := kInvalidAudioConfiguration21 }, [])
          else
            let audioSession := { audioSession with stackIface := some stackIface }
            some ({ session with audioSession := audioSession }, audioSession.reportSessionStatus)

end SessionV21

/-- What is called on the session of a type, through either version. -/
inductive HidlStep (P O : Type) where
  | onSessionStarted20 (stackIface : Option P) (dataMq : Option DataMQDesc) (audioConfig : AudioConfiguration20)
  | onSessionStarted21 (stackIface : Option P) (dataMq : Option DataMQDesc) (audioConfig : AudioConfiguration21)
  | onSessionEnded
  | reportControlStatus (startResp : Bool) (status : HidlStatus)
  | registerStatusCback (cbacks : PortStatusCallbacks O)
  | unregisterStatusCback (cookie : Nat)

/-- The session after a call and the callbacks that the call invokes, where the call does not end the process. -/
def HidlStep.apply (session : SessionV21 P O) : HidlStep P O → Option (SessionV21 P O × List (HidlCallback O))
  | .onSessionStarted20 stackIface dataMq audioConfig =>
      let (audioSession, callbacks) := session.audioSession.onSessionStarted stackIface dataMq audioConfig
      some ({ session with audioSession := audioSession }, callbacks)
  | .onSessionStarted21 stackIface dataMq audioConfig => session.onSessionStarted stackIface dataMq audioConfig
  | .onSessionEnded =>
      let (audioSession, callbacks) := session.audioSession.onSessionEnded
      some ({ session with audioSession := audioSession }, callbacks)
  | .reportControlStatus startResp status =>
      some (session, session.audioSession.reportControlStatus startResp status)
  | .registerStatusCback cbacks =>
      some ({ session with audioSession := (session.audioSession.registerStatusCback cbacks).1 }, [])
  | .unregisterStatusCback cookie =>
      some ({ session with audioSession := session.audioSession.unregisterStatusCback cookie }, [])

def SessionV21.next (session : SessionV21 P O) (step : HidlStep P O) : SessionV21 P O :=
  ((step.apply session).map Prod.fst).getD session

/-! ### What the clients are shown -/

/-- What the clients of a session can find out about it: the port that their control calls reach, and the answers of
`GetAudioConfig` in both versions. -/
structure View (P : Type) where
  controlledPort : Option P
  audioConfig20 : AudioConfiguration20
  audioConfig21 : AudioConfiguration21

def SessionV21.view (session : SessionV21 P O) : View P :=
  ⟨session.audioSession.controlledPort, session.audioSession.getAudioConfig, session.getAudioConfig⟩

namespace View

/-- No session is there. -/
def idle (sessionType : SessionType) : View P := ⟨none, invalidAudioConfig sessionType, kInvalidAudioConfiguration21⟩

/-- A session with a configuration of version 2.0. -/
def started20 (port : P) (audioConfig : AudioConfiguration20) : View P :=
  ⟨some port, audioConfig, toAudioConfiguration21 audioConfig⟩

/-- A session of a type that only version 2.1 has. -/
def started21 (port : P) (audioConfig : AudioConfiguration21) : View P :=
  ⟨some port, kInvalidSoftwareAudioConfiguration, audioConfig⟩

end View

/-- The queue and the session that a report offers, where it comes with a port and the type takes its configuration. -/
def HidlStep.offered (sessionType : SessionType) : HidlStep P O → Option (Option DataMQDesc × View P)
  | .onSessionStarted20 (some port) dataMq audioConfig =>
      if SessionV20.takesAudioConfig sessionType audioConfig then some (dataMq, .started20 port audioConfig) else none
  | .onSessionStarted21 (some port) dataMq audioConfig =>
      if sessionType21 sessionType = .unknown then
        (toAudioConfiguration20 audioConfig).bind fun config =>
          if SessionV20.takesAudioConfig sessionType config then some (dataMq, .started20 port config) else none
      else if SessionV21.takesAudioConfig sessionType audioConfig then some (dataMq, .started21 port audioConfig)
      else none
  | _ => none

/-- Whether data can go to a session of the type. -/
def IsUsable (sessionType : SessionType) (dataMq : Option DataMQDesc) : Prop :=
  if sessionType = .a2dpHardwareOffloadDatapath then dataMq.all DataMQDesc.valid = true
  else dataMq.any DataMQDesc.valid = true

instance (sessionType : SessionType) (dataMq : Option DataMQDesc) : Decidable (IsUsable sessionType dataMq) :=
  inferInstanceAs (Decidable (ite _ _ _))

/-- What a report should come to: a session that is offered replaces the one before it, and one without a usable queue
leaves none. -/
def View.next (sessionType : SessionType) (view : View P) (step : HidlStep P O) : View P :=
  match step.offered sessionType with
  | some (dataMq, started) => if IsUsable sessionType dataMq then started else idle sessionType
  | none =>
      match step with
      | .onSessionEnded => idle sessionType
      | _ => view

theorem View.next_of_offered {sessionType : SessionType} {step : HidlStep P O} {dataMq : Option DataMQDesc}
    {started : View P} (hoffered : step.offered sessionType = some (dataMq, started)) (view : View P) :
    view.next sessionType step = if IsUsable sessionType dataMq then started else View.idle sessionType := by
  unfold View.next
  rw [hoffered]

theorem View.next_of_not_offered {sessionType : SessionType} {step : HidlStep P O}
    (hoffered : step.offered sessionType = none) (hended : step ≠ .onSessionEnded) (view : View P) :
    view.next sessionType step = view := by
  unfold View.next
  rw [hoffered]
  cases step with
  | onSessionEnded => exact absurd rfl hended
  | _ => rfl

/-- The step does not end the process, the clients are shown what it should come to, and every observer is told when
that is something else than before. -/
def FollowsReports (session : SessionV21 P O) (step : HidlStep P O) : Prop :=
  ∃ after callbacks, step.apply session = some (after, callbacks) ∧
    after.view = session.view.next session.rawSessionType step ∧
    (after.view ≠ session.view → callbacks = session.audioSession.reportSessionStatus)

/-- An LE codec is given to a session that passes its configuration on to version 2.0. -/
def EndsProcess (session : SessionV21 P O) (step : HidlStep P O) : Prop :=
  ∃ stackIface dataMq codecConfig, step = .onSessionStarted21 stackIface dataMq (.leAudioCodecConfig codecConfig) ∧
    sessionType21 session.rawSessionType = .unknown

/-- A ready session is started anew with an invalid queue, and its data does not go through the queue or it has an
observer. -/
def LosesQueue (session : SessionV21 P O) (step : HidlStep P O) : Prop :=
  session.audioSession.isSessionReady = true ∧
    (∃ dataMq started, step.offered session.rawSessionType = some (some dataMq, started) ∧ dataMq.valid = false) ∧
    (session.rawSessionType = .a2dpHardwareOffloadDatapath ∨ session.audioSession.observers ≠ [])

/-! ### The session of version 2.0 -/

namespace SessionV20

theorem onSessionStarted_of_not_takes {session : SessionV20 P O} {audioConfig : AudioConfiguration20}
    (htakes : takesAudioConfig session.sessionType audioConfig = false) (stackIface : Option P)
    (dataMq : Option DataMQDesc) : session.onSessionStarted stackIface dataMq audioConfig = (session, []) := by
  cases stackIface with
  | none => rfl
  | some port => simp [onSessionStarted, updateAudioConfig, htakes]

theorem onSessionStarted_of_takes {session : SessionV20 P O} {audioConfig : AudioConfiguration20}
    (htakes : takesAudioConfig session.sessionType audioConfig = true) (port : P) (dataMq : Option DataMQDesc) :
    session.onSessionStarted (some port) dataMq audioConfig =
      if dataMq.all DataMQDesc.valid then
        ({ session with audioConfig := audioConfig, dataMQ := dataMq.map DataMQ.mk, stackIface := some port },
          session.reportSessionStatus)
      else ({ session with audioConfig := invalidAudioConfig session.sessionType, dataMQ := none }, []) := by
  cases dataMq with
  | none => simp [onSessionStarted, updateAudioConfig, htakes, updateDataPath, reportSessionStatus]
  | some desc =>
      cases hvalid : desc.valid <;>
        simp [onSessionStarted, updateAudioConfig, htakes, updateDataPath, DataMQ.isValid, hvalid, reportSessionStatus]

end SessionV20

/-! ### The session of version 2.1 -/

theorem ne_offload_of_sessionType21 {sessionType : SessionType} (htype : sessionType21 sessionType ≠ .unknown) :
    is20SessionType sessionType = false ∧ sessionType ≠ .a2dpHardwareOffloadDatapath ∧
      sessionType21 sessionType = sessionType := by
  cases sessionType <;> first | exact absurd rfl htype | exact ⟨rfl, by decide, rfl⟩

namespace SessionV21

/-- The two sessions are of one type, and that of version 2.0 keeps no configuration where the type is not its own. -/
structure Agrees (session : SessionV21 P O) : Prop where
  sessionType : session.audioSession.sessionType = session.rawSessionType
  audioConfig : is20SessionType session.rawSessionType = false →
    session.audioSession.audioConfig = kInvalidSoftwareAudioConfiguration

theorem create_agrees (sessionType : SessionType) : (create sessionType : SessionV21 P O).Agrees :=
  ⟨rfl, fun _ => rfl⟩

variable {session : SessionV21 P O}

theorem Agrees.view_of_not_ready (h : session.Agrees) (hready : session.audioSession.isSessionReady = false) :
    session.view = View.idle session.rawSessionType := by
  simp [view, View.idle, SessionV20.controlledPort, SessionV20.getAudioConfig, getAudioConfig, hready, h.sessionType]

theorem view_of_ready20 (hready : session.audioSession.isSessionReady = true)
    (htype : sessionType21 session.rawSessionType = .unknown) :
    session.view = ⟨session.audioSession.stackIface, session.audioSession.audioConfig,
      toAudioConfiguration21 session.audioSession.audioConfig⟩ := by
  simp [view, SessionV20.controlledPort, SessionV20.getAudioConfig, getAudioConfig, hready, htype]

theorem Agrees.view_of_ready21 (h : session.Agrees) (hready : session.audioSession.isSessionReady = true)
    (htype : sessionType21 session.rawSessionType ≠ .unknown) :
    session.view = ⟨session.audioSession.stackIface, kInvalidSoftwareAudioConfiguration, session.audioConfig21⟩ := by
  have hconfig := h.audioConfig (ne_offload_of_sessionType21 htype).1
  simp [view, SessionV20.controlledPort, SessionV20.getAudioConfig, getAudioConfig, hready, htype, hconfig]

end SessionV21

/-- What a session is after another has been offered. -/
structure StartedAnew (session after : SessionV21 P O) (dataMq : Option DataMQDesc) (started : View P) : Prop where
  agrees : after.Agrees
  rawSessionType : after.rawSessionType = session.rawSessionType
  dataMQ : after.audioSession.dataMQ = if dataMq.all DataMQDesc.valid then dataMq.map DataMQ.mk else none
  stackIface : after.audioSession.stackIface =
    if dataMq.all DataMQDesc.valid then started.controlledPort else session.audioSession.stackIface
  isSome : started.controlledPort.isSome = true
  view : dataMq.all DataMQDesc.valid = true → after.audioSession.isSessionReady = true → after.view = started

/-- The types whose configurations version 2.0 takes are its own. -/
theorem is20_of_takesAudioConfig {sessionType : SessionType} {audioConfig : AudioConfiguration20}
    (htakes : SessionV20.takesAudioConfig sessionType audioConfig = true) :
    is20SessionType sessionType = true ∧ sessionType21 sessionType = .unknown := by
  cases audioConfig <;> cases sessionType <;> first | exact ⟨rfl, rfl⟩ | exact Bool.noConfusion htakes

namespace SessionV21

variable {session : SessionV21 P O}

theorem onSessionStarted_of_takes {audioConfig : AudioConfiguration21}
    (htype : sessionType21 session.rawSessionType ≠ .unknown)
    (htakes : takesAudioConfig session.rawSessionType audioConfig = true) (port : P) (dataMq : Option DataMQDesc) :
    session.onSessionStarted (some port) dataMq audioConfig = some
      (if dataMq.all DataMQDesc.valid then
        (⟨session.rawSessionType, { session.audioSession with dataMQ := dataMq.map DataMQ.mk, stackIface := some port },
            audioConfig⟩, session.audioSession.reportSessionStatus)
      else
        (⟨session.rawSessionType, { session.audioSession with dataMQ := none }, kInvalidAudioConfiguration21⟩,
          [])) := by
  have hsame := (ne_offload_of_sessionType21 htype).2.2
  rw [onSessionStarted, if_neg htype]
  cases dataMq with
  | none => simp [updateAudioConfig, hsame, htakes, SessionV20.updateDataPath, SessionV20.reportSessionStatus]
  | some desc =>
      cases hvalid : desc.valid <;>
        simp [updateAudioConfig, hsame, htakes, SessionV20.updateDataPath, DataMQ.isValid, hvalid,
          SessionV20.reportSessionStatus]

theorem Agrees.startedAnew20 (h : session.Agrees) {audioConfig : AudioConfiguration20}
    (htakes : SessionV20.takesAudioConfig session.rawSessionType audioConfig = true) (port : P)
    (dataMq : Option DataMQDesc) :
    StartedAnew session
        { session with audioSession := (session.audioSession.onSessionStarted (some port) dataMq audioConfig).1 } dataMq
        (.started20 port audioConfig) ∧
      (session.audioSession.onSessionStarted (some port) dataMq audioConfig).2 =
        if dataMq.all DataMQDesc.valid then session.audioSession.reportSessionStatus else [] := by
  obtain ⟨his20, htype⟩ := is20_of_takesAudioConfig htakes
  rw [← h.sessionType] at htakes
  rw [SessionV20.onSessionStarted_of_takes htakes port dataMq]
  have hown {P : Prop} (hnot : is20SessionType session.rawSessionType = false) : P := by simp [his20] at hnot
  split
  case isTrue hvalid =>
    exact ⟨⟨⟨h.sessionType, hown⟩, rfl, (if_pos hvalid).symm, (if_pos hvalid).symm, rfl,
      fun _ hready => view_of_ready20 hready htype⟩, rfl⟩
  case isFalse hinvalid =>
    exact ⟨⟨⟨h.sessionType, hown⟩, rfl, (if_neg hinvalid).symm, (if_neg hinvalid).symm, rfl,
      fun hvalid => absurd hvalid hinvalid⟩, rfl⟩

theorem Agrees.startedAnew21 (h : session.Agrees) {audioConfig : AudioConfiguration21}
    (htype : sessionType21 session.rawSessionType ≠ .unknown)
    (htakes : takesAudioConfig session.rawSessionType audioConfig = true) (port : P) (dataMq : Option DataMQDesc) :
    ∃ after : SessionV21 P O,
      session.onSessionStarted (some port) dataMq audioConfig =
          some (after, if dataMq.all DataMQDesc.valid then session.audioSession.reportSessionStatus else []) ∧
        StartedAnew session after dataMq (.started21 port audioConfig) := by
  have hconfig := h.audioConfig (ne_offload_of_sessionType21 htype).1
  rw [onSessionStarted_of_takes htype htakes port dataMq]
  split
  case isTrue hvalid =>
    refine ⟨_, rfl, ⟨h.sessionType, fun _ => hconfig⟩, rfl, (if_pos hvalid).symm, (if_pos hvalid).symm, rfl, ?_⟩
    intro _ hready
    exact Agrees.view_of_ready21 ⟨h.sessionType, fun _ => hconfig⟩ hready htype
  case isFalse hinvalid =>
    exact ⟨_, rfl, ⟨h.sessionType, fun _ => hconfig⟩, rfl, (if_neg hinvalid).symm, (if_neg hinvalid).symm, rfl,
      fun hvalid => absurd hvalid hinvalid⟩

/-- A session that is offered is started, or the session before it keeps the port and loses the queue. -/
theorem Agrees.apply_of_offered (h : session.Agrees) {step : HidlStep P O} {dataMq : Option DataMQDesc}
    {started : View P} (hoffered : step.offered session.rawSessionType = some (dataMq, started)) :
    ∃ after, step.apply session =
        some (after, if dataMq.all DataMQDesc.valid then session.audioSession.reportSessionStatus else []) ∧
      StartedAnew session after dataMq started := by
  cases step with
  | onSessionStarted20 stackIface queue audioConfig =>
      cases stackIface with
      | none => cases hoffered
      | some port =>
          rw [HidlStep.offered] at hoffered
          split at hoffered
          case isTrue htakes =>
            cases hoffered
            obtain ⟨hstarted, hcallbacks⟩ := h.startedAnew20 htakes port dataMq
            exact ⟨_, congrArg some (Prod.ext rfl hcallbacks), hstarted⟩
          case isFalse => cases hoffered
  | onSessionStarted21 stackIface queue audioConfig =>
      cases stackIface with
      | none => cases hoffered
      | some port =>
          rw [HidlStep.offered] at hoffered
          split at hoffered
          case isTrue htype =>
            obtain ⟨config, hconfig, hoffered⟩ := Option.bind_eq_some_iff.mp hoffered
            split at hoffered
            case isTrue htakes =>
              cases hoffered
              obtain ⟨hstarted, hcallbacks⟩ := h.startedAnew20 htakes port dataMq
              refine ⟨_, ?_, hstarted⟩
              rw [HidlStep.apply, onSessionStarted, if_pos htype, hconfig]
              exact congrArg some (Prod.ext rfl hcallbacks)
            case isFalse => cases hoffered
          case isFalse htype =>
            split at hoffered
            case isTrue htakes =>
              cases hoffered
              exact h.startedAnew21 htype htakes port dataMq
            case isFalse => cases hoffered
  | onSessionEnded => cases hoffered
  | reportControlStatus startResp status => cases hoffered
  | registerStatusCback cbacks => cases hoffered
  | unregisterStatusCback cookie => cases hoffered

/-- A session that nothing is offered to goes on as it was. -/
theorem Agrees.apply_of_not_offered (h : session.Agrees) {step : HidlStep P O}
    (hoffered : step.offered session.rawSessionType = none) (hended : step ≠ .onSessionEnded)
    (hprocess : ¬EndsProcess session step) :
    ∃ after callbacks, step.apply session = some (after, callbacks) ∧ after.Agrees ∧
      after.rawSessionType = session.rawSessionType ∧ after.view = session.view := by
  cases step with
  | onSessionStarted20 stackIface dataMq audioConfig =>
      refine ⟨session, [], ?_, h, rfl, rfl⟩
      cases stackIface with
      | none => rfl
      | some port =>
          have htakes : SessionV20.takesAudioConfig session.audioSession.sessionType audioConfig = false := by
            simpa [HidlStep.offered, h.sessionType] using hoffered
          rw [HidlStep.apply, SessionV20.onSessionStarted_of_not_takes htakes]
  | onSessionStarted21 stackIface dataMq audioConfig =>
      refine ⟨session, [], ?_, h, rfl, rfl⟩
      rw [HidlStep.apply, onSessionStarted.eq_def]
      by_cases htype : sessionType21 session.rawSessionType = .unknown
      · rw [if_pos htype]
        cases hconfig : toAudioConfiguration20 audioConfig with
        | none =>
            cases audioConfig with
            | leAudioCodecConfig codecConfig =>
                exact absurd ⟨stackIface, dataMq, codecConfig, rfl, htype⟩ hprocess
            | pcmConfig config => cases hconfig
            | codecConfig config => cases hconfig
        | some config =>
            cases stackIface with
            | none => rfl
            | some port =>
                have htakes : SessionV20.takesAudioConfig session.audioSession.sessionType config = false := by
                  simpa [HidlStep.offered, h.sessionType, htype, hconfig] using hoffered
                rw [Option.map_some, SessionV20.onSessionStarted_of_not_takes htakes]
      · rw [if_neg htype]
        cases stackIface with
        | none => rfl
        | some port =>
            have htakes : takesAudioConfig session.rawSessionType audioConfig = false := by
              simpa [HidlStep.offered, htype] using hoffered
            simp [updateAudioConfig, (ne_offload_of_sessionType21 htype).2.2, htakes]
  | onSessionEnded => exact absurd rfl hended
  | reportControlStatus startResp status => exact ⟨session, _, rfl, h, rfl, rfl⟩
  | registerStatusCback cbacks =>
      refine ⟨_, [], rfl, ?_, rfl, ?_⟩
      · rw [SessionV20.registerStatusCback]
        split <;> exact ⟨h.sessionType, h.audioConfig⟩
      · rw [SessionV20.registerStatusCback]
        split <;> rfl
  | unregisterStatusCback cookie => exact ⟨_, [], rfl, ⟨h.sessionType, h.audioConfig⟩, rfl, rfl⟩

/-- The end of a session leaves none. -/
theorem Agrees.apply_onSessionEnded (h : session.Agrees) :
    ∃ after, (HidlStep.onSessionEnded : HidlStep P O).apply session =
        some (after, if session.audioSession.isSessionReady then session.audioSession.reportSessionStatus else []) ∧
      after.Agrees ∧ after.rawSessionType = session.rawSessionType ∧ after.view = View.idle session.rawSessionType := by
  have hagrees : SessionV21.Agrees
      { session with audioSession := (session.audioSession.onSessionEnded).1 } := by
    refine ⟨h.sessionType, fun hnot => ?_⟩
    have hoffload : session.audioSession.sessionType ≠ .a2dpHardwareOffloadDatapath := by
      intro hoffload
      rw [← h.sessionType, hoffload] at hnot
      cases hnot
    exact if_neg hoffload
  exact ⟨_, rfl, hagrees, rfl, hagrees.view_of_not_ready rfl⟩

theorem apply_of_endsProcess {step : HidlStep P O} (hprocess : EndsProcess session step) :
    step.apply session = none := by
  obtain ⟨stackIface, dataMq, codecConfig, rfl, htype⟩ := hprocess
  rw [HidlStep.apply, onSessionStarted.eq_def, if_pos htype]
  rfl

theorem Agrees.next (h : session.Agrees) (step : HidlStep P O) :
    (session.next step).Agrees ∧ (session.next step).rawSessionType = session.rawSessionType := by
  by_cases hprocess : EndsProcess session step
  · rw [SessionV21.next, apply_of_endsProcess hprocess]
    exact ⟨h, rfl⟩
  · cases hoffered : step.offered session.rawSessionType with
    | some offer =>
        obtain ⟨after, happly, hstarted⟩ := h.apply_of_offered hoffered
        rw [SessionV21.next, happly]
        exact ⟨hstarted.agrees, hstarted.rawSessionType⟩
    | none =>
        by_cases hended : step = .onSessionEnded
        · obtain ⟨after, happly, hagrees, htype, -⟩ := h.apply_onSessionEnded
          rw [SessionV21.next, hended, happly]
          exact ⟨hagrees, htype⟩
        · obtain ⟨after, callbacks, happly, hagrees, htype, -⟩ := h.apply_of_not_offered hoffered hended hprocess
          rw [SessionV21.next, happly]
          exact ⟨hagrees, htype⟩

/-! ### Readiness -/

theorem isSome_controlledPort (session : SessionV21 P O) :
    session.view.controlledPort.isSome = session.audioSession.isSessionReady := by
  cases hready : session.audioSession.isSessionReady with
  | false => simp [view, SessionV20.controlledPort, hready]
  | true =>
      have hport : session.audioSession.stackIface.isSome = true := by
        simp only [BluetoothAudioSession.isSessionReady, Bool.and_eq_true] at hready
        exact hready.1
      simp [view, SessionV20.controlledPort, hready, hport]

end SessionV21

namespace StartedAnew

variable {session after : SessionV21 P O} {dataMq : Option DataMQDesc} {started : View P}

theorem isSessionReady_of_valid (h : StartedAnew session after dataMq started)
    (hvalid : dataMq.all DataMQDesc.valid = true) :
    after.audioSession.isSessionReady = decide (IsUsable session.rawSessionType dataMq) := by
  have htype := h.agrees.sessionType.trans h.rawSessionType
  have hport := h.isSome
  have hqueue : (dataMq.map DataMQ.mk).any DataMQ.isValid = dataMq.any DataMQDesc.valid := by cases dataMq <;> rfl
  rw [BluetoothAudioSession.isSessionReady, h.stackIface, h.dataMQ, if_pos hvalid, if_pos hvalid, hport, hqueue, htype]
  by_cases hoffload : session.rawSessionType = .a2dpHardwareOffloadDatapath <;> simp [IsUsable, hoffload, hvalid]

theorem isSessionReady_of_invalid (h : StartedAnew session after dataMq started) (hagrees : session.Agrees)
    (hinvalid : ¬dataMq.all DataMQDesc.valid = true) :
    after.audioSession.isSessionReady =
      (decide (session.rawSessionType = .a2dpHardwareOffloadDatapath) && session.audioSession.isSessionReady) := by
  have htype := h.agrees.sessionType.trans h.rawSessionType
  rw [BluetoothAudioSession.isSessionReady, BluetoothAudioSession.isSessionReady, h.stackIface, h.dataMQ,
    if_neg hinvalid, if_neg hinvalid, htype, hagrees.sessionType]
  by_cases hoffload : session.rawSessionType = .a2dpHardwareOffloadDatapath <;> simp [hoffload]

end StartedAnew

/-- A valid queue, or none: the session that is offered is shown, where the queue is usable, and all are told. -/
theorem followsReports_of_valid {session : SessionV21 P O} (h : session.Agrees) {step : HidlStep P O}
    {dataMq : Option DataMQDesc} {started : View P}
    (hoffered : step.offered session.rawSessionType = some (dataMq, started))
    (hvalid : dataMq.all DataMQDesc.valid = true) : FollowsReports session step := by
  obtain ⟨after, happly, hstarted⟩ := h.apply_of_offered hoffered
  rw [if_pos hvalid] at happly
  refine ⟨after, _, happly, ?_, fun _ => rfl⟩
  have hready := hstarted.isSessionReady_of_valid hvalid
  rw [View.next_of_offered hoffered]
  by_cases husable : IsUsable session.rawSessionType dataMq
  · rw [decide_eq_true husable] at hready
    exact (hstarted.view hvalid hready).trans (if_pos husable).symm
  · rw [decide_eq_false husable] at hready
    rw [hstarted.agrees.view_of_not_ready hready, hstarted.rawSessionType]
    exact (if_neg husable).symm

theorem not_isUsable_of_invalid {sessionType : SessionType} {desc : DataMQDesc} (hinvalid : desc.valid = false) :
    ¬IsUsable sessionType (some desc) := by
  unfold IsUsable
  split <;> simp [hinvalid]

/-- An invalid queue: nobody is told, and a session whose data does not go through the queue is still shown. -/
theorem followsReports_iff_of_invalid {session : SessionV21 P O} (h : session.Agrees) {step : HidlStep P O}
    {desc : DataMQDesc} {started : View P}
    (hoffered : step.offered session.rawSessionType = some (some desc, started)) (hinvalid : desc.valid = false) :
    FollowsReports session step ↔ ¬LosesQueue session step := by
  obtain ⟨after, happly, hstarted⟩ := h.apply_of_offered hoffered
  have hnot : ¬(some desc).all DataMQDesc.valid = true := by simp [hinvalid]
  have hready := hstarted.isSessionReady_of_invalid h hnot
  have hnext : session.view.next session.rawSessionType step = View.idle session.rawSessionType :=
    (View.next_of_offered hoffered _).trans (if_neg (not_isUsable_of_invalid hinvalid))
  have hloses : LosesQueue session step ↔ session.audioSession.isSessionReady = true ∧
      (session.rawSessionType = .a2dpHardwareOffloadDatapath ∨ session.audioSession.observers ≠ []) :=
    ⟨fun hlost => ⟨hlost.1, hlost.2.2⟩, fun hlost => ⟨hlost.1, ⟨desc, started, hoffered, hinvalid⟩, hlost.2⟩⟩
  have hfollows : FollowsReports session step ↔ after.view = View.idle session.rawSessionType ∧
      (after.view ≠ session.view → session.audioSession.observers = []) := by
    rw [if_neg hnot] at happly
    constructor
    · rintro ⟨after', callbacks, happly', hview, htold⟩
      obtain ⟨rfl, rfl⟩ := Prod.mk.inj (Option.some.inj (happly.symm.trans happly'))
      exact ⟨hview.trans hnext, fun hchanged => List.map_eq_nil_iff.mp (htold hchanged).symm⟩
    · rintro ⟨hview, htold⟩
      exact ⟨after, [], happly, hview.trans hnext.symm, fun hchanged => (List.map_eq_nil_iff.mpr (htold hchanged)).symm⟩
  rw [hloses, hfollows]
  cases hbefore : session.audioSession.isSessionReady with
  | false =>
      rw [hbefore, Bool.and_false] at hready
      have hidle := hstarted.agrees.view_of_not_ready hready
      rw [hstarted.rawSessionType] at hidle
      refine iff_of_true ⟨hidle, fun hchanged => ?_⟩ (by simp)
      exact absurd (hidle.trans (h.view_of_not_ready hbefore).symm) hchanged
  | true =>
      rw [hbefore, Bool.and_true] at hready
      have hshown := session.isSome_controlledPort
      rw [hbefore] at hshown
      by_cases hoffload : session.rawSessionType = .a2dpHardwareOffloadDatapath
      · have hstill := after.isSome_controlledPort
        rw [hready, decide_eq_true hoffload] at hstill
        refine iff_of_false ?_ (by simp [hoffload])
        rintro ⟨hidle, -⟩
        rw [hidle] at hstill
        cases hstill
      · rw [decide_eq_false hoffload] at hready
        have hidle := hstarted.agrees.view_of_not_ready hready
        rw [hstarted.rawSessionType] at hidle
        have hchanged : after.view ≠ session.view := by
          intro hsame
          rw [← hsame, hidle] at hshown
          cases hshown
        constructor
        · rintro ⟨-, hnone⟩ ⟨-, hlost⟩
          exact hlost.elim hoffload fun hsome => hsome (hnone hchanged)
        · intro hkept
          refine ⟨hidle, fun _ => ?_⟩
          by_contra hsome
          exact hkept ⟨rfl, Or.inr hsome⟩

theorem followsReports_iff {session : SessionV21 P O} (h : session.Agrees) (step : HidlStep P O) :
    FollowsReports session step ↔ ¬EndsProcess session step ∧ ¬LosesQueue session step := by
  by_cases hprocess : EndsProcess session step
  · refine iff_of_false ?_ fun hboth => hboth.1 hprocess
    rintro ⟨after, callbacks, happly, -⟩
    rw [SessionV21.apply_of_endsProcess hprocess] at happly
    cases happly
  rw [and_iff_right hprocess]
  cases hoffered : step.offered session.rawSessionType with
  | some offer =>
      obtain ⟨dataMq, started⟩ := offer
      by_cases hvalid : dataMq.all DataMQDesc.valid = true
      · refine iff_of_true (followsReports_of_valid h hoffered hvalid) ?_
        rintro ⟨-, ⟨desc, started', hoffered', hinvalid⟩, -⟩
        obtain ⟨rfl, -⟩ := Prod.mk.inj (Option.some.inj (hoffered.symm.trans hoffered'))
        simp [hinvalid] at hvalid
      · cases dataMq with
        | none => exact absurd rfl hvalid
        | some desc => exact followsReports_iff_of_invalid h hoffered (Bool.eq_false_iff.mpr hvalid)
  | none =>
      refine iff_of_true ?_ ?_
      · by_cases hended : step = .onSessionEnded
        · obtain ⟨after, happly, -, -, hidle⟩ := h.apply_onSessionEnded
          subst hended
          refine ⟨after, _, happly, hidle, fun hchanged => ?_⟩
          cases hready : session.audioSession.isSessionReady with
          | true => rfl
          | false => exact absurd (hidle.trans (h.view_of_not_ready hready).symm) hchanged
        · obtain ⟨after, callbacks, happly, -, -, hview⟩ := h.apply_of_not_offered hoffered hended hprocess
          exact ⟨after, callbacks, happly, hview.trans (View.next_of_not_offered hoffered hended _).symm,
            fun hchanged => absurd hview hchanged⟩
      · rintro ⟨-, ⟨desc, started, hsome, -⟩, -⟩
        rw [hoffered] at hsome
        cases hsome

/-- Through a run of calls, in either version, the clients are shown the session that the stack has started last, and
are told of every change, iff no LE codec is passed on to version 2.0 and no ready session is started anew with an
invalid queue. -/
theorem run_followsReports_iff (sessionType : SessionType) (steps : List (HidlStep P O)) :
    Run SessionV21.next FollowsReports (SessionV21.create sessionType) steps ↔
      Run SessionV21.next (fun session step => ¬EndsProcess session step ∧ ¬LosesQueue session step)
        (SessionV21.create sessionType) steps :=
  Run.iff_of_inv (fun _ step (h : SessionV21.Agrees _) _ => followsReports_iff h step)
    (fun _ step h _ _ => (h.next step).1) (SessionV21.create_agrees sessionType) (Run.forall_iff.mpr fun _ _ => trivial)

end Penrose.Bluetooth.Hidl

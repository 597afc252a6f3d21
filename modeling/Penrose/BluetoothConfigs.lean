import Penrose.BluetoothLatency

/-! What `LoadAudioConfig` and `SetUp` of an output port do, over AIDL and HIDL. A session that is not ready answers
with a configuration of unknown values, and the port then writes nothing where the caller expects one. -/

namespace Penrose.Bluetooth

variable {P O : Type}

/-- The devices that a port knows, and the others. -/
inductive AudioDevice where
  | outBluetoothA2dp | outBluetoothA2dpHeadphones | outBluetoothA2dpSpeaker | outHearingAid | outBleHeadset
  | outBleSpeaker | inBleHeadset | outBleBroadcast
  | other (value : Nat)

def kBluetoothDefaultSampleRate : Nat := 44100

/-- What an output port writes where it has no PCM configuration to load. -/
def defaultOutputConfig : AudioConfig := ⟨kBluetoothDefaultSampleRate, .outStereo, .pcm16Bit⟩

/-! ### AIDL -/

/-- `GetAudioConfig` of the session: what is not ready has the default of its kind. -/
def BluetoothAudioSession.getAudioConfig (session : BluetoothAudioSession P O) : AudioConfiguration :=
  let unknown : AudioConfiguration :=
    match session.sessionType with
    | .a2dpHardwareOffloadEncodingDatapath | .a2dpHardwareOffloadDecodingDatapath => .a2dpConfig ⟨.unknown, .lc3Config⟩
    | .leAudioHardwareOffloadEncodingDatapath | .leAudioHardwareOffloadDecodingDatapath => .leAudioConfig .unknown
    | .leAudioBroadcastHardwareOffloadEncodingDatapath => .leAudioBroadcastConfig
    | _ => .pcmConfig ⟨0, .unknown, 0, 0⟩
  if !session.isSessionReady then unknown else session.audioConfig.getD unknown

def outputChannelModeToAudioFormat : ChannelMode → AudioChannelMask
  | .mono => .outMono
  | .stereo => .outStereo
  | _ => .outStereo

/-- Classic sessions pack 24 bits, the others do not. -/
def bitsPerSampleToAudioFormat (bitsPerSample : Int) (sessionType : SessionType) : AudioFormat :=
  if bitsPerSample = 16 then .pcm16Bit
  else if bitsPerSample = 24 then
    if sessionType = .a2dpHardwareOffloadEncodingDatapath ∨ sessionType = .a2dpSoftwareEncodingDatapath then
      .pcm24BitPacked
    else .pcm824Bit
  else if bitsPerSample = 32 then .pcm32Bit
  else .pcm16Bit

/-- The sessions of each type at one moment. -/
abbrev AidlSessions := SessionType → BluetoothAudioSession Unit Unit

namespace BluetoothAudioPortAidl

def initSessionType : AudioDevice → Option SessionType
  | .outBluetoothA2dp | .outBluetoothA2dpHeadphones | .outBluetoothA2dpSpeaker => some .a2dpSoftwareEncodingDatapath
  | .outHearingAid => some .hearingAidSoftwareEncodingDatapath
  | .outBleHeadset | .outBleSpeaker => some .leAudioSoftwareEncodingDatapath
  | .inBleHeadset => some .leAudioSoftwareDecodingDatapath
  | .outBleBroadcast => some .leAudioBroadcastSoftwareEncodingDatapath
  | .other _ => none

/-- `SetUp` of a new port, and whether it succeeds. -/
def setUpFor (device : AudioDevice) (sessions : AidlSessions) : BluetoothAudioPortAidl × Bool :=
  match initSessionType device with
  | none => (create, false)
  | some sessionType =>
      let (port, _, registered) := create.setUp (sessions sessionType) ()
      (port, registered)

def forcePcmStereoToMono (port : BluetoothAudioPortAidl) (force : Bool) : BluetoothAudioPortAidl :=
  { port with isStereoToMono := force }

/-- `GetPreferredDataIntervalUs`. -/
def getPreferredDataIntervalUs (port : BluetoothAudioPortAidl) (sessions : AidlSessions) : Option Nat :=
  if !port.inUse then none
  else
    match (sessions port.sessionType).getAudioConfig with
    | .pcmConfig pcmCfg => some (toUInt64 pcmCfg.dataIntervalUs)
    | _ => none

/-- `BluetoothAudioPortAidlOut::LoadAudioConfig`: what it writes, if it writes something, and what it returns. -/
def loadAudioConfig (port : BluetoothAudioPortAidl) (sessions : AidlSessions) : Option AudioConfig × Bool :=
  if !port.inUse then (some defaultOutputConfig, false)
  else
    match (sessions port.sessionType).getAudioConfig with
    | .pcmConfig pcmCfg =>
        if pcmCfg.channelMode = .unknown then (none, false)
        else
          (some
            { sampleRate := (pcmCfg.sampleRateHz % 2 ^ 32).toNat
              channelMask :=
                if port.isStereoToMono then .outStereo else outputChannelModeToAudioFormat pcmCfg.channelMode
              format := bitsPerSampleToAudioFormat pcmCfg.bitsPerSample port.sessionType }, true)
    | _ => (some defaultOutputConfig, false)

end BluetoothAudioPortAidl

/-! ### HIDL -/

namespace Hidl

inductive SampleRate where
  | rateUnknown | rate8000 | rate16000 | rate24000 | rate32000 | rate44100 | rate48000 | rate88200 | rate96000
  | rate176400 | rate192000
  | other (value : Nat)
  deriving DecidableEq

inductive ChannelMode where
  | unknown | mono | stereo
  | other (value : Nat)
  deriving DecidableEq

inductive BitsPerSample where
  | bitsUnknown | bits16 | bits24 | bits32
  | other (value : Nat)
  deriving DecidableEq

/-- `PcmParameters` of version 2.1; version 2.0 has no interval. -/
structure PcmParameters where
  sampleRate : SampleRate
  channelMode : ChannelMode
  bitsPerSample : BitsPerSample
  dataIntervalUs : Nat

inductive AudioConfiguration where
  | pcmConfig (config : PcmParameters)
  | codecConfig

/-- A configuration of zeros. -/
def kInvalidAudioConfiguration : AudioConfiguration := .pcmConfig ⟨.rateUnknown, .unknown, .bitsUnknown, 0⟩

def SessionType.value : SessionType → Nat
  | .unknown => 0
  | .a2dpSoftwareEncodingDatapath => 1
  | .a2dpHardwareOffloadDatapath => 2
  | .hearingAidSoftwareEncodingDatapath => 3
  | .leAudioSoftwareEncodingDatapath => 4
  | .leAudioSoftwareDecodedDatapath => 5
  | .leAudioHardwareOffloadEncodingDatapath => 6
  | .leAudioHardwareOffloadDecodingDatapath => 7

def is20SessionType : SessionType → Bool
  | .a2dpSoftwareEncodingDatapath | .a2dpHardwareOffloadDatapath | .hearingAidSoftwareEncodingDatapath => true
  | _ => false

def isUnsupported21SessionType : SessionType → Bool
  | .leAudioHardwareOffloadEncodingDatapath | .leAudioHardwareOffloadDecodingDatapath => true
  | _ => false

/-- `BluetoothAudioSession_2_1`, with the configuration and the observers of the session of version 2.0 that it has;
the type is that of `raw_session_type_`. -/
structure BluetoothAudioSession21 where
  rawSessionType : SessionType
  audioSession : BluetoothAudioSession Unit
  audioConfig : AudioConfiguration
  observers : List (Nat × PortStatusCallbacks Unit)
  audioConfig21 : AudioConfiguration

namespace BluetoothAudioSession21

/-- `session_type_2_1_`. -/
def sessionType21 (session : BluetoothAudioSession21) : SessionType :=
  if is20SessionType session.rawSessionType || isUnsupported21SessionType session.rawSessionType then .unknown
  else session.rawSessionType

/-- `GetAudioConfig`. -/
def getAudioConfig (session : BluetoothAudioSession21) : AudioConfiguration :=
  if session.audioSession.isSessionReady then
    if session.sessionType21 ≠ .unknown then session.audioConfig21
    else
      match session.audioConfig with
      | .codecConfig => .codecConfig
      | .pcmConfig fromConf => .pcmConfig { fromConf with dataIntervalUs := 0 }
  else kInvalidAudioConfiguration

/-- The cookie that `RegisterStatusCback` gives. -/
def registerStatusCback (session : BluetoothAudioSession21) : Nat :=
  let initValue := session.audioSession.sessionType.value <<< 8 &&& 0xff00
  let cookie := Bluetooth.BluetoothAudioSession.freeCookie session.observers kObserversCookieSize initValue
  if initValue + kObserversCookieSize ≤ cookie then kObserversCookieUndefined else cookie

end BluetoothAudioSession21

abbrev HidlSessions := SessionType → BluetoothAudioSession21

def sampleRateToAudioFormat : SampleRate → Nat
  | .rate8000 => 8000
  | .rate16000 => 16000
  | .rate24000 => 24000
  | .rate32000 => 32000
  | .rate44100 => 44100
  | .rate48000 => 48000
  | .rate88200 => 88200
  | .rate96000 => 96000
  | .rate176400 => 176400
  | .rate192000 => 192000
  | _ => kBluetoothDefaultSampleRate

def outputChannelModeToAudioFormat : ChannelMode → AudioChannelMask
  | .mono => .outMono
  | .stereo => .outStereo
  | _ => .outStereo

def bitsPerSampleToAudioFormat : BitsPerSample → AudioFormat
  | .bits16 => .pcm16Bit
  | .bits24 => .pcm24BitPacked
  | .bits32 => .pcm32Bit
  | _ => .pcm16Bit

namespace BluetoothAudioPort

def create : BluetoothAudioPort := ⟨kObserversCookieUndefined, .disabled, .unknown, false⟩

def initSessionType : AudioDevice → Option SessionType
  | .outBluetoothA2dp | .outBluetoothA2dpHeadphones | .outBluetoothA2dpSpeaker => some .a2dpSoftwareEncodingDatapath
  | .outHearingAid => some .hearingAidSoftwareEncodingDatapath
  | .outBleHeadset | .outBleSpeaker => some .leAudioSoftwareEncodingDatapath
  | .inBleHeadset => some .leAudioSoftwareDecodedDatapath
  | _ => none

/-- `SetUp` of a new port, and whether it succeeds. -/
def setUpFor (device : AudioDevice) (sessions : HidlSessions) : BluetoothAudioPort × Bool :=
  match initSessionType device with
  | none => (create, false)
  | some sessionType =>
      let port := { create with sessionType := sessionType }
      if !(sessions sessionType).audioSession.isSessionReady then (port, false)
      else
        let cookie := (sessions sessionType).registerStatusCback
        ({ port with state := .standby, cookie := cookie }, cookie != kObserversCookieUndefined)

def forcePcmStereoToMono (port : BluetoothAudioPort) (force : Bool) : BluetoothAudioPort :=
  { port with isStereoToMono := force }

/-- `GetPreferredDataIntervalUs`. -/
def getPreferredDataIntervalUs (port : BluetoothAudioPort) (sessions : HidlSessions) : Option Nat :=
  if !port.inUse then none
  else
    match (sessions port.sessionType).getAudioConfig with
    | .pcmConfig pcmCfg => some pcmCfg.dataIntervalUs
    | .codecConfig => none

/-- `BluetoothAudioPortHidlOut::LoadAudioConfig`. -/
def loadAudioConfig (port : BluetoothAudioPort) (sessions : HidlSessions) : Option AudioConfig × Bool :=
  if !port.inUse then (some defaultOutputConfig, false)
  else
    match (sessions port.sessionType).getAudioConfig with
    | .pcmConfig pcmCfg =>
        if pcmCfg.sampleRate = .rateUnknown ∨ pcmCfg.channelMode = .unknown ∨ pcmCfg.bitsPerSample = .bitsUnknown then
          (none, false)
        else
          (some
            { sampleRate := sampleRateToAudioFormat pcmCfg.sampleRate
              channelMask :=
                if port.isStereoToMono then .outStereo else outputChannelModeToAudioFormat pcmCfg.channelMode
              format := bitsPerSampleToAudioFormat pcmCfg.bitsPerSample }, true)
    | .codecConfig => (some defaultOutputConfig, false)

end BluetoothAudioPort

end Hidl

/-! ### What is loaded -/

/-- A configuration with a rate, and with a format and channels that an output port knows. -/
structure AudioConfig.IsKnown (config : AudioConfig) : Prop where
  sampleRate_ne : config.sampleRate ≠ 0
  format_known : config.format = .pcm16Bit ∨ config.format = .pcm24BitPacked ∨ config.format = .pcm824Bit ∨
    config.format = .pcm32Bit
  channelMask_known : config.channelMask = .outMono ∨ config.channelMask = .outStereo

theorem isKnown_defaultOutputConfig : defaultOutputConfig.IsKnown := ⟨by decide, Or.inl rfl, Or.inr rfl⟩

theorem outputChannelModeToAudioFormat_known (channelMode : ChannelMode) :
    outputChannelModeToAudioFormat channelMode = .outMono ∨
      outputChannelModeToAudioFormat channelMode = .outStereo := by
  cases channelMode with
  | mono => exact Or.inl rfl
  | _ => exact Or.inr rfl

theorem bitsPerSampleToAudioFormat_known (bitsPerSample : Int) (sessionType : SessionType) :
    bitsPerSampleToAudioFormat bitsPerSample sessionType = .pcm16Bit ∨
      bitsPerSampleToAudioFormat bitsPerSample sessionType = .pcm24BitPacked ∨
      bitsPerSampleToAudioFormat bitsPerSample sessionType = .pcm824Bit ∨
      bitsPerSampleToAudioFormat bitsPerSample sessionType = .pcm32Bit := by
  rw [bitsPerSampleToAudioFormat]
  split_ifs <;> simp

namespace Hidl

theorem outputChannelModeToAudioFormat_known (channelMode : ChannelMode) :
    outputChannelModeToAudioFormat channelMode = .outMono ∨
      outputChannelModeToAudioFormat channelMode = .outStereo := by
  cases channelMode with
  | mono => exact Or.inl rfl
  | _ => exact Or.inr rfl

theorem bitsPerSampleToAudioFormat_known (bitsPerSample : BitsPerSample) :
    bitsPerSampleToAudioFormat bitsPerSample = .pcm16Bit ∨ bitsPerSampleToAudioFormat bitsPerSample = .pcm24BitPacked ∨
      bitsPerSampleToAudioFormat bitsPerSample = .pcm824Bit ∨ bitsPerSampleToAudioFormat bitsPerSample = .pcm32Bit := by
  cases bitsPerSample <;> simp [bitsPerSampleToAudioFormat]

end Hidl

/-- A port that turns stereo into mono asks for stereo. -/
theorem ite_outStereo_known {channelMask : AudioChannelMask} {isStereoToMono : Bool}
    (h : channelMask = .outMono ∨ channelMask = .outStereo) :
    (if isStereoToMono then .outStereo else channelMask) = AudioChannelMask.outMono ∨
      (if isStereoToMono then .outStereo else channelMask) = AudioChannelMask.outStereo := by
  cases isStereoToMono with
  | false => exact h
  | true => exact Or.inr rfl

/-- The PCM configuration of a session that is ready has a rate, and every session has the type it is found by. -/
structure AidlSessions.Valid (sessions : AidlSessions) : Prop where
  sessionType_eq : ∀ sessionType, (sessions sessionType).sessionType = sessionType
  sampleRateHz_ne : ∀ sessionType pcmCfg, (sessions sessionType).isSessionReady = true →
    (sessions sessionType).audioConfig = some (.pcmConfig pcmCfg) →
      pcmCfg.sampleRateHz ≠ 0 ∧ -2 ^ 31 ≤ pcmCfg.sampleRateHz ∧ pcmCfg.sampleRateHz < 2 ^ 31

/-- The configuration is a PCM one whose channels are unknown, as that of a session that is not ready. -/
def AudioConfiguration.IsUnknown : AudioConfiguration → Prop
  | .pcmConfig pcmCfg => pcmCfg.channelMode = .unknown
  | _ => False

/-- The configuration is a PCM one with an unknown value. -/
def Hidl.AudioConfiguration.IsUnknown : Hidl.AudioConfiguration → Prop
  | .pcmConfig pcmCfg =>
      pcmCfg.sampleRate = .rateUnknown ∨ pcmCfg.channelMode = .unknown ∨ pcmCfg.bitsPerSample = .bitsUnknown
  | .codecConfig => False

namespace BluetoothAudioPortAidl

/-- A PCM configuration whose channels are known is that of a session that is ready. -/
theorem getAudioConfig_pcm {session : BluetoothAudioSession P O} {pcmCfg : PcmConfiguration}
    (h : session.getAudioConfig = .pcmConfig pcmCfg) (hknown : pcmCfg.channelMode ≠ .unknown) :
    session.isSessionReady = true ∧ session.audioConfig = some (.pcmConfig pcmCfg) := by
  have hdefault (hunknown : (AudioConfiguration.pcmConfig ⟨0, .unknown, 0, 0⟩) = .pcmConfig pcmCfg) : False := by
    injection hunknown with hpcm
    exact hknown (by rw [← hpcm])
  rw [BluetoothAudioSession.getAudioConfig] at h
  cases hready : session.isSessionReady with
  | false =>
      simp only [hready, Bool.not_false, if_true] at h
      split at h <;> first | exact (hdefault h).elim | exact absurd h (by simp)
  | true =>
      have hconfig : session.audioConfig.isSome := by
        rw [BluetoothAudioSession.isSessionReady, Bool.and_eq_true] at hready
        exact hready.2
      obtain ⟨config, hsome⟩ := Option.isSome_iff_exists.mp hconfig
      simp only [hready, Bool.not_true, Bool.false_eq_true, if_false, hsome, Option.getD_some] at h
      exact ⟨rfl, by rw [hsome, h]⟩

theorem isKnown_of_loadAudioConfig {port : BluetoothAudioPortAidl} {sessions : AidlSessions} (hvalid : sessions.Valid)
    {config : AudioConfig} (h : (port.loadAudioConfig sessions).1 = some config) : config.IsKnown := by
  rw [loadAudioConfig] at h
  cases hinUse : port.inUse with
  | false =>
      simp only [hinUse, Bool.not_false, if_true, Option.some.injEq] at h
      exact h ▸ isKnown_defaultOutputConfig
  | true =>
      simp only [hinUse, Bool.not_true, Bool.false_eq_true, if_false] at h
      cases hconfig : (sessions port.sessionType).getAudioConfig with
      | pcmConfig pcmCfg =>
          simp only [hconfig] at h
          by_cases hunknown : pcmCfg.channelMode = .unknown
          · rw [if_pos hunknown] at h
            cases h
          · rw [if_neg hunknown] at h
            obtain ⟨hready, hpcm⟩ := getAudioConfig_pcm hconfig hunknown
            obtain ⟨hne, hlow, hhigh⟩ := hvalid.sampleRateHz_ne _ _ hready hpcm
            have hrate : (pcmCfg.sampleRateHz % 2 ^ 32).toNat ≠ 0 := by omega
            rw [← Option.some.inj h]
            exact ⟨hrate, bitsPerSampleToAudioFormat_known _ _,
              ite_outStereo_known (outputChannelModeToAudioFormat_known _)⟩
      | _ =>
          simp only [hconfig, Option.some.injEq] at h
          exact h ▸ isKnown_defaultOutputConfig

/-- Nothing is written exactly where the channels are unknown. -/
theorem loadAudioConfig_fst_eq_none {port : BluetoothAudioPortAidl} (hinUse : port.inUse = true)
    (sessions : AidlSessions) :
    (port.loadAudioConfig sessions).1 = none ↔ (sessions port.sessionType).getAudioConfig.IsUnknown := by
  rw [loadAudioConfig, hinUse]
  simp only [Bool.not_true, Bool.false_eq_true, if_false]
  cases (sessions port.sessionType).getAudioConfig with
  | pcmConfig pcmCfg =>
      simp only [AudioConfiguration.IsUnknown]
      split_ifs with hunknown
      · exact iff_of_true rfl hunknown
      · exact iff_of_false (by simp) hunknown
  | _ => exact iff_of_false (by simp) (fun h => h)

/-- What is loaded is written. -/
theorem isSome_of_loadAudioConfig {port : BluetoothAudioPortAidl} {sessions : AidlSessions}
    (h : (port.loadAudioConfig sessions).2 = true) : (port.loadAudioConfig sessions).1.isSome := by
  rw [loadAudioConfig] at h ⊢
  by_cases hinUse : (!port.inUse) = true
  · rw [if_pos hinUse]
    rfl
  · rw [if_neg hinUse] at h ⊢
    cases hconfig : (sessions port.sessionType).getAudioConfig with
    | pcmConfig pcmCfg =>
        simp only [hconfig] at h ⊢
        split at h
        · cases h
        · rw [if_neg ‹_›]
          rfl
    | _ => rfl

end BluetoothAudioPortAidl

namespace Hidl.BluetoothAudioPort

theorem isKnown_of_loadAudioConfig {port : BluetoothAudioPort} {sessions : HidlSessions} {config : AudioConfig}
    (h : (port.loadAudioConfig sessions).1 = some config) : config.IsKnown := by
  rw [loadAudioConfig] at h
  cases hinUse : port.inUse with
  | false =>
      simp only [hinUse, Bool.not_false, if_true, Option.some.injEq] at h
      exact h ▸ isKnown_defaultOutputConfig
  | true =>
      simp only [hinUse, Bool.not_true, Bool.false_eq_true, if_false] at h
      cases hconfig : (sessions port.sessionType).getAudioConfig with
      | pcmConfig pcmCfg =>
          simp only [hconfig] at h
          split at h
          · cases h
          · rw [← Option.some.inj h]
            have hrate : sampleRateToAudioFormat pcmCfg.sampleRate ≠ 0 := by
              cases pcmCfg.sampleRate <;> simp [sampleRateToAudioFormat, kBluetoothDefaultSampleRate]
            exact ⟨hrate, bitsPerSampleToAudioFormat_known _,
              ite_outStereo_known (outputChannelModeToAudioFormat_known _)⟩
      | codecConfig =>
          simp only [hconfig, Option.some.injEq] at h
          exact h ▸ isKnown_defaultOutputConfig

theorem loadAudioConfig_fst_eq_none {port : BluetoothAudioPort} (hinUse : port.inUse = true)
    (sessions : HidlSessions) :
    (port.loadAudioConfig sessions).1 = none ↔ (sessions port.sessionType).getAudioConfig.IsUnknown := by
  rw [loadAudioConfig, hinUse]
  simp only [Bool.not_true, Bool.false_eq_true, if_false]
  cases (sessions port.sessionType).getAudioConfig with
  | pcmConfig pcmCfg =>
      simp only [AudioConfiguration.IsUnknown]
      split_ifs with hunknown
      · exact iff_of_true rfl hunknown
      · exact iff_of_false (by simp) hunknown
  | codecConfig => exact iff_of_false (by simp) (fun h => h)

theorem isSome_of_loadAudioConfig {port : BluetoothAudioPort} {sessions : HidlSessions}
    (h : (port.loadAudioConfig sessions).2 = true) : (port.loadAudioConfig sessions).1.isSome := by
  rw [loadAudioConfig] at h ⊢
  by_cases hinUse : (!port.inUse) = true
  · rw [if_pos hinUse]
    rfl
  · rw [if_neg hinUse] at h ⊢
    cases hconfig : (sessions port.sessionType).getAudioConfig with
    | pcmConfig pcmCfg =>
        simp only [hconfig] at h ⊢
        split at h
        · cases h
        · rw [if_neg ‹_›]
          rfl
    | codecConfig => rfl

end Hidl.BluetoothAudioPort

end Penrose.Bluetooth

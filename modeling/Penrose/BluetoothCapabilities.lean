import Penrose.BluetoothProvider

/-! The capabilities that the factory answers for a session type, next to what the provider of that type accepts. The
settings for LE audio are made when they are first asked for, and kept; the provider that offloads it does not look at
the configuration, and accepts what is not among them. -/

namespace Penrose.Bluetooth

/-! ### The capabilities of `BluetoothAudioCodecs` -/

structure PcmCapabilities where
  sampleRateHz : List Int
  channelMode : List ChannelMode
  bitsPerSample : List Int
  dataIntervalUs : List Int

structure SbcCapabilities where
  sampleRateHz : List Int
  channelMode : List SbcChannelMode
  blockLength : List Int
  numSubbands : List Int
  allocMethod : List SbcAllocMethod
  bitsPerSample : List Int
  minBitpool : Int
  maxBitpool : Int

structure AacCapabilities where
  objectType : List AacObjectType
  sampleRateHz : List Int
  channelMode : List ChannelMode
  variableBitRateSupported : Bool
  bitsPerSample : List Int

structure LdacCapabilities where
  sampleRateHz : List Int
  channelMode : List LdacChannelMode
  qualityIndex : List LdacQualityIndex
  bitsPerSample : List Int

structure AptxCapabilities where
  sampleRateHz : List Int
  channelMode : List ChannelMode
  bitsPerSample : List Int

structure OpusCapabilities where
  samplingFrequencyHz : List Int
  frameDurationUs : List Int
  channelMode : List ChannelMode

/-- `CodecCapabilities::Capabilities`; what the list of codecs has before it is filled in is `empty`. -/
inductive Capabilities where
  | empty
  | sbcCapabilities (capabilities : SbcCapabilities)
  | aacCapabilities (capabilities : AacCapabilities)
  | ldacCapabilities (capabilities : LdacCapabilities)
  | aptxCapabilities (capabilities : AptxCapabilities)
  | opusCapabilities (capabilities : OpusCapabilities)

structure CodecCapabilities where
  codecType : CodecType
  capabilities : Capabilities

def defaultSoftwarePcmCapabilities : PcmCapabilities where
  sampleRateHz := [16000, 24000, 32000, 44100, 48000, 88200, 96000]
  channelMode := [.mono, .stereo]
  bitsPerSample := [16, 24, 32]
  dataIntervalUs := []

def defaultOffloadSbcCapability : SbcCapabilities where
  sampleRateHz := [44100]
  channelMode := [.mono, .jointStereo]
  blockLength := [4, 8, 12, 16]
  numSubbands := [8]
  allocMethod := [.allocMdL]
  bitsPerSample := [16]
  minBitpool := 2
  maxBitpool := 53

def defaultOffloadAacCapability : AacCapabilities where
  objectType := [.mpeg2Lc]
  sampleRateHz := [44100]
  channelMode := [.stereo]
  variableBitRateSupported := true
  bitsPerSample := [16]

def defaultOffloadLdacCapability : LdacCapabilities where
  sampleRateHz := [44100, 48000, 88200, 96000]
  channelMode := [.dual, .stereo]
  qualityIndex := [.high]
  bitsPerSample := [16, 24, 32]

def defaultOffloadAptxCapability : AptxCapabilities where
  sampleRateHz := [44100, 48000]
  channelMode := [.stereo]
  bitsPerSample := [16]

def defaultOffloadAptxHdCapability : AptxCapabilities where
  sampleRateHz := [44100, 48000]
  channelMode := [.stereo]
  bitsPerSample := [24]

def defaultOffloadOpusCapability : OpusCapabilities where
  samplingFrequencyHz := [48000]
  frameDurationUs := [10000, 20000]
  channelMode := [.mono, .stereo]

def defaultOffloadA2dpCodecCapabilities : List CodecCapabilities :=
  [⟨.sbc, .empty⟩, ⟨.aac, .empty⟩, ⟨.ldac, .empty⟩, ⟨.aptx, .empty⟩, ⟨.aptxHd, .empty⟩, ⟨.opus, .empty⟩]

def getSoftwarePcmCapabilities : List PcmCapabilities := [defaultSoftwarePcmCapabilities]

/-- The body of the loop that fills the list of codecs in. -/
def CodecCapabilities.fill (codecCapability : CodecCapabilities) : CodecCapabilities :=
  match codecCapability.codecType with
  | .sbc => { codecCapability with capabilities := .sbcCapabilities defaultOffloadSbcCapability }
  | .aac => { codecCapability with capabilities := .aacCapabilities defaultOffloadAacCapability }
  | .ldac => { codecCapability with capabilities := .ldacCapabilities defaultOffloadLdacCapability }
  | .aptx => { codecCapability with capabilities := .aptxCapabilities defaultOffloadAptxCapability }
  | .aptxHd => { codecCapability with capabilities := .aptxCapabilities defaultOffloadAptxHdCapability }
  | .opus => { codecCapability with capabilities := .opusCapabilities defaultOffloadOpusCapability }
  | .unknown | .vendor | .lc3 | .aptxAdaptive => codecCapability

def getA2dpOffloadCodecCapabilities (sessionType : SessionType) : List CodecCapabilities :=
  if sessionType ≠ .a2dpHardwareOffloadEncodingDatapath ∧ sessionType ≠ .a2dpHardwareOffloadDecodingDatapath then []
  else defaultOffloadA2dpCodecCapabilities.map CodecCapabilities.fill

/-! ### The settings for LE audio -/

structure Lc3Capabilities where
  samplingFrequencyHz : List Int
  frameDurationUs : List Int
  octetsPerFrame : List Int
  deriving DecidableEq

def lc3Capability48_4 : Lc3Capabilities := ⟨[48000], [10000], [120]⟩
def lc3Capability32_2 : Lc3Capabilities := ⟨[32000], [10000], [80]⟩
def lc3Capability24_2 : Lc3Capabilities := ⟨[24000], [10000], [60]⟩
def lc3Capability16_2 : Lc3Capabilities := ⟨[16000], [10000], [40]⟩
def lc3Capability16_1 : Lc3Capabilities := ⟨[16000], [7500], [30]⟩

def supportedLc3CapabilityList : List Lc3Capabilities :=
  [lc3Capability48_4, lc3Capability32_2, lc3Capability24_2, lc3Capability16_2, lc3Capability16_1]

/-- The locations that are used: `monoAudio`, which is `UNKNOWN`, and `stereoAudio`, which is both of the front. -/
inductive AudioLocation where
  | monoAudio
  | stereoAudio
  deriving DecidableEq

structure UnicastCapability where
  codecType : CodecType
  supportedChannel : AudioLocation
  deviceCount : Nat
  channelCountPerDevice : Nat
  leAudioCodecCapabilities : Option Lc3Capabilities
  deriving DecidableEq

def invalidUnicastCapability : UnicastCapability := ⟨.unknown, .monoAudio, 0, 0, none⟩

/-- `LeAudioCodecCapabilitiesSetting`, whose broadcast capability is never a valid one. -/
structure LeAudioCodecCapabilitiesSetting where
  unicastEncodeCapability : UnicastCapability
  unicastDecodeCapability : UnicastCapability
  deriving DecidableEq

/-- The location, the number of devices, and the number of channels of each. -/
def supportedDeviceSetting : List (AudioLocation × Nat × Nat) :=
  [(.stereoAudio, 2, 1), (.stereoAudio, 1, 2), (.monoAudio, 1, 1)]

def composeUnicastLc3Capability (audioLocation : AudioLocation) (deviceCnt channelCount : Nat)
    (capability : Lc3Capabilities) : UnicastCapability :=
  ⟨.lc3, audioLocation, deviceCnt, channelCount, some capability⟩

/-- What the two loops append to the settings. -/
def composeLeAudioSettings : List LeAudioCodecCapabilitiesSetting :=
  supportedDeviceSetting.flatMap fun setting =>
    supportedLc3CapabilityList.flatMap fun capability =>
      let lc3Capability := composeUnicastLc3Capability setting.1 setting.2.1 setting.2.2 capability
      let lc3MonoDecodeCapability := composeUnicastLc3Capability .monoAudio 1 1 capability
      [⟨lc3Capability, invalidUnicastCapability⟩, ⟨invalidUnicastCapability, lc3Capability⟩,
        ⟨lc3Capability, lc3MonoDecodeCapability⟩]

/-- The settings that are kept, and the answer. -/
def getLeAudioOffloadCodecCapabilities (kept : List LeAudioCodecCapabilitiesSetting) (sessionType : SessionType) :
    List LeAudioCodecCapabilitiesSetting × List LeAudioCodecCapabilitiesSetting :=
  if sessionType ≠ .leAudioHardwareOffloadEncodingDatapath ∧ sessionType ≠ .leAudioHardwareOffloadDecodingDatapath ∧
      sessionType ≠ .leAudioBroadcastHardwareOffloadEncodingDatapath then (kept, [])
  else
    let kept := if kept.isEmpty then kept ++ composeLeAudioSettings else kept
    (kept, kept)

/-! ### The factory -/

inductive AudioCapabilities where
  | pcmCapabilities (capabilities : PcmCapabilities)
  | a2dpCapabilities (capabilities : CodecCapabilities)
  | leAudioCapabilities (capabilities : LeAudioCodecCapabilitiesSetting)

/-- `BluetoothAudioProviderFactory::getProviderCapabilities`, with the settings that are kept. -/
def getProviderCapabilities (kept : List LeAudioCodecCapabilitiesSetting) (sessionType : SessionType) :
    List LeAudioCodecCapabilitiesSetting × List AudioCapabilities :=
  if sessionType = .a2dpHardwareOffloadEncodingDatapath ∨ sessionType = .a2dpHardwareOffloadDecodingDatapath then
    (kept, (getA2dpOffloadCodecCapabilities sessionType).map .a2dpCapabilities)
  else if sessionType = .leAudioHardwareOffloadEncodingDatapath ∨
      sessionType = .leAudioHardwareOffloadDecodingDatapath ∨
      sessionType = .leAudioBroadcastHardwareOffloadEncodingDatapath then
    let settings := getLeAudioOffloadCodecCapabilities kept sessionType
    (settings.1, settings.2.map .leAudioCapabilities)
  else if sessionType ≠ .unknown then (kept, getSoftwarePcmCapabilities.map .pcmCapabilities)
  else (kept, [])

/-! ### What is advertised -/

/-- Each value is one of those that the capability lists; an interval is not asked for. -/
def PcmConfiguration.IsAdvertisedBy (pcmConfig : PcmConfiguration) (capability : PcmCapabilities) : Prop :=
  pcmConfig.sampleRateHz ∈ capability.sampleRateHz ∧ pcmConfig.channelMode ∈ capability.channelMode ∧
    pcmConfig.bitsPerSample ∈ capability.bitsPerSample

def SbcConfiguration.IsAdvertisedBy (sbcData : SbcConfiguration) (capability : SbcCapabilities) : Prop :=
  sbcData.sampleRateHz ∈ capability.sampleRateHz ∧ sbcData.channelMode ∈ capability.channelMode ∧
    sbcData.blockLength ∈ capability.blockLength ∧ sbcData.numSubbands ∈ capability.numSubbands ∧
    sbcData.allocMethod ∈ capability.allocMethod ∧ sbcData.bitsPerSample ∈ capability.bitsPerSample ∧
    capability.minBitpool ≤ sbcData.minBitpool ∧ sbcData.minBitpool ≤ sbcData.maxBitpool ∧
    sbcData.maxBitpool ≤ capability.maxBitpool

def AacConfiguration.IsAdvertisedBy (aacData : AacConfiguration) (capability : AacCapabilities) : Prop :=
  aacData.objectType ∈ capability.objectType ∧ aacData.sampleRateHz ∈ capability.sampleRateHz ∧
    aacData.channelMode ∈ capability.channelMode ∧
    (aacData.variableBitRateEnabled = true → capability.variableBitRateSupported = true) ∧
    aacData.bitsPerSample ∈ capability.bitsPerSample

def LdacConfiguration.IsAdvertisedBy (ldacData : LdacConfiguration) (capability : LdacCapabilities) : Prop :=
  ldacData.sampleRateHz ∈ capability.sampleRateHz ∧ ldacData.channelMode ∈ capability.channelMode ∧
    ldacData.qualityIndex ∈ capability.qualityIndex ∧ ldacData.bitsPerSample ∈ capability.bitsPerSample

def AptxConfiguration.IsAdvertisedBy (aptxData : AptxConfiguration) (capability : AptxCapabilities) : Prop :=
  aptxData.sampleRateHz ∈ capability.sampleRateHz ∧ aptxData.channelMode ∈ capability.channelMode ∧
    aptxData.bitsPerSample ∈ capability.bitsPerSample

def OpusConfiguration.IsAdvertisedBy (opusData : OpusConfiguration) (capability : OpusCapabilities) : Prop :=
  opusData.samplingFrequencyHz ∈ capability.samplingFrequencyHz ∧
    opusData.frameDurationUs ∈ capability.frameDurationUs ∧ opusData.channelMode ∈ capability.channelMode

def CodecSpecific.IsAdvertisedBy : CodecSpecific → Capabilities → Prop
  | .sbcConfig sbcData, .sbcCapabilities capability => sbcData.IsAdvertisedBy capability
  | .aacConfig aacData, .aacCapabilities capability => aacData.IsAdvertisedBy capability
  | .ldacConfig ldacData, .ldacCapabilities capability => ldacData.IsAdvertisedBy capability
  | .aptxConfig aptxData, .aptxCapabilities capability => aptxData.IsAdvertisedBy capability
  | .opusConfig data, .opusCapabilities capability =>
      ∃ opusData, data = some opusData ∧ opusData.IsAdvertisedBy capability
  | _, _ => False

/-- The capability is one of the codec, and has every value. -/
def CodecConfiguration.IsAdvertisedBy (codecConfig : CodecConfiguration) (capability : CodecCapabilities) : Prop :=
  capability.codecType = codecConfig.codecType ∧ codecConfig.config.IsAdvertisedBy capability.capabilities

def Lc3Configuration.IsAdvertisedBy (lc3Config : Lc3Configuration) (capability : Lc3Capabilities) : Prop :=
  lc3Config.samplingFrequencyHz ∈ capability.samplingFrequencyHz ∧
    lc3Config.frameDurationUs ∈ capability.frameDurationUs ∧
    lc3Config.octetsPerFrame.toInt ∈ capability.octetsPerFrame

/-- One of the two directions of the setting has the values of LC3. -/
def LeAudioConfiguration.IsAdvertisedBy (config : LeAudioConfiguration) (setting : LeAudioCodecCapabilitiesSetting) :
    Prop :=
  ∃ lc3Config capability, config.leAudioCodecConfig = .lc3Config lc3Config ∧
    (setting.unicastEncodeCapability.leAudioCodecCapabilities = some capability ∨
      setting.unicastDecodeCapability.leAudioCodecCapabilities = some capability) ∧
    lc3Config.IsAdvertisedBy capability

def AudioConfiguration.IsAdvertisedBy : AudioConfiguration → AudioCapabilities → Prop
  | .pcmConfig config, .pcmCapabilities capability => config.IsAdvertisedBy capability
  | .a2dpConfig config, .a2dpCapabilities capability => config.IsAdvertisedBy capability
  | .leAudioConfig config, .leAudioCapabilities setting => config.IsAdvertisedBy setting
  | _, _ => False

theorem isSoftwarePcmConfigurationValid_iff (pcmConfig : PcmConfiguration) :
    isSoftwarePcmConfigurationValid pcmConfig = true ↔ pcmConfig.IsAdvertisedBy defaultSoftwarePcmCapabilities := by
  rw [isSoftwarePcmConfigurationValid, PcmConfiguration.IsAdvertisedBy, Bool.and_eq_true, Bool.and_eq_true,
    List.contains_iff_mem, List.contains_iff_mem, List.contains_iff_mem, and_assoc]
  exact and_congr_right fun _ => and_comm

theorem isOffloadSbcConfigurationValid_iff (config : CodecSpecific) :
    isOffloadSbcConfigurationValid config = true ↔
      config.IsAdvertisedBy (.sbcCapabilities defaultOffloadSbcCapability) := by
  cases config with
  | sbcConfig sbcData =>
      simp only [isOffloadSbcConfigurationValid, CodecSpecific.IsAdvertisedBy, SbcConfiguration.IsAdvertisedBy,
        Bool.and_eq_true, List.contains_iff_mem, decide_eq_true_eq, defaultOffloadSbcCapability]
      tauto
  | _ => exact iff_of_false Bool.false_ne_true id

theorem isOffloadAacConfigurationValid_iff (config : CodecSpecific) :
    isOffloadAacConfigurationValid config = true ↔
      config.IsAdvertisedBy (.aacCapabilities defaultOffloadAacCapability) := by
  cases config with
  | aacConfig aacData =>
      simp only [isOffloadAacConfigurationValid, CodecSpecific.IsAdvertisedBy, AacConfiguration.IsAdvertisedBy,
        Bool.and_eq_true, List.contains_iff_mem, Bool.or_true, defaultOffloadAacCapability]
      tauto
  | _ => exact iff_of_false Bool.false_ne_true id

theorem isOffloadLdacConfigurationValid_iff (config : CodecSpecific) :
    isOffloadLdacConfigurationValid config = true ↔
      config.IsAdvertisedBy (.ldacCapabilities defaultOffloadLdacCapability) := by
  cases config with
  | ldacConfig ldacData =>
      simp only [isOffloadLdacConfigurationValid, CodecSpecific.IsAdvertisedBy, LdacConfiguration.IsAdvertisedBy,
        Bool.and_eq_true, List.contains_iff_mem, defaultOffloadLdacCapability]
      tauto
  | _ => exact iff_of_false Bool.false_ne_true id

/-- The two aptX codecs differ in the sample size alone. -/
theorem isAptxConfigurationValid_iff (bitsPerSample : Int) (config : CodecSpecific) :
    isAptxConfigurationValid bitsPerSample config = true ↔
      config.IsAdvertisedBy (.aptxCapabilities ⟨[44100, 48000], [.stereo], [bitsPerSample]⟩) := by
  cases config with
  | aptxConfig aptxData =>
      simp only [isAptxConfigurationValid, CodecSpecific.IsAdvertisedBy, AptxConfiguration.IsAdvertisedBy,
        Bool.and_eq_true, List.contains_iff_mem]
      tauto
  | _ => exact iff_of_false Bool.false_ne_true id

theorem isOffloadOpusConfigurationValid_iff (config : CodecSpecific) :
    isOffloadOpusConfigurationValid config = true ↔
      config.IsAdvertisedBy (.opusCapabilities defaultOffloadOpusCapability) := by
  cases config with
  | opusConfig data =>
      cases data with
      | none =>
          refine iff_of_false Bool.false_ne_true fun hadvertised => ?_
          obtain ⟨opusData, hnone, -⟩ := hadvertised
          cases hnone
      | some opusData =>
          simp only [isOffloadOpusConfigurationValid, CodecSpecific.IsAdvertisedBy, OpusConfiguration.IsAdvertisedBy,
            Bool.and_eq_true, List.contains_iff_mem, defaultOffloadOpusCapability, Option.some.injEq, exists_eq_left',
            and_assoc]
  | _ => exact iff_of_false Bool.false_ne_true id

/-- A codec is accepted for offloading just if one of the capabilities of the session type has it. -/
theorem isOffloadCodecConfigurationValid_iff (sessionType : SessionType) (codecConfig : CodecConfiguration) :
    isOffloadCodecConfigurationValid sessionType codecConfig = true ↔
      ∃ capability ∈ getA2dpOffloadCodecCapabilities sessionType, codecConfig.IsAdvertisedBy capability := by
  rw [isOffloadCodecConfigurationValid, getA2dpOffloadCodecCapabilities]
  by_cases htype : sessionType ≠ .a2dpHardwareOffloadEncodingDatapath ∧
      sessionType ≠ .a2dpHardwareOffloadDecodingDatapath
  · rw [if_pos htype, if_pos htype]
    refine iff_of_false Bool.false_ne_true fun hadvertised => ?_
    obtain ⟨capability, hmem, -⟩ := hadvertised
    cases hmem
  · rw [if_neg htype, if_neg htype]
    obtain ⟨codecType, config⟩ := codecConfig
    simp only [defaultOffloadA2dpCodecCapabilities, List.map_cons, List.map_nil, CodecCapabilities.fill,
      List.exists_mem_cons_iff, List.not_mem_nil, false_and, exists_false, CodecConfiguration.IsAdvertisedBy]
    cases codecType with
    | sbc => simp [isOffloadSbcConfigurationValid_iff]
    | aac => simp [isOffloadAacConfigurationValid_iff]
    | ldac => simp [isOffloadLdacConfigurationValid_iff]
    | aptx => simp [isOffloadAptxConfigurationValid, isAptxConfigurationValid_iff, defaultOffloadAptxCapability]
    | aptxHd => simp [isOffloadAptxHdConfigurationValid, isAptxConfigurationValid_iff, defaultOffloadAptxHdCapability]
    | opus => simp [isOffloadOpusConfigurationValid_iff]
    | unknown => simp
    | vendor => simp
    | lc3 => simp
    | aptxAdaptive => simp

/-! ### What is accepted -/

/-- The settings that are kept after the factory was asked for the capabilities of some session types. -/
def keptAfter (sessionTypes : List SessionType) : List LeAudioCodecCapabilitiesSetting :=
  sessionTypes.foldl (fun kept sessionType => (getProviderCapabilities kept sessionType).1) []

theorem getLeAudioOffloadCodecCapabilities_kept {kept : List LeAudioCodecCapabilitiesSetting}
    (h : kept = [] ∨ kept = composeLeAudioSettings) (sessionType : SessionType) :
    ((getLeAudioOffloadCodecCapabilities kept sessionType).1 = [] ∨
        (getLeAudioOffloadCodecCapabilities kept sessionType).1 = composeLeAudioSettings) ∧
      (getLeAudioOffloadCodecCapabilities kept sessionType).2 =
        (getLeAudioOffloadCodecCapabilities [] sessionType).2 := by
  rw [getLeAudioOffloadCodecCapabilities, getLeAudioOffloadCodecCapabilities]
  by_cases htype : sessionType ≠ .leAudioHardwareOffloadEncodingDatapath ∧
      sessionType ≠ .leAudioHardwareOffloadDecodingDatapath ∧
      sessionType ≠ .leAudioBroadcastHardwareOffloadEncodingDatapath
  · rw [if_pos htype, if_pos htype]
    exact ⟨h, rfl⟩
  · rw [if_neg htype, if_neg htype]
    obtain rfl | rfl := h
    · exact ⟨Or.inr rfl, rfl⟩
    · exact ⟨Or.inr rfl, rfl⟩

theorem getProviderCapabilities_kept {kept : List LeAudioCodecCapabilitiesSetting}
    (h : kept = [] ∨ kept = composeLeAudioSettings) (sessionType : SessionType) :
    ((getProviderCapabilities kept sessionType).1 = [] ∨
        (getProviderCapabilities kept sessionType).1 = composeLeAudioSettings) ∧
      (getProviderCapabilities kept sessionType).2 = (getProviderCapabilities [] sessionType).2 := by
  obtain ⟨hkept, hsame⟩ := getLeAudioOffloadCodecCapabilities_kept h sessionType
  rw [getProviderCapabilities, getProviderCapabilities]
  split_ifs
  · exact ⟨h, rfl⟩
  · exact ⟨hkept, congrArg (List.map AudioCapabilities.leAudioCapabilities) hsame⟩
  · exact ⟨h, rfl⟩
  · exact ⟨h, rfl⟩

/-- What was asked before does not change an answer. -/
theorem getProviderCapabilities_keptAfter (sessionTypes : List SessionType) (sessionType : SessionType) :
    (getProviderCapabilities (keptAfter sessionTypes) sessionType).2 = (getProviderCapabilities [] sessionType).2 := by
  have hkept : keptAfter sessionTypes = [] ∨ keptAfter sessionTypes = composeLeAudioSettings := by
    induction sessionTypes using List.reverseRecOn with
    | nil => exact Or.inl rfl
    | append_singleton sessionTypes last ih =>
        rw [keptAfter, List.foldl_append]
        exact (getProviderCapabilities_kept ih last).1
  exact (getProviderCapabilities_kept hkept sessionType).2

namespace BluetoothAudioProvider

variable {P O : Type} {newMq : Nat → DataMQ} {sessionType : SessionType} {provider : BluetoothAudioProvider P}
  {session : BluetoothAudioSession P O} {hostIf : Option P} {audioConfig : AudioConfiguration}
  {latencyModes : List LatencyMode}

/-- The queue that an LE audio provider makes for a configuration has a size and can be made. -/
def HasRoom (newMq : Nat → DataMQ) (provider : BluetoothAudioProvider P) (audioConfig : AudioConfiguration) : Prop :=
  ∀ pcmConfig, provider.kind = .leAudioSoftware → audioConfig = .pcmConfig pcmConfig →
    0 < leAudioDataMqSize provider.sessionType pcmConfig ∧
      (newMq (leAudioDataMqSize provider.sessionType pcmConfig).toNat).isValid = true

theorem startSession_isOk : (provider.startSession newMq session hostIf audioConfig latencyModes).isOk = true ↔
    hostIf.isSome = true ∧ (provider.accept newMq audioConfig).isSome = true := by
  rw [startSession]
  cases provider.accept newMq audioConfig with
  | none => simp
  | some started => cases hostIf <;> simp [startBaseSession]

/-- What the factory answers for the session type of a provider, by the kind of the provider. -/
def capabilitiesOfKind (sessionType : SessionType) : ProviderKind → List AudioCapabilities
  | .a2dpOffload => (getA2dpOffloadCodecCapabilities sessionType).map .a2dpCapabilities
  | .leAudioOffload => composeLeAudioSettings.map .leAudioCapabilities
  | .a2dpSoftware | .hearingAid | .leAudioSoftware => getSoftwarePcmCapabilities.map .pcmCapabilities

theorem getProviderCapabilities_of_kind {kind : ProviderKind} (hkind : providerKind sessionType = some kind) :
    (getProviderCapabilities [] sessionType).2 = capabilitiesOfKind sessionType kind := by
  cases sessionType <;> cases hkind <;> rfl

theorem isOffloadLeAudioConfigurationValid_of_kind (hkind : providerKind sessionType = some .leAudioOffload)
    (config : LeAudioConfiguration) : isOffloadLeAudioConfigurationValid sessionType config = true := by
  cases sessionType <;> first | rfl | cases hkind

theorem pcm_isAdvertised_iff (audioConfig : AudioConfiguration) :
    (∃ capability ∈ getSoftwarePcmCapabilities.map AudioCapabilities.pcmCapabilities,
        audioConfig.IsAdvertisedBy capability) ↔
      ∃ pcmConfig, audioConfig = .pcmConfig pcmConfig ∧ isSoftwarePcmConfigurationValid pcmConfig = true := by
  simp only [getSoftwarePcmCapabilities, List.map_cons, List.map_nil, List.mem_singleton, exists_eq_left]
  cases audioConfig with
  | pcmConfig pcmConfig => simp [AudioConfiguration.IsAdvertisedBy, isSoftwarePcmConfigurationValid_iff]
  | _ => simp [AudioConfiguration.IsAdvertisedBy]

theorem a2dp_isAdvertised_iff (sessionType : SessionType) (audioConfig : AudioConfiguration) :
    (∃ capability ∈ (getA2dpOffloadCodecCapabilities sessionType).map AudioCapabilities.a2dpCapabilities,
        audioConfig.IsAdvertisedBy capability) ↔
      ∃ codecConfig, audioConfig = .a2dpConfig codecConfig ∧
        isOffloadCodecConfigurationValid sessionType codecConfig = true := by
  simp only [List.mem_map, exists_exists_and_eq_and]
  cases audioConfig with
  | a2dpConfig codecConfig => simp [AudioConfiguration.IsAdvertisedBy, isOffloadCodecConfigurationValid_iff]
  | _ => simp [AudioConfiguration.IsAdvertisedBy]

/-- The settings for LE audio are all made of the five LC3 capabilities. -/
theorem mem_composeLeAudioSettings (capability : Lc3Capabilities) :
    (∃ setting ∈ composeLeAudioSettings, setting.unicastEncodeCapability.leAudioCodecCapabilities = some capability ∨
      setting.unicastDecodeCapability.leAudioCodecCapabilities = some capability) ↔
      capability ∈ supportedLc3CapabilityList := by
  constructor
  · rintro ⟨setting, hsetting, hcapability⟩
    have hmade : ∀ setting ∈ composeLeAudioSettings,
        setting.unicastEncodeCapability.leAudioCodecCapabilities ∈ none :: supportedLc3CapabilityList.map some ∧
          setting.unicastDecodeCapability.leAudioCodecCapabilities ∈ none :: supportedLc3CapabilityList.map some := by
      decide
    obtain ⟨hencode, hdecode⟩ := hmade setting hsetting
    obtain hencoded | hdecoded := hcapability
    · rw [hencoded] at hencode
      simpa using hencode
    · rw [hdecoded] at hdecode
      simpa using hdecode
  · intro hmem
    refine ⟨⟨composeUnicastLc3Capability .monoAudio 1 1 capability, invalidUnicastCapability⟩, ?_, Or.inl rfl⟩
    refine List.mem_flatMap.mpr ⟨(.monoAudio, 1, 1), by decide, List.mem_flatMap.mpr ⟨capability, hmem, ?_⟩⟩
    exact List.mem_cons_self

theorem leAudio_isAdvertised_iff (config : LeAudioConfiguration) :
    (∃ capability ∈ composeLeAudioSettings.map AudioCapabilities.leAudioCapabilities,
        (AudioConfiguration.leAudioConfig config).IsAdvertisedBy capability) ↔
      ∃ lc3Config, config.leAudioCodecConfig = .lc3Config lc3Config ∧
        ∃ capability ∈ supportedLc3CapabilityList, lc3Config.IsAdvertisedBy capability := by
  simp only [List.mem_map, exists_exists_and_eq_and, AudioConfiguration.IsAdvertisedBy,
    LeAudioConfiguration.IsAdvertisedBy, ← mem_composeLeAudioSettings]
  constructor
  · rintro ⟨setting, hsetting, lc3Config, capability, hlc3, hhas, hadvertised⟩
    exact ⟨lc3Config, hlc3, capability, ⟨setting, hsetting, hhas⟩, hadvertised⟩
  · rintro ⟨lc3Config, hlc3, capability, ⟨setting, hsetting, hhas⟩, hadvertised⟩
    exact ⟨setting, hsetting, lc3Config, capability, hlc3, hhas, hadvertised⟩

theorem getTag_of_isAdvertised {setting : LeAudioCodecCapabilitiesSetting}
    (h : audioConfig.IsAdvertisedBy (.leAudioCapabilities setting)) : audioConfig.getTag = .leAudioConfig := by
  cases audioConfig with
  | leAudioConfig config => rfl
  | _ => exact h.elim

/-- The configuration is advertised, or the session type offloads LE audio, where no configuration of it is looked
at. -/
def Takes (sessionType : SessionType) (capabilities : List AudioCapabilities) (audioConfig : AudioConfiguration) :
    Prop :=
  (∃ capability ∈ capabilities, audioConfig.IsAdvertisedBy capability) ∨
    providerKind sessionType = some .leAudioOffload ∧ audioConfig.getTag = .leAudioConfig

theorem accept_isSome_iff (hfrom : provider.OpenedFor newMq sessionType) :
    (provider.accept newMq audioConfig).isSome = true ↔
      Takes sessionType (getProviderCapabilities [] sessionType).2 audioConfig ∧
        provider.HasRoom newMq audioConfig := by
  obtain ⟨hkind, htype, -⟩ := hfrom.facts
  obtain ⟨kind, type, stackIface, config, modes, died, dataMq⟩ := provider
  obtain rfl : type = sessionType := htype
  rw [Takes, getProviderCapabilities_of_kind hkind, hkind]
  cases kind with
  | a2dpSoftware =>
      simp only [capabilitiesOfKind, pcm_isAdvertised_iff]
      cases audioConfig <;> simp [accept, HasRoom]
  | hearingAid =>
      simp only [capabilitiesOfKind, pcm_isAdvertised_iff]
      cases audioConfig <;> simp [accept, HasRoom]
  | a2dpOffload =>
      simp only [capabilitiesOfKind, a2dp_isAdvertised_iff]
      cases audioConfig <;> simp [accept, HasRoom]
  | leAudioOffload =>
      have htag : (∃ capability ∈ capabilitiesOfKind type .leAudioOffload, audioConfig.IsAdvertisedBy capability) →
          audioConfig.getTag = .leAudioConfig := by
        rintro ⟨capability, hmem, hadvertised⟩
        obtain ⟨setting, -, rfl⟩ := List.mem_map.mp hmem
        exact getTag_of_isAdvertised hadvertised
      rw [or_iff_right_of_imp fun h => ⟨rfl, htag h⟩]
      cases audioConfig with
      | leAudioConfig config =>
          simp [accept, HasRoom, isOffloadLeAudioConfigurationValid_of_kind hkind, AudioConfiguration.getTag]
      | _ => simp [accept, HasRoom, AudioConfiguration.getTag]
  | leAudioSoftware =>
      simp only [capabilitiesOfKind, pcm_isAdvertised_iff]
      cases audioConfig with
      | pcmConfig pcmConfig =>
          by_cases hsize : leAudioDataMqSize type pcmConfig ≤ 0
          · simp [accept, HasRoom, hsize, Int.not_lt.mpr hsize]
          · cases hvalid : isSoftwarePcmConfigurationValid pcmConfig <;>
              simp [accept, HasRoom, hsize, Int.not_le.mp hsize, hvalid]
      | _ => simp [accept, HasRoom]

/-- A session starts with a configuration if and only if a host interface is given, the capabilities that the factory
answers for its type have the configuration, whatever it was asked before, or it is one of LE audio to be offloaded, and
an LE audio provider can make a queue for it. -/
theorem startSession_advertised_iff (hfrom : provider.OpenedFor newMq sessionType) (asked : List SessionType) :
    (provider.startSession newMq session hostIf audioConfig latencyModes).isOk = true ↔
      hostIf.isSome = true ∧
        Takes sessionType (getProviderCapabilities (keptAfter asked) sessionType).2 audioConfig ∧
        provider.HasRoom newMq audioConfig := by
  rw [startSession_isOk, getProviderCapabilities_keptAfter, accept_isSome_iff hfrom]

def offloadProvider : BluetoothAudioProvider Nat := .create validMq .a2dpOffload .a2dpHardwareOffloadEncodingDatapath

theorem offloadProvider_openedFor : offloadProvider.OpenedFor validMq .a2dpHardwareOffloadEncodingDatapath :=
  ⟨offloadProvider, rfl, rfl, rfl, fun _ => rfl⟩

def leOffloadProvider : BluetoothAudioProvider Nat :=
  .create validMq .leAudioOffload .leAudioHardwareOffloadEncodingDatapath

theorem leOffloadProvider_openedFor : leOffloadProvider.OpenedFor validMq .leAudioHardwareOffloadEncodingDatapath :=
  ⟨leOffloadProvider, rfl, rfl, rfl, fun _ => rfl⟩

/-- LC3 at 44.1 kHz, which none of the five capabilities has. -/
def lc3Configuration44 : LeAudioConfiguration := ⟨.lc3Config ⟨16, 44100, 10000, 100, 1⟩, []⟩

theorem lc3Configuration44_isNotAdvertised :
    ¬∃ capability ∈ (getProviderCapabilities [] .leAudioHardwareOffloadEncodingDatapath).2,
      (AudioConfiguration.leAudioConfig lc3Configuration44).IsAdvertisedBy capability := by
  intro hadvertised
  obtain ⟨lc3Config, hlc3, capability, hmem, hrate, -⟩ := (leAudio_isAdvertised_iff _).mp hadvertised
  obtain rfl : _ = lc3Config := LeAudioCodecConfiguration.lc3Config.inj hlc3
  have hnone : ∀ capability ∈ supportedLc3CapabilityList, (44100 : Int) ∉ capability.samplingFrequencyHz := by decide
  exact hnone capability hmem hrate

/-- A session starts with LDAC at 96 kHz, after the settings for LE audio were asked for, and one that offloads LE audio
with what is not advertised. -/
theorem offloadProviders_start :
    (offloadProvider.startSession validMq (O := Unit) (.create .a2dpHardwareOffloadEncodingDatapath) (some 7)
      (.a2dpConfig ⟨.ldac, .ldacConfig ⟨96000, .stereo, .high, 24⟩⟩) []).isOk = true ∧
    (leOffloadProvider.startSession validMq (O := Unit) (.create .leAudioHardwareOffloadEncodingDatapath) (some 7)
      (.leAudioConfig lc3Configuration44) []).isOk = true ∧
    ¬∃ capability ∈ (getProviderCapabilities [] .leAudioHardwareOffloadEncodingDatapath).2,
      (AudioConfiguration.leAudioConfig lc3Configuration44).IsAdvertisedBy capability := by
  refine ⟨?_, ?_, lc3Configuration44_isNotAdvertised⟩
  · refine (startSession_advertised_iff offloadProvider_openedFor [.leAudioHardwareOffloadEncodingDatapath]).mpr
      ⟨rfl, Or.inl ⟨.a2dpCapabilities ⟨.ldac, .ldacCapabilities defaultOffloadLdacCapability⟩, ?_, rfl, ?_⟩, ?_⟩
    · exact List.mem_cons_of_mem _ (List.mem_cons_of_mem _ List.mem_cons_self)
    · exact ⟨by decide, by decide, by decide, by decide⟩
    · intro pcmConfig hkind
      cases hkind
  · refine (startSession_advertised_iff leOffloadProvider_openedFor []).mpr ⟨rfl, Or.inr ⟨rfl, rfl⟩, ?_⟩
    intro pcmConfig hkind
    cases hkind

end BluetoothAudioProvider

end Penrose.Bluetooth

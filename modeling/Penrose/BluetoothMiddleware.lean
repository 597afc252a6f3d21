import Penrose.BluetoothHidlCodecs

/-! The middleware between the HIDL and the AIDL session, as far as it translates audio configurations from AIDL to
version 2.1 of HIDL. -/

namespace Penrose.Bluetooth.Middleware

/-! ### The configurations of AIDL -/

/-- With what a provider does not ask. -/
structure CodecConfiguration extends Bluetooth.CodecConfiguration where
  encodedAudioBitrate : BitVec 32
  peerMtu : BitVec 32
  isScmstEnabled : Bool

structure BroadcastStreamMap where
  leAudioCodecConfig : LeAudioCodecConfiguration
  audioChannelAllocation : BitVec 32

structure LeAudioBroadcastConfiguration where
  streamMap : List BroadcastStreamMap

inductive AudioConfiguration where
  | pcmConfig (config : PcmConfiguration)
  | a2dpConfig (config : CodecConfiguration)
  | leAudioConfig (config : LeAudioConfiguration)
  | leAudioBroadcastConfig (config : LeAudioBroadcastConfiguration)

/-! ### The configurations of HIDL -/

namespace Lc3FrameDuration

def duration10000Us : BitVec 8 := 0x00
def duration7500Us : BitVec 8 := 0x01

end Lc3FrameDuration

structure Lc3Parameters where
  pcmBitDepth : Hidl.BitsPerSample
  samplingFrequency : Hidl.SampleRate
  frameDuration : BitVec 8
  octetsPerFrame : BitVec 32
  blocksPerSdu : BitVec 8

structure Lc3CodecConfiguration where
  audioChannelAllocation : BitVec 32
  lc3Config : Lc3Parameters

/-- `AudioConfiguration` of version 2.1. -/
inductive AudioConfiguration21 where
  | pcmConfig (config : Hidl.PcmParameters)
  | codecConfig (config : Hidl.CodecConfiguration)
  | leAudioCodecConfig (config : Lc3CodecConfiguration)

/-- What the members hold that nothing is assigned to. -/
structure Uninitialised where
  sbcConfig : Hidl.SbcParameters
  lc3Config : Lc3Parameters

/-! ### The maps -/

def sampleRateToHidl21Map : List (Int × Hidl.SampleRate) :=
  [(44100, .rate44100), (48000, .rate48000), (88200, .rate88200), (96000, .rate96000), (176400, .rate176400),
    (192000, .rate192000), (16000, .rate16000), (24000, .rate24000), (8000, .rate8000), (32000, .rate32000)]

def toHidlSampleRate21 (sampleRateHz : Int) : Hidl.SampleRate :=
  (sampleRateToHidl21Map.lookup sampleRateHz).getD .rateUnknown

/-- The bits of the rate of version 2.1. -/
def toHidlSampleRate20 (sampleRateHz : Int) : BitVec 32 := (toHidlSampleRate21 sampleRateHz).value

def toHidlBitsPerSample (bitsPerSample : Int) : Hidl.BitsPerSample :=
  if bitsPerSample = 16 then .bits16
  else if bitsPerSample = 24 then .bits24
  else if bitsPerSample = 32 then .bits32
  else .bitsUnknown

def toHidlChannelMode : ChannelMode → Hidl.ChannelMode
  | .mono => .mono
  | .stereo => .stereo
  | _ => .unknown

def toHidlCodecType20 : CodecType → BitVec 32
  | .sbc => Hidl.CodecType.sbc
  | .aac => Hidl.CodecType.aac
  | .aptx => Hidl.CodecType.aptx
  | .aptxHd => Hidl.CodecType.aptxHd
  | .ldac => Hidl.CodecType.ldac
  | _ => Hidl.CodecType.unknown

def sbcChannelModeToHidl20 : SbcChannelMode → BitVec 8
  | .unknown => Hidl.SbcChannelMode.unknown
  | .jointStereo => Hidl.SbcChannelMode.jointStereo
  | .stereo => Hidl.SbcChannelMode.stereo
  | .dual => Hidl.SbcChannelMode.dual
  | .mono => Hidl.SbcChannelMode.mono

def sbcBlockLengthToHidlMap : List (Int × BitVec 8) :=
  [(4, Hidl.SbcBlockLength.blocks4), (8, Hidl.SbcBlockLength.blocks8), (12, Hidl.SbcBlockLength.blocks12),
    (16, Hidl.SbcBlockLength.blocks16)]

def sbcSubbandsToHidlMap : List (Int × BitVec 8) :=
  [(4, Hidl.SbcNumSubbands.subband4), (8, Hidl.SbcNumSubbands.subband8)]

def sbcAllocMethodToHidl : SbcAllocMethod → BitVec 8
  | .allocMdS => Hidl.SbcAllocMethod.allocMdS
  | .allocMdL => Hidl.SbcAllocMethod.allocMdL

def aacObjectTypeToHidl : AacObjectType → BitVec 8
  | .mpeg2Lc => Hidl.AacObjectType.mpeg2Lc
  | .mpeg4Lc => Hidl.AacObjectType.mpeg4Lc
  | .mpeg4Ltp => Hidl.AacObjectType.mpeg4Ltp
  | .mpeg4Scalable => Hidl.AacObjectType.mpeg4Scalable

def ldacChannelModeToHidl : LdacChannelMode → BitVec 8
  | .unknown => Hidl.LdacChannelMode.unknown
  | .stereo => Hidl.LdacChannelMode.stereo
  | .dual => Hidl.LdacChannelMode.dual
  | .mono => Hidl.LdacChannelMode.mono

def ldacQindexToHidl : LdacQualityIndex → BitVec 8
  | .high => Hidl.LdacQualityIndex.qualityHigh
  | .mid => Hidl.LdacQualityIndex.qualityMid
  | .low => Hidl.LdacQualityIndex.qualityLow
  | .abr => Hidl.LdacQualityIndex.qualityAbr

/-! ### The translation -/

/-- A block length or a number of subbands that has no value of HIDL is not assigned. -/
def toHidlSbcConfig (uninitialised : Hidl.SbcParameters) (sbcConfig : SbcConfiguration) : Hidl.SbcParameters where
  minBitpool := .ofInt 8 sbcConfig.minBitpool
  maxBitpool := .ofInt 8 sbcConfig.maxBitpool
  sampleRate := toHidlSampleRate20 sbcConfig.sampleRateHz
  bitsPerSample := (toHidlBitsPerSample sbcConfig.bitsPerSample).value
  channelMode := sbcChannelModeToHidl20 sbcConfig.channelMode
  blockLength := (sbcBlockLengthToHidlMap.lookup sbcConfig.blockLength).getD uninitialised.blockLength
  numSubbands := (sbcSubbandsToHidlMap.lookup sbcConfig.numSubbands).getD uninitialised.numSubbands
  allocMethod := sbcAllocMethodToHidl sbcConfig.allocMethod

def toHidlAacConfig (aacConfig : AacConfiguration) : Hidl.AacParameters where
  sampleRate := toHidlSampleRate20 aacConfig.sampleRateHz
  bitsPerSample := (toHidlBitsPerSample aacConfig.bitsPerSample).value
  channelMode := (toHidlChannelMode aacConfig.channelMode).value
  objectType := aacObjectTypeToHidl aacConfig.objectType
  variableBitRateEnabled :=
    if aacConfig.variableBitRateEnabled then Hidl.AacVariableBitRate.enabled else Hidl.AacVariableBitRate.disabled

def toHidlLdacConfig (ldacConfig : LdacConfiguration) : Hidl.LdacParameters where
  sampleRate := toHidlSampleRate20 ldacConfig.sampleRateHz
  bitsPerSample := (toHidlBitsPerSample ldacConfig.bitsPerSample).value
  channelMode := ldacChannelModeToHidl ldacConfig.channelMode
  qualityIndex := ldacQindexToHidl ldacConfig.qualityIndex

def toHidlAptxConfig (aptxConfig : AptxConfiguration) : Hidl.AptxParameters where
  sampleRate := toHidlSampleRate20 aptxConfig.sampleRateHz
  bitsPerSample := (toHidlBitsPerSample aptxConfig.bitsPerSample).value
  channelMode := (toHidlChannelMode aptxConfig.channelMode).value

/-- The parameters of any other codec are left as a new union has them. -/
def toHidlCodecConfig20 (uninitialised : Uninitialised) (codecConfig : CodecConfiguration) :
    Hidl.CodecConfiguration where
  codecType := toHidlCodecType20 codecConfig.codecType
  encodedAudioBitrate := codecConfig.encodedAudioBitrate
  peerMtu := codecConfig.peerMtu
  isScmstEnabled := codecConfig.isScmstEnabled
  config :=
    match codecConfig.config with
    | .sbcConfig sbcConfig => .sbcConfig (toHidlSbcConfig uninitialised.sbcConfig sbcConfig)
    | .aacConfig aacConfig => .aacConfig (toHidlAacConfig aacConfig)
    | .ldacConfig ldacConfig => .ldacConfig (toHidlLdacConfig ldacConfig)
    | .aptxConfig aptxConfig => .aptxConfig (toHidlAptxConfig aptxConfig)
    | _ => .sbcConfig ⟨0, 0, 0, 0, 0, 0, 0, 0⟩

def toHidlPcmConfig21 (pcmConfig : PcmConfiguration) : Hidl.PcmParameters where
  sampleRate := toHidlSampleRate21 pcmConfig.sampleRateHz
  channelMode := toHidlChannelMode pcmConfig.channelMode
  bitsPerSample := toHidlBitsPerSample pcmConfig.bitsPerSample
  dataIntervalUs := (pcmConfig.dataIntervalUs % 2 ^ 32).toNat

/-- The frame duration is assigned by the sampling frequency, if that has one of the two values. -/
def toHidlLc3Config21 (uninitialised : Lc3Parameters) (lc3Config : Lc3Configuration) : Lc3Parameters where
  pcmBitDepth := toHidlBitsPerSample lc3Config.pcmBitDepth
  samplingFrequency := toHidlSampleRate21 lc3Config.samplingFrequencyHz
  frameDuration :=
    if lc3Config.samplingFrequencyHz = 10000 then Lc3FrameDuration.duration10000Us
    else if lc3Config.samplingFrequencyHz = 7500 then Lc3FrameDuration.duration7500Us
    else uninitialised.frameDuration
  octetsPerFrame := lc3Config.octetsPerFrame
  -- `static_cast<uint32_t>`, and then to the 8 bits of the member
  blocksPerSdu := (lc3Config.blocksPerSdu.signExtend 32).setWidth 8

/-- `to_hidl_leaudio_config_2_1`, which aborts where it logs that the codec is unexpected. -/
def toHidlLeaudioConfig21 (uninitialised : Uninitialised) (unicastConfig : LeAudioConfiguration) :
    Option Lc3CodecConfiguration :=
  if unicastConfig.leAudioCodecConfig.getTag = .lc3Config then none
  else
    unicastConfig.leAudioCodecConfig.getLc3Config.map fun leCodecConfig =>
      { lc3Config := toHidlLc3Config21 uninitialised.lc3Config leCodecConfig
        audioChannelAllocation := (unicastConfig.streamMap.map (·.audioChannelAllocation)).foldl (· ||| ·) 0 }

/-- `to_hidl_leaudio_broadcast_config_2_1`. -/
def toHidlLeaudioBroadcastConfig21 (uninitialised : Uninitialised) (broadcastConfig : LeAudioBroadcastConfiguration) :
    Option Lc3CodecConfiguration :=
  match broadcastConfig.streamMap with
  | [] => some ⟨0, ⟨.bitsUnknown, .rateUnknown, 0, 0, 0⟩⟩
  | first :: _ =>
      if first.leAudioCodecConfig.getTag ≠ .lc3Config then none
      else
        first.leAudioCodecConfig.getLc3Config.map fun leCodecConfig =>
          { lc3Config := toHidlLc3Config21 uninitialised.lc3Config leCodecConfig
            audioChannelAllocation :=
              (broadcastConfig.streamMap.map (·.audioChannelAllocation)).foldl (· ||| ·) 0 }

/-- `to_hidl_audio_config_2_1`; nothing if the process aborts. -/
def toHidlAudioConfig21 (uninitialised : Uninitialised) : AudioConfiguration → Option AudioConfiguration21
  | .pcmConfig config => some (.pcmConfig (toHidlPcmConfig21 config))
  | .a2dpConfig config => some (.codecConfig (toHidlCodecConfig20 uninitialised config))
  | .leAudioConfig config => (toHidlLeaudioConfig21 uninitialised config).map .leAudioCodecConfig
  | .leAudioBroadcastConfig config => (toHidlLeaudioBroadcastConfig21 uninitialised config).map .leAudioCodecConfig

/-! ### What a translation preserves -/

/-- The parameters mean what the configuration means. -/
structure Lc3Parameters.Preserves (hidl : Lc3Parameters) (lc3Config : Lc3Configuration) : Prop where
  pcmBitDepth : hidl.pcmBitDepth = toHidlBitsPerSample lc3Config.pcmBitDepth
  samplingFrequency : hidl.samplingFrequency = toHidlSampleRate21 lc3Config.samplingFrequencyHz
  duration7500Us : lc3Config.frameDurationUs = 7500 → hidl.frameDuration = Lc3FrameDuration.duration7500Us
  duration10000Us : lc3Config.frameDurationUs = 10000 → hidl.frameDuration = Lc3FrameDuration.duration10000Us
  octetsPerFrame : hidl.octetsPerFrame = lc3Config.octetsPerFrame
  blocksPerSdu : hidl.blocksPerSdu = lc3Config.blocksPerSdu

namespace AudioConfiguration

/-- The configuration of an LE audio codec that a configuration holds: that of the first stream of a broadcast. -/
def leAudioCodecConfig : AudioConfiguration → Option LeAudioCodecConfiguration
  | .leAudioConfig config => some config.leAudioCodecConfig
  | .leAudioBroadcastConfig config => config.streamMap.head?.map (·.leAudioCodecConfig)
  | _ => none

def audioChannelAllocations : AudioConfiguration → List (BitVec 32)
  | .leAudioConfig config => config.streamMap.map (·.audioChannelAllocation)
  | .leAudioBroadcastConfig config => config.streamMap.map (·.audioChannelAllocation)
  | _ => []

/-- A unicast configuration of LC3, or a broadcast one with streams, all of LC3. -/
def IsLc3 : AudioConfiguration → Prop
  | .leAudioConfig config => config.leAudioCodecConfig.getTag = .lc3Config
  | .leAudioBroadcastConfig config =>
      config.streamMap ≠ [] ∧ ∀ stream ∈ config.streamMap, stream.leAudioCodecConfig.getTag = .lc3Config
  | _ => False

/-- The translation succeeds, preserves every parameter, and allocates the channels of all streams. -/
def IsPreserved (uninitialised : Uninitialised) (audioConfig : AudioConfiguration) : Prop :=
  ∃ hidl lc3Config, toHidlAudioConfig21 uninitialised audioConfig = some (.leAudioCodecConfig hidl) ∧
    audioConfig.leAudioCodecConfig = some (.lc3Config lc3Config) ∧ hidl.lc3Config.Preserves lc3Config ∧
    ∀ i, hidl.audioChannelAllocation.getLsbD i = audioConfig.audioChannelAllocations.any (·.getLsbD i)

end AudioConfiguration

/-- The sampling frequency happens to assign the frame duration, or the member holds it already. -/
def AssignsDuration (uninitialised : Lc3Parameters) (lc3Config : Lc3Configuration) : Prop :=
  (lc3Config.frameDurationUs = 7500 → lc3Config.samplingFrequencyHz = 7500 ∨
    lc3Config.samplingFrequencyHz ≠ 10000 ∧ uninitialised.frameDuration = Lc3FrameDuration.duration7500Us) ∧
  (lc3Config.frameDurationUs = 10000 → lc3Config.samplingFrequencyHz = 10000 ∨
    lc3Config.samplingFrequencyHz ≠ 7500 ∧ uninitialised.frameDuration = Lc3FrameDuration.duration10000Us)

theorem preserves_toHidlLc3Config21_iff (uninitialised : Lc3Parameters) (lc3Config : Lc3Configuration) :
    (toHidlLc3Config21 uninitialised lc3Config).Preserves lc3Config ↔ AssignsDuration uninitialised lc3Config := by
  have hdurations : Lc3FrameDuration.duration10000Us ≠ Lc3FrameDuration.duration7500Us := by decide
  have hduration7500 : (toHidlLc3Config21 uninitialised lc3Config).frameDuration = Lc3FrameDuration.duration7500Us ↔
      (lc3Config.samplingFrequencyHz = 7500 ∨
        lc3Config.samplingFrequencyHz ≠ 10000 ∧ uninitialised.frameDuration = Lc3FrameDuration.duration7500Us) := by
    simp only [toHidlLc3Config21]
    split_ifs with h10000 h7500
    · simp [h10000, hdurations]
    · simp [h7500]
    · simp [h10000, h7500]
  have hduration10000 : (toHidlLc3Config21 uninitialised lc3Config).frameDuration = Lc3FrameDuration.duration10000Us ↔
      (lc3Config.samplingFrequencyHz = 10000 ∨
        lc3Config.samplingFrequencyHz ≠ 7500 ∧ uninitialised.frameDuration = Lc3FrameDuration.duration10000Us) := by
    simp only [toHidlLc3Config21]
    split_ifs with h10000 h7500
    · simp [h10000]
    · simp [h7500, hdurations.symm]
    · simp [h10000, h7500]
  rw [AssignsDuration, ← hduration7500, ← hduration10000]
  refine ⟨?_, ?_⟩
  · intro h
    exact ⟨h.duration7500Us, h.duration10000Us⟩
  · rintro ⟨h7500, h10000⟩
    exact ⟨rfl, rfl, h7500, h10000, rfl, setWidth_signExtend (by decide : 8 ≤ 32) _⟩

theorem allocation_foldl (allocations : List (BitVec 32)) (i : Nat) :
    (allocations.foldl (· ||| ·) 0).getLsbD i = allocations.any (·.getLsbD i) := by
  rw [getLsbD_foldl_or]
  simp

/-- A unicast configuration of LC3 aborts. -/
theorem toHidlAudioConfig21_unicast {uninitialised : Uninitialised} {config : LeAudioConfiguration}
    (hlc3 : (AudioConfiguration.leAudioConfig config).IsLc3) :
    toHidlAudioConfig21 uninitialised (.leAudioConfig config) = none := by
  have htag : config.leAudioCodecConfig.getTag = .lc3Config := hlc3
  rw [toHidlAudioConfig21, toHidlLeaudioConfig21, if_pos htag]
  rfl

/-- A broadcast is translated by its first stream, and allocates the channels of all of them. -/
theorem broadcast_isPreserved_iff (uninitialised : Uninitialised) (lc3Config : Lc3Configuration)
    (audioChannelAllocation : BitVec 32) (rest : List BroadcastStreamMap) :
    (AudioConfiguration.leAudioBroadcastConfig
      ⟨⟨.lc3Config lc3Config, audioChannelAllocation⟩ :: rest⟩).IsPreserved uninitialised ↔
        AssignsDuration uninitialised.lc3Config lc3Config := by
  let allocations := audioChannelAllocation :: rest.map (·.audioChannelAllocation)
  let hidl : Lc3CodecConfiguration :=
    ⟨allocations.foldl (· ||| ·) 0, toHidlLc3Config21 uninitialised.lc3Config lc3Config⟩
  have htranslated : toHidlAudioConfig21 uninitialised
      (.leAudioBroadcastConfig ⟨⟨.lc3Config lc3Config, audioChannelAllocation⟩ :: rest⟩) =
        some (.leAudioCodecConfig hidl) := rfl
  rw [← preserves_toHidlLc3Config21_iff]
  refine ⟨?_, ?_⟩
  · intro hpreserved
    obtain ⟨hidl', lc3Config', htranslated', hsource, hpreserves, -⟩ := hpreserved
    obtain rfl : lc3Config = lc3Config' := by simpa [AudioConfiguration.leAudioCodecConfig] using hsource
    obtain rfl : hidl = hidl' := by simpa [htranslated] using htranslated'
    exact hpreserves
  · intro hpreserves
    exact ⟨hidl, lc3Config, htranslated, rfl, hpreserves, fun i => allocation_foldl allocations i⟩

/-- A broadcast is translated; a unicast configuration of LC3 aborts. -/
theorem leAudioConfig_isPreserved_iff {uninitialised : Uninitialised} {audioConfig : AudioConfiguration}
    (hlc3 : audioConfig.IsLc3) :
    audioConfig.IsPreserved uninitialised ↔
      (∃ config, audioConfig = .leAudioBroadcastConfig config) ∧
        ∀ lc3Config, audioConfig.leAudioCodecConfig = some (.lc3Config lc3Config) →
          AssignsDuration uninitialised.lc3Config lc3Config := by
  cases audioConfig with
  | pcmConfig config => exact hlc3.elim
  | a2dpConfig config => exact hlc3.elim
  | leAudioConfig config =>
      apply iff_of_false
      · intro hpreserved
        obtain ⟨hidl, lc3Config, htranslated, -⟩ := hpreserved
        rw [toHidlAudioConfig21_unicast hlc3] at htranslated
        cases htranslated
      · intro hbroadcast
        obtain ⟨⟨_, hbroadcast⟩, -⟩ := hbroadcast
        cases hbroadcast
  | leAudioBroadcastConfig config =>
      obtain ⟨streamMap⟩ := config
      obtain ⟨hstreams, hcodecs⟩ := hlc3
      obtain ⟨⟨codecConfig, audioChannelAllocation⟩, rest, rfl⟩ := List.exists_cons_of_ne_nil hstreams
      have hcodec := hcodecs _ (List.mem_cons_self ..)
      cases codecConfig with
      | vendorConfig => cases hcodec
      | lc3Config lc3Config =>
          rw [broadcast_isPreserved_iff]
          refine ⟨?_, ?_⟩
          · intro hassigns
            refine ⟨⟨_, rfl⟩, fun lc3Config' hsource => ?_⟩
            obtain rfl : lc3Config = lc3Config' := by simpa [AudioConfiguration.leAudioCodecConfig] using hsource
            exact hassigns
          · intro hassigns
            exact hassigns.2 lc3Config rfl

/-- Memory that was zero. -/
def zeroMemory : Uninitialised := ⟨⟨0, 0, 0, 0, 0, 0, 0, 0⟩, ⟨.bitsUnknown, .rateUnknown, 0, 0, 0⟩⟩

/-- LC3 with frames of the given duration, at 48000 Hz. -/
def lc3OfDuration (frameDurationUs : Int) : LeAudioCodecConfiguration :=
  .lc3Config ⟨16, 48000, frameDurationUs, 100, 1⟩

/-- Two streams, one for the front left and one for the front right channel. -/
def broadcastOfDuration (frameDurationUs : Int) : AudioConfiguration :=
  .leAudioBroadcastConfig ⟨[⟨lc3OfDuration frameDurationUs, 1⟩, ⟨lc3OfDuration frameDurationUs, 2⟩]⟩

theorem isLc3_broadcastOfDuration (frameDurationUs : Int) : (broadcastOfDuration frameDurationUs).IsLc3 :=
  ⟨List.cons_ne_nil _ _, by simp [lc3OfDuration, LeAudioCodecConfiguration.getTag]⟩

/-- Frames of 10 ms are translated where the member holds zero, whatever the frequency. -/
theorem leAudioConfig_isPreserved_iff_broadcast : (broadcastOfDuration 10000).IsPreserved zeroMemory := by
  refine (leAudioConfig_isPreserved_iff (isLc3_broadcastOfDuration 10000)).mpr ⟨⟨_, rfl⟩, ?_⟩
  intro lc3Config hsource
  obtain rfl : (⟨16, 48000, 10000, 100, 1⟩ : Lc3Configuration) = lc3Config := by
    simpa [broadcastOfDuration, AudioConfiguration.leAudioCodecConfig, lc3OfDuration] using hsource
  exact ⟨by decide, fun _ => Or.inr (by decide)⟩

/-- A unicast configuration aborts, and the broadcast of frames of 7.5 ms becomes one of 10 ms. -/
theorem leAudioConfig_notPreserved :
    let unicast := AudioConfiguration.leAudioConfig ⟨lc3OfDuration 10000, [⟨1⟩]⟩
    (unicast.IsLc3 ∧ ¬unicast.IsPreserved zeroMemory) ∧
      (broadcastOfDuration 7500).IsLc3 ∧ ¬(broadcastOfDuration 7500).IsPreserved zeroMemory := by
  refine ⟨⟨rfl, ?_⟩, isLc3_broadcastOfDuration 7500, ?_⟩
  · rintro ⟨hidl, lc3Config, htranslated, -⟩
    have haborts : toHidlAudioConfig21 zeroMemory (.leAudioConfig ⟨lc3OfDuration 10000, [⟨1⟩]⟩) = none := rfl
    rw [haborts] at htranslated
    cases htranslated
  · rintro ⟨hidl, lc3Config, htranslated, hsource, hpreserves, -⟩
    obtain rfl : (⟨16, 48000, 7500, 100, 1⟩ : Lc3Configuration) = lc3Config := by
      simpa [broadcastOfDuration, AudioConfiguration.leAudioCodecConfig, lc3OfDuration] using hsource
    obtain rfl : (⟨3, ⟨.bits16, .rate48000, Lc3FrameDuration.duration10000Us, 100, 1⟩⟩ : Lc3CodecConfiguration) =
        hidl := by
      have hresult : toHidlAudioConfig21 zeroMemory (broadcastOfDuration 7500) = some (.leAudioCodecConfig
          ⟨3, ⟨.bits16, .rate48000, Lc3FrameDuration.duration10000Us, 100, 1⟩⟩) := rfl
      simpa [hresult] using htranslated
    exact absurd (hpreserves.duration7500Us rfl) (by decide)

end Penrose.Bluetooth.Middleware

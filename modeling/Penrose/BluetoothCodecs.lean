import Mathlib.Data.List.Basic

/-! The session types and audio configurations of the Bluetooth audio HAL, and `BluetoothAudioCodecs`, which
says what configurations a provider accepts. -/

namespace Penrose.Bluetooth

inductive SessionType where
  | unknown
  | a2dpSoftwareEncodingDatapath
  | a2dpHardwareOffloadEncodingDatapath
  | hearingAidSoftwareEncodingDatapath
  | leAudioSoftwareEncodingDatapath
  | leAudioSoftwareDecodingDatapath
  | leAudioHardwareOffloadEncodingDatapath
  | leAudioHardwareOffloadDecodingDatapath
  | leAudioBroadcastSoftwareEncodingDatapath
  | leAudioBroadcastHardwareOffloadEncodingDatapath
  | a2dpSoftwareDecodingDatapath
  | a2dpHardwareOffloadDecodingDatapath
  deriving DecidableEq

inductive ChannelMode where
  | unknown | mono | stereo | dualmono
  deriving DecidableEq

structure PcmConfiguration where
  sampleRateHz : Int
  channelMode : ChannelMode
  bitsPerSample : Int
  dataIntervalUs : Int

inductive SbcChannelMode where
  | unknown | jointStereo | stereo | dual | mono
  deriving DecidableEq

inductive SbcAllocMethod where
  | allocMdS | allocMdL
  deriving DecidableEq

inductive AacObjectType where
  | mpeg2Lc | mpeg4Lc | mpeg4Ltp | mpeg4Scalable
  deriving DecidableEq

inductive LdacChannelMode where
  | unknown | stereo | dual | mono
  deriving DecidableEq

inductive LdacQualityIndex where
  | high | mid | low | abr
  deriving DecidableEq

structure SbcConfiguration where
  sampleRateHz : Int
  channelMode : SbcChannelMode
  blockLength : Int
  numSubbands : Int
  allocMethod : SbcAllocMethod
  bitsPerSample : Int
  minBitpool : Int
  maxBitpool : Int

structure AacConfiguration where
  objectType : AacObjectType
  sampleRateHz : Int
  channelMode : ChannelMode
  variableBitRateEnabled : Bool
  bitsPerSample : Int

structure LdacConfiguration where
  sampleRateHz : Int
  channelMode : LdacChannelMode
  qualityIndex : LdacQualityIndex
  bitsPerSample : Int

structure AptxConfiguration where
  sampleRateHz : Int
  channelMode : ChannelMode
  bitsPerSample : Int

structure OpusConfiguration where
  samplingFrequencyHz : Int
  frameDurationUs : Int
  channelMode : ChannelMode

inductive CodecType where
  | unknown | sbc | aac | aptx | aptxHd | ldac | lc3 | vendor | aptxAdaptive | opus
  deriving DecidableEq

/-- `CodecConfiguration::CodecSpecific`. -/
inductive CodecSpecific where
  | sbcConfig (data : SbcConfiguration)
  | aacConfig (data : AacConfiguration)
  | ldacConfig (data : LdacConfiguration)
  | aptxConfig (data : AptxConfiguration)
  | lc3Config
  | vendorConfig
  | aptxAdaptiveConfig
  | opusConfig (data : Option OpusConfiguration)

structure CodecConfiguration where
  codecType : CodecType
  config : CodecSpecific

structure Lc3Configuration where
  pcmBitDepth : Int
  samplingFrequencyHz : Int
  frameDurationUs : Int
  octetsPerFrame : BitVec 32
  blocksPerSdu : BitVec 8

inductive LeAudioCodecConfiguration where
  | lc3Config (config : Lc3Configuration)
  | vendorConfig

namespace LeAudioCodecConfiguration

inductive Tag where
  | lc3Config | vendorConfig
  deriving DecidableEq

def getTag : LeAudioCodecConfiguration → Tag
  | lc3Config _ => .lc3Config
  | vendorConfig => .vendorConfig

/-- `get<lc3Config>`, which aborts on another alternative. -/
def getLc3Config : LeAudioCodecConfiguration → Option Lc3Configuration
  | lc3Config config => some config
  | vendorConfig => none

end LeAudioCodecConfiguration

structure StreamMap where
  audioChannelAllocation : BitVec 32

structure LeAudioConfiguration where
  leAudioCodecConfig : LeAudioCodecConfiguration
  streamMap : List StreamMap

/-- The configuration that nothing was set of. -/
def LeAudioConfiguration.unknown : LeAudioConfiguration := ⟨.lc3Config ⟨0, 0, 0, 0, 0⟩, []⟩

inductive AudioConfiguration where
  | pcmConfig (config : PcmConfiguration)
  | a2dpConfig (config : CodecConfiguration)
  | leAudioConfig (config : LeAudioConfiguration)
  | leAudioBroadcastConfig

namespace AudioConfiguration

inductive Tag where
  | pcmConfig | a2dpConfig | leAudioConfig | leAudioBroadcastConfig
  deriving DecidableEq

def getTag : AudioConfiguration → Tag
  | pcmConfig _ => .pcmConfig
  | a2dpConfig _ => .a2dpConfig
  | leAudioConfig _ => .leAudioConfig
  | leAudioBroadcastConfig => .leAudioBroadcastConfig

end AudioConfiguration

/-! ### `BluetoothAudioCodecs` -/

def isSoftwarePcmConfigurationValid (pcmConfig : PcmConfiguration) : Bool :=
  [16000, 24000, 32000, 44100, 48000, 88200, 96000].contains pcmConfig.sampleRateHz &&
    [16, 24, 32].contains pcmConfig.bitsPerSample &&
    [ChannelMode.mono, .stereo].contains pcmConfig.channelMode

def isOffloadSbcConfigurationValid : CodecSpecific → Bool
  | .sbcConfig data =>
      [44100].contains data.sampleRateHz && [4, 8, 12, 16].contains data.blockLength &&
        [8].contains data.numSubbands && [16].contains data.bitsPerSample &&
        [SbcChannelMode.mono, .jointStereo].contains data.channelMode &&
        [SbcAllocMethod.allocMdL].contains data.allocMethod &&
        decide (data.minBitpool ≤ data.maxBitpool) && decide (2 ≤ data.minBitpool) &&
        decide (data.maxBitpool ≤ 53)
  | _ => false

def isOffloadAacConfigurationValid : CodecSpecific → Bool
  | .aacConfig data =>
      [44100].contains data.sampleRateHz && [16].contains data.bitsPerSample &&
        [ChannelMode.stereo].contains data.channelMode && [AacObjectType.mpeg2Lc].contains data.objectType &&
        (!data.variableBitRateEnabled || true)
  | _ => false

def isOffloadLdacConfigurationValid : CodecSpecific → Bool
  | .ldacConfig data =>
      [44100, 48000, 88200, 96000].contains data.sampleRateHz && [16, 24, 32].contains data.bitsPerSample &&
        [LdacChannelMode.dual, .stereo].contains data.channelMode &&
        [LdacQualityIndex.high].contains data.qualityIndex
  | _ => false

/-- `IsOffloadAptxConfigurationValid` and `IsOffloadAptxHdConfigurationValid` up to the sample size. -/
def isAptxConfigurationValid (bitsPerSample : Int) : CodecSpecific → Bool
  | .aptxConfig data =>
      [44100, 48000].contains data.sampleRateHz && [bitsPerSample].contains data.bitsPerSample &&
        [ChannelMode.stereo].contains data.channelMode
  | _ => false

def isOffloadAptxConfigurationValid : CodecSpecific → Bool := isAptxConfigurationValid 16

def isOffloadAptxHdConfigurationValid : CodecSpecific → Bool := isAptxConfigurationValid 24

def isOffloadOpusConfigurationValid : CodecSpecific → Bool
  | .opusConfig (some data) =>
      [48000].contains data.samplingFrequencyHz && [10000, 20000].contains data.frameDurationUs &&
        [ChannelMode.mono, .stereo].contains data.channelMode
  | _ => false

def isOffloadCodecConfigurationValid (sessionType : SessionType) (codecConfig : CodecConfiguration) : Bool :=
  if sessionType ≠ .a2dpHardwareOffloadEncodingDatapath ∧ sessionType ≠ .a2dpHardwareOffloadDecodingDatapath then
    false
  else
    match codecConfig.codecType with
    | .sbc => isOffloadSbcConfigurationValid codecConfig.config
    | .aac => isOffloadAacConfigurationValid codecConfig.config
    | .ldac => isOffloadLdacConfigurationValid codecConfig.config
    | .aptx => isOffloadAptxConfigurationValid codecConfig.config
    | .aptxHd => isOffloadAptxHdConfigurationValid codecConfig.config
    | .opus => isOffloadOpusConfigurationValid codecConfig.config
    | .aptxAdaptive | .lc3 | .unknown | .vendor => false

/-- The configuration is not read. -/
def isOffloadLeAudioConfigurationValid (sessionType : SessionType) (_ : LeAudioConfiguration) : Bool :=
  !decide (sessionType ≠ .leAudioHardwareOffloadEncodingDatapath ∧
    sessionType ≠ .leAudioHardwareOffloadDecodingDatapath ∧
    sessionType ≠ .leAudioBroadcastHardwareOffloadEncodingDatapath)

end Penrose.Bluetooth

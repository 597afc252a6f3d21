import Penrose.BitFields
import Penrose.BluetoothConfigs

/-! What the HIDL session accepts and advertises for A2DP hardware offload. Every value of an enumeration of HIDL has a
bit of its own, a field holds any pattern of bits, and so does a configuration that a client sends. -/

namespace Penrose.Bluetooth.Hidl

/-! ### The types of HIDL -/

def SampleRate.value : SampleRate → BitVec 32
  | .rateUnknown => 0x00
  | .rate44100 => 0x01
  | .rate48000 => 0x02
  | .rate88200 => 0x04
  | .rate96000 => 0x08
  | .rate176400 => 0x10
  | .rate192000 => 0x20
  | .rate16000 => 0x40
  | .rate24000 => 0x80
  | .rate8000 => 0x100
  | .rate32000 => 0x200
  | .other value => .ofNat 32 value

def ChannelMode.value : ChannelMode → BitVec 8
  | .unknown => 0x00
  | .mono => 0x01
  | .stereo => 0x02
  | .other value => .ofNat 8 value

def BitsPerSample.value : BitsPerSample → BitVec 8
  | .bitsUnknown => 0x00
  | .bits16 => 0x01
  | .bits24 => 0x02
  | .bits32 => 0x04
  | .other value => .ofNat 8 value

namespace CodecType

def unknown : BitVec 32 := 0x00
def sbc : BitVec 32 := 0x01
def aac : BitVec 32 := 0x02
def aptx : BitVec 32 := 0x04
def aptxHd : BitVec 32 := 0x08
def ldac : BitVec 32 := 0x10

end CodecType

namespace SbcChannelMode

def unknown : BitVec 8 := 0x00
def jointStereo : BitVec 8 := 0x01
def stereo : BitVec 8 := 0x02
def dual : BitVec 8 := 0x04
def mono : BitVec 8 := 0x08

end SbcChannelMode

namespace SbcBlockLength

def blocks4 : BitVec 8 := 0x80
def blocks8 : BitVec 8 := 0x40
def blocks12 : BitVec 8 := 0x20
def blocks16 : BitVec 8 := 0x10

end SbcBlockLength

namespace SbcNumSubbands

def subband4 : BitVec 8 := 0x08
def subband8 : BitVec 8 := 0x04

end SbcNumSubbands

namespace SbcAllocMethod

def allocMdS : BitVec 8 := 0x02
def allocMdL : BitVec 8 := 0x01

end SbcAllocMethod

namespace AacObjectType

def mpeg2Lc : BitVec 8 := 0x80
def mpeg4Lc : BitVec 8 := 0x40
def mpeg4Ltp : BitVec 8 := 0x20
def mpeg4Scalable : BitVec 8 := 0x10

end AacObjectType

namespace AacVariableBitRate

def disabled : BitVec 8 := 0x00
def enabled : BitVec 8 := 0x80

end AacVariableBitRate

namespace LdacChannelMode

def unknown : BitVec 8 := 0x00
def stereo : BitVec 8 := 0x01
def dual : BitVec 8 := 0x02
def mono : BitVec 8 := 0x04

end LdacChannelMode

namespace LdacQualityIndex

def qualityHigh : BitVec 8 := 0x00
def qualityMid : BitVec 8 := 0x01
def qualityLow : BitVec 8 := 0x02
def qualityAbr : BitVec 8 := 0x7f

end LdacQualityIndex

structure SbcParameters where
  sampleRate : BitVec 32
  channelMode : BitVec 8
  blockLength : BitVec 8
  numSubbands : BitVec 8
  allocMethod : BitVec 8
  bitsPerSample : BitVec 8
  minBitpool : BitVec 8
  maxBitpool : BitVec 8
  deriving DecidableEq

structure AacParameters where
  objectType : BitVec 8
  sampleRate : BitVec 32
  channelMode : BitVec 8
  variableBitRateEnabled : BitVec 8
  bitsPerSample : BitVec 8
  deriving DecidableEq

structure LdacParameters where
  sampleRate : BitVec 32
  channelMode : BitVec 8
  qualityIndex : BitVec 8
  bitsPerSample : BitVec 8
  deriving DecidableEq

structure AptxParameters where
  sampleRate : BitVec 32
  channelMode : BitVec 8
  bitsPerSample : BitVec 8
  deriving DecidableEq

/-- `CodecConfiguration::CodecSpecific`. -/
inductive CodecSpecific where
  | sbcConfig (data : SbcParameters)
  | aacConfig (data : AacParameters)
  | ldacConfig (data : LdacParameters)
  | aptxConfig (data : AptxParameters)
  deriving DecidableEq

structure CodecConfiguration where
  codecType : BitVec 32
  encodedAudioBitrate : BitVec 32
  peerMtu : BitVec 32
  isScmstEnabled : Bool
  config : CodecSpecific
  deriving DecidableEq

/-- `CodecCapabilities::Capabilities`. -/
inductive Capabilities where
  | sbcCapabilities (data : SbcParameters)
  | aacCapabilities (data : AacParameters)
  | ldacCapabilities (data : LdacParameters)
  | aptxCapabilities (data : AptxParameters)

structure CodecCapabilities where
  codecType : BitVec 32
  capabilities : Capabilities

/-- The capabilities that `{}` makes. -/
def Capabilities.empty : Capabilities := .sbcCapabilities ⟨0, 0, 0, 0, 0, 0, 0, 0⟩

/-! ### `BluetoothAudioSupportedCodecsDB` -/

def kDefaultOffloadSbcCapability : SbcParameters where
  sampleRate := SampleRate.rate44100.value
  channelMode := SbcChannelMode.mono ||| SbcChannelMode.jointStereo
  blockLength :=
    SbcBlockLength.blocks4 ||| SbcBlockLength.blocks8 ||| SbcBlockLength.blocks12 ||| SbcBlockLength.blocks16
  numSubbands := SbcNumSubbands.subband8
  allocMethod := SbcAllocMethod.allocMdL
  bitsPerSample := BitsPerSample.bits16.value
  minBitpool := 2
  maxBitpool := 53

def kDefaultOffloadAacCapability : AacParameters where
  objectType := AacObjectType.mpeg2Lc
  sampleRate := SampleRate.rate44100.value
  channelMode := ChannelMode.stereo.value
  variableBitRateEnabled := AacVariableBitRate.enabled
  bitsPerSample := BitsPerSample.bits16.value

def kDefaultOffloadLdacCapability : LdacParameters where
  sampleRate :=
    SampleRate.rate44100.value ||| SampleRate.rate48000.value ||| SampleRate.rate88200.value |||
      SampleRate.rate96000.value
  channelMode := LdacChannelMode.dual ||| LdacChannelMode.stereo
  qualityIndex := LdacQualityIndex.qualityHigh
  bitsPerSample := BitsPerSample.bits16.value ||| BitsPerSample.bits24.value ||| BitsPerSample.bits32.value

def kDefaultOffloadAptxCapability : AptxParameters where
  sampleRate := SampleRate.rate44100.value ||| SampleRate.rate48000.value
  channelMode := ChannelMode.stereo.value
  bitsPerSample := BitsPerSample.bits16.value

def kDefaultOffloadAptxHdCapability : AptxParameters where
  sampleRate := SampleRate.rate44100.value ||| SampleRate.rate48000.value
  channelMode := ChannelMode.stereo.value
  bitsPerSample := BitsPerSample.bits24.value

def kDefaultOffloadA2dpCodecCapabilities : List CodecCapabilities :=
  [⟨CodecType.sbc, .empty⟩, ⟨CodecType.aac, .empty⟩, ⟨CodecType.ldac, .empty⟩, ⟨CodecType.aptx, .empty⟩,
    ⟨CodecType.aptxHd, .empty⟩]

/-- The loop of `IsSingleBit` from a bit on, with at most the given number of turns. -/
def isSingleBitFrom (bitmasks bitfield : BitVec 32) : Nat → BitVec 32 → Bool → Bool
  | 0, _, single => single
  | turns + 1, testBit, single =>
      if testBit ≤ bitmasks ∧ testBit ≤ bitfield then
        if bitfield &&& testBit ≠ 0 ∧ bitmasks &&& testBit ≠ 0 then
          if single then false
          else if testBit = 0x80000000 then true
          else isSingleBitFrom bitmasks bitfield turns (testBit <<< 1) true
        else if testBit = 0x80000000 then single
        else isSingleBitFrom bitmasks bitfield turns (testBit <<< 1) single
      else single

def isSingleBit (bitmasks bitfield : BitVec 32) : Bool := isSingleBitFrom bitmasks bitfield 32 0x00000001 false

/-- `static_cast<uint32_t>`. -/
def toUInt32 (value : BitVec 8) : BitVec 32 := value.setWidth 32

def isOffloadSbcConfigurationValid : CodecSpecific → Bool
  | .sbcConfig sbcData =>
      if !isSingleBit sbcData.sampleRate 0xff || !isSingleBit (toUInt32 sbcData.channelMode) 0x0f ||
          !isSingleBit (toUInt32 sbcData.blockLength) 0xf0 || !isSingleBit (toUInt32 sbcData.numSubbands) 0x0c ||
          !isSingleBit (toUInt32 sbcData.allocMethod) 0x03 || !isSingleBit (toUInt32 sbcData.bitsPerSample) 0x07 ||
          sbcData.minBitpool > sbcData.maxBitpool then
        false
      else
        sbcData.sampleRate &&& kDefaultOffloadSbcCapability.sampleRate ≠ 0 ∧
          sbcData.channelMode &&& kDefaultOffloadSbcCapability.channelMode ≠ 0 ∧
          sbcData.blockLength &&& kDefaultOffloadSbcCapability.blockLength ≠ 0 ∧
          sbcData.numSubbands &&& kDefaultOffloadSbcCapability.numSubbands ≠ 0 ∧
          sbcData.allocMethod &&& kDefaultOffloadSbcCapability.allocMethod ≠ 0 ∧
          sbcData.bitsPerSample &&& kDefaultOffloadSbcCapability.bitsPerSample ≠ 0 ∧
          kDefaultOffloadSbcCapability.minBitpool ≤ sbcData.minBitpool ∧
          sbcData.maxBitpool ≤ kDefaultOffloadSbcCapability.maxBitpool
  | _ => false

def isOffloadAacConfigurationValid : CodecSpecific → Bool
  | .aacConfig aacData =>
      if !isSingleBit (toUInt32 aacData.objectType) 0xf0 || !isSingleBit aacData.sampleRate 0xff ||
          !isSingleBit (toUInt32 aacData.channelMode) 0x03 || !isSingleBit (toUInt32 aacData.bitsPerSample) 0x07 then
        false
      else
        aacData.objectType &&& kDefaultOffloadAacCapability.objectType ≠ 0 ∧
          aacData.sampleRate &&& kDefaultOffloadAacCapability.sampleRate ≠ 0 ∧
          aacData.channelMode &&& kDefaultOffloadAacCapability.channelMode ≠ 0 ∧
          (aacData.variableBitRateEnabled = AacVariableBitRate.disabled ∨
            kDefaultOffloadAacCapability.variableBitRateEnabled = AacVariableBitRate.enabled) ∧
          aacData.bitsPerSample &&& kDefaultOffloadAacCapability.bitsPerSample ≠ 0
  | _ => false

def isOffloadLdacConfigurationValid : CodecSpecific → Bool
  | .ldacConfig ldacData =>
      if !isSingleBit ldacData.sampleRate 0xff || !isSingleBit (toUInt32 ldacData.channelMode) 0x07 ||
          (ldacData.qualityIndex > LdacQualityIndex.qualityLow &&
            ldacData.qualityIndex != LdacQualityIndex.qualityAbr) ||
          !isSingleBit (toUInt32 ldacData.bitsPerSample) 0x07 then
        false
      else
        ldacData.sampleRate &&& kDefaultOffloadLdacCapability.sampleRate ≠ 0 ∧
          ldacData.channelMode &&& kDefaultOffloadLdacCapability.channelMode ≠ 0 ∧
          ldacData.bitsPerSample &&& kDefaultOffloadLdacCapability.bitsPerSample ≠ 0
  | _ => false

/-- `IsOffloadAptxConfigurationValid` and `IsOffloadAptxHdConfigurationValid` up to the capability. -/
def isAptxConfigurationValid (capability : AptxParameters) : CodecSpecific → Bool
  | .aptxConfig aptxData =>
      if !isSingleBit aptxData.sampleRate 0xff || !isSingleBit (toUInt32 aptxData.channelMode) 0x03 ||
          !isSingleBit (toUInt32 aptxData.bitsPerSample) 0x07 then
        false
      else
        aptxData.sampleRate &&& capability.sampleRate ≠ 0 ∧ aptxData.channelMode &&& capability.channelMode ≠ 0 ∧
          aptxData.bitsPerSample &&& capability.bitsPerSample ≠ 0
  | _ => false

def isOffloadAptxConfigurationValid : CodecSpecific → Bool := isAptxConfigurationValid kDefaultOffloadAptxCapability

def isOffloadAptxHdConfigurationValid : CodecSpecific → Bool :=
  isAptxConfigurationValid kDefaultOffloadAptxHdCapability

/-- The turn of the loop of `GetOffloadCodecCapabilities`. -/
def offloadCodecCapability (codecCapability : CodecCapabilities) : CodecCapabilities :=
  if codecCapability.codecType = CodecType.sbc then
    { codecCapability with capabilities := .sbcCapabilities kDefaultOffloadSbcCapability }
  else if codecCapability.codecType = CodecType.aac then
    { codecCapability with capabilities := .aacCapabilities kDefaultOffloadAacCapability }
  else if codecCapability.codecType = CodecType.ldac then
    { codecCapability with capabilities := .ldacCapabilities kDefaultOffloadLdacCapability }
  else if codecCapability.codecType = CodecType.aptx then
    { codecCapability with capabilities := .aptxCapabilities kDefaultOffloadAptxCapability }
  else if codecCapability.codecType = CodecType.aptxHd then
    { codecCapability with capabilities := .aptxCapabilities kDefaultOffloadAptxHdCapability }
  else if codecCapability.codecType = CodecType.unknown then ⟨CodecType.unknown, .empty⟩
  else codecCapability

def getOffloadCodecCapabilities (sessionType : SessionType) : List CodecCapabilities :=
  if sessionType ≠ .a2dpHardwareOffloadDatapath then []
  else kDefaultOffloadA2dpCodecCapabilities.map offloadCodecCapability

def isOffloadCodecConfigurationValid (sessionType : SessionType) (codecConfig : CodecConfiguration) : Bool :=
  if sessionType ≠ .a2dpHardwareOffloadDatapath then false
  else if codecConfig.encodedAudioBitrate < 0x00000001 ∨ 0x00ffffff < codecConfig.encodedAudioBitrate then false
  else if codecConfig.codecType = CodecType.sbc then isOffloadSbcConfigurationValid codecConfig.config
  else if codecConfig.codecType = CodecType.aac then isOffloadAacConfigurationValid codecConfig.config
  else if codecConfig.codecType = CodecType.ldac then isOffloadLdacConfigurationValid codecConfig.config
  else if codecConfig.codecType = CodecType.aptx then isOffloadAptxConfigurationValid codecConfig.config
  else if codecConfig.codecType = CodecType.aptxHd then isOffloadAptxHdConfigurationValid codecConfig.config
  else false

end Penrose.Bluetooth.Hidl

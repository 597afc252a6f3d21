import Mathlib.Data.Set.Function
import Penrose.BluetoothTranslation

/-! Software PCM: what both versions of HIDL accept and advertise, and what the middleware makes of the configurations
that the AIDL providers accept. HIDL has no bit for one of their rates, and version 2.1 asks for an interval. -/

namespace Penrose.Bluetooth

namespace Hidl

/-- The fields of `PcmParameters` of version 2.0, with any bits. -/
structure PcmFields20 where
  sampleRate : BitVec 32
  channelMode : BitVec 8
  bitsPerSample : BitVec 8

/-- The fields of `PcmParameters` of version 2.1. -/
structure PcmFields21 extends PcmFields20 where
  dataIntervalUs : BitVec 32

def PcmParameters.fields (pcmConfig : PcmParameters) : PcmFields21 where
  sampleRate := pcmConfig.sampleRate.value
  channelMode := pcmConfig.channelMode.value
  bitsPerSample := pcmConfig.bitsPerSample.value
  dataIntervalUs := .ofNat 32 pcmConfig.dataIntervalUs

/-! ### `BluetoothAudioSupportedCodecsDB` -/

def kDefaultSoftwarePcmCapabilities : PcmFields20 where
  sampleRate := SampleRate.rate44100.value ||| SampleRate.rate48000.value ||| SampleRate.rate88200.value |||
    SampleRate.rate96000.value ||| SampleRate.rate16000.value ||| SampleRate.rate24000.value
  channelMode := ChannelMode.mono.value ||| ChannelMode.stereo.value
  bitsPerSample := BitsPerSample.bits16.value ||| BitsPerSample.bits24.value ||| BitsPerSample.bits32.value

def getSoftwarePcmCapabilities : List PcmFields20 := [kDefaultSoftwarePcmCapabilities]

/-- The default of version 2.1 has the bits of that of version 2.0, and no interval. -/
def kDefaultSoftwarePcmCapabilities21 : PcmFields21 := ⟨kDefaultSoftwarePcmCapabilities, 0⟩

def getSoftwarePcmCapabilities21 : List PcmFields21 := [kDefaultSoftwarePcmCapabilities21]

/-- The tests that both versions make. -/
def hasPcmFields (pcmConfig capabilities : PcmFields20) : Bool :=
  if (pcmConfig.sampleRate ≠ SampleRate.rate44100.value ∧ pcmConfig.sampleRate ≠ SampleRate.rate48000.value ∧
        pcmConfig.sampleRate ≠ SampleRate.rate88200.value ∧ pcmConfig.sampleRate ≠ SampleRate.rate96000.value ∧
        pcmConfig.sampleRate ≠ SampleRate.rate16000.value ∧ pcmConfig.sampleRate ≠ SampleRate.rate24000.value) ∨
      (pcmConfig.bitsPerSample ≠ BitsPerSample.bits16.value ∧ pcmConfig.bitsPerSample ≠ BitsPerSample.bits24.value ∧
        pcmConfig.bitsPerSample ≠ BitsPerSample.bits32.value) ∨
      (pcmConfig.channelMode ≠ ChannelMode.mono.value ∧ pcmConfig.channelMode ≠ ChannelMode.stereo.value) then
    false
  else
    decide (pcmConfig.sampleRate &&& capabilities.sampleRate ≠ 0) &&
      decide (pcmConfig.bitsPerSample &&& capabilities.bitsPerSample ≠ 0) &&
      decide (pcmConfig.channelMode &&& capabilities.channelMode ≠ 0)

def isSoftwarePcmConfigurationValid (pcmConfig : PcmFields20) : Bool :=
  hasPcmFields pcmConfig kDefaultSoftwarePcmCapabilities

def isSoftwarePcmConfigurationValid21 (pcmConfig : PcmFields21) : Bool :=
  hasPcmFields pcmConfig.toPcmFields20 kDefaultSoftwarePcmCapabilities21.toPcmFields20 &&
    decide (pcmConfig.dataIntervalUs ≠ 0)

/-- Each field makes one of the choices of the capability. -/
structure PcmFields20.IsAdvertisedBy (pcmConfig capability : PcmFields20) : Prop where
  sampleRate : IsOneOf capability.sampleRate pcmConfig.sampleRate
  channelMode : IsOneOf capability.channelMode pcmConfig.channelMode
  bitsPerSample : IsOneOf capability.bitsPerSample pcmConfig.bitsPerSample

/-! The values that are tested for, by their bits. -/

def pcmSampleRates : List (BitVec 32) := [0, 1, 2, 3, 6, 7].map (BitVec.twoPow 32)

def pcmBitsPerSample : List (BitVec 8) := [0, 1, 2].map (BitVec.twoPow 8)

def pcmChannelModes : List (BitVec 8) := [0, 1].map (BitVec.twoPow 8)

theorem mem_pcmSampleRates (rate : BitVec 32) : rate ∈ pcmSampleRates ↔
    rate = SampleRate.rate44100.value ∨ rate = SampleRate.rate48000.value ∨ rate = SampleRate.rate88200.value ∨
      rate = SampleRate.rate96000.value ∨ rate = SampleRate.rate16000.value ∨ rate = SampleRate.rate24000.value := by
  have hvalues : pcmSampleRates = [SampleRate.rate44100.value, SampleRate.rate48000.value, SampleRate.rate88200.value,
      SampleRate.rate96000.value, SampleRate.rate16000.value, SampleRate.rate24000.value] := rfl
  simp only [hvalues, List.mem_cons, List.not_mem_nil, or_false]

theorem mem_pcmBitsPerSample (bits : BitVec 8) : bits ∈ pcmBitsPerSample ↔
    bits = BitsPerSample.bits16.value ∨ bits = BitsPerSample.bits24.value ∨ bits = BitsPerSample.bits32.value := by
  have hvalues : pcmBitsPerSample =
      [BitsPerSample.bits16.value, BitsPerSample.bits24.value, BitsPerSample.bits32.value] := rfl
  simp only [hvalues, List.mem_cons, List.not_mem_nil, or_false]

theorem mem_pcmChannelModes (mode : BitVec 8) :
    mode ∈ pcmChannelModes ↔ mode = ChannelMode.mono.value ∨ mode = ChannelMode.stereo.value := by
  have hvalues : pcmChannelModes = [ChannelMode.mono.value, ChannelMode.stereo.value] := rfl
  simp only [hvalues, List.mem_cons, List.not_mem_nil, or_false]

theorem isAdvertisedBy_iff_mem (pcmConfig : PcmFields20) :
    pcmConfig.IsAdvertisedBy kDefaultSoftwarePcmCapabilities ↔
      pcmConfig.sampleRate ∈ pcmSampleRates ∧ pcmConfig.bitsPerSample ∈ pcmBitsPerSample ∧
        pcmConfig.channelMode ∈ pcmChannelModes := by
  have hrates : ∀ i ∈ [0, 1, 2, 3, 6, 7], i < 32 := by decide
  have hnumbers : ∀ i ∈ [0, 1, 2], i < 8 := by decide
  have hmodes : ∀ i ∈ [0, 1], i < 8 := by decide
  have hrate : IsOneOf kDefaultSoftwarePcmCapabilities.sampleRate pcmConfig.sampleRate ↔
      pcmConfig.sampleRate ∈ pcmSampleRates :=
    isOneOf_iff_mem hrates rfl
  have hbits : IsOneOf kDefaultSoftwarePcmCapabilities.bitsPerSample pcmConfig.bitsPerSample ↔
      pcmConfig.bitsPerSample ∈ pcmBitsPerSample :=
    isOneOf_iff_mem hnumbers rfl
  have hmode : IsOneOf kDefaultSoftwarePcmCapabilities.channelMode pcmConfig.channelMode ↔
      pcmConfig.channelMode ∈ pcmChannelModes :=
    isOneOf_iff_mem hmodes rfl
  rw [← hrate, ← hbits, ← hmode]
  exact ⟨fun h => ⟨h.1, h.3, h.2⟩, fun h => ⟨h.1, h.2.2, h.2.1⟩⟩

/-- What the first test lets through, the second one does as well. -/
theorem hasPcmFields_iff (pcmConfig : PcmFields20) :
    hasPcmFields pcmConfig kDefaultSoftwarePcmCapabilities = true ↔
      pcmConfig.IsAdvertisedBy kDefaultSoftwarePcmCapabilities := by
  have hmem := isAdvertisedBy_iff_mem pcmConfig
  simp only [mem_pcmSampleRates, mem_pcmBitsPerSample, mem_pcmChannelModes] at hmem
  rw [hasPcmFields]
  split
  · rename_i hunknown
    refine ⟨fun h => absurd h Bool.false_ne_true, fun h => absurd (hmem.mp h) ?_⟩
    simpa only [not_and_or, not_or] using hunknown
  · rename_i hknown
    have hadvertised : pcmConfig.IsAdvertisedBy kDefaultSoftwarePcmCapabilities := by
      apply hmem.mpr
      simpa only [not_or, not_and_or, not_not, ne_eq] using hknown
    refine ⟨fun _ => hadvertised, fun _ => ?_⟩
    rw [Bool.and_eq_true, Bool.and_eq_true, decide_eq_true_iff, decide_eq_true_iff, decide_eq_true_iff]
    exact ⟨⟨hadvertised.sampleRate.and_ne_zero, hadvertised.bitsPerSample.and_ne_zero⟩,
      hadvertised.channelMode.and_ne_zero⟩

theorem isSoftwarePcmConfigurationValid_iff (pcmConfig : PcmFields20) :
    isSoftwarePcmConfigurationValid pcmConfig = true ↔
      ∃ capability ∈ getSoftwarePcmCapabilities, pcmConfig.IsAdvertisedBy capability := by
  rw [isSoftwarePcmConfigurationValid, hasPcmFields_iff, getSoftwarePcmCapabilities]
  simp only [List.mem_singleton, exists_eq_left]

theorem isSoftwarePcmConfigurationValid21_iff (pcmConfig : PcmFields21) :
    isSoftwarePcmConfigurationValid21 pcmConfig = true ↔
      (∃ capability ∈ getSoftwarePcmCapabilities21, pcmConfig.IsAdvertisedBy capability.toPcmFields20) ∧
        pcmConfig.dataIntervalUs ≠ 0 := by
  rw [isSoftwarePcmConfigurationValid21, kDefaultSoftwarePcmCapabilities21, Bool.and_eq_true, hasPcmFields_iff,
    decide_eq_true_iff, getSoftwarePcmCapabilities21, kDefaultSoftwarePcmCapabilities21]
  simp only [List.mem_singleton, exists_eq_left]

end Hidl

namespace Middleware

/-- `to_hidl_pcm_config_2_0`, as the fields have it. -/
def toHidlPcmConfig20 (pcmConfig : PcmConfiguration) : Hidl.PcmFields20 where
  sampleRate := toHidlSampleRate20 pcmConfig.sampleRateHz
  channelMode := channelModeField pcmConfig.channelMode
  bitsPerSample := bitsPerSampleField pcmConfig.bitsPerSample

/-- The rates of the AIDL providers that have a bit, in the order of the bits. -/
def hidlSampleRates : List Int := [44100, 48000, 88200, 96000, 16000, 24000]

/-- A value that the member `dataIntervalUs` can have. -/
def IsInterval (dataIntervalUs : Int) : Prop := -2 ^ 31 ≤ dataIntervalUs ∧ dataIntervalUs < 2 ^ 31

theorem sampleRate_bijOn :
    Set.BijOn toHidlSampleRate20 {rate | rate ∈ hidlSampleRates} {field | field ∈ Hidl.pcmSampleRates} := by
  have hfields : Hidl.pcmSampleRates = hidlSampleRates.map toHidlSampleRate20 := rfl
  rw [hfields]
  exact bijOn_of_nodup_map (by decide)

theorem channelMode_bijOn : Set.BijOn channelModeField {mode | mode ∈ defaultSoftwarePcmCapabilities.channelMode}
    {field | field ∈ Hidl.pcmChannelModes} := by
  have hfields : Hidl.pcmChannelModes = defaultSoftwarePcmCapabilities.channelMode.map channelModeField := rfl
  rw [hfields]
  exact bijOn_of_nodup_map (by decide)

theorem bitsPerSample_bijOn : Set.BijOn bitsPerSampleField {bits | bits ∈ defaultSoftwarePcmCapabilities.bitsPerSample}
    {field | field ∈ Hidl.pcmBitsPerSample} := by
  have hfields : Hidl.pcmBitsPerSample = defaultSoftwarePcmCapabilities.bitsPerSample.map bitsPerSampleField := rfl
  rw [hfields]
  exact bijOn_of_nodup_map (by decide)

/-- `static_cast<uint32_t>` of the interval, as the field has it. -/
def intervalField (dataIntervalUs : Int) : BitVec 32 := .ofNat 32 (dataIntervalUs % 2 ^ 32).toNat

theorem toInt_intervalField {dataIntervalUs : Int} (h : IsInterval dataIntervalUs) :
    (intervalField dataIntervalUs).toInt = dataIntervalUs := by
  obtain ⟨hlow, hhigh⟩ := h
  rw [intervalField, BitVec.toInt_ofNat', Int.bmod_def]
  omega

theorem intervalField_injOn : Set.InjOn intervalField {interval | IsInterval interval} := by
  intro interval hinterval other hother heq
  rw [← toInt_intervalField hinterval, ← toInt_intervalField hother, heq]

theorem intervalField_ne_zero {dataIntervalUs : Int} (h : IsInterval dataIntervalUs) :
    intervalField dataIntervalUs ≠ 0 ↔ dataIntervalUs ≠ 0 := by
  have hzero : IsInterval 0 := ⟨by decide, by decide⟩
  exact not_congr (intervalField_injOn.eq_iff h hzero)

theorem exists_intervalField (field : BitVec 32) :
    ∃ dataIntervalUs, IsInterval dataIntervalUs ∧ intervalField dataIntervalUs = field := by
  have hinterval : IsInterval field.toInt := ⟨BitVec.le_toInt field, BitVec.toInt_lt⟩
  exact ⟨field.toInt, hinterval, BitVec.eq_of_toInt_eq (toInt_intervalField hinterval)⟩

theorem valid_and_iff (pcmConfig : PcmConfiguration) :
    isSoftwarePcmConfigurationValid pcmConfig = true ∧ pcmConfig.sampleRateHz ≠ 32000 ↔
      pcmConfig.sampleRateHz ∈ hidlSampleRates ∧
        pcmConfig.channelMode ∈ defaultSoftwarePcmCapabilities.channelMode ∧
        pcmConfig.bitsPerSample ∈ defaultSoftwarePcmCapabilities.bitsPerSample := by
  have hrate : pcmConfig.sampleRateHz ∈ defaultSoftwarePcmCapabilities.sampleRateHz ∧
      pcmConfig.sampleRateHz ≠ 32000 ↔ pcmConfig.sampleRateHz ∈ hidlSampleRates := by
    simp only [defaultSoftwarePcmCapabilities, hidlSampleRates, List.mem_cons, List.not_mem_nil, or_false]
    omega
  rw [isSoftwarePcmConfigurationValid_iff, PcmConfiguration.IsAdvertisedBy, ← hrate, and_right_comm]

theorem isAdvertisedBy_toHidlPcmConfig20 {pcmConfig : PcmConfiguration}
    (hvalid : isSoftwarePcmConfigurationValid pcmConfig = true) :
    (toHidlPcmConfig20 pcmConfig).IsAdvertisedBy Hidl.kDefaultSoftwarePcmCapabilities ↔
      pcmConfig.sampleRateHz ≠ 32000 := by
  rw [Hidl.isAdvertisedBy_iff_mem]
  apply Iff.intro
  · intro h heq
    have hrefused : toHidlSampleRate20 32000 ∉ Hidl.pcmSampleRates := by decide
    exact hrefused (heq ▸ h.1)
  · intro hne
    obtain ⟨hrate, hmode, hbits⟩ := (valid_and_iff pcmConfig).mp ⟨hvalid, hne⟩
    exact ⟨sampleRate_bijOn.mapsTo hrate, bitsPerSample_bijOn.mapsTo hbits, channelMode_bijOn.mapsTo hmode⟩

theorem fields_toHidlPcmConfig21 (pcmConfig : PcmConfiguration) : (toHidlPcmConfig21 pcmConfig).fields =
    ⟨toHidlPcmConfig20 pcmConfig, intervalField pcmConfig.dataIntervalUs⟩ :=
  rfl

theorem isValid20_toHidlPcmConfig20 {pcmConfig : PcmConfiguration}
    (hvalid : isSoftwarePcmConfigurationValid pcmConfig = true) :
    Hidl.isSoftwarePcmConfigurationValid (toHidlPcmConfig20 pcmConfig) = true ↔ pcmConfig.sampleRateHz ≠ 32000 := by
  rw [Hidl.isSoftwarePcmConfigurationValid_iff, Hidl.getSoftwarePcmCapabilities,
    ← isAdvertisedBy_toHidlPcmConfig20 hvalid]
  simp only [List.mem_singleton, exists_eq_left]

theorem isValid21_toHidlPcmConfig21 {pcmConfig : PcmConfiguration}
    (hvalid : isSoftwarePcmConfigurationValid pcmConfig = true) (hinterval : IsInterval pcmConfig.dataIntervalUs) :
    Hidl.isSoftwarePcmConfigurationValid21 (toHidlPcmConfig21 pcmConfig).fields = true ↔
      pcmConfig.sampleRateHz ≠ 32000 ∧ pcmConfig.dataIntervalUs ≠ 0 := by
  rw [fields_toHidlPcmConfig21, Hidl.isSoftwarePcmConfigurationValid21_iff, Hidl.getSoftwarePcmCapabilities21,
    intervalField_ne_zero hinterval, ← isAdvertisedBy_toHidlPcmConfig20 hvalid]
  simp only [List.mem_singleton, exists_eq_left, Hidl.kDefaultSoftwarePcmCapabilities21]

/-- Version 2.0 accepts the PCM configurations of the AIDL providers but those at 32 kHz, and version 2.1 those of them
that have an interval; what version 2.1 accepts is the translation of exactly one of these. -/
theorem softwarePcm_translated :
    (∀ pcmConfig, isSoftwarePcmConfigurationValid pcmConfig = true →
      (Hidl.isSoftwarePcmConfigurationValid (toHidlPcmConfig20 pcmConfig) = true ↔ pcmConfig.sampleRateHz ≠ 32000)) ∧
    (∀ pcmConfig, isSoftwarePcmConfigurationValid pcmConfig = true → IsInterval pcmConfig.dataIntervalUs →
      (Hidl.isSoftwarePcmConfigurationValid21 (toHidlPcmConfig21 pcmConfig).fields = true ↔
        pcmConfig.sampleRateHz ≠ 32000 ∧ pcmConfig.dataIntervalUs ≠ 0)) ∧
    Set.BijOn (fun pcmConfig => (toHidlPcmConfig21 pcmConfig).fields)
      {pcmConfig | isSoftwarePcmConfigurationValid pcmConfig = true ∧ IsInterval pcmConfig.dataIntervalUs ∧
        pcmConfig.sampleRateHz ≠ 32000 ∧ pcmConfig.dataIntervalUs ≠ 0}
      {pcmConfig | Hidl.isSoftwarePcmConfigurationValid21 pcmConfig = true} := by
  refine ⟨fun _ => isValid20_toHidlPcmConfig20, fun _ => isValid21_toHidlPcmConfig21, ?_, ?_, ?_⟩
  · intro pcmConfig h
    obtain ⟨hvalid, hinterval, haccepted⟩ := h
    exact (isValid21_toHidlPcmConfig21 hvalid hinterval).mpr haccepted
  · intro left hleft right hright heq
    obtain ⟨hvalid, hinterval, hrate, -⟩ := hleft
    obtain ⟨hvalid', hinterval', hrate', -⟩ := hright
    obtain ⟨hrates, hmodes, hbits⟩ := (valid_and_iff left).mp ⟨hvalid, hrate⟩
    obtain ⟨hrates', hmodes', hbits'⟩ := (valid_and_iff right).mp ⟨hvalid', hrate'⟩
    have hsameRate := sampleRate_bijOn.injOn hrates hrates' (congrArg (·.sampleRate) heq)
    have hsameMode := channelMode_bijOn.injOn hmodes hmodes' (congrArg (·.channelMode) heq)
    have hsameBits := bitsPerSample_bijOn.injOn hbits hbits' (congrArg (·.bitsPerSample) heq)
    have hsameInterval := intervalField_injOn hinterval hinterval' (congrArg (·.dataIntervalUs) heq)
    obtain ⟨rate, mode, bits, interval⟩ := left
    obtain ⟨rate', mode', bits', interval'⟩ := right
    rw [PcmConfiguration.mk.injEq]
    exact ⟨hsameRate, hsameMode, hsameBits, hsameInterval⟩
  · intro fields hfields
    obtain ⟨⟨rateField, modeField, numberField⟩, dataIntervalUs⟩ := fields
    obtain ⟨⟨capability, hcapability, hadvertised⟩, hdataInterval⟩ :=
      (Hidl.isSoftwarePcmConfigurationValid21_iff _).mp hfields
    rw [List.mem_singleton.mp hcapability] at hadvertised
    obtain ⟨hrates, hbits, hmodes⟩ := (Hidl.isAdvertisedBy_iff_mem _).mp hadvertised
    obtain ⟨rate, hrate, hrateField⟩ := sampleRate_bijOn.surjOn hrates
    obtain ⟨mode, hmode, hmodeField⟩ := channelMode_bijOn.surjOn hmodes
    obtain ⟨bits, hnumber, hnumberField⟩ := bitsPerSample_bijOn.surjOn hbits
    obtain ⟨interval, hinterval, hintervalField⟩ := exists_intervalField dataIntervalUs
    have hne : interval ≠ 0 := by
      rw [← intervalField_ne_zero hinterval, hintervalField]
      exact hdataInterval
    obtain ⟨hvalid, hneRate⟩ := (valid_and_iff ⟨rate, mode, bits, interval⟩).mpr ⟨hrate, hmode, hnumber⟩
    refine ⟨⟨rate, mode, bits, interval⟩, ⟨hvalid, hinterval, hneRate, hne⟩, ?_⟩
    simp only [fields_toHidlPcmConfig21, toHidlPcmConfig20, hrateField, hmodeField, hnumberField, hintervalField]

end Middleware

end Penrose.Bluetooth

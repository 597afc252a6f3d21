import Penrose.BluetoothHidlCodecs

/-! What the HIDL validator accepts against what is advertised. Bits outside of the masks are never looked at, and of
the quality index of LDAC only whether it is one. -/

namespace Penrose.Bluetooth.Hidl

/-! ### `IsSingleBit` -/

theorem getLsbD_eq_false_of_lt_twoPow {value : BitVec 32} {i j : Nat} (hi : i < 32) (hij : i ≤ j)
    (h : ¬BitVec.twoPow 32 i ≤ value) : value.getLsbD j = false := by
  rw [BitVec.not_le, BitVec.lt_def, BitVec.toNat_twoPow_of_lt hi] at h
  exact Nat.testBit_lt_two_pow (Nat.lt_of_lt_of_le h (Nat.pow_le_pow_right (by decide) hij))

theorem and_twoPow_ne_zero {value : BitVec 32} {i : Nat} (hi : i < 32) :
    value &&& BitVec.twoPow 32 i ≠ 0 ↔ value.getLsbD i = true := by
  have hne : BitVec.twoPow 32 i ≠ 0#32 := by
    intro hzero
    have hbit := congrArg (fun word => word.getLsbD i) hzero
    simp [hi] at hbit
  rw [BitVec.and_twoPow]
  split_ifs with hbit
  · exact iff_of_true hne hbit
  · exact iff_of_false (fun h => h rfl) hbit

theorem twoPow_eq_last_iff {i : Nat} (hi : i < 32) : BitVec.twoPow 32 i = 0x80000000 ↔ i = 31 := by
  have hlast : (0x80000000 : BitVec 32) = BitVec.twoPow 32 31 := by decide
  rw [hlast]
  refine ⟨?_, ?_⟩
  · intro h
    have hbit := congrArg (fun word => word.getLsbD i) h
    simp only [BitVec.getLsbD_twoPow, decide_eq_true hi] at hbit
    simpa [eq_comm] using hbit
  · intro heq
    subst heq
    rfl

/-- The loop counts the bits that the two words share. -/
theorem isSingleBitFrom_eq (bitmasks bitfield : BitVec 32) {turns i : Nat} (h : i + turns = 32) (single : Bool) :
    isSingleBitFrom bitmasks bitfield turns (BitVec.twoPow 32 i) single =
      decide (single.toNat + (List.range' i turns).countP (bitmasks &&& bitfield).getLsbD = 1) := by
  induction turns generalizing i single with
  | zero => cases single <;> rfl
  | succ turns ih =>
      have hi : i < 32 := by omega
      have hnext : BitVec.twoPow 32 i <<< 1 = BitVec.twoPow 32 (i + 1) := by
        rw [BitVec.twoPow_eq, BitVec.twoPow_eq, ← BitVec.shiftLeft_add]
      rw [isSingleBitFrom]
      by_cases hmore : BitVec.twoPow 32 i ≤ bitmasks ∧ BitVec.twoPow 32 i ≤ bitfield
      · have hlast : BitVec.twoPow 32 i = 0x80000000 ↔ turns = 0 := by
          rw [twoPow_eq_last_iff hi]
          omega
        have hshared : (bitfield &&& BitVec.twoPow 32 i ≠ 0 ∧ bitmasks &&& BitVec.twoPow 32 i ≠ 0) ↔
            (bitmasks &&& bitfield).getLsbD i = true := by
          rw [and_twoPow_ne_zero hi, and_twoPow_ne_zero hi, BitVec.getLsbD_and, Bool.and_eq_true, and_comm]
        rw [if_pos hmore, List.range'_succ, List.countP_cons, hnext]
        by_cases hset : (bitmasks &&& bitfield).getLsbD i = true
        · rw [if_pos (hshared.mpr hset), if_pos hset]
          cases single with
          | true => simp
          | false =>
              rw [if_neg Bool.false_ne_true]
              split_ifs with hend
              · simp [hlast.mp hend]
              · rw [ih (by omega)]
                simp [Nat.add_comm]
        · rw [if_neg (mt hshared.mp hset), if_neg hset]
          split_ifs with hend
          · cases single <;> simp [hlast.mp hend]
          · exact ih (by omega) single
      · have hnone : (List.range' i (turns + 1)).countP (bitmasks &&& bitfield).getLsbD = 0 := by
          apply List.countP_eq_zero.mpr
          intro j hj
          have hij : i ≤ j := (List.mem_range'_1.mp hj).1
          rw [BitVec.getLsbD_and]
          rcases not_and_or.mp hmore with hbit | hbit
          · simp [getLsbD_eq_false_of_lt_twoPow hi hij hbit]
          · simp [getLsbD_eq_false_of_lt_twoPow hi hij hbit]
        rw [if_neg hmore, hnone]
        cases single <;> rfl

theorem isSingleBit_iff {bitmasks bitfield : BitVec 32} :
    isSingleBit bitmasks bitfield = true ↔ HasSingleBit (bitmasks &&& bitfield) := by
  have hfirst : (0x00000001 : BitVec 32) = BitVec.twoPow 32 0 := by decide
  rw [isSingleBit, hfirst, isSingleBitFrom_eq bitmasks bitfield (by decide), decide_eq_true_iff,
    ← List.range_eq_range', ← countP_getLsbD_eq_one]
  simp

/-- The two tests of a field: what it holds within the mask is one of the choices. -/
theorem isSingleBit_and_ne_zero (field : BitVec 32) {mask choices : BitVec 32} (hchoices : choices &&& mask = choices) :
    IsOneOf choices (field &&& mask) ↔ isSingleBit field mask = true ∧ field &&& choices ≠ 0 := by
  rw [isSingleBit_iff]
  exact isOneOf_and_iff hchoices

/-- The two tests of a field of 8 bits. -/
theorem isSingleBit_toUInt32_and_ne_zero (field : BitVec 8) (bitfield : BitVec 32) {mask choices : BitVec 8}
    (hbitfield : toUInt32 mask = bitfield) (hchoices : choices &&& mask = choices) :
    IsOneOf choices (field &&& mask) ↔ isSingleBit (toUInt32 field) bitfield = true ∧ field &&& choices ≠ 0 := by
  rw [isSingleBit_iff, ← hbitfield, toUInt32, toUInt32, ← BitVec.setWidth_and, hasSingleBit_setWidth (by decide)]
  exact isOneOf_and_iff hchoices

/-! ### What is advertised -/

/-- The parameters choose among those of the capability. -/
def SbcParameters.IsAdvertisedBy (sbcData capability : SbcParameters) : Prop :=
  IsOneOf capability.sampleRate sbcData.sampleRate ∧ IsOneOf capability.channelMode sbcData.channelMode ∧
    IsOneOf capability.blockLength sbcData.blockLength ∧ IsOneOf capability.numSubbands sbcData.numSubbands ∧
    IsOneOf capability.allocMethod sbcData.allocMethod ∧ IsOneOf capability.bitsPerSample sbcData.bitsPerSample ∧
    capability.minBitpool ≤ sbcData.minBitpool ∧ sbcData.minBitpool ≤ sbcData.maxBitpool ∧
    sbcData.maxBitpool ≤ capability.maxBitpool
  deriving Decidable

def AacParameters.IsAdvertisedBy (aacData capability : AacParameters) : Prop :=
  IsOneOf capability.objectType aacData.objectType ∧ IsOneOf capability.sampleRate aacData.sampleRate ∧
    IsOneOf capability.channelMode aacData.channelMode ∧ IsOneOf capability.bitsPerSample aacData.bitsPerSample ∧
    (aacData.variableBitRateEnabled = AacVariableBitRate.enabled →
      capability.variableBitRateEnabled = AacVariableBitRate.enabled)
  deriving Decidable

/-- The quality index has no bits that choose; the capability has one index. -/
def LdacParameters.IsAdvertisedBy (ldacData capability : LdacParameters) : Prop :=
  IsOneOf capability.sampleRate ldacData.sampleRate ∧ IsOneOf capability.channelMode ldacData.channelMode ∧
    IsOneOf capability.bitsPerSample ldacData.bitsPerSample ∧ ldacData.qualityIndex = capability.qualityIndex
  deriving Decidable

def AptxParameters.IsAdvertisedBy (aptxData capability : AptxParameters) : Prop :=
  IsOneOf capability.sampleRate aptxData.sampleRate ∧ IsOneOf capability.channelMode aptxData.channelMode ∧
    IsOneOf capability.bitsPerSample aptxData.bitsPerSample
  deriving Decidable

/-- The alternatives match, and so do the parameters. -/
def CodecSpecific.IsAdvertisedBy : CodecSpecific → Capabilities → Prop
  | .sbcConfig sbcData, .sbcCapabilities capability => sbcData.IsAdvertisedBy capability
  | .aacConfig aacData, .aacCapabilities capability => aacData.IsAdvertisedBy capability
  | .ldacConfig ldacData, .ldacCapabilities capability => ldacData.IsAdvertisedBy capability
  | .aptxConfig aptxData, .aptxCapabilities capability => aptxData.IsAdvertisedBy capability
  | _, _ => False

instance : ∀ codecSpecific capabilities, Decidable (CodecSpecific.IsAdvertisedBy codecSpecific capabilities)
  | .sbcConfig sbcData, .sbcCapabilities capability => inferInstanceAs (Decidable (sbcData.IsAdvertisedBy capability))
  | .aacConfig aacData, .aacCapabilities capability => inferInstanceAs (Decidable (aacData.IsAdvertisedBy capability))
  | .ldacConfig ldacData, .ldacCapabilities capability =>
      inferInstanceAs (Decidable (ldacData.IsAdvertisedBy capability))
  | .aptxConfig aptxData, .aptxCapabilities capability =>
      inferInstanceAs (Decidable (aptxData.IsAdvertisedBy capability))
  | .sbcConfig _, .aacCapabilities _ | .sbcConfig _, .ldacCapabilities _ | .sbcConfig _, .aptxCapabilities _
  | .aacConfig _, .sbcCapabilities _ | .aacConfig _, .ldacCapabilities _ | .aacConfig _, .aptxCapabilities _
  | .ldacConfig _, .sbcCapabilities _ | .ldacConfig _, .aacCapabilities _ | .ldacConfig _, .aptxCapabilities _
  | .aptxConfig _, .sbcCapabilities _ | .aptxConfig _, .aacCapabilities _ | .aptxConfig _, .ldacCapabilities _ =>
      inferInstanceAs (Decidable False)

/-- The bit rate is one, and a capability that the session advertises for the codec has what the configuration
chooses. -/
def CodecConfiguration.IsAdvertised (sessionType : SessionType) (codecConfig : CodecConfiguration) : Prop :=
  1 ≤ codecConfig.encodedAudioBitrate ∧ codecConfig.encodedAudioBitrate ≤ 0xffffff ∧
    ∃ codecCapability ∈ getOffloadCodecCapabilities sessionType,
      codecCapability.codecType = codecConfig.codecType ∧
        codecConfig.config.IsAdvertisedBy codecCapability.capabilities
  deriving Decidable

/-! ### Up to what the validator overlooks -/

def SbcParameters.masked (sbcData : SbcParameters) : SbcParameters :=
  { sbcData with
    sampleRate := sbcData.sampleRate &&& 0xff
    channelMode := sbcData.channelMode &&& 0x0f
    blockLength := sbcData.blockLength &&& 0xf0
    numSubbands := sbcData.numSubbands &&& 0x0c
    allocMethod := sbcData.allocMethod &&& 0x03
    bitsPerSample := sbcData.bitsPerSample &&& 0x07 }

def AacParameters.masked (aacData : AacParameters) : AacParameters :=
  { aacData with
    objectType := aacData.objectType &&& 0xf0
    sampleRate := aacData.sampleRate &&& 0xff
    channelMode := aacData.channelMode &&& 0x03
    bitsPerSample := aacData.bitsPerSample &&& 0x07 }

/-- The index is `QUALITY_HIGH`, `QUALITY_MID`, `QUALITY_LOW` or `QUALITY_ABR`. -/
def IsQualityIndex (qualityIndex : BitVec 8) : Prop :=
  qualityIndex ≤ LdacQualityIndex.qualityLow ∨ qualityIndex = LdacQualityIndex.qualityAbr
  deriving Decidable

/-- With `QUALITY_HIGH` for every quality index. -/
def LdacParameters.masked (ldacData : LdacParameters) : LdacParameters where
  sampleRate := ldacData.sampleRate &&& 0xff
  channelMode := ldacData.channelMode &&& 0x07
  qualityIndex :=
    if IsQualityIndex ldacData.qualityIndex then LdacQualityIndex.qualityHigh else ldacData.qualityIndex
  bitsPerSample := ldacData.bitsPerSample &&& 0x07

def AptxParameters.masked (aptxData : AptxParameters) : AptxParameters where
  sampleRate := aptxData.sampleRate &&& 0xff
  channelMode := aptxData.channelMode &&& 0x03
  bitsPerSample := aptxData.bitsPerSample &&& 0x07

def CodecSpecific.masked : CodecSpecific → CodecSpecific
  | .sbcConfig sbcData => .sbcConfig sbcData.masked
  | .aacConfig aacData => .aacConfig aacData.masked
  | .ldacConfig ldacData => .ldacConfig ldacData.masked
  | .aptxConfig aptxData => .aptxConfig aptxData.masked

/-- The configuration without the bits outside of the masks, and with `QUALITY_HIGH` for every quality index. -/
def CodecConfiguration.masked (codecConfig : CodecConfiguration) : CodecConfiguration :=
  { codecConfig with config := codecConfig.config.masked }

/-! ### The validators -/

theorem isOffloadSbcConfigurationValid_iff (codecSpecific : CodecSpecific) :
    isOffloadSbcConfigurationValid codecSpecific = true ↔
      codecSpecific.masked.IsAdvertisedBy (.sbcCapabilities kDefaultOffloadSbcCapability) := by
  cases codecSpecific with
  | sbcConfig sbcData =>
      simp only [CodecSpecific.masked, CodecSpecific.IsAdvertisedBy, SbcParameters.IsAdvertisedBy,
        SbcParameters.masked]
      rw [isSingleBit_and_ne_zero sbcData.sampleRate (by decide),
        isSingleBit_toUInt32_and_ne_zero sbcData.channelMode 0x0f (by decide) (by decide),
        isSingleBit_toUInt32_and_ne_zero sbcData.blockLength 0xf0 (by decide) (by decide),
        isSingleBit_toUInt32_and_ne_zero sbcData.numSubbands 0x0c (by decide) (by decide),
        isSingleBit_toUInt32_and_ne_zero sbcData.allocMethod 0x03 (by decide) (by decide),
        isSingleBit_toUInt32_and_ne_zero sbcData.bitsPerSample 0x07 (by decide) (by decide),
        isOffloadSbcConfigurationValid]
      simp only [ne_eq, gt_iff_lt, Bool.if_false_left, Bool.and_eq_true, Bool.or_eq_true, Bool.not_eq_true',
        Bool.not_eq_false, not_or, decide_eq_false_iff_not, decide_eq_true_iff, BitVec.not_lt]
      tauto
  | _ => exact iff_of_false Bool.false_ne_true (fun h => h)

theorem isOffloadAacConfigurationValid_iff (codecSpecific : CodecSpecific) :
    isOffloadAacConfigurationValid codecSpecific = true ↔
      codecSpecific.masked.IsAdvertisedBy (.aacCapabilities kDefaultOffloadAacCapability) := by
  cases codecSpecific with
  | aacConfig aacData =>
      -- the capability has variable bit rates, and any value passes
      have hvariable : kDefaultOffloadAacCapability.variableBitRateEnabled = AacVariableBitRate.enabled := rfl
      simp only [CodecSpecific.masked, CodecSpecific.IsAdvertisedBy, AacParameters.IsAdvertisedBy,
        AacParameters.masked]
      rw [isSingleBit_toUInt32_and_ne_zero aacData.objectType 0xf0 (by decide) (by decide),
        isSingleBit_and_ne_zero aacData.sampleRate (by decide),
        isSingleBit_toUInt32_and_ne_zero aacData.channelMode 0x03 (by decide) (by decide),
        isSingleBit_toUInt32_and_ne_zero aacData.bitsPerSample 0x07 (by decide) (by decide),
        isOffloadAacConfigurationValid]
      simp only [ne_eq, Bool.if_false_left, Bool.and_eq_true, Bool.or_eq_true, Bool.not_eq_true', Bool.not_eq_false,
        not_or, decide_eq_false_iff_not, decide_eq_true_iff, hvariable]
      tauto
  | _ => exact iff_of_false Bool.false_ne_true (fun h => h)

theorem isOffloadLdacConfigurationValid_iff (codecSpecific : CodecSpecific) :
    isOffloadLdacConfigurationValid codecSpecific = true ↔
      codecSpecific.masked.IsAdvertisedBy (.ldacCapabilities kDefaultOffloadLdacCapability) := by
  cases codecSpecific with
  | ldacConfig ldacData =>
      have hindex : ldacData.masked.qualityIndex = kDefaultOffloadLdacCapability.qualityIndex ↔
          IsQualityIndex ldacData.qualityIndex := by
        simp only [LdacParameters.masked]
        split_ifs with hquality
        · exact iff_of_true rfl hquality
        · refine iff_of_false (fun hhigh => hquality (Or.inl ?_)) hquality
          rw [hhigh]
          decide
      simp only [CodecSpecific.masked, CodecSpecific.IsAdvertisedBy, LdacParameters.IsAdvertisedBy]
      rw [hindex, LdacParameters.masked, isSingleBit_and_ne_zero ldacData.sampleRate (by decide),
        isSingleBit_toUInt32_and_ne_zero ldacData.channelMode 0x07 (by decide) (by decide),
        isSingleBit_toUInt32_and_ne_zero ldacData.bitsPerSample 0x07 (by decide) (by decide),
        isOffloadLdacConfigurationValid, IsQualityIndex, ← BitVec.not_lt]
      simp only [ne_eq, gt_iff_lt, Bool.if_false_left, Bool.and_eq_true, Bool.or_eq_true, Bool.not_eq_true',
        Bool.not_eq_false, not_or, not_and_or, decide_eq_false_iff_not, decide_eq_true_iff, bne_iff_ne, not_not]
      tauto
  | _ => exact iff_of_false Bool.false_ne_true (fun h => h)

theorem isAptxConfigurationValid_iff (capability : AptxParameters)
    (hrate : capability.sampleRate &&& 0xff = capability.sampleRate)
    (hchannels : capability.channelMode &&& 0x03 = capability.channelMode)
    (hbits : capability.bitsPerSample &&& 0x07 = capability.bitsPerSample) (codecSpecific : CodecSpecific) :
    isAptxConfigurationValid capability codecSpecific = true ↔
      codecSpecific.masked.IsAdvertisedBy (.aptxCapabilities capability) := by
  cases codecSpecific with
  | aptxConfig aptxData =>
      simp only [CodecSpecific.masked, CodecSpecific.IsAdvertisedBy, AptxParameters.IsAdvertisedBy,
        AptxParameters.masked]
      rw [isSingleBit_and_ne_zero aptxData.sampleRate hrate,
        isSingleBit_toUInt32_and_ne_zero aptxData.channelMode 0x03 (by decide) hchannels,
        isSingleBit_toUInt32_and_ne_zero aptxData.bitsPerSample 0x07 (by decide) hbits, isAptxConfigurationValid]
      simp only [ne_eq, Bool.if_false_left, Bool.and_eq_true, Bool.or_eq_true, Bool.not_eq_true', Bool.not_eq_false,
        not_or, decide_eq_false_iff_not, decide_eq_true_iff]
      tauto
  | _ => exact iff_of_false Bool.false_ne_true (fun h => h)

theorem isAdvertised_iff {codecConfig : CodecConfiguration} :
    codecConfig.IsAdvertised .a2dpHardwareOffloadDatapath ↔
      (1 ≤ codecConfig.encodedAudioBitrate ∧ codecConfig.encodedAudioBitrate ≤ 0xffffff) ∧
        (codecConfig.codecType = CodecType.sbc ∧
            codecConfig.config.IsAdvertisedBy (.sbcCapabilities kDefaultOffloadSbcCapability) ∨
          codecConfig.codecType = CodecType.aac ∧
            codecConfig.config.IsAdvertisedBy (.aacCapabilities kDefaultOffloadAacCapability) ∨
          codecConfig.codecType = CodecType.ldac ∧
            codecConfig.config.IsAdvertisedBy (.ldacCapabilities kDefaultOffloadLdacCapability) ∨
          codecConfig.codecType = CodecType.aptx ∧
            codecConfig.config.IsAdvertisedBy (.aptxCapabilities kDefaultOffloadAptxCapability) ∨
          codecConfig.codecType = CodecType.aptxHd ∧
            codecConfig.config.IsAdvertisedBy (.aptxCapabilities kDefaultOffloadAptxHdCapability)) := by
  have hcapabilities : getOffloadCodecCapabilities .a2dpHardwareOffloadDatapath =
      [⟨CodecType.sbc, .sbcCapabilities kDefaultOffloadSbcCapability⟩,
        ⟨CodecType.aac, .aacCapabilities kDefaultOffloadAacCapability⟩,
        ⟨CodecType.ldac, .ldacCapabilities kDefaultOffloadLdacCapability⟩,
        ⟨CodecType.aptx, .aptxCapabilities kDefaultOffloadAptxCapability⟩,
        ⟨CodecType.aptxHd, .aptxCapabilities kDefaultOffloadAptxHdCapability⟩] := rfl
  rw [CodecConfiguration.IsAdvertised, hcapabilities]
  simp only [List.mem_cons, List.not_mem_nil, or_false, exists_eq_or_imp, exists_eq_left, and_assoc, eq_comm]

/-- The validator accepts what is advertised up to what it overlooks. -/
theorem isOffloadCodecConfigurationValid_iff {codecConfig : CodecConfiguration} :
    isOffloadCodecConfigurationValid .a2dpHardwareOffloadDatapath codecConfig = true ↔
      codecConfig.masked.IsAdvertised .a2dpHardwareOffloadDatapath := by
  have haptxValid : isOffloadAptxConfigurationValid codecConfig.config = true ↔ _ :=
    isAptxConfigurationValid_iff kDefaultOffloadAptxCapability (by decide) (by decide) (by decide) _
  have haptxHdValid : isOffloadAptxHdConfigurationValid codecConfig.config = true ↔ _ :=
    isAptxConfigurationValid_iff kDefaultOffloadAptxHdCapability (by decide) (by decide) (by decide) _
  rw [isAdvertised_iff]
  simp only [CodecConfiguration.masked, ← isOffloadSbcConfigurationValid_iff, ← isOffloadAacConfigurationValid_iff,
    ← isOffloadLdacConfigurationValid_iff, ← haptxValid, ← haptxHdValid]
  rw [isOffloadCodecConfigurationValid, if_neg (not_not.mpr rfl), ← BitVec.not_lt, ← BitVec.not_lt, ← not_or]
  by_cases hbitrate : codecConfig.encodedAudioBitrate < 1 ∨ 0xffffff < codecConfig.encodedAudioBitrate
  · rw [if_pos hbitrate]
    exact iff_of_false Bool.false_ne_true fun h => h.1 hbitrate
  · rw [if_neg hbitrate, and_iff_right hbitrate]
    split_ifs with hsbc haac hldac haptx haptxHd
    · simp [hsbc, CodecType.sbc, CodecType.aac, CodecType.ldac, CodecType.aptx, CodecType.aptxHd]
    · simp [haac, CodecType.sbc, CodecType.aac, CodecType.ldac, CodecType.aptx, CodecType.aptxHd]
    · simp [hldac, CodecType.sbc, CodecType.aac, CodecType.ldac, CodecType.aptx, CodecType.aptxHd]
    · simp [haptx, CodecType.sbc, CodecType.aac, CodecType.ldac, CodecType.aptx, CodecType.aptxHd]
    · simp [haptxHd, CodecType.sbc, CodecType.aac, CodecType.ldac, CodecType.aptx, CodecType.aptxHd]
    · simp [hsbc, haac, hldac, haptx, haptxHd]

/-! ### What the validator overlooks -/

theorem SbcParameters.masked_of_isAdvertisedBy {sbcData : SbcParameters}
    (h : sbcData.IsAdvertisedBy kDefaultOffloadSbcCapability) : sbcData.masked = sbcData := by
  obtain ⟨hrate, hchannels, hblocks, hsubbands, halloc, hbits, -⟩ := h
  obtain ⟨sampleRate, channelMode, blockLength, numSubbands, allocMethod, bitsPerSample, minBitpool, maxBitpool⟩ :=
    sbcData
  simp only [masked, SbcParameters.mk.injEq, and_true]
  exact ⟨hrate.and_mask (by decide), hchannels.and_mask (by decide), hblocks.and_mask (by decide),
    hsubbands.and_mask (by decide), halloc.and_mask (by decide), hbits.and_mask (by decide)⟩

theorem AacParameters.masked_of_isAdvertisedBy {aacData : AacParameters}
    (h : aacData.IsAdvertisedBy kDefaultOffloadAacCapability) : aacData.masked = aacData := by
  obtain ⟨hobject, hrate, hchannels, hbits, -⟩ := h
  obtain ⟨objectType, sampleRate, channelMode, variableBitRateEnabled, bitsPerSample⟩ := aacData
  simp only [masked, AacParameters.mk.injEq, true_and]
  exact ⟨hobject.and_mask (by decide), hrate.and_mask (by decide), hchannels.and_mask (by decide),
    hbits.and_mask (by decide)⟩

theorem LdacParameters.masked_of_isAdvertisedBy {ldacData : LdacParameters}
    (h : ldacData.IsAdvertisedBy kDefaultOffloadLdacCapability) : ldacData.masked = ldacData := by
  obtain ⟨hrate, hchannels, hbits, hindex⟩ := h
  obtain ⟨sampleRate, channelMode, qualityIndex, bitsPerSample⟩ := ldacData
  obtain rfl : qualityIndex = LdacQualityIndex.qualityHigh := hindex
  simp only [masked, LdacParameters.mk.injEq, ite_self, true_and]
  exact ⟨hrate.and_mask (by decide), hchannels.and_mask (by decide), hbits.and_mask (by decide)⟩

theorem AptxParameters.masked_of_isAdvertisedBy {aptxData capability : AptxParameters}
    (hrate : capability.sampleRate &&& 0xff = capability.sampleRate)
    (hchannels : capability.channelMode &&& 0x03 = capability.channelMode)
    (hbits : capability.bitsPerSample &&& 0x07 = capability.bitsPerSample) (h : aptxData.IsAdvertisedBy capability) :
    aptxData.masked = aptxData := by
  obtain ⟨hsampleRate, hchannelMode, hbitsPerSample⟩ := h
  obtain ⟨sampleRate, channelMode, bitsPerSample⟩ := aptxData
  simp only [masked, AptxParameters.mk.injEq]
  exact ⟨hsampleRate.and_mask hrate, hchannelMode.and_mask hchannels, hbitsPerSample.and_mask hbits⟩

/-- What is advertised has nothing that the validator overlooks. -/
theorem masked_of_isAdvertised {codecConfig : CodecConfiguration}
    (h : codecConfig.IsAdvertised .a2dpHardwareOffloadDatapath) : codecConfig.masked = codecConfig := by
  obtain ⟨codecType, encodedAudioBitrate, peerMtu, isScmstEnabled, config⟩ := codecConfig
  obtain ⟨-, h⟩ := isAdvertised_iff.mp h
  have hconfig : config.masked = config := by
    cases config with
    | sbcConfig sbcData =>
        obtain ⟨-, h⟩ | ⟨-, h⟩ | ⟨-, h⟩ | ⟨-, h⟩ | ⟨-, h⟩ := h <;>
          first | exact h.elim | exact congrArg CodecSpecific.sbcConfig (SbcParameters.masked_of_isAdvertisedBy h)
    | aacConfig aacData =>
        obtain ⟨-, h⟩ | ⟨-, h⟩ | ⟨-, h⟩ | ⟨-, h⟩ | ⟨-, h⟩ := h <;>
          first | exact h.elim | exact congrArg CodecSpecific.aacConfig (AacParameters.masked_of_isAdvertisedBy h)
    | ldacConfig ldacData =>
        obtain ⟨-, h⟩ | ⟨-, h⟩ | ⟨-, h⟩ | ⟨-, h⟩ | ⟨-, h⟩ := h <;>
          first | exact h.elim | exact congrArg CodecSpecific.ldacConfig (LdacParameters.masked_of_isAdvertisedBy h)
    | aptxConfig aptxData =>
        obtain ⟨-, h⟩ | ⟨-, h⟩ | ⟨-, h⟩ | ⟨-, h⟩ | ⟨-, h⟩ := h <;>
          first
          | exact h.elim
          | exact congrArg CodecSpecific.aptxConfig
              (AptxParameters.masked_of_isAdvertisedBy (by decide) (by decide) (by decide) h)
  rw [CodecConfiguration.masked, hconfig]

/-- The validator accepts exactly what is advertised unless the configuration is advertised only up to what the
validator overlooks. -/
theorem offloadCodecConfigurationValid_exact_iff (codecConfig : CodecConfiguration) :
    (isOffloadCodecConfigurationValid .a2dpHardwareOffloadDatapath codecConfig = true ↔
        codecConfig.IsAdvertised .a2dpHardwareOffloadDatapath) ↔
      (codecConfig.masked.IsAdvertised .a2dpHardwareOffloadDatapath → codecConfig.masked = codecConfig) := by
  rw [isOffloadCodecConfigurationValid_iff]
  refine ⟨?_, ?_⟩
  · intro hexact hmasked
    exact masked_of_isAdvertised (hexact.mp hmasked)
  · intro hkept
    refine ⟨?_, ?_⟩
    · intro hmasked
      rwa [hkept hmasked] at hmasked
    · intro hadvertised
      rwa [masked_of_isAdvertised hadvertised]

/-- A configuration that the session advertises, but for a quality index of LDAC that it does not. -/
def ldacOfQualityMid : CodecConfiguration where
  codecType := CodecType.ldac
  encodedAudioBitrate := 660000
  peerMtu := 679
  isScmstEnabled := false
  config :=
    .ldacConfig
      ⟨SampleRate.rate96000.value, LdacChannelMode.stereo, LdacQualityIndex.qualityMid, BitsPerSample.bits24.value⟩

/-- A configuration that the session advertises, but for a second sample rate, which has no bit in the mask. -/
def sbcOfTwoRates : CodecConfiguration where
  codecType := CodecType.sbc
  encodedAudioBitrate := 328000
  peerMtu := 679
  isScmstEnabled := false
  config :=
    .sbcConfig
      ⟨SampleRate.rate44100.value ||| SampleRate.rate8000.value, SbcChannelMode.jointStereo, SbcBlockLength.blocks16,
        SbcNumSubbands.subband8, SbcAllocMethod.allocMdL, BitsPerSample.bits16.value, 2, 53⟩

theorem offloadCodecConfigurationValid_notAdvertised :
    (isOffloadCodecConfigurationValid .a2dpHardwareOffloadDatapath ldacOfQualityMid = true ∧
        ¬ldacOfQualityMid.IsAdvertised .a2dpHardwareOffloadDatapath) ∧
      isOffloadCodecConfigurationValid .a2dpHardwareOffloadDatapath sbcOfTwoRates = true ∧
        ¬sbcOfTwoRates.IsAdvertised .a2dpHardwareOffloadDatapath := by
  decide

end Penrose.Bluetooth.Hidl

import Mathlib.Algebra.Ring.Int.Defs
import Mathlib.Algebra.Ring.Nat
import Penrose.BluetoothCapabilities
import Penrose.BluetoothHidlOffload
import Penrose.BluetoothMiddleware

/-! What the middleware makes of the configurations that the AIDL providers accept: HIDL configurations that HIDL would
accept as well, and different ones for different configurations, whatever the memory held before. -/

namespace Penrose.Bluetooth.Middleware

/-! ### The fields -/

/-- `to_hidl_bits_per_sample`, as the field has it. -/
abbrev bitsPerSampleField (bitsPerSample : Int) : BitVec 8 := (toHidlBitsPerSample bitsPerSample).value

/-- `to_hidl_channel_mode`, as the field has it. -/
abbrev channelModeField (channelMode : ChannelMode) : BitVec 8 := (toHidlChannelMode channelMode).value

theorem sbcSampleRate_translates : Translates defaultOffloadSbcCapability.sampleRateHz
    Hidl.kDefaultOffloadSbcCapability.sampleRate toHidlSampleRate20 := by
  decide

theorem sbcChannelMode_translates : Translates defaultOffloadSbcCapability.channelMode
    Hidl.kDefaultOffloadSbcCapability.channelMode sbcChannelModeToHidl20 := by
  decide

theorem sbcBlockLength_translates : Translates defaultOffloadSbcCapability.blockLength
    Hidl.kDefaultOffloadSbcCapability.blockLength
    fun blockLength => (sbcBlockLengthToHidlMap.lookup blockLength).getD 0 := by
  decide

theorem sbcNumSubbands_translates : Translates defaultOffloadSbcCapability.numSubbands
    Hidl.kDefaultOffloadSbcCapability.numSubbands
    fun numSubbands => (sbcSubbandsToHidlMap.lookup numSubbands).getD 0 := by
  decide

theorem sbcAllocMethod_translates : Translates defaultOffloadSbcCapability.allocMethod
    Hidl.kDefaultOffloadSbcCapability.allocMethod sbcAllocMethodToHidl := by
  decide

theorem sbcBitsPerSample_translates : Translates defaultOffloadSbcCapability.bitsPerSample
    Hidl.kDefaultOffloadSbcCapability.bitsPerSample bitsPerSampleField := by
  decide

theorem aacObjectType_translates : Translates defaultOffloadAacCapability.objectType
    Hidl.kDefaultOffloadAacCapability.objectType aacObjectTypeToHidl := by
  decide

theorem aacSampleRate_translates : Translates defaultOffloadAacCapability.sampleRateHz
    Hidl.kDefaultOffloadAacCapability.sampleRate toHidlSampleRate20 := by
  decide

theorem aacChannelMode_translates : Translates defaultOffloadAacCapability.channelMode
    Hidl.kDefaultOffloadAacCapability.channelMode channelModeField := by
  decide

theorem aacBitsPerSample_translates : Translates defaultOffloadAacCapability.bitsPerSample
    Hidl.kDefaultOffloadAacCapability.bitsPerSample bitsPerSampleField := by
  decide

theorem ldacSampleRate_translates : Translates defaultOffloadLdacCapability.sampleRateHz
    Hidl.kDefaultOffloadLdacCapability.sampleRate toHidlSampleRate20 := by
  decide

theorem ldacChannelMode_translates : Translates defaultOffloadLdacCapability.channelMode
    Hidl.kDefaultOffloadLdacCapability.channelMode ldacChannelModeToHidl := by
  decide

theorem ldacBitsPerSample_translates : Translates defaultOffloadLdacCapability.bitsPerSample
    Hidl.kDefaultOffloadLdacCapability.bitsPerSample bitsPerSampleField := by
  decide

/-- A block length or a number of subbands that is advertised has a value of HIDL, so that nothing is left as it was. -/
theorem getD_lookup {map : List (Int × BitVec 8)} {value : Int} (h : (map.lookup value).isSome = true)
    (uninitialised : BitVec 8) : (map.lookup value).getD uninitialised = (map.lookup value).getD 0 := by
  obtain ⟨found, hfound⟩ := Option.isSome_iff_exists.mp h
  rw [hfound, Option.getD_some, Option.getD_some]

theorem sbcBlockLength_assigned :
    ∀ blockLength ∈ defaultOffloadSbcCapability.blockLength, (sbcBlockLengthToHidlMap.lookup blockLength).isSome := by
  decide

theorem sbcNumSubbands_assigned :
    ∀ numSubbands ∈ defaultOffloadSbcCapability.numSubbands, (sbcSubbandsToHidlMap.lookup numSubbands).isSome := by
  decide

theorem toNat_ofInt_bitpool {bitpool : Int} (hlow : 2 ≤ bitpool) (hhigh : bitpool ≤ 53) :
    (BitVec.ofInt 8 bitpool).toNat = bitpool.toNat := by
  rw [BitVec.toNat_ofInt]
  omega

/-! ### The codecs -/

theorem isAdvertisedBy_toHidlSbcConfig {uninitialised : Hidl.SbcParameters} {sbcConfig : SbcConfiguration}
    (h : sbcConfig.IsAdvertisedBy defaultOffloadSbcCapability) :
    (toHidlSbcConfig uninitialised sbcConfig).IsAdvertisedBy Hidl.kDefaultOffloadSbcCapability := by
  obtain ⟨hrate, hchannels, hblocks, hsubbands, halloc, hbits, hmin, hle, hmax⟩ := h
  have hlow := toNat_ofInt_bitpool hmin (Int.le_trans hle hmax)
  have hhigh := toNat_ofInt_bitpool (Int.le_trans hmin hle) hmax
  refine ⟨sbcSampleRate_translates.1 _ hrate, sbcChannelMode_translates.1 _ hchannels, ?_, ?_,
    sbcAllocMethod_translates.1 _ halloc, sbcBitsPerSample_translates.1 _ hbits, ?_, ?_, ?_⟩
  · simp only [toHidlSbcConfig, getD_lookup (sbcBlockLength_assigned _ hblocks)]
    exact sbcBlockLength_translates.1 _ hblocks
  · simp only [toHidlSbcConfig, getD_lookup (sbcNumSubbands_assigned _ hsubbands)]
    exact sbcNumSubbands_translates.1 _ hsubbands
  all_goals
    simp only [defaultOffloadSbcCapability] at hmin hmax
    simp only [toHidlSbcConfig, Hidl.kDefaultOffloadSbcCapability, BitVec.le_def, hlow, hhigh]
  · change 2 ≤ _
    omega
  · omega
  · change _ ≤ 53
    omega

theorem toHidlSbcConfig_injective {uninitialised uninitialised' : Hidl.SbcParameters} {left right : SbcConfiguration}
    (hleft : left.IsAdvertisedBy defaultOffloadSbcCapability)
    (hright : right.IsAdvertisedBy defaultOffloadSbcCapability)
    (heq : toHidlSbcConfig uninitialised left = toHidlSbcConfig uninitialised' right) : left = right := by
  obtain ⟨hrate, hchannels, hblocks, hsubbands, halloc, hbits, hmin, hle, hmax⟩ := hleft
  obtain ⟨hrate', hchannels', hblocks', hsubbands', halloc', hbits', hmin', hle', hmax'⟩ := hright
  simp only [toHidlSbcConfig, Hidl.SbcParameters.mk.injEq, getD_lookup (sbcBlockLength_assigned _ hblocks),
    getD_lookup (sbcBlockLength_assigned _ hblocks'), getD_lookup (sbcNumSubbands_assigned _ hsubbands),
    getD_lookup (sbcNumSubbands_assigned _ hsubbands')] at heq
  obtain ⟨heqRate, heqChannels, heqBlocks, heqSubbands, heqAlloc, heqBits, heqMin, heqMax⟩ := heq
  have hminBitpool := congrArg BitVec.toNat heqMin
  have hmaxBitpool := congrArg BitVec.toNat heqMax
  rw [toNat_ofInt_bitpool hmin (Int.le_trans hle hmax), toNat_ofInt_bitpool hmin' (Int.le_trans hle' hmax')]
    at hminBitpool
  rw [toNat_ofInt_bitpool (Int.le_trans hmin hle) hmax, toNat_ofInt_bitpool (Int.le_trans hmin' hle') hmax']
    at hmaxBitpool
  simp only [defaultOffloadSbcCapability] at hmin hmin' hmax hmax'
  have hsameMin : left.minBitpool = right.minBitpool := by omega
  have hsameMax : left.maxBitpool = right.maxBitpool := by omega
  obtain ⟨rate, channels, blocks, subbands, alloc, bits, min, max⟩ := left
  obtain ⟨rate', channels', blocks', subbands', alloc', bits', min', max'⟩ := right
  rw [SbcConfiguration.mk.injEq]
  exact ⟨sbcSampleRate_translates.2 _ hrate _ hrate' heqRate,
    sbcChannelMode_translates.2 _ hchannels _ hchannels' heqChannels,
    sbcBlockLength_translates.2 _ hblocks _ hblocks' heqBlocks,
    sbcNumSubbands_translates.2 _ hsubbands _ hsubbands' heqSubbands,
    sbcAllocMethod_translates.2 _ halloc _ halloc' heqAlloc,
    sbcBitsPerSample_translates.2 _ hbits _ hbits' heqBits, hsameMin, hsameMax⟩

theorem isAdvertisedBy_toHidlAacConfig {aacConfig : AacConfiguration}
    (h : aacConfig.IsAdvertisedBy defaultOffloadAacCapability) :
    (toHidlAacConfig aacConfig).IsAdvertisedBy Hidl.kDefaultOffloadAacCapability := by
  obtain ⟨hobject, hrate, hchannels, -, hbits⟩ := h
  exact ⟨aacObjectType_translates.1 _ hobject, aacSampleRate_translates.1 _ hrate,
    aacChannelMode_translates.1 _ hchannels, aacBitsPerSample_translates.1 _ hbits, fun _ => rfl⟩

theorem toHidlAacConfig_injective {left right : AacConfiguration}
    (hleft : left.IsAdvertisedBy defaultOffloadAacCapability)
    (hright : right.IsAdvertisedBy defaultOffloadAacCapability)
    (heq : toHidlAacConfig left = toHidlAacConfig right) : left = right := by
  obtain ⟨hobject, hrate, hchannels, -, hbits⟩ := hleft
  obtain ⟨hobject', hrate', hchannels', -, hbits'⟩ := hright
  simp only [toHidlAacConfig, Hidl.AacParameters.mk.injEq] at heq
  obtain ⟨heqObject, heqRate, heqChannels, heqVariable, heqBits⟩ := heq
  obtain ⟨object, rate, channels, enabled, bits⟩ := left
  obtain ⟨object', rate', channels', enabled', bits'⟩ := right
  have hvariable : enabled = enabled' := by
    cases enabled <;> cases enabled' <;> first | rfl | cases heqVariable
  rw [AacConfiguration.mk.injEq]
  exact ⟨aacObjectType_translates.2 _ hobject _ hobject' heqObject, aacSampleRate_translates.2 _ hrate _ hrate' heqRate,
    aacChannelMode_translates.2 _ hchannels _ hchannels' heqChannels, hvariable,
    aacBitsPerSample_translates.2 _ hbits _ hbits' heqBits⟩

theorem isAdvertisedBy_toHidlLdacConfig {ldacConfig : LdacConfiguration}
    (h : ldacConfig.IsAdvertisedBy defaultOffloadLdacCapability) :
    (toHidlLdacConfig ldacConfig).IsAdvertisedBy Hidl.kDefaultOffloadLdacCapability := by
  obtain ⟨hrate, hchannels, hindex, hbits⟩ := h
  refine ⟨ldacSampleRate_translates.1 _ hrate, ldacChannelMode_translates.1 _ hchannels,
    ldacBitsPerSample_translates.1 _ hbits, ?_⟩
  rw [toHidlLdacConfig, List.mem_singleton.mp hindex]
  rfl

theorem toHidlLdacConfig_injective {left right : LdacConfiguration}
    (hleft : left.IsAdvertisedBy defaultOffloadLdacCapability)
    (hright : right.IsAdvertisedBy defaultOffloadLdacCapability)
    (heq : toHidlLdacConfig left = toHidlLdacConfig right) : left = right := by
  obtain ⟨hrate, hchannels, hindex, hbits⟩ := hleft
  obtain ⟨hrate', hchannels', hindex', hbits'⟩ := hright
  simp only [toHidlLdacConfig, Hidl.LdacParameters.mk.injEq] at heq
  obtain ⟨heqRate, heqChannels, -, heqBits⟩ := heq
  obtain ⟨rate, channels, index, bits⟩ := left
  obtain ⟨rate', channels', index', bits'⟩ := right
  rw [LdacConfiguration.mk.injEq]
  exact ⟨ldacSampleRate_translates.2 _ hrate _ hrate' heqRate,
    ldacChannelMode_translates.2 _ hchannels _ hchannels' heqChannels,
    (List.mem_singleton.mp hindex).trans (List.mem_singleton.mp hindex').symm,
    ldacBitsPerSample_translates.2 _ hbits _ hbits' heqBits⟩

/-- The capabilities of the two aptX codecs, of AIDL and of HIDL. -/
structure AptxMatches (capability : AptxCapabilities) (hidl : Hidl.AptxParameters) : Prop where
  sampleRate : Translates capability.sampleRateHz hidl.sampleRate toHidlSampleRate20
  channelMode : Translates capability.channelMode hidl.channelMode channelModeField
  bitsPerSample : Translates capability.bitsPerSample hidl.bitsPerSample bitsPerSampleField

theorem aptx_matches : AptxMatches defaultOffloadAptxCapability Hidl.kDefaultOffloadAptxCapability :=
  ⟨by decide, by decide, by decide⟩

theorem aptxHd_matches : AptxMatches defaultOffloadAptxHdCapability Hidl.kDefaultOffloadAptxHdCapability :=
  ⟨by decide, by decide, by decide⟩

section Aptx

variable {capability : AptxCapabilities} {hidl : Hidl.AptxParameters}

theorem AptxMatches.isAdvertisedBy (hmatches : AptxMatches capability hidl) {aptxConfig : AptxConfiguration}
    (h : aptxConfig.IsAdvertisedBy capability) : (toHidlAptxConfig aptxConfig).IsAdvertisedBy hidl := by
  obtain ⟨hrate, hchannels, hbits⟩ := h
  exact ⟨hmatches.sampleRate.1 _ hrate, hmatches.channelMode.1 _ hchannels, hmatches.bitsPerSample.1 _ hbits⟩

theorem AptxMatches.injective (hmatches : AptxMatches capability hidl) {left right : AptxConfiguration}
    (hleft : left.IsAdvertisedBy capability) (hright : right.IsAdvertisedBy capability)
    (heq : toHidlAptxConfig left = toHidlAptxConfig right) : left = right := by
  obtain ⟨hrate, hchannels, hbits⟩ := hleft
  obtain ⟨hrate', hchannels', hbits'⟩ := hright
  simp only [toHidlAptxConfig, Hidl.AptxParameters.mk.injEq] at heq
  obtain ⟨heqRate, heqChannels, heqBits⟩ := heq
  obtain ⟨rate, channels, bits⟩ := left
  obtain ⟨rate', channels', bits'⟩ := right
  rw [AptxConfiguration.mk.injEq]
  exact ⟨hmatches.sampleRate.2 _ hrate _ hrate' heqRate, hmatches.channelMode.2 _ hchannels _ hchannels' heqChannels,
    hmatches.bitsPerSample.2 _ hbits _ hbits' heqBits⟩

end Aptx

/-! ### The configurations -/

/-- A provider that offloads accepts the configuration, and HIDL has its codec. -/
def IsOfHidlCodec : CodecType → CodecSpecific → Prop
  | .sbc, .sbcConfig sbcConfig => sbcConfig.IsAdvertisedBy defaultOffloadSbcCapability
  | .aac, .aacConfig aacConfig => aacConfig.IsAdvertisedBy defaultOffloadAacCapability
  | .ldac, .ldacConfig ldacConfig => ldacConfig.IsAdvertisedBy defaultOffloadLdacCapability
  | .aptx, .aptxConfig aptxConfig => aptxConfig.IsAdvertisedBy defaultOffloadAptxCapability
  | .aptxHd, .aptxConfig aptxConfig => aptxConfig.IsAdvertisedBy defaultOffloadAptxHdCapability
  | _, _ => False

theorem isOfHidlCodec_of_valid {sessionType : SessionType} {codecConfig : Bluetooth.CodecConfiguration}
    (hvalid : isOffloadCodecConfigurationValid sessionType codecConfig = true) (hopus : codecConfig.codecType ≠ .opus) :
    IsOfHidlCodec codecConfig.codecType codecConfig.config := by
  obtain ⟨capability, hmem, htype, hadvertised⟩ := (isOffloadCodecConfigurationValid_iff ..).mp hvalid
  rw [getA2dpOffloadCodecCapabilities] at hmem
  split_ifs at hmem
  · cases hmem
  · obtain ⟨codecType, config⟩ := codecConfig
    simp only [defaultOffloadA2dpCodecCapabilities, List.map_cons, List.map_nil, CodecCapabilities.fill,
      List.mem_cons, List.not_mem_nil, or_false] at hmem
    obtain rfl | rfl | rfl | rfl | rfl | rfl := hmem
    all_goals
      obtain rfl := htype
      cases config
    all_goals first | exact hadvertised | exact absurd rfl hopus

/-- HIDL advertises what a codec is translated to, if it takes the bit rate. -/
theorem isAdvertised_toHidlCodecConfig20 (uninitialised : Uninitialised) {codecConfig : CodecConfiguration}
    (hcodec : IsOfHidlCodec codecConfig.codecType codecConfig.config) (hlow : 1 ≤ codecConfig.encodedAudioBitrate)
    (hhigh : codecConfig.encodedAudioBitrate ≤ 0xffffff) :
    (toHidlCodecConfig20 uninitialised codecConfig).IsAdvertised .a2dpHardwareOffloadDatapath := by
  refine Hidl.isAdvertised_iff.mpr ⟨⟨hlow, hhigh⟩, ?_⟩
  obtain ⟨⟨codecType, config⟩, encodedAudioBitrate, peerMtu, isScmstEnabled⟩ := codecConfig
  cases codecType with
  | sbc =>
      cases config with
      | sbcConfig sbcConfig => exact Or.inl ⟨rfl, isAdvertisedBy_toHidlSbcConfig hcodec⟩
      | _ => cases hcodec
  | aac =>
      cases config with
      | aacConfig aacConfig => exact Or.inr (Or.inl ⟨rfl, isAdvertisedBy_toHidlAacConfig hcodec⟩)
      | _ => cases hcodec
  | ldac =>
      cases config with
      | ldacConfig ldacConfig => exact Or.inr (Or.inr (Or.inl ⟨rfl, isAdvertisedBy_toHidlLdacConfig hcodec⟩))
      | _ => cases hcodec
  | aptx =>
      cases config with
      | aptxConfig aptxConfig => exact Or.inr (Or.inr (Or.inr (Or.inl ⟨rfl, aptx_matches.isAdvertisedBy hcodec⟩)))
      | _ => cases hcodec
  | aptxHd =>
      cases config with
      | aptxConfig aptxConfig => exact Or.inr (Or.inr (Or.inr (Or.inr ⟨rfl, aptxHd_matches.isAdvertisedBy hcodec⟩)))
      | _ => cases hcodec
  | _ => cases hcodec

/-- HIDL's validator looks at nothing of a translated configuration but the bit rate. -/
theorem hidlValid_toHidlCodecConfig20 (uninitialised : Uninitialised) {codecConfig : CodecConfiguration}
    (hcodec : IsOfHidlCodec codecConfig.codecType codecConfig.config) :
    Hidl.isOffloadCodecConfigurationValid .a2dpHardwareOffloadDatapath (toHidlCodecConfig20 uninitialised codecConfig) =
        true ↔
      1 ≤ codecConfig.encodedAudioBitrate ∧ codecConfig.encodedAudioBitrate ≤ 0xffffff := by
  rw [Hidl.isOffloadCodecConfigurationValid_iff]
  apply Iff.intro
  · intro hmasked
    exact (Hidl.isAdvertised_iff.mp hmasked).1
  · intro hrate
    have hadvertised := isAdvertised_toHidlCodecConfig20 uninitialised hcodec hrate.1 hrate.2
    rw [Hidl.masked_of_isAdvertised hadvertised]
    exact hadvertised

theorem codecType_of_toHidl {left right : CodecType} {leftConfig rightConfig : CodecSpecific}
    (hleft : IsOfHidlCodec left leftConfig) (hright : IsOfHidlCodec right rightConfig)
    (heq : toHidlCodecType20 left = toHidlCodecType20 right) : left = right := by
  cases left <;> cases right <;> first | rfl | cases hleft | cases hright | exact absurd heq (by decide)

theorem toHidlCodecConfig20_injective {uninitialised uninitialised' : Uninitialised} {left right : CodecConfiguration}
    (hleft : IsOfHidlCodec left.codecType left.config) (hright : IsOfHidlCodec right.codecType right.config)
    (heq : toHidlCodecConfig20 uninitialised left = toHidlCodecConfig20 uninitialised' right) : left = right := by
  obtain ⟨⟨codecType, config⟩, encodedAudioBitrate, peerMtu, isScmstEnabled⟩ := left
  obtain ⟨⟨codecType', config'⟩, encodedAudioBitrate', peerMtu', isScmstEnabled'⟩ := right
  simp only [toHidlCodecConfig20, Hidl.CodecConfiguration.mk.injEq] at heq
  obtain ⟨htype, rfl, rfl, rfl, hconfig⟩ := heq
  obtain rfl := codecType_of_toHidl hleft hright htype
  suffices config = config' by rw [this]
  cases codecType with
  | sbc =>
      cases config with
      | sbcConfig sbcConfig =>
          cases config' with
          | sbcConfig sbcConfig' =>
              rw [toHidlSbcConfig_injective hleft hright (Hidl.CodecSpecific.sbcConfig.inj hconfig)]
          | _ => cases hright
      | _ => cases hleft
  | aac =>
      cases config with
      | aacConfig aacConfig =>
          cases config' with
          | aacConfig aacConfig' =>
              rw [toHidlAacConfig_injective hleft hright (Hidl.CodecSpecific.aacConfig.inj hconfig)]
          | _ => cases hright
      | _ => cases hleft
  | ldac =>
      cases config with
      | ldacConfig ldacConfig =>
          cases config' with
          | ldacConfig ldacConfig' =>
              rw [toHidlLdacConfig_injective hleft hright (Hidl.CodecSpecific.ldacConfig.inj hconfig)]
          | _ => cases hright
      | _ => cases hleft
  | aptx =>
      cases config with
      | aptxConfig aptxConfig =>
          cases config' with
          | aptxConfig aptxConfig' =>
              rw [aptx_matches.injective hleft hright (Hidl.CodecSpecific.aptxConfig.inj hconfig)]
          | _ => cases hright
      | _ => cases hleft
  | aptxHd =>
      cases config with
      | aptxConfig aptxConfig =>
          cases config' with
          | aptxConfig aptxConfig' =>
              rw [aptxHd_matches.injective hleft hright (Hidl.CodecSpecific.aptxConfig.inj hconfig)]
          | _ => cases hright
      | _ => cases hleft
  | _ => cases hleft

/-- The translation of a codec configuration that a provider for offloading accepts, of a codec that HIDL has, is one
that HIDL accepts if the bit rate is one of HIDL's, and no other such configuration has the same translation. -/
theorem a2dpConfig_isPreserved {sessionType sessionType' : SessionType} {codecConfig other : CodecConfiguration}
    (hvalid : isOffloadCodecConfigurationValid sessionType codecConfig.toCodecConfiguration = true)
    (hopus : codecConfig.codecType ≠ .opus)
    (hother : isOffloadCodecConfigurationValid sessionType' other.toCodecConfiguration = true)
    (hotherOpus : other.codecType ≠ .opus) (uninitialised uninitialised' : Uninitialised) :
    (Hidl.isOffloadCodecConfigurationValid .a2dpHardwareOffloadDatapath
        (toHidlCodecConfig20 uninitialised codecConfig) = true ↔
      1 ≤ codecConfig.encodedAudioBitrate ∧ codecConfig.encodedAudioBitrate ≤ 0xffffff) ∧
    (toHidlAudioConfig21 uninitialised (.a2dpConfig codecConfig) =
      toHidlAudioConfig21 uninitialised' (.a2dpConfig other) → codecConfig = other) := by
  have hcodec := isOfHidlCodec_of_valid hvalid hopus
  refine ⟨hidlValid_toHidlCodecConfig20 uninitialised hcodec, ?_⟩
  intro heq
  have hsame := AudioConfiguration21.codecConfig.inj (Option.some.inj heq)
  exact toHidlCodecConfig20_injective hcodec (isOfHidlCodec_of_valid hother hotherOpus) hsame

/-- LDAC at 96 kHz and 990 kbit/s. -/
def ldac990 : CodecConfiguration := ⟨⟨.ldac, .ldacConfig ⟨96000, .stereo, .high, 24⟩⟩, 990000, 679, false⟩

theorem a2dpConfig_isPreserved_ldac990 :
    Hidl.isOffloadCodecConfigurationValid .a2dpHardwareOffloadDatapath (toHidlCodecConfig20 zeroMemory ldac990) =
      true := by
  have hvalid :
      isOffloadCodecConfigurationValid .a2dpHardwareOffloadEncodingDatapath ldac990.toCodecConfiguration = true := rfl
  have hpreserved := a2dpConfig_isPreserved hvalid (by decide) hvalid (by decide) zeroMemory zeroMemory
  exact hpreserved.1.mpr (by decide)

end Penrose.Bluetooth.Middleware

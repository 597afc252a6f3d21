import Penrose.BluetoothConfigs
import Penrose.BluetoothPosition
import Penrose.BluetoothSuspension

/-! Opening an output stream. The session may end between `SetUp` and `LoadAudioConfig`; the stream then takes what
the caller asked for, and divides by it later. -/

namespace Penrose.Bluetooth

/-- `BluetoothAudioPort`, as far as an output stream is opened on it and asks it for its configuration. -/
class OutputPort (Port : Type) (Sessions : outParam Type) where
  setUp : AudioDevice → Sessions → Port × Bool
  forcePcmStereoToMono : Port → Bool → Port
  loadAudioConfig : Port → Sessions → Option AudioConfig × Bool
  getPreferredDataIntervalUs : Port → Sessions → Option Nat

instance : OutputPort BluetoothAudioPortAidl AidlSessions where
  setUp := BluetoothAudioPortAidl.setUpFor
  forcePcmStereoToMono := BluetoothAudioPortAidl.forcePcmStereoToMono
  loadAudioConfig := BluetoothAudioPortAidl.loadAudioConfig
  getPreferredDataIntervalUs := BluetoothAudioPortAidl.getPreferredDataIntervalUs

instance : OutputPort Hidl.BluetoothAudioPort Hidl.HidlSessions where
  setUp := Hidl.BluetoothAudioPort.setUpFor
  forcePcmStereoToMono := Hidl.BluetoothAudioPort.forcePcmStereoToMono
  loadAudioConfig := Hidl.BluetoothAudioPort.loadAudioConfig
  getPreferredDataIntervalUs := Hidl.BluetoothAudioPort.getPreferredDataIntervalUs

open OutputPort

variable {Port Sessions : Type} [OutputPort Port Sessions]

/-- The configuration that a port loads, if it says so. -/
def loadedConfig (port : Port) (sessions : Sessions) : Option AudioConfig :=
  let (written, loaded) := loadAudioConfig port sessions
  if loaded then written else none

/-! ### The streams -/

def audioOutputFlagFast : Nat := 0x4
def audioOutputFlagDeepBuffer : Nat := 0x8
def audioOutputFlagSpatializer : Nat := 0x4000

def kBluetoothDefaultOutputBufferMs : Nat := 10
def kBluetoothSpatializerOutputBufferMs : Nat := 10

/-- The configuration that the stack wants instead of a mono one with 16 bits. -/
def forceStereo (config : AudioConfig) : AudioConfig × Bool :=
  match config.channelMask, config.format with
  | .outMono, .pcm16Bit => ({ config with channelMask := .outStereo }, true)
  | _, _ => (config, false)

/-- `adev_open_output_stream` with a port of this kind, and the sessions as they are at `SetUp`, at `LoadAudioConfig`
and at `GetPreferredDataIntervalUs`: the stream and the configuration that the caller gets back. -/
def adevOpenOutputStream (device : AudioDevice) (flags : Nat) (config : AudioConfig)
    (atSetUp atLoad atInterval : Sessions) : Except Int (BluetoothStreamOut Port × AudioConfig) :=
  let (port, isSetUp) : Port × Bool := setUp device atSetUp
  if !isSetUp then .error (-einval)
  else
    -- that nothing was loaded is only logged
    let config := (loadAudioConfig port atLoad).1.getD config
    let (config, forced) := forceStereo config
    let port := if forced then forcePcmStereoToMono port true else port
    let preferredDataIntervalUs :=
      match getPreferredDataIntervalUs port atInterval with
      | some interval => if interval ≠ 0 then interval else kBluetoothDefaultOutputBufferMs * 1000
      | none => kBluetoothDefaultOutputBufferMs * 1000
    let preferredDataIntervalUs :=
      if (flags = audioOutputFlagFast ||| audioOutputFlagDeepBuffer ∨ flags = audioOutputFlagSpatializer) ∧
          preferredDataIntervalUs < kBluetoothSpatializerOutputBufferMs * 1000 then
        kBluetoothSpatializerOutputBufferMs * 1000
      else preferredDataIntervalUs
    .ok
      ({ bluetoothOutput := port
         lastWriteTimeUs := 0
         sampleRate := config.sampleRate
         channelMask := config.channelMask
         format := config.format
         preferredDataIntervalUs := preferredDataIntervalUs
         framesCount := frameCount preferredDataIntervalUs config.sampleRate
         framesRendered := 0
         framesPresented := 0 }, config)

/-- The sample sizes and channel counts of the audio system, and whether a format has frames of samples. The formats
and channel masks that ports know have them. -/
structure SampleSizes where
  hasProportionalFrames : AudioFormat → Bool
  bytesPerSample : AudioFormat → Nat
  channelCountFromOutMask : AudioChannelMask → Nat
  pcm16Bit : hasProportionalFrames .pcm16Bit = true ∧ bytesPerSample .pcm16Bit ≠ 0
  pcm24BitPacked : hasProportionalFrames .pcm24BitPacked = true ∧ bytesPerSample .pcm24BitPacked ≠ 0
  pcm824Bit : hasProportionalFrames .pcm824Bit = true ∧ bytesPerSample .pcm824Bit ≠ 0
  pcm32Bit : hasProportionalFrames .pcm32Bit = true ∧ bytesPerSample .pcm32Bit ≠ 0
  outMono : channelCountFromOutMask .outMono ≠ 0
  outStereo : channelCountFromOutMask .outStereo ≠ 0

namespace BluetoothStreamOut

/-- The configuration that a stream stores. -/
def config (out : BluetoothStreamOut Port) : AudioConfig := ⟨out.sampleRate, out.channelMask, out.format⟩

def outGetChannels (out : BluetoothStreamOut Port) (loaded : Option AudioConfig) : AudioChannelMask :=
  match loaded with
  | some audioCfg => audioCfg.channelMask
  | none => out.channelMask

def outGetFormat (out : BluetoothStreamOut Port) (loaded : Option AudioConfig) : AudioFormat :=
  match loaded with
  | some audioCfg => audioCfg.format
  | none => out.format

/-- `audio_stream_out_frame_size`, which asks the stream for its format and its channels. -/
def audioStreamOutFrameSize (sizes : SampleSizes) (out : BluetoothStreamOut Port)
    (atFormat atChannels : Option AudioConfig) : Nat :=
  if sizes.hasProportionalFrames (out.outGetFormat atFormat) then
    sizes.channelCountFromOutMask (out.outGetChannels atChannels) * sizes.bytesPerSample (out.outGetFormat atFormat)
  else 1

/-- The divisors of `out_get_latency_ms`, `out_get_presentation_position` and the sleep of `out_write`: the rate that
is stored, the frame size, and the rate that `out_get_sample_rate` gives. -/
def divisors (sizes : SampleSizes) (out : BluetoothStreamOut Port) (atFormat atChannels atRate : Sessions) :
    List Nat :=
  [out.sampleRate,
    out.audioStreamOutFrameSize sizes (loadedConfig out.bluetoothOutput atFormat)
      (loadedConfig out.bluetoothOutput atChannels),
    out.outGetSampleRate (loadedConfig out.bluetoothOutput atRate)]

/-- A later call, as far as the configuration goes: what is stored stays, or is what a port has loaded. -/
inductive LaterCall (Valid : Sessions → Prop) : BluetoothStreamOut Port → BluetoothStreamOut Port → Prop
  | keeps {out later} (h : later.config = out.config) : LaterCall Valid out later
  | reloads {out later} {port : Port} {sessions : Sessions} (hvalid : Valid sessions)
      (h : loadedConfig port sessions = some later.config) : LaterCall Valid out later

/-- Nothing divides by zero after any later calls, whatever the sessions are when the callbacks ask. -/
def NeverDividesByZero (sizes : SampleSizes) (Valid : Sessions → Prop) (out : BluetoothStreamOut Port) : Prop :=
  ∀ later, Relation.ReflTransGen (LaterCall Valid) out later → later.sampleRate ≠ 0 ∧
    ∀ atFormat atChannels atRate, Valid atFormat → Valid atChannels → Valid atRate →
      ∀ divisor ∈ later.divisors sizes atFormat atChannels atRate, divisor ≠ 0

end BluetoothStreamOut

/-- The configuration can be divided by: it has a rate, channels, and bytes in a sample, if it has samples. -/
def AudioConfig.IsSound (sizes : SampleSizes) (config : AudioConfig) : Prop :=
  config.sampleRate ≠ 0 ∧ sizes.channelCountFromOutMask config.channelMask ≠ 0 ∧
    (sizes.hasProportionalFrames config.format = true → sizes.bytesPerSample config.format ≠ 0)

theorem AudioConfig.IsKnown.proportional {config : AudioConfig} (h : config.IsKnown) (sizes : SampleSizes) :
    sizes.hasProportionalFrames config.format = true ∧ sizes.bytesPerSample config.format ≠ 0 := by
  rcases h.format_known with hformat | hformat | hformat | hformat
  · exact hformat ▸ sizes.pcm16Bit
  · exact hformat ▸ sizes.pcm24BitPacked
  · exact hformat ▸ sizes.pcm824Bit
  · exact hformat ▸ sizes.pcm32Bit

theorem AudioConfig.IsKnown.channelCount_ne {config : AudioConfig} (h : config.IsKnown) (sizes : SampleSizes) :
    sizes.channelCountFromOutMask config.channelMask ≠ 0 := by
  rcases h.channelMask_known with hmask | hmask
  · exact hmask ▸ sizes.outMono
  · exact hmask ▸ sizes.outStereo

theorem AudioConfig.IsKnown.isSound {config : AudioConfig} (h : config.IsKnown) (sizes : SampleSizes) :
    config.IsSound sizes :=
  ⟨h.sampleRate_ne, h.channelCount_ne sizes, fun _ => (h.proportional sizes).2⟩

theorem isSound_forceStereo (sizes : SampleSizes) (config : AudioConfig) :
    (forceStereo config).1.IsSound sizes ↔ config.IsSound sizes := by
  obtain ⟨sampleRate, channelMask, format⟩ := config
  cases channelMask with
  | outMono =>
      cases format with
      | pcm16Bit => simp [forceStereo, AudioConfig.IsSound, sizes.outMono, sizes.outStereo]
      | _ => rfl
  | _ => rfl

/-! ### What a stream divides by -/

/-- What the ports of a transport do, where the sessions are valid. -/
structure LawfulPorts (Valid : Sessions → Prop) (InUse : Port → Prop) : Prop where
  known : ∀ {port : Port} {sessions config}, Valid sessions → (loadAudioConfig port sessions).1 = some config →
    config.IsKnown
  inUse_setUp : ∀ {device} {sessions : Sessions}, (setUp device sessions : Port × Bool).2 = true →
    InUse (setUp device sessions).1
  inUse_force : ∀ {port : Port}, InUse port → InUse (forcePcmStereoToMono port true)
  ready : ∀ {port : Port}, InUse port → ∃ sessions config, Valid sessions ∧ loadedConfig port sessions = some config
  ended : ∀ {port : Port}, InUse port → ∃ sessions, Valid sessions ∧ loadedConfig port sessions = none

namespace BluetoothStreamOut

variable {Valid : Sessions → Prop} {InUse : Port → Prop} {sizes : SampleSizes} {out later : BluetoothStreamOut Port}

theorem isKnown_of_loadedConfig (hlawful : LawfulPorts Valid InUse) {port : Port} {sessions : Sessions}
    (hvalid : Valid sessions) {config : AudioConfig} (h : loadedConfig port sessions = some config) :
    config.IsKnown := by
  simp only [loadedConfig] at h
  split_ifs at h
  exact hlawful.known hvalid h

/-- Later calls keep a configuration that can be divided by. -/
theorem isSound_of_laterCalls (hlawful : LawfulPorts Valid InUse) (hsound : out.config.IsSound sizes)
    (hcalls : Relation.ReflTransGen (LaterCall Valid) out later) : later.config.IsSound sizes := by
  induction hcalls with
  | refl => exact hsound
  | tail _ hcall ih =>
      cases hcall with
      | keeps h => exact h ▸ ih
      | reloads hvalid h => exact (isKnown_of_loadedConfig hlawful hvalid h).isSound sizes

/-- What the callbacks find is what is stored or what is loaded, for each of them. -/
theorem divisors_ne_zero (hlawful : LawfulPorts Valid InUse) (hsound : out.config.IsSound sizes)
    {atFormat atChannels atRate : Sessions} (hformat : Valid atFormat) (hchannels : Valid atChannels)
    (hrate : Valid atRate) : ∀ divisor ∈ out.divisors sizes atFormat atChannels atRate, divisor ≠ 0 := by
  obtain ⟨hsampleRate, hcount, hbytes⟩ := hsound
  have hmask : sizes.channelCountFromOutMask
      (out.outGetChannels (loadedConfig out.bluetoothOutput atChannels)) ≠ 0 := by
    cases hloaded : loadedConfig out.bluetoothOutput atChannels with
    | none => exact hcount
    | some config => exact (isKnown_of_loadedConfig hlawful hchannels hloaded).channelCount_ne sizes
  have hsample : sizes.hasProportionalFrames (out.outGetFormat (loadedConfig out.bluetoothOutput atFormat)) = true →
      sizes.bytesPerSample (out.outGetFormat (loadedConfig out.bluetoothOutput atFormat)) ≠ 0 := by
    cases hloaded : loadedConfig out.bluetoothOutput atFormat with
    | none => exact hbytes
    | some config => exact fun _ => ((isKnown_of_loadedConfig hlawful hformat hloaded).proportional sizes).2
  have hgetRate : out.outGetSampleRate (loadedConfig out.bluetoothOutput atRate) ≠ 0 := by
    cases hloaded : loadedConfig out.bluetoothOutput atRate with
    | none => exact hsampleRate
    | some config => exact (isKnown_of_loadedConfig hlawful hrate hloaded).sampleRate_ne
  have hframe : out.audioStreamOutFrameSize sizes (loadedConfig out.bluetoothOutput atFormat)
      (loadedConfig out.bluetoothOutput atChannels) ≠ 0 := by
    rw [audioStreamOutFrameSize]
    split_ifs with hproportional
    · exact Nat.mul_ne_zero hmask (hsample hproportional)
    · decide
  intro divisor hdivisor
  simp only [divisors, List.mem_cons, List.not_mem_nil, or_false] at hdivisor
  rcases hdivisor with rfl | rfl | rfl
  · exact hsampleRate
  · exact hframe
  · exact hgetRate

/-- A stream whose port is in use never divides by zero exactly if its configuration can be divided by. -/
theorem neverDividesByZero_iff (hlawful : LawfulPorts Valid InUse) (hinUse : InUse out.bluetoothOutput) :
    out.NeverDividesByZero sizes Valid ↔ out.config.IsSound sizes := by
  refine ⟨?_, ?_⟩
  · intro hnever
    obtain ⟨hrate, hdivisors⟩ := hnever out .refl
    obtain ⟨ended, hended, hnone⟩ := hlawful.ended hinUse
    obtain ⟨ready, config, hready, hsome⟩ := hlawful.ready hinUse
    obtain ⟨hproportional, hbytes⟩ := (isKnown_of_loadedConfig hlawful hready hsome).proportional sizes
    refine ⟨hrate, fun hcount => ?_, fun hproportional hzero => ?_⟩
    · -- the session ends after the format is asked for
      apply hdivisors ready ended ended hready hended hended _ (List.mem_cons_of_mem _ (List.mem_cons_self ..))
      simp only [audioStreamOutFrameSize, hsome, hnone, outGetFormat, outGetChannels, hproportional, if_true]
      exact Nat.mul_eq_zero.mpr (Or.inl hcount)
    · apply hdivisors ended ended ended hended hended hended _ (List.mem_cons_of_mem _ (List.mem_cons_self ..))
      simp only [audioStreamOutFrameSize, hnone, outGetFormat, outGetChannels]
      exact (if_pos hproportional).trans (Nat.mul_eq_zero.mpr (Or.inr hzero))
  · intro hsound later hcalls
    have hlater := isSound_of_laterCalls hlawful hsound hcalls
    exact ⟨hlater.1, fun atFormat atChannels atRate hformat hchannels hrate =>
      divisors_ne_zero hlawful hlater hformat hchannels hrate⟩

/-- A stream that was opened stores what was written at its opening, and what the caller asked for otherwise. -/
theorem neverDividesByZero_opened_iff (hlawful : LawfulPorts Valid InUse) {device : AudioDevice} {flags : Nat}
    {config config' : AudioConfig} {atSetUp atLoad atInterval : Sessions} (hload : Valid atLoad)
    (hopened : adevOpenOutputStream device flags config atSetUp atLoad atInterval = .ok (out, config')) :
    out.NeverDividesByZero sizes Valid ↔
      ((loadAudioConfig (setUp device atSetUp : Port × Bool).1 atLoad).1 = none → config.IsSound sizes) := by
  rw [adevOpenOutputStream] at hopened
  cases hsetUp : (setUp device atSetUp : Port × Bool).2 with
  | false => simp [hsetUp] at hopened
  | true =>
      have hinUse := hlawful.inUse_setUp hsetUp
      simp only [hsetUp, Bool.not_true, Bool.false_eq_true, if_false, Except.ok.injEq, Prod.mk.injEq] at hopened
      have hport : InUse out.bluetoothOutput := by
        rw [← hopened.1]
        simp only
        split_ifs
        · exact hlawful.inUse_force hinUse
        · exact hinUse
      have hconfig : out.config =
          (forceStereo ((loadAudioConfig (setUp device atSetUp : Port × Bool).1 atLoad).1.getD config)).1 := by
        rw [← hopened.1]
        rfl
      rw [neverDividesByZero_iff hlawful hport, hconfig, isSound_forceStereo]
      cases hwritten : (loadAudioConfig (setUp device atSetUp : Port × Bool).1 atLoad).1 with
      | none => simp
      | some written => exact iff_of_true ((hlawful.known hload hwritten).isSound sizes) (fun h => nomatch h)

end BluetoothStreamOut

/-! ### The two transports -/

namespace BluetoothAudioPortAidl

theorem inUse_setUpFor {device : AudioDevice} {sessions : AidlSessions} (h : (setUpFor device sessions).2 = true) :
    (setUpFor device sessions).1.inUse = true := by
  rw [setUpFor] at h ⊢
  cases hdevice : initSessionType device with
  | none => simp [hdevice] at h
  | some sessionType =>
      simp only [hdevice, setUp] at h ⊢
      split_ifs at h ⊢
      exact h

theorem sessionType_setUpFor {device : AudioDevice} {sessionType : SessionType}
    (hdevice : initSessionType device = some sessionType) {sessions : AidlSessions} (hvalid : sessions.Valid) :
    (setUpFor device sessions).1.sessionType = sessionType := by
  simp only [setUpFor, hdevice, setUp]
  split_ifs <;> exact hvalid.sessionType_eq sessionType

/-- Sessions that are all ready. -/
def readySessions : AidlSessions := fun sessionType =>
  ⟨sessionType, some (), some ⟨⟨true⟩⟩, some (.pcmConfig ⟨44100, .stereo, 16, 10000⟩), [], []⟩

theorem readySessions_valid : readySessions.Valid := by
  refine ⟨fun _ => rfl, fun sessionType pcmCfg _ h => ?_⟩
  obtain rfl : (⟨44100, .stereo, 16, 10000⟩ : PcmConfiguration) = pcmCfg := by simpa [readySessions] using h
  decide

/-- Sessions that have all ended. -/
def endedSessions : AidlSessions := BluetoothAudioSession.create

theorem endedSessions_valid : endedSessions.Valid := ⟨fun _ => rfl, fun _ _ hready => by cases hready⟩

theorem loadAudioConfig_readySessions {port : BluetoothAudioPortAidl} (hinUse : port.inUse = true) :
    (port.loadAudioConfig readySessions).2 = true := by
  have hconfig : (readySessions port.sessionType).getAudioConfig = .pcmConfig ⟨44100, .stereo, 16, 10000⟩ := by
    simp [readySessions, BluetoothAudioSession.getAudioConfig, BluetoothAudioSession.isSessionReady, DataMQ.isValid]
  rw [loadAudioConfig, hinUse, hconfig]
  rfl

theorem loadAudioConfig_endedSessions {port : BluetoothAudioPortAidl} (hinUse : port.inUse = true) :
    (port.loadAudioConfig endedSessions).2 = false := by
  rw [loadAudioConfig, hinUse, endedSessions]
  cases port.sessionType <;> rfl

theorem lawfulPorts : LawfulPorts (fun sessions => AidlSessions.Valid sessions)
    fun port : BluetoothAudioPortAidl => port.inUse = true where
  known hvalid h := isKnown_of_loadAudioConfig hvalid h
  inUse_setUp h := inUse_setUpFor h
  inUse_force h := h
  ready hinUse := by
    have hloaded := loadAudioConfig_readySessions hinUse
    obtain ⟨config, hconfig⟩ := Option.isSome_iff_exists.mp (isSome_of_loadAudioConfig hloaded)
    exact ⟨readySessions, config, readySessions_valid, (if_pos hloaded).trans hconfig⟩
  ended hinUse :=
    ⟨endedSessions, endedSessions_valid, if_neg (Bool.eq_false_iff.mp (loadAudioConfig_endedSessions hinUse))⟩

end BluetoothAudioPortAidl

namespace Hidl

/-- Every session has the type it is found by. -/
structure HidlSessions.Valid (sessions : HidlSessions) : Prop where
  rawSessionType_eq : ∀ sessionType, (sessions sessionType).rawSessionType = sessionType
  sessionType_eq : ∀ sessionType, (sessions sessionType).audioSession.sessionType = sessionType

namespace BluetoothAudioPort

theorem inUse_setUpFor {device : AudioDevice} {sessions : HidlSessions} (h : (setUpFor device sessions).2 = true) :
    (setUpFor device sessions).1.inUse = true := by
  rw [setUpFor] at h ⊢
  cases hdevice : initSessionType device with
  | none => simp [hdevice] at h
  | some sessionType =>
      simp only [hdevice] at h ⊢
      split_ifs at h ⊢
      exact h

theorem sessionType_setUpFor {device : AudioDevice} {sessionType : SessionType}
    (hdevice : initSessionType device = some sessionType) (sessions : HidlSessions) :
    (setUpFor device sessions).1.sessionType = sessionType := by
  simp only [setUpFor, hdevice]
  split_ifs <;> rfl

/-- Sessions that are all ready. -/
def readySessions : HidlSessions := fun sessionType =>
  ⟨sessionType, ⟨sessionType, some (), some ⟨⟨true⟩⟩⟩, .pcmConfig ⟨.rate44100, .stereo, .bits16, 0⟩, [],
    .pcmConfig ⟨.rate44100, .stereo, .bits16, 0⟩⟩

/-- Sessions that have all ended. -/
def endedSessions : HidlSessions := fun sessionType =>
  ⟨sessionType, ⟨sessionType, none, none⟩, kInvalidAudioConfiguration, [], kInvalidAudioConfiguration⟩

theorem loadAudioConfig_readySessions {port : BluetoothAudioPort} (hinUse : port.inUse = true) :
    (port.loadAudioConfig readySessions).2 = true := by
  rw [loadAudioConfig, hinUse, readySessions]
  cases port.sessionType <;> rfl

theorem loadAudioConfig_endedSessions {port : BluetoothAudioPort} (hinUse : port.inUse = true) :
    (port.loadAudioConfig endedSessions).2 = false := by
  rw [loadAudioConfig, hinUse, endedSessions]
  cases port.sessionType <;> rfl

theorem lawfulPorts : LawfulPorts (fun sessions => HidlSessions.Valid sessions)
    fun port : BluetoothAudioPort => port.inUse = true where
  known _ h := isKnown_of_loadAudioConfig h
  inUse_setUp h := inUse_setUpFor h
  inUse_force h := h
  ready hinUse := by
    have hloaded := loadAudioConfig_readySessions hinUse
    obtain ⟨config, hconfig⟩ := Option.isSome_iff_exists.mp (isSome_of_loadAudioConfig hloaded)
    exact ⟨readySessions, config, ⟨fun _ => rfl, fun _ => rfl⟩, (if_pos hloaded).trans hconfig⟩
  ended hinUse :=
    ⟨endedSessions, ⟨fun _ => rfl, fun _ => rfl⟩,
      if_neg (Bool.eq_false_iff.mp (loadAudioConfig_endedSessions hinUse))⟩

end BluetoothAudioPort

end Hidl

end Penrose.Bluetooth

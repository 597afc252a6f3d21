import Penrose.BluetoothOpening

/-! What the streams of the output HAL divide by. A session that ends between `SetUp` and `LoadAudioConfig` leaves
the caller's configuration in the stream, and nothing asks whether it can be divided by. -/

namespace Penrose.Bluetooth

variable {O : Type} {mix : UInt8 × UInt8 → UInt8 × UInt8 → UInt8 × UInt8}

/-! ### The events of a stream -/

namespace BluetoothStreamOut

variable (out : AidlStreamOut)

@[simp] theorem config_suspendOutput (answer : Answer O) : (out.suspendOutput answer).1.config = out.config := by
  rw [suspendOutput]
  cases out.state <;> rfl

@[simp] theorem config_outResume (answer : Answer O) : (out.outResume answer).1.config = out.config := by
  rw [outResume]
  cases out.state <;> rfl

@[simp] theorem config_stopOutput : out.stopOutput.config = out.config := by
  rw [stopOutput]
  split_ifs <;> rfl

@[simp] theorem config_setA2dpSuspended (value : List Char) (answer : Answer O) :
    (out.setA2dpSuspended value answer).config = out.config := by
  rw [setA2dpSuspended]
  cases out.state <;> split_ifs <;> rfl

@[simp] theorem config_suspendByParams (params : AudioParams) (answer : Answer O) :
    (out.suspendByParams params answer).config = out.config := by
  rw [suspendByParams]
  cases params.lookup a2dpSuspendedKey with
  | none => rfl
  | some value =>
      simp only
      split_ifs
      · rfl
      · exact config_setA2dpSuspended out value answer

@[simp] theorem config_stopByParams (params : AudioParams) : (out.stopByParams params).config = out.config := by
  rw [stopByParams]
  split_ifs <;> simp

@[simp] theorem config_writeStarted (buffer : List UInt8) (env : WriteEnv O) :
    (out.writeStarted mix buffer env).1.config = out.config := by
  simp only [writeStarted]
  split_ifs <;> rfl

@[simp] theorem config_outWrite (buffer : List UInt8) (env : WriteEnv O) :
    (out.outWrite mix buffer env).1.config = out.config := by
  simp only [outWrite]
  split_ifs <;> simp

/-- The framework takes the configuration that is loaded, or none. -/
theorem config_reloadConfig (params : AudioParams) (loaded : Option AudioConfig) :
    (out.reloadConfig params loaded).config = out.config ∨ loaded = some (out.reloadConfig params loaded).config := by
  rw [reloadConfig.eq_def]
  split_ifs
  · cases loaded with
    | none => exact Or.inl rfl
    | some audioCfg => exact Or.inr rfl
  · exact Or.inl rfl

end BluetoothStreamOut

open BluetoothStreamOut

/-- What the event brings as loaded is what a port has loaded. -/
def StreamEvent.IsLoaded : StreamEvent O → Prop
  | .outSetParameters _ loaded _ =>
      ∃ (port : BluetoothAudioPortAidl) (sessions : AidlSessions), sessions.Valid ∧ loaded = loadedConfig port sessions
  | _ => True

/-- The events of a stream are later calls. -/
theorem StreamEvent.laterCall {out : AidlStreamOut} {event : StreamEvent O} (hloaded : event.IsLoaded) :
    LaterCall AidlSessions.Valid out (event.apply mix out).1 := by
  cases event with
  | outWrite buffer env => exact .keeps (config_outWrite out buffer env)
  | streamCall call => cases call <;> exact .keeps (by simp [apply, StreamCall.apply, outPause, outStandby])
  | receive callback => exact .keeps rfl
  | outSetParameters kvpairs loaded answer =>
      obtain ⟨port, sessions, hvalid, rfl⟩ := hloaded
      rw [apply, BluetoothStreamOut.outSetParameters]
      split_ifs
      · exact .keeps rfl
      · rcases config_reloadConfig out (parseAudioParams kvpairs) (loadedConfig port sessions) with hkept | hreloaded
        · exact .keeps (by simp [hkept])
        · exact .reloads hvalid (hreloaded.trans (by simp))

/-- A stream that never divides by zero does not at any write of a run. -/
theorem BluetoothStreamOut.NeverDividesByZero.run {sizes : SampleSizes} {out : AidlStreamOut}
    {events : List (StreamEvent O)} (h : out.NeverDividesByZero sizes AidlSessions.Valid)
    (hevents : ∀ event ∈ events, event.IsLoaded) :
    Run (fun out event => (StreamEvent.apply mix out event).1)
      (fun out _ => ∀ sessions, AidlSessions.Valid sessions →
        ∀ divisor ∈ out.divisors sizes sessions sessions sessions, divisor ≠ 0) out events := by
  have hstep (out : AidlStreamOut) (event : StreamEvent O) (hnever : out.NeverDividesByZero sizes AidlSessions.Valid)
      (_ : event.IsLoaded) (sessions : AidlSessions) (hvalid : sessions.Valid) :
      ∀ divisor ∈ out.divisors sizes sessions sessions sessions, divisor ≠ 0 :=
    (hnever out .refl).2 sessions sessions sessions hvalid hvalid hvalid
  exact Run.of_inv hstep
    (fun out event hnever hloaded later hcalls => hnever later (.head (StreamEvent.laterCall hloaded) hcalls)) h
    (Run.forall_iff.mpr hevents)

/-! ### The streams that are opened -/

variable {device : AudioDevice} {flags : Nat} {config config' : AudioConfig} {sizes : SampleSizes}

namespace BluetoothAudioPortAidl

/-- Over AIDL, nothing is written for the caller where the session has unknown channels. -/
theorem loadAudioConfig_setUpFor {atSetUp : AidlSessions} (hvalid : atSetUp.Valid)
    (hsetUp : (setUpFor device atSetUp).2 = true) (atLoad : AidlSessions) :
    ((setUpFor device atSetUp).1.loadAudioConfig atLoad).1 = none ↔
      ∃ sessionType, initSessionType device = some sessionType ∧
        (atLoad sessionType).getAudioConfig.IsUnknown := by
  rw [loadAudioConfig_fst_eq_none (inUse_setUpFor hsetUp)]
  cases hdevice : initSessionType device with
  | none => simp [setUpFor, hdevice] at hsetUp
  | some sessionType => simp [sessionType_setUpFor hdevice hvalid]

end BluetoothAudioPortAidl

namespace Hidl.BluetoothAudioPort

/-- Over HIDL, nothing is written for the caller where the session has an unknown value. -/
theorem loadAudioConfig_setUpFor {atSetUp : HidlSessions} (hsetUp : (setUpFor device atSetUp).2 = true)
    (atLoad : HidlSessions) :
    ((setUpFor device atSetUp).1.loadAudioConfig atLoad).1 = none ↔
      ∃ sessionType, initSessionType device = some sessionType ∧
        (atLoad sessionType).getAudioConfig.IsUnknown := by
  rw [loadAudioConfig_fst_eq_none (inUse_setUpFor hsetUp)]
  cases hdevice : initSessionType device with
  | none => simp [setUpFor, hdevice] at hsetUp
  | some sessionType => simp [sessionType_setUpFor hdevice]

end Hidl.BluetoothAudioPort

theorem setUp_of_opened {Port Sessions : Type} [OutputPort Port Sessions] {atSetUp atLoad atInterval : Sessions}
    {out : BluetoothStreamOut Port}
    (hopened : adevOpenOutputStream device flags config atSetUp atLoad atInterval = .ok (out, config')) :
    (OutputPort.setUp device atSetUp : Port × Bool).2 = true := by
  rw [adevOpenOutputStream] at hopened
  cases hsetUp : (OutputPort.setUp device atSetUp : Port × Bool).2 with
  | false => simp [hsetUp] at hopened
  | true => rfl

/-- A stream that was opened never divides by zero, whatever the sessions do, exactly if the session was known when
the configuration was loaded or the caller's configuration can be divided by. -/
theorem opened_neverDividesByZero_iff (sizes : SampleSizes) (device : AudioDevice) (flags : Nat)
    (config config' : AudioConfig) :
    (∀ (atSetUp atLoad atInterval : AidlSessions) (out : AidlStreamOut), atSetUp.Valid → atLoad.Valid →
      adevOpenOutputStream device flags config atSetUp atLoad atInterval = .ok (out, config') →
        (out.NeverDividesByZero sizes AidlSessions.Valid ↔
          ((∃ sessionType, BluetoothAudioPortAidl.initSessionType device = some sessionType ∧
            (atLoad sessionType).getAudioConfig.IsUnknown) → config.IsSound sizes))) ∧
    (∀ (atSetUp atLoad atInterval : Hidl.HidlSessions) (out : BluetoothStreamOut Hidl.BluetoothAudioPort),
      atLoad.Valid → adevOpenOutputStream device flags config atSetUp atLoad atInterval = .ok (out, config') →
        (out.NeverDividesByZero sizes Hidl.HidlSessions.Valid ↔
          ((∃ sessionType, Hidl.BluetoothAudioPort.initSessionType device = some sessionType ∧
            (atLoad sessionType).getAudioConfig.IsUnknown) → config.IsSound sizes))) := by
  refine ⟨?_, ?_⟩
  · intro atSetUp atLoad atInterval out hsetUp hload hopened
    rw [neverDividesByZero_opened_iff BluetoothAudioPortAidl.lawfulPorts hload hopened]
    exact imp_congr_left (BluetoothAudioPortAidl.loadAudioConfig_setUpFor hsetUp (setUp_of_opened hopened) atLoad)
  · intro atSetUp atLoad atInterval out hload hopened
    rw [neverDividesByZero_opened_iff Hidl.BluetoothAudioPort.lawfulPorts hload hopened]
    exact imp_congr_left (Hidl.BluetoothAudioPort.loadAudioConfig_setUpFor (setUp_of_opened hopened) atLoad)

/-- The sizes of linear PCM; the other positional masks have a channel for each of their bits. -/
def linearPcmSizes : SampleSizes where
  hasProportionalFrames
    | .other value => value >>> 24 = 0
    | _ => true
  bytesPerSample
    | .pcm16Bit => 2
    | .pcm24BitPacked => 3
    | .pcm824Bit => 4
    | .pcm32Bit => 4
    | .other 2 => 1
    | .other 5 => 4
    | .other _ => 0
  channelCountFromOutMask
    | .outMono => 1
    | .outStereo => 2
    | .other mask => (List.range 30).countP mask.testBit
  pcm16Bit := by decide
  pcm24BitPacked := by decide
  pcm824Bit := by decide
  pcm32Bit := by decide
  outMono := by decide
  outStereo := by decide

/-- `audio_config_t` with every field zero. -/
def zeroConfig : AudioConfig := ⟨0, .other 0, .other 0⟩

open BluetoothAudioPortAidl in
/-- With sessions that are ready when the configuration is loaded, a configuration of zeros does no harm. -/
theorem opened_neverDividesByZero_iff_ready :
    ∃ (out : AidlStreamOut) (config' : AudioConfig),
      adevOpenOutputStream .outBluetoothA2dp 0 zeroConfig readySessions readySessions readySessions =
        .ok (out, config') ∧ out.NeverDividesByZero linearPcmSizes AidlSessions.Valid := by
  refine ⟨_, _, rfl, ?_⟩
  refine ((opened_neverDividesByZero_iff linearPcmSizes .outBluetoothA2dp 0 zeroConfig _).1 readySessions readySessions
    readySessions _ readySessions_valid readySessions_valid rfl).mpr ?_
  rintro ⟨sessionType, -, hunknown⟩
  have hconfig : (readySessions sessionType).getAudioConfig = .pcmConfig ⟨44100, .stereo, 16, 10000⟩ := by
    cases sessionType <;> rfl
  rw [hconfig] at hunknown
  cases hunknown

open BluetoothAudioPortAidl in
/-- The session is ready at `SetUp` and has ended at `LoadAudioConfig`: the stream that is opened has rate 0. -/
theorem sessionEnded_dividesByZero :
    ∃ (out : AidlStreamOut) (config' : AudioConfig), readySessions.Valid ∧ endedSessions.Valid ∧
      adevOpenOutputStream .outBluetoothA2dp 0 zeroConfig readySessions endedSessions endedSessions =
        .ok (out, config') ∧ out.sampleRate = 0 ∧ ¬out.NeverDividesByZero linearPcmSizes AidlSessions.Valid := by
  refine ⟨_, _, readySessions_valid, endedSessions_valid, rfl, rfl, ?_⟩
  intro hnever
  exact (hnever _ .refl).1 rfl

end Penrose.Bluetooth

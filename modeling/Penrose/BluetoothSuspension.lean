import Penrose.BluetoothRequests

/-! `A2dpSuspended`. The parameter disables the ports of the A2DP streams that are open, and nothing but the parameter
itself enables them again; what is written until then is dropped. -/

namespace Penrose.Bluetooth

variable {O : Type}

namespace BluetoothAudioPortAidl

@[simp] theorem cookie_condwaitState (port : BluetoothAudioPortAidl) (state : BluetoothStreamState)
    (arriving : List (Callback O)) : (port.condwaitState state arriving).1.cookie = port.cookie := by
  cases state <;> simp [condwaitState]

@[simp] theorem cookie_request (entry waiting : BluetoothStreamState) (port : BluetoothAudioPortAidl)
    (answer : Answer O) : (port.request entry waiting answer).1.cookie = port.cookie := by
  have hask : (port.ask entry waiting).1.cookie = port.cookie := by
    rw [ask]
    split_ifs <;> rfl
  simp only [request]
  split_ifs <;> simp [hask]

@[simp] theorem cookie_stop (port : BluetoothAudioPortAidl) : port.stop.cookie = port.cookie := by
  rw [stop]
  split_ifs <;> rfl

end BluetoothAudioPortAidl

namespace BluetoothStreamOut

variable {out : AidlStreamOut}

theorem bluetoothOutput_reloadConfig (params : AudioParams) (loaded : Option AudioConfig) :
    (out.reloadConfig params loaded).bluetoothOutput = out.bluetoothOutput := by
  rw [reloadConfig.eq_def]
  split_ifs
  · cases loaded <;> rfl
  · rfl

theorem state_stopOutput_of_disabled (h : out.state = .disabled) : out.stopOutput.state = .disabled := by
  rw [stopOutput, if_neg (not_not.mpr h)]
  exact h

/-- With the value that suspends, a stream that is in use is disabled. -/
theorem state_setA2dpSuspended (hinUse : out.bluetoothOutput.inUse = true) (answer : Answer O) :
    (out.setA2dpSuspended "true".toList answer).state = .disabled := by
  rw [setA2dpSuspended, if_pos rfl]
  cases hstate : out.state with
  | started => rfl
  | disabled => exact hstate
  | _ => simp [state, BluetoothAudioPortAidl.stop, hinUse, BluetoothAudioPortAidl.setState]

/-- The parameters do not enable A2DP streams again. -/
def KeepsSuspended (params : AudioParams) : Prop :=
  ∀ value, params.lookup a2dpSuspendedKey = some value → value = "true".toList

/-- The parameters suspend the stream. -/
def IsSuspendedBy (out : AidlStreamOut) (params : AudioParams) : Prop :=
  params.lookup a2dpSuspendedKey = some "true".toList ∧ out.bluetoothOutput.isA2dp = true ∧
    out.bluetoothOutput.inUse = true

theorem state_suspendByParams {params : AudioParams} (answer : Answer O) (hkeeps : KeepsSuspended params)
    (h : out.state = .disabled ∨ out.IsSuspendedBy params) :
    (out.suspendByParams params answer).state = .disabled := by
  rw [suspendByParams]
  cases hlookup : params.lookup a2dpSuspendedKey with
  | none =>
      rcases h with hdisabled | ⟨hvalue, -, -⟩
      · exact hdisabled
      · rw [hlookup] at hvalue
        cases hvalue
  | some value =>
      obtain rfl := hkeeps value hlookup
      rcases h with hdisabled | ⟨-, ha2dp, hinUse⟩
      · simp only
        split_ifs
        · exact hdisabled
        · rw [setA2dpSuspended, if_pos rfl, hdisabled]
          exact hdisabled
      · simp only [ha2dp, Bool.not_true, Bool.false_eq_true, if_false]
        exact state_setA2dpSuspended hinUse answer

theorem state_stopByParams (params : AudioParams) (h : out.state = .disabled) :
    (out.stopByParams params).state = .disabled := by
  rw [stopByParams]
  split_ifs
  · exact state_stopOutput_of_disabled (state_stopOutput_of_disabled h)
  · exact state_stopOutput_of_disabled h
  · exact state_stopOutput_of_disabled h
  · exact h

/-- A stream is disabled by parameters that suspend it, and stays disabled by all that do not enable it again. -/
theorem state_outSetParameters {kvpairs : List Char} (loaded : Option AudioConfig) (answer : Answer O)
    (hkeeps : KeepsSuspended (parseAudioParams kvpairs))
    (h : out.state = .disabled ∨ out.IsSuspendedBy (parseAudioParams kvpairs)) :
    (out.outSetParameters kvpairs loaded answer).state = .disabled := by
  rw [outSetParameters]
  split_ifs with hempty
  · rcases h with hdisabled | ⟨hlookup, -, -⟩
    · exact hdisabled
    · have hmem : a2dpSuspendedKey ∈ (parseAudioParams kvpairs).keys :=
        AList.mem_keys.mp (AList.lookup_isSome.mp (by rw [hlookup]; rfl))
      rw [List.isEmpty_iff.mp hempty] at hmem
      cases hmem
  · refine state_stopByParams _ (state_suspendByParams answer hkeeps ?_)
    simpa only [state, IsSuspendedBy, bluetoothOutput_reloadConfig] using h

@[simp] theorem cookie_stopOutput : out.stopOutput.bluetoothOutput.cookie = out.bluetoothOutput.cookie := by
  rw [stopOutput]
  split_ifs <;> simp

@[simp] theorem cookie_setA2dpSuspended (value : List Char) (answer : Answer O) :
    (out.setA2dpSuspended value answer).bluetoothOutput.cookie = out.bluetoothOutput.cookie := by
  rw [setA2dpSuspended]
  cases out.state <;> split_ifs <;> simp [BluetoothAudioPortAidl.setState, BluetoothAudioPortAidl.suspend]

theorem cookie_outSetParameters (kvpairs : List Char) (loaded : Option AudioConfig) (answer : Answer O) :
    (out.outSetParameters kvpairs loaded answer).bluetoothOutput.cookie = out.bluetoothOutput.cookie := by
  have hsuspend (out : AidlStreamOut) (params : AudioParams) :
      (out.suspendByParams params answer).bluetoothOutput.cookie = out.bluetoothOutput.cookie := by
    rw [suspendByParams]
    cases params.lookup a2dpSuspendedKey with
    | none => rfl
    | some value => simp only; split_ifs <;> simp
  have hstop (out : AidlStreamOut) (params : AudioParams) :
      (out.stopByParams params).bluetoothOutput.cookie = out.bluetoothOutput.cookie := by
    rw [stopByParams]
    split_ifs <;> simp
  rw [outSetParameters]
  split_ifs
  · rfl
  · rw [hstop, hsuspend, bluetoothOutput_reloadConfig]

end BluetoothStreamOut

open BluetoothStreamOut

/-! ### The device -/

/-- The streams of a device. They are put there once `SetUp` has registered their ports, and leave it before
`TearDown`. -/
structure BluetoothAudioDevice where
  openedStreamOuts : List AidlStreamOut
  inUse : ∀ out ∈ openedStreamOuts, out.bluetoothOutput.inUse = true

/-- `adev_set_parameters`: the streams get the parameters one after another. -/
def BluetoothAudioDevice.adevSetParameters (device : BluetoothAudioDevice) (kvpairs : List Char)
    (loaded : Nat → Option AudioConfig) (answers : Nat → Answer O) : BluetoothAudioDevice × Int :=
  let params := parseAudioParams kvpairs
  if params.keys.isEmpty then (device, 0)
  else if a2dpSuspendedKey ∉ params then (device, -enosys)
  else
    ({ openedStreamOuts := device.openedStreamOuts.mapIdx fun i out =>
        out.outSetParameters kvpairs (loaded i) (answers i)
       inUse := by
        intro out hout
        obtain ⟨i, hi, rfl⟩ := List.mem_mapIdx.mp hout
        rw [BluetoothAudioPortAidl.inUse, cookie_outSetParameters]
        exact device.inUse _ (List.getElem_mem hi) }, 0)

/-- What happens to a stream. -/
inductive StreamEvent (O : Type) where
  | outWrite (buffer : List UInt8) (env : WriteEnv O)
  | streamCall (call : StreamCall O)
  | outSetParameters (kvpairs : List Char) (loaded : Option AudioConfig) (answer : Answer O)
  | receive (callback : Callback O)

/-- The stream after an event, what the call returns and the bytes that it hands to the queue. -/
def StreamEvent.apply (mix : UInt8 × UInt8 → UInt8 × UInt8 → UInt8 × UInt8) (out : AidlStreamOut) :
    StreamEvent O → AidlStreamOut × Int × List UInt8
  | .outWrite buffer env => out.outWrite mix buffer env
  | .streamCall call => ((call.apply out).1, (call.apply out).2, [])
  | .outSetParameters kvpairs loaded answer => (out.outSetParameters kvpairs loaded answer, 0, [])
  | .receive callback => ({ out with bluetoothOutput := out.bluetoothOutput.receive callback }, 0, [])

/-- The event does not enable the stream again. -/
def StreamEvent.KeepsSuspended : StreamEvent O → Prop
  | .outSetParameters kvpairs _ _ => BluetoothStreamOut.KeepsSuspended (parseAudioParams kvpairs)
  | _ => True

/-- The stream is disabled after the event, nothing reaches the queue, and a write returns that it took all. -/
def StreamEvent.IsBlocked (mix : UInt8 × UInt8 → UInt8 × UInt8 → UInt8 × UInt8) (out : AidlStreamOut)
    (event : StreamEvent O) : Prop :=
  (event.apply mix out).1.state = .disabled ∧ (event.apply mix out).2.2 = [] ∧
    ∀ buffer env, event = .outWrite buffer env → (event.apply mix out).2.1 = buffer.length

variable {mix : UInt8 × UInt8 → UInt8 × UInt8 → UInt8 × UInt8} {out : AidlStreamOut}

theorem state_receive_of_disabled {port : BluetoothAudioPortAidl} (h : port.state = .disabled)
    (callback : Callback O) : (port.receive callback).state = .disabled := by
  rw [BluetoothAudioPortAidl.receive_eq, h]
  split_ifs
  · cases callback <;> rfl
  · exact h

theorem StreamEvent.isBlocked_of_disabled (h : out.state = .disabled) {event : StreamEvent O}
    (hkeeps : event.KeepsSuspended) : event.IsBlocked mix out := by
  cases event with
  | outWrite buffer env =>
      have hwrite : out.outWrite mix buffer env = (out, (buffer.length : Int), []) := by
        simp [BluetoothStreamOut.outWrite, outResume, h, einval]
      rw [IsBlocked, apply, hwrite]
      exact ⟨h, rfl, fun buffer' env' heq => by cases heq; rfl⟩
  | streamCall call =>
      have hcall : (call.apply out).1 = out := by
        cases call <;> simp [StreamCall.apply, outResume, outPause, outStandby, suspendOutput, h]
      refine ⟨?_, rfl, fun _ _ heq => by cases heq⟩
      rw [apply, hcall]
      exact h
  | outSetParameters kvpairs loaded answer =>
      exact ⟨state_outSetParameters loaded answer hkeeps (Or.inl h), rfl, fun _ _ heq => by cases heq⟩
  | receive callback => exact ⟨state_receive_of_disabled h callback, rfl, fun _ _ heq => by cases heq⟩

/-- Once the framework has suspended A2DP, the A2DP streams that are open are disabled, and blocked until parameters
enable them again. -/
theorem run_blocked_of_adevSetParameters (device : BluetoothAudioDevice) {kvpairs : List Char}
    (hsuspends : (parseAudioParams kvpairs).lookup a2dpSuspendedKey = some "true".toList)
    (loaded : Nat → Option AudioConfig) (answers : Nat → Answer O) {i : Nat}
    (hout : device.openedStreamOuts[i]? = some out) (ha2dp : out.bluetoothOutput.isA2dp = true)
    {events : List (StreamEvent O)} (hevents : ∀ event ∈ events, event.KeepsSuspended) :
    ∃ after, (device.adevSetParameters kvpairs loaded answers).1.openedStreamOuts[i]? = some after ∧
      after.state = .disabled ∧
        Run (fun out event => (StreamEvent.apply mix out event).1) (StreamEvent.IsBlocked mix) after events := by
  have hmem : a2dpSuspendedKey ∈ parseAudioParams kvpairs :=
    AList.lookup_isSome.mp (by rw [hsuspends]; rfl)
  have hkeys : (parseAudioParams kvpairs).keys.isEmpty = false :=
    List.isEmpty_eq_false_iff.mpr (List.ne_nil_of_mem (AList.mem_keys.mp hmem))
  have hkeeps : KeepsSuspended (parseAudioParams kvpairs) := by
    intro value hvalue
    rw [hsuspends] at hvalue
    exact (Option.some.inj hvalue).symm
  have hinUse := device.inUse out (List.mem_of_getElem? hout)
  have hdisabled := state_outSetParameters (loaded i) (answers i) hkeeps (Or.inr ⟨hsuspends, ha2dp, hinUse⟩)
  refine ⟨out.outSetParameters kvpairs (loaded i) (answers i), ?_, hdisabled, ?_⟩
  · rw [BluetoothAudioDevice.adevSetParameters]
    simp [hkeys, hmem, List.getElem?_mapIdx, hout]
  · have hblocked (out : AidlStreamOut) (event : StreamEvent O) (hinv : out.state = .disabled)
        (hkeeps : event.KeepsSuspended) : event.IsBlocked mix out :=
      StreamEvent.isBlocked_of_disabled hinv hkeeps
    exact Run.of_inv hblocked (fun out event hinv hkeeps => (hblocked out event hinv hkeeps).1) hdisabled
      (Run.forall_iff.mpr hevents)

def playing : AidlStreamOut :=
  ⟨⟨0x100, .started, .a2dpSoftwareEncodingDatapath, false⟩, 0, 44100, .outStereo, .pcm16Bit, 10000, 441, 0, 0⟩

/-- The mean of two samples of 16 bits, the low byte first. -/
def meanOfSamples (left right : UInt8 × UInt8) : UInt8 × UInt8 :=
  let sample (bytes : UInt8 × UInt8) : Int := (BitVec.ofNat 16 (bytes.1.toNat + 256 * bytes.2.toNat)).toInt
  let mean := (BitVec.ofInt 16 ((sample left + sample right) / 2)).toNat
  (UInt8.ofNat mean, UInt8.ofNat (mean / 256))

theorem run_blocked_of_adevSetParameters_playing :
    ∃ after, ((⟨[playing], by decide⟩ : BluetoothAudioDevice).adevSetParameters "A2dpSuspended=true".toList
        (fun _ => none) (fun _ => (⟨[], true, []⟩ : Answer Unit))).1.openedStreamOuts[0]? = some after ∧
      after.state = .disabled ∧
        Run (fun out event => (StreamEvent.apply meanOfSamples out event).1) (StreamEvent.IsBlocked meanOfSamples)
          after
          [.receive (.controlResultCb () 0x100 false .success),
            .outWrite [1, 2, 3, 4] ⟨⟨[], true, []⟩, [⟨true, 4, true⟩], none, 4, 0⟩] :=
  run_blocked_of_adevSetParameters _ (by decide) _ _ rfl (by decide) (by simp [StreamEvent.KeepsSuspended])

end Penrose.Bluetooth

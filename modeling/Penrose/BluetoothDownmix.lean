import Penrose.BluetoothCounters
import Penrose.BluetoothLatency
import Penrose.BluetoothPcm

/-! The downmix of a stereo stream for a mono device. The queue takes any number of bytes of the mono data; where it
takes half a sample, the offset that goes back to the client is inside a frame. -/

namespace Penrose.Bluetooth

/-! ### HIDL -/

namespace Hidl

/-- `OutWritePcmData` turn by turn. -/
def outWritePcmData (buffer : List UInt8) (turns : List QueueTurn) : Nat × List UInt8 :=
  if buffer.length = 0 then (0, []) else writeTurns buffer 0 kFmqSendTimeoutMs turns

/-- `BluetoothAudioPortHidlOut::WriteData`. -/
def BluetoothAudioPort.writeData (mix : UInt8 × UInt8 → UInt8 × UInt8 → UInt8 × UInt8) (port : BluetoothAudioPort)
    (buffer : List UInt8) (turns : List QueueTurn) : Nat × List UInt8 :=
  if !port.inUse then (0, [])
  else if !port.isStereoToMono then outWritePcmData buffer turns
  else
    let writeFrames := buffer.length / 4
    if writeFrames = 0 then (0, [])
    else
      let (written, bytes) := outWritePcmData (downmixToMono mix buffer) turns
      (written * 2, bytes)

theorem outWritePcmData_eq (buffer : List UInt8) (turns : List QueueTurn) :
    outWritePcmData buffer turns = Bluetooth.outWritePcmData buffer turns := by
  rw [outWritePcmData, Bluetooth.outWritePcmData]
  by_cases hempty : buffer.length = 0
  · rw [if_pos hempty, if_pos hempty.le]
  · rw [if_neg hempty, if_neg (by omega)]
    rfl

variable {mix : UInt8 × UInt8 → UInt8 × UInt8 → UInt8 × UInt8}

/-- Both ports write the same. -/
theorem BluetoothAudioPort.writeData_eq {hidlPort : BluetoothAudioPort} {port : BluetoothAudioPortAidl}
    (hinUse : hidlPort.inUse = port.inUse) (hmono : hidlPort.isStereoToMono = port.isStereoToMono)
    (buffer : List UInt8) (turns : List QueueTurn) :
    hidlPort.writeData mix buffer turns = port.writeData mix buffer turns := by
  rw [writeData, BluetoothAudioPortAidl.writeData, hinUse, hmono, outWritePcmData_eq, outWritePcmData_eq]

end Hidl

variable {mix : UInt8 × UInt8 → UInt8 × UInt8 → UInt8 × UInt8}

/-! ### Which bytes reach the queue -/

theorem writeTurns_snd (buffer : List UInt8) {totalWritten : Nat} (timeoutMs : Nat) (turns : List QueueTurn)
    (h : totalWritten < buffer.length) : (writeTurns buffer totalWritten timeoutMs turns).2 =
      (buffer.drop totalWritten).take ((writeTurns buffer totalWritten timeoutMs turns).1 - totalWritten) := by
  induction turns generalizing totalWritten timeoutMs with
  | nil => simp [writeTurns]
  | cons turn turns ih =>
      rw [writeTurns]
      by_cases hended : (!turn.isReady) = true
      · simp [hended]
      rw [if_neg hended]
      by_cases hroom : turn.availableToWrite ≠ 0
      · rw [if_pos hroom]
        cases turn.writes with
        | false => simp
        | true =>
            simp only [Bool.not_true, Bool.false_eq_true, if_false]
            split_ifs with hmore
            · have hlater := ih timeoutMs hmore
              have hfirst := writeTurns_fst buffer timeoutMs turns hmore
              generalize writeTurns buffer _ timeoutMs turns = outcome at hlater hfirst ⊢
              generalize min turn.availableToWrite (buffer.length - totalWritten) = count at *
              have hsplit : outcome.1 - totalWritten = count + (outcome.1 - (totalWritten + count)) := by omega
              rw [hsplit, List.take_add, List.drop_drop, ← hlater]
            · simp
      · rw [if_neg hroom]
        split_ifs
        · exact ih _ h
        · simp

theorem outWritePcmData_snd (buffer : List UInt8) (turns : List QueueTurn) :
    (outWritePcmData buffer turns).2 = buffer.take (outWritePcmData buffer turns).1 := by
  rw [outWritePcmData]
  split_ifs with hempty
  · rfl
  · rw [writeTurns_snd buffer kFmqSendTimeoutMs turns (by omega)]
    rfl

/-- The downmix goes frame by frame. -/
theorem downmixToMono_append (frames : Nat) (front back : List UInt8) (h : front.length = 4 * frames) :
    downmixToMono mix (front ++ back) = downmixToMono mix front ++ downmixToMono mix back := by
  induction frames generalizing front with
  | zero =>
      obtain rfl : front = [] := List.eq_nil_of_length_eq_zero h
      rfl
  | succ frames ih =>
      rcases front with _ | ⟨left, _ | ⟨left', _ | ⟨right, _ | ⟨right', front⟩⟩⟩⟩
      case cons.cons.cons.cons =>
        have hfront : front.length = 4 * frames := by
          simp only [List.length_cons] at h
          omega
        simp only [List.cons_append, downmixToMono, ih front hfront]
      all_goals
        simp only [List.length_cons, List.length_nil] at h
        omega

theorem downmixToMono_take (frames : Nat) (buffer : List UInt8) (h : 4 * frames ≤ buffer.length) :
    (downmixToMono mix buffer).take (2 * frames) = downmixToMono mix (buffer.take (4 * frames)) := by
  have hfront : (buffer.take (4 * frames)).length = 4 * frames := List.length_take_of_le h
  have hmono : (downmixToMono mix (buffer.take (4 * frames))).length = 2 * frames := by
    rw [length_downmixToMono, hfront]
    omega
  calc (downmixToMono mix buffer).take (2 * frames)
      = (downmixToMono mix (buffer.take (4 * frames) ++ buffer.drop (4 * frames))).take (2 * frames) := by
        rw [List.take_append_drop]
    _ = (downmixToMono mix (buffer.take (4 * frames)) ++ downmixToMono mix (buffer.drop (4 * frames))).take
          (2 * frames) := by
        rw [downmixToMono_append frames _ _ hfront]
    _ = downmixToMono mix (buffer.take (4 * frames)) := by
        rw [← hmono, List.take_left]

/-! ### One call -/

/-- A call returns whole frames, no more than it was given, and has placed their downmix on the queue. -/
def LosesNothing (mix : UInt8 × UInt8 → UInt8 × UInt8 → UInt8 × UInt8) (buffer : List UInt8)
    (outcome : Nat × List UInt8) : Prop :=
  outcome.1 % 4 = 0 ∧ outcome.1 ≤ buffer.length ∧ outcome.2 = downmixToMono mix (buffer.take outcome.1)

/-- The queue has room for a whole number of mono samples, or for all of them. -/
def TakesWholeSamples (buffer : List UInt8) (turns : List QueueTurn) : Prop :=
  queueRoom kFmqSendTimeoutMs turns % 2 = 0 ∨ 2 * (buffer.length / 4) ≤ queueRoom kFmqSendTimeoutMs turns

namespace BluetoothAudioPortAidl

variable {port : BluetoothAudioPortAidl}

/-- What a call in a mono port returns and places: the mono bytes for which there is room. -/
theorem writeData_mono (hinUse : port.inUse = true) (hmono : port.isStereoToMono = true) (buffer : List UInt8)
    (turns : List QueueTurn) :
    let accepted := min (2 * (buffer.length / 4)) (queueRoom kFmqSendTimeoutMs turns)
    port.writeData mix buffer turns = (2 * accepted, (downmixToMono mix buffer).take accepted) := by
  intro accepted
  have hfst : (outWritePcmData (downmixToMono mix buffer) turns).1 = accepted := by
    rw [outWritePcmData_fst, length_downmixToMono]
  have hsnd := outWritePcmData_snd (downmixToMono mix buffer) turns
  rw [hfst] at hsnd
  rw [writeData, hinUse, hmono]
  simp only [Bool.not_true, Bool.false_eq_true, if_false]
  split_ifs with hnone
  · have haccepted : accepted = 0 := by
      show min (2 * (buffer.length / 4)) _ = 0
      omega
    rw [haccepted]
    rfl
  · rw [hfst, hsnd, Nat.mul_comm]

theorem losesNothing_iff (hinUse : port.inUse = true) (hmono : port.isStereoToMono = true) (buffer : List UInt8)
    (turns : List QueueTurn) :
    LosesNothing mix buffer (port.writeData mix buffer turns) ↔ TakesWholeSamples buffer turns := by
  rw [writeData_mono hinUse hmono, LosesNothing, TakesWholeSamples]
  generalize queueRoom kFmqSendTimeoutMs turns = room
  refine ⟨?_, ?_⟩
  · rintro ⟨hwhole, -⟩
    simp only at hwhole
    omega
  · intro htakes
    obtain ⟨frames, hframes⟩ : ∃ frames, min (2 * (buffer.length / 4)) room = 2 * frames :=
      ⟨min (2 * (buffer.length / 4)) room / 2, by omega⟩
    simp only [hframes]
    refine ⟨by omega, by omega, ?_⟩
    rw [downmixToMono_take frames buffer (by omega)]
    congr 2
    omega

end BluetoothAudioPortAidl

/-! ### A client that submits the rest -/

/-- What a call leaves of the data. -/
def rest (write : List UInt8 → List QueueTurn → Nat × List UInt8) (data : List UInt8) (turns : List QueueTurn) :
    List UInt8 :=
  data.drop (write data turns).1

/-- What the calls place on the queue. -/
def placed (write : List UInt8 → List QueueTurn → Nat × List UInt8) : List UInt8 → List (List QueueTurn) → List UInt8
  | _, [] => []
  | data, turns :: calls => (write data turns).2 ++ placed write (rest write data turns) calls

/-- Calls that lose nothing place the downmix of all but what they leave. -/
theorem placed_of_losesNothing {write : List UInt8 → List QueueTurn → Nat × List UInt8} {data : List UInt8}
    {calls : List (List QueueTurn)}
    (hrun : Run (rest write) (fun data turns => LosesNothing mix data (write data turns)) data calls) :
    placed write data calls ++ downmixToMono mix (calls.foldl (rest write) data) = downmixToMono mix data := by
  induction calls generalizing data with
  | nil => rfl
  | cons turns calls ih =>
      obtain ⟨⟨hwhole, hle, hplaced⟩, hlater⟩ := hrun
      have hlength : (data.take (write data turns).1).length = 4 * ((write data turns).1 / 4) := by
        rw [List.length_take_of_le hle]
        omega
      calc placed write data (turns :: calls) ++ downmixToMono mix ((turns :: calls).foldl (rest write) data)
          = (write data turns).2 ++ (placed write (rest write data turns) calls ++
              downmixToMono mix (calls.foldl (rest write) (rest write data turns))) := List.append_assoc _ _ _
        _ = downmixToMono mix (data.take (write data turns).1) ++
              downmixToMono mix (data.drop (write data turns).1) := by
            rw [ih hlater, hplaced]
            rfl
        _ = downmixToMono mix data := by
            rw [← downmixToMono_append _ _ _ hlength, List.take_append_drop]

/-- In both ports a call loses nothing if and only if the queue takes whole samples; and a client whose calls all find
it so, and that is left with nothing, has placed the downmix of its data. -/
theorem writeData_losesNothing_iff {port : BluetoothAudioPortAidl} {hidlPort : Hidl.BluetoothAudioPort}
    (hinUse : port.inUse = true) (hmono : port.isStereoToMono = true) (hidlInUse : hidlPort.inUse = true)
    (hidlMono : hidlPort.isStereoToMono = true) :
    (∀ (buffer : List UInt8) (turns : List QueueTurn),
      hidlPort.writeData mix buffer turns = port.writeData mix buffer turns) ∧
    (∀ (data : List UInt8) (calls : List (List QueueTurn)),
      Run (rest (port.writeData mix)) (fun data turns => LosesNothing mix data (port.writeData mix data turns)) data
          calls ↔
        Run (rest (port.writeData mix)) TakesWholeSamples data calls) ∧
    ∀ (data : List UInt8) (calls : List (List QueueTurn)),
      Run (rest (port.writeData mix)) TakesWholeSamples data calls → calls.foldl (rest (port.writeData mix)) data = [] →
        placed (port.writeData mix) data calls = downmixToMono mix data := by
  have hcall (data : List UInt8) (turns : List QueueTurn) (_ _ : True) :
      LosesNothing mix data (port.writeData mix data turns) ↔ TakesWholeSamples data turns :=
    BluetoothAudioPortAidl.losesNothing_iff hinUse hmono data turns
  have hiff (data : List UInt8) (calls : List (List QueueTurn)) :
      Run (rest (port.writeData mix)) (fun data turns => LosesNothing mix data (port.writeData mix data turns)) data
          calls ↔
        Run (rest (port.writeData mix)) TakesWholeSamples data calls :=
    Run.iff_of_inv hcall (fun _ _ _ _ _ => trivial) trivial (Run.forall_iff.mpr fun _ _ => trivial)
  refine ⟨fun buffer turns => ?_, hiff, fun data calls hrun hleft => ?_⟩
  · exact Hidl.BluetoothAudioPort.writeData_eq (hidlInUse.trans hinUse.symm) (hidlMono.trans hmono.symm) buffer turns
  · have hplaced := placed_of_losesNothing ((hiff data calls).mpr hrun)
    rw [hleft] at hplaced
    exact (List.append_nil _).symm.trans hplaced

/-- A port for a mono device over each of the transports. -/
def monoPort : BluetoothAudioPortAidl := ⟨0x100, .started, .a2dpSoftwareEncodingDatapath, true⟩

def hidlMonoPort : Hidl.BluetoothAudioPort := ⟨0x100, .started, .a2dpSoftwareEncodingDatapath, true⟩

theorem writeData_losesNothing_iff_oneSample :
    hidlMonoPort.writeData meanOfSamples [1, 0, 3, 0] [⟨true, 2, true⟩] =
        monoPort.writeData meanOfSamples [1, 0, 3, 0] [⟨true, 2, true⟩] ∧
      placed (monoPort.writeData meanOfSamples) [1, 0, 3, 0] [[⟨true, 2, true⟩]] =
        downmixToMono meanOfSamples [1, 0, 3, 0] := by
  obtain ⟨hagree, -, hplaced⟩ := @writeData_losesNothing_iff meanOfSamples monoPort hidlMonoPort rfl rfl rfl rfl
  exact ⟨hagree [1, 0, 3, 0] [⟨true, 2, true⟩],
    hplaced [1, 0, 3, 0] [[⟨true, 2, true⟩]] ⟨Or.inl (by decide), trivial⟩ (by decide)⟩

/-- The queue has room for half a sample: two of four bytes are returned, and one is placed. -/
theorem halfSample_splitsFrame :
    monoPort.writeData meanOfSamples [1, 0, 3, 0] [⟨true, 1, true⟩, ⟨false, 0, true⟩] = (2, [2]) ∧
      ¬ LosesNothing meanOfSamples [1, 0, 3, 0]
        (monoPort.writeData meanOfSamples [1, 0, 3, 0] [⟨true, 1, true⟩, ⟨false, 0, true⟩]) := by
  have hcall : monoPort.writeData meanOfSamples [1, 0, 3, 0] [⟨true, 1, true⟩, ⟨false, 0, true⟩] = (2, [2]) := by
    decide
  refine ⟨hcall, fun hlosesNothing => ?_⟩
  rw [hcall] at hlosesNothing
  exact absurd hlosesNothing.1 (by decide)

end Penrose.Bluetooth

import Penrose.BluetoothSuspension

/-! The frame counters of an output stream. A write that the queue takes in part counts all of its frames, and the
rest is counted again when the client submits it again. -/

namespace Penrose.Bluetooth

variable {O : Type}

/-- The room that the queue has until it stops a write: until the session ends, a write to the queue fails or the
time for waiting is used up. -/
def queueRoom : Nat → List QueueTurn → Nat
  | _, [] => 0
  | timeoutMs, turn :: turns =>
      if !turn.isReady then 0
      else if turn.availableToWrite ≠ 0 then
        if !turn.writes then 0 else turn.availableToWrite + queueRoom timeoutMs turns
      else if kWritePollMs ≤ timeoutMs then queueRoom (timeoutMs - kWritePollMs) turns
      else 0

/-! ### How much a write hands over -/

theorem writeTurns_fst (buffer : List UInt8) {totalWritten : Nat} (timeoutMs : Nat) (turns : List QueueTurn)
    (h : totalWritten < buffer.length) : (writeTurns buffer totalWritten timeoutMs turns).1 =
      min buffer.length (totalWritten + queueRoom timeoutMs turns) := by
  induction turns generalizing totalWritten timeoutMs with
  | nil =>
      rw [writeTurns, queueRoom]
      omega
  | cons turn turns ih =>
      rw [writeTurns, queueRoom]
      by_cases hended : (!turn.isReady) = true
      · rw [if_pos hended, if_pos hended]
        simp only
        omega
      rw [if_neg hended, if_neg hended]
      by_cases hroom : turn.availableToWrite ≠ 0
      · rw [if_pos hroom, if_pos hroom]
        cases turn.writes with
        | false =>
            simp only [Bool.not_false, if_true]
            omega
        | true =>
            simp only [Bool.not_true, Bool.false_eq_true, if_false]
            split_ifs with hmore
            · rw [ih timeoutMs hmore]
              omega
            · simp only
              omega
      · rw [if_neg hroom, if_neg hroom]
        split_ifs
        · exact ih _ h
        · simp only
          omega

theorem outWritePcmData_fst (buffer : List UInt8) (turns : List QueueTurn) :
    (outWritePcmData buffer turns).1 = min buffer.length (queueRoom kFmqSendTimeoutMs turns) := by
  rw [outWritePcmData]
  split_ifs with hempty
  · simp only
    omega
  · rw [writeTurns_fst buffer kFmqSendTimeoutMs turns (by omega), Nat.zero_add]

theorem length_downmixToMono (mix : UInt8 × UInt8 → UInt8 × UInt8 → UInt8 × UInt8) (buffer : List UInt8) :
    (downmixToMono mix buffer).length = 2 * (buffer.length / 4) := by
  induction buffer using downmixToMono.induct with
  | case1 left left' right right' rest ih =>
      rw [downmixToMono, List.length_cons, List.length_cons, ih]
      simp only [List.length_cons]
      omega
  | case2 buffer hshort =>
      have hlength : buffer.length < 4 := by
        rcases buffer with _ | ⟨a, _ | ⟨b, _ | ⟨c, _ | ⟨d, rest⟩⟩⟩⟩
        case cons.cons.cons.cons => exact absurd rfl (hshort a b c d rest)
        all_goals simp
      rw [downmixToMono.eq_2 _ _ hshort, List.length_nil]
      omega

variable {mix : UInt8 × UInt8 → UInt8 × UInt8 → UInt8 × UInt8}

theorem BluetoothAudioPortAidl.writeData_fst (port : BluetoothAudioPortAidl) (buffer : List UInt8)
    (turns : List QueueTurn) : (port.writeData mix buffer turns).1 =
      if port.inUse = false then 0
      else if port.isStereoToMono = true then
        2 * min (2 * (buffer.length / 4)) (queueRoom kFmqSendTimeoutMs turns)
      else min buffer.length (queueRoom kFmqSendTimeoutMs turns) := by
  rw [writeData]
  cases port.inUse <;> cases port.isStereoToMono <;>
    simp only [Bool.not_true, Bool.not_false, if_true, if_false, Bool.false_eq_true, Bool.true_eq_false]
  · exact outWritePcmData_fst buffer turns
  · split_ifs with hnone
    · simp only [hnone]
      omega
    · simp only [outWritePcmData_fst, length_downmixToMono]
      omega

/-! ### Counting -/

/-- The whole frames of the smaller of two amounts are those of a larger one exactly if both have as many. -/
theorem div_eq_min_div_iff {whole taken room : Nat} (frameSize : Nat) (h : taken ≤ whole) :
    whole / frameSize = min taken room / frameSize ↔
      taken / frameSize = whole / frameSize ∧ whole / frameSize ≤ room / frameSize := by
  have htaken : taken / frameSize ≤ whole / frameSize := Nat.div_le_div_right h
  rcases le_total taken room with hle | hle
  · have hroom : taken / frameSize ≤ room / frameSize := Nat.div_le_div_right hle
    rw [min_eq_left hle]
    omega
  · have hroom : room / frameSize ≤ taken / frameSize := Nat.div_le_div_right hle
    rw [min_eq_right hle]
    omega

/-- Where all whole frames were taken, what is left has none. -/
theorem div_add_div_sub {whole taken : Nat} (frameSize : Nat) (hle : taken ≤ whole)
    (h : taken = 0 ∨ whole / frameSize = taken / frameSize) :
    taken / frameSize + (whole - taken) / frameSize = whole / frameSize := by
  rcases h with rfl | heq
  · simp
  · rcases Nat.eq_zero_or_pos frameSize with rfl | hpos
    · simp
    · have htaken := Nat.div_mul_le_self taken frameSize
      have hwhole := Nat.lt_mul_div_succ whole hpos
      rw [heq, Nat.mul_add, Nat.mul_one, Nat.mul_comm] at hwhole
      have hleft : (whole - taken) / frameSize = 0 := Nat.div_eq_of_lt (by omega)
      rw [heq, hleft, Nat.add_zero]

namespace BluetoothStreamOut

/-- A write of a client: the bytes and what it finds. -/
abbrev Write (O : Type) := List UInt8 × WriteEnv O

def write (mix : UInt8 × UInt8 → UInt8 × UInt8 → UInt8 × UInt8) (out : AidlStreamOut) (w : Write O) : AidlStreamOut :=
  (out.outWrite mix w.1 w.2).1

/-- The bytes that a write returns. -/
def returned (mix : UInt8 × UInt8 → UInt8 × UInt8 → UInt8 × UInt8) (out : AidlStreamOut) (w : Write O) : Nat :=
  (out.outWrite mix w.1 w.2).2.1.toNat

/-- The counters grow by the frames of the bytes that the write returns. -/
def CountsReturned (mix : UInt8 × UInt8 → UInt8 × UInt8 → UInt8 × UInt8) (out : AidlStreamOut) (w : Write O) : Prop :=
  (out.write mix w).framesRendered = out.framesRendered + out.returned mix w / w.2.frameSize ∧
    (out.write mix w).framesPresented = out.framesPresented + out.returned mix w / w.2.frameSize

/-- The queue has no room for a write or enough for all its whole frames. In a mono port a frame takes half the
room, and what is left of four bytes is not written. -/
def HasRoomForFrames (out : AidlStreamOut) (w : Write O) : Prop :=
  let room := queueRoom kFmqSendTimeoutMs w.2.turns
  out.bluetoothOutput.inUse = false ∨ room = 0 ∨
    if out.bluetoothOutput.isStereoToMono = true then
      w.1.length < 4 ∨ 4 * (w.1.length / 4) / w.2.frameSize = w.1.length / w.2.frameSize ∧
        w.1.length / w.2.frameSize ≤ 2 * room / w.2.frameSize
    else w.1.length / w.2.frameSize ≤ room / w.2.frameSize

variable {out : AidlStreamOut}

theorem outWrite_of_started (hstarted : out.state = .started) (w : Write O) :
    out.outWrite mix w.1 w.2 = out.writeStarted mix w.1 w.2 := by
  rw [outWrite, if_neg (not_not.mpr hstarted)]

/-- What a write of a started stream returns and counts: the frames of the whole buffer, or nothing. -/
theorem write_of_started (hstarted : out.state = .started) (w : Write O) :
    (out.write mix w).bluetoothOutput = out.bluetoothOutput ∧
      out.returned mix w = (out.bluetoothOutput.writeData mix w.1 w.2.turns).1 ∧
      (out.write mix w).framesRendered =
        out.framesRendered + (if out.returned mix w = 0 then 0 else w.1.length / w.2.frameSize) ∧
      (out.write mix w).framesPresented =
        out.framesPresented + (if out.returned mix w = 0 then 0 else w.1.length / w.2.frameSize) := by
  rw [write, returned, outWrite_of_started hstarted, writeStarted]
  by_cases hnone : (out.bluetoothOutput.writeData mix w.1 w.2.turns).1 = 0
  · simp [hnone]
  · simp [hnone]

theorem countsReturned_iff_div (hstarted : out.state = .started) (w : Write O) : out.CountsReturned mix w ↔
    out.returned mix w = 0 ∨ w.1.length / w.2.frameSize = out.returned mix w / w.2.frameSize := by
  have hwrite := @write_of_started _ mix _ hstarted w
  obtain ⟨-, -, hrendered, hpresented⟩ := hwrite
  rw [CountsReturned, hrendered, hpresented]
  split_ifs with hnone
  · simp [hnone]
  · simp [hnone]

/-- A write counts right exactly if the queue has room for none or for all of its frames. -/
theorem countsReturned_iff (hstarted : out.state = .started) (w : Write O) :
    out.CountsReturned mix w ↔ out.HasRoomForFrames w := by
  rw [countsReturned_iff_div hstarted, (write_of_started hstarted w).2.1, BluetoothAudioPortAidl.writeData_fst,
    HasRoomForFrames]
  generalize queueRoom kFmqSendTimeoutMs w.2.turns = room
  cases out.bluetoothOutput.inUse with
  | false => simp
  | true =>
      simp only [Bool.true_eq_false, if_false, false_or]
      cases out.bluetoothOutput.isStereoToMono with
      | false =>
          simp only [Bool.false_eq_true, if_false, div_eq_min_div_iff w.2.frameSize (le_refl w.1.length), true_and]
          rcases Nat.eq_zero_or_pos w.1.length with hempty | hsome
          · simp [hempty]
          · rw [show min w.1.length room = 0 ↔ room = 0 by omega]
      | true =>
          have htwice : 2 * min (2 * (w.1.length / 4)) room = min (4 * (w.1.length / 4)) (2 * room) := by omega
          simp only [if_true, htwice,
            div_eq_min_div_iff w.2.frameSize (show 4 * (w.1.length / 4) ≤ w.1.length by omega)]
          rw [show min (4 * (w.1.length / 4)) (2 * room) = 0 ↔ room = 0 ∨ w.1.length < 4 by omega, or_assoc]

/-- The writes of a client that submits what was not taken until the environments are used up. -/
def resubmissions (mix : UInt8 × UInt8 → UInt8 × UInt8 → UInt8 × UInt8) (out : AidlStreamOut) (data : List UInt8) :
    List (WriteEnv O) → List (Write O)
  | [] => []
  | env :: envs =>
      (data, env) :: resubmissions mix (out.write mix (data, env)) (data.drop (out.returned mix (data, env))) envs

/-- What the client is left with. -/
def unaccepted (mix : UInt8 × UInt8 → UInt8 × UInt8 → UInt8 × UInt8) (out : AidlStreamOut) (data : List UInt8) :
    List (WriteEnv O) → List UInt8
  | [] => data
  | env :: envs => unaccepted mix (out.write mix (data, env)) (data.drop (out.returned mix (data, env))) envs

theorem state_write (hstarted : out.state = .started) (w : Write O) : (out.write mix w).state = .started := by
  rw [state, (write_of_started hstarted w).1]
  exact hstarted

theorem returned_le (hstarted : out.state = .started) (w : Write O) : out.returned mix w ≤ w.1.length := by
  rw [(write_of_started hstarted w).2.1, BluetoothAudioPortAidl.writeData_fst]
  split_ifs <;> omega

/-- A client whose writes all find room for their frames, and that is left with nothing, has counted the frames of
its data. -/
theorem counters_of_resubmissions {frameSize : Nat} {data : List UInt8} {envs : List (WriteEnv O)}
    (hstarted : out.state = .started) (hframes : ∀ env ∈ envs, env.frameSize = frameSize)
    (hroom : Run (write mix) HasRoomForFrames out (out.resubmissions mix data envs))
    (haccepted : out.unaccepted mix data envs = []) :
    ((out.resubmissions mix data envs).foldl (write mix) out).framesRendered =
        out.framesRendered + data.length / frameSize ∧
      ((out.resubmissions mix data envs).foldl (write mix) out).framesPresented =
        out.framesPresented + data.length / frameSize := by
  induction envs generalizing out data with
  | nil =>
      obtain rfl : data = [] := haccepted
      simp [resubmissions]
  | cons env envs ih =>
      obtain ⟨hfirst, hrest⟩ := hroom
      have hsize : env.frameSize = frameSize := hframes env (List.mem_cons_self ..)
      obtain ⟨hrendered, hpresented⟩ := ih (state_write hstarted (data, env))
        (fun later hlater => hframes later (List.mem_cons_of_mem _ hlater)) hrest haccepted
      have hcounts : out.CountsReturned mix (data, env) := (countsReturned_iff hstarted (data, env)).mpr hfirst
      have hwhole := (countsReturned_iff_div hstarted (data, env)).mp hcounts
      have hreturned : out.returned mix (data, env) ≤ data.length := returned_le hstarted (data, env)
      have hleft := div_add_div_sub frameSize hreturned
        (by simpa only [hsize] using hwhole)
      obtain ⟨hfirstRendered, hfirstPresented⟩ := hcounts
      -- the frames of the first write and those of what is left are the frames of the data
      have hsum (count : Nat) : count + out.returned mix (data, env) / env.frameSize +
          (data.drop (out.returned mix (data, env))).length / frameSize = count + data.length / frameSize := by
        calc count + out.returned mix (data, env) / env.frameSize +
              (data.drop (out.returned mix (data, env))).length / frameSize
            = count + (out.returned mix (data, env) / frameSize +
                (data.length - out.returned mix (data, env)) / frameSize) := by
              rw [List.length_drop, hsize, Nat.add_assoc]
          _ = count + data.length / frameSize := by rw [hleft]
      rw [resubmissions, List.foldl_cons, hrendered, hpresented, hfirstRendered, hfirstPresented]
      exact ⟨hsum _, hsum _⟩

/-- The accounting of a stream that is started. -/
theorem run_countsReturned_iff (hstarted : out.state = .started) :
    (∀ writes : List (Write O), Run (write mix) (CountsReturned mix) out writes ↔
      Run (write mix) HasRoomForFrames out writes) ∧
    ∀ (frameSize : Nat) (data : List UInt8) (envs : List (WriteEnv O)),
      (∀ env ∈ envs, env.frameSize = frameSize) →
      Run (write mix) HasRoomForFrames out (out.resubmissions mix data envs) →
      out.unaccepted mix data envs = [] →
      ((out.resubmissions mix data envs).foldl (write mix) out).framesRendered =
          out.framesRendered + data.length / frameSize ∧
        ((out.resubmissions mix data envs).foldl (write mix) out).framesPresented =
          out.framesPresented + data.length / frameSize := by
  have hiff (out : AidlStreamOut) (w : Write O) (hinv : out.state = .started) (_ : True) :
      out.CountsReturned mix w ↔ out.HasRoomForFrames w := countsReturned_iff hinv w
  refine ⟨fun writes => ?_, fun frameSize data envs hframes hroom haccepted =>
    counters_of_resubmissions hstarted hframes hroom haccepted⟩
  exact Run.iff_of_inv hiff (fun out w hinv _ _ => state_write hinv w) hstarted (Run.forall_iff.mpr fun _ _ => trivial)

/-- A write of eight bytes that finds room for half of them. -/
def halfTaken : Write Unit := (List.replicate 8 0, ⟨⟨[], true, []⟩, [⟨true, 4, true⟩, ⟨false, 0, true⟩], none, 4, 0⟩)

/-- A write of eight bytes that finds room for all of them. -/
def allTaken : Write Unit := (List.replicate 8 0, ⟨⟨[], true, []⟩, [⟨true, 4, true⟩, ⟨true, 4, true⟩], none, 4, 0⟩)

theorem run_countsReturned_iff_allTaken :
    Run (write meanOfSamples) (CountsReturned meanOfSamples) playing [allTaken, allTaken] :=
  ((run_countsReturned_iff rfl).1 [allTaken, allTaken]).mpr
    ⟨Or.inr (Or.inr (by decide)), Or.inr (Or.inr (by decide)), trivial⟩

/-- Two frames are counted for the one that is taken. -/
theorem halfTaken_miscounted : ¬ Run (write meanOfSamples) (CountsReturned meanOfSamples) playing [halfTaken] :=
  fun hrun => absurd hrun.1.1 (by decide)

end BluetoothStreamOut

end Penrose.Bluetooth

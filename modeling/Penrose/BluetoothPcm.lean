import Penrose.BluetoothStream
import Penrose.Loops

/-! The loops that move PCM data between a buffer and the message queue of a session, over AIDL and HIDL. Each turn
finds the session, the queue and its luck anew; the loops end all the same. -/

namespace Penrose.Bluetooth

variable {T D : Type}

/-- What a turn of a loop does with the queue: what it finds, and what a transfer of `count` bytes from offset
`total` makes of the data. -/
structure PcmIo (T D : Type) where
  isSessionReady : T → Bool
  available : T → Nat
  succeeds : T → Bool
  move : D → Nat → Nat → T → D

/-- The variables of a loop: the bytes so far, the time left to wait and the time slept, and the data. -/
structure PcmTransfer (D : Type) where
  total : Nat
  timeoutMs : Nat
  sleptMs : Nat
  data : D

/-- A turn of a loop. Writing falls through after a sleep, reading continues. -/
def pcmTurn (io : PcmIo T D) (pollMs : Nat)
    (afterSleep : PcmTransfer D → BodyEnd (PcmTransfer D) (PcmTransfer D)) (bytes : Nat) (transfer : PcmTransfer D)
    (turn : T) : BodyEnd (PcmTransfer D) (PcmTransfer D) :=
  if !io.isSessionReady turn then .leaves transfer
  else
    let available := io.available turn
    if available ≠ 0 then
      let numBytes := if available > bytes - transfer.total then bytes - transfer.total else available
      if !io.succeeds turn then .leaves transfer
      else
        .fallsThrough
          { transfer with
            total := transfer.total + numBytes
            data := io.move transfer.data transfer.total numBytes turn }
    else if pollMs ≤ transfer.timeoutMs then
      -- the lock is dropped here, so the next turn may find another session
      afterSleep { transfer with timeoutMs := transfer.timeoutMs - pollMs, sleptMs := transfer.sleptMs + pollMs }
    else .leaves transfer

/-- A loop; it is not entered without a buffer or with an empty one. -/
def transferPcm (io : PcmIo T D) (timeoutMs pollMs : Nat)
    (afterSleep : PcmTransfer D → BodyEnd (PcmTransfer D) (PcmTransfer D)) (bytes : Nat) (data : D) (fuel : Nat)
    (schedule : Nat → T) : Option (PcmTransfer D) :=
  let transfer : PcmTransfer D := ⟨0, timeoutMs, 0, data⟩
  if bytes = 0 then some transfer
  else
    doWhile (pcmTurn io pollMs afterSleep bytes) (fun transfer => decide (transfer.total < bytes)) id fuel schedule
      transfer

/-- What a turn of a reading loop finds: whether the session is ready, what is in the queue and whether a read of it
succeeds. -/
structure ReadTurn where
  isReady : Bool
  contents : List UInt8
  reads : Bool

/-- Writing: the data are the bytes that reached the queue. -/
def writeIo (buffer : List UInt8) : PcmIo QueueTurn (List UInt8) where
  isSessionReady := QueueTurn.isReady
  available := QueueTurn.availableToWrite
  succeeds := QueueTurn.writes
  move written total count _ := written ++ (buffer.drop total).take count

/-- Reading: the data are the buffer and the bytes that left the queue. -/
def readIo : PcmIo ReadTurn (List UInt8 × List UInt8) where
  isSessionReady := ReadTurn.isReady
  available turn := turn.contents.length
  succeeds := ReadTurn.reads
  move data total count turn :=
    (data.1.take total ++ turn.contents.take count ++ data.1.drop (total + count), data.2 ++ turn.contents.take count)

def kFmqReceiveTimeoutMs : Nat := 1000

def kReadPollMs : Nat := 1

/-- What a call without a buffer returns. -/
def noTransfer (data : D) : PcmTransfer D := ⟨0, 0, 0, data⟩

namespace BluetoothAudioSession

/-- `OutWritePcmData`. -/
def outWritePcmData (buffer : Option (List UInt8)) (fuel : Nat) (schedule : Nat → QueueTurn) :
    Option (PcmTransfer (List UInt8)) :=
  match buffer with
  | none => some (noTransfer [])
  | some buffer =>
      transferPcm (writeIo buffer) kFmqSendTimeoutMs kWritePollMs .fallsThrough buffer.length [] fuel schedule

/-- `InReadPcmData`. -/
def inReadPcmData (buffer : Option (List UInt8)) (fuel : Nat) (schedule : Nat → ReadTurn) :
    Option (PcmTransfer (List UInt8 × List UInt8)) :=
  match buffer with
  | none => some (noTransfer ([], []))
  | some buffer =>
      transferPcm readIo kFmqReceiveTimeoutMs kReadPollMs .continues buffer.length (buffer, []) fuel schedule

end BluetoothAudioSession

namespace Hidl

def kFmqSendTimeoutMs : Nat := 1000

def kFmqReceiveTimeoutMs : Nat := 1000

def kWritePollMs : Nat := 1

def kReadPollMs : Nat := 1

namespace BluetoothAudioSession

/-- `OutWritePcmData`; where there is AIDL, its session does it. -/
def outWritePcmData (isAidlAvailable : Bool) (buffer : Option (List UInt8)) (fuel : Nat)
    (schedule : Nat → QueueTurn) : Option (PcmTransfer (List UInt8)) :=
  if isAidlAvailable then Bluetooth.BluetoothAudioSession.outWritePcmData buffer fuel schedule
  else
    match buffer with
    | none => some (noTransfer [])
    | some buffer =>
        transferPcm (writeIo buffer) kFmqSendTimeoutMs kWritePollMs .fallsThrough buffer.length [] fuel schedule

/-- `InReadPcmData`. -/
def inReadPcmData (isAidlAvailable : Bool) (buffer : Option (List UInt8)) (fuel : Nat) (schedule : Nat → ReadTurn) :
    Option (PcmTransfer (List UInt8 × List UInt8)) :=
  if isAidlAvailable then Bluetooth.BluetoothAudioSession.inReadPcmData buffer fuel schedule
  else
    match buffer with
    | none => some (noTransfer ([], []))
    | some buffer =>
        transferPcm readIo kFmqReceiveTimeoutMs kReadPollMs .continues buffer.length (buffer, []) fuel schedule

end BluetoothAudioSession

end Hidl

/-! ### One turn -/

section Turn

variable {io : PcmIo T D} {pollMs bytes : Nat} {afterSleep : PcmTransfer D → BodyEnd (PcmTransfer D) (PcmTransfer D)}
  {transfer : PcmTransfer D} {turn : T}

/-- The session has ended, a transfer fails, or the time for waiting is used up. -/
theorem pcmTurn_leaves (h : io.isSessionReady turn = false ∨ (io.available turn ≠ 0 ∧ io.succeeds turn = false) ∨
    (io.available turn = 0 ∧ transfer.timeoutMs < pollMs)) :
    pcmTurn io pollMs afterSleep bytes transfer turn = .leaves transfer := by
  rw [pcmTurn]
  cases hready : io.isSessionReady turn with
  | false => rfl
  | true =>
      rcases h with hended | ⟨hroom, hfails⟩ | ⟨hroom, hlate⟩
      · exact absurd (hready.symm.trans hended) (by decide)
      · simp [hroom, hfails]
      · simp [hroom, not_le.mpr hlate]

theorem pcmTurn_moves (hready : io.isSessionReady turn = true) (hroom : io.available turn ≠ 0)
    (hsucceeds : io.succeeds turn = true) :
    pcmTurn io pollMs afterSleep bytes transfer turn =
      .fallsThrough
        { transfer with
          total := transfer.total + min (io.available turn) (bytes - transfer.total)
          data := io.move transfer.data transfer.total (min (io.available turn) (bytes - transfer.total)) turn } := by
  have hclamp : (if io.available turn > bytes - transfer.total then bytes - transfer.total
      else io.available turn) = min (io.available turn) (bytes - transfer.total) := by
    split_ifs <;> omega
  simp [pcmTurn, hready, hroom, hsucceeds, hclamp]

theorem pcmTurn_sleeps (hready : io.isSessionReady turn = true) (hroom : io.available turn = 0)
    (hwait : pollMs ≤ transfer.timeoutMs) :
    pcmTurn io pollMs afterSleep bytes transfer turn =
      afterSleep { transfer with timeoutMs := transfer.timeoutMs - pollMs, sleptMs := transfer.sleptMs + pollMs } := by
  simp [pcmTurn, hready, hroom, hwait]

/-- A turn leaves, moves bytes or sleeps. -/
theorem pcmTurn_cases (io : PcmIo T D) (pollMs : Nat) (transfer : PcmTransfer D) (turn : T) :
    (io.isSessionReady turn = false ∨ (io.available turn ≠ 0 ∧ io.succeeds turn = false) ∨
      (io.available turn = 0 ∧ transfer.timeoutMs < pollMs)) ∨
    (io.isSessionReady turn = true ∧ io.available turn ≠ 0 ∧ io.succeeds turn = true) ∨
      io.isSessionReady turn = true ∧ io.available turn = 0 ∧ pollMs ≤ transfer.timeoutMs := by
  cases io.isSessionReady turn <;> cases io.succeeds turn <;> simp <;> omega

end Turn

/-! ### The loops end -/

variable {io : PcmIo T D} {timeoutMs bytes : Nat}

/-- The data are those of the bytes so far, and the time that is gone was slept. -/
structure TransferInv (Moved : Nat → D → Prop) (timeoutMs bytes : Nat) (transfer : PcmTransfer D) : Prop where
  total_le : transfer.total ≤ bytes
  slept_eq : transfer.sleptMs + transfer.timeoutMs = timeoutMs
  moved : Moved transfer.total transfer.data

/-- What a turn has to establish in these loops: the invariant, which is also what is asked of the result, and while
bytes are missing, fewer of them or less time. -/
abbrev PcmTurnKeeps (Moved : Nat → D → Prop) (timeoutMs bytes : Nat) (transfer : PcmTransfer D)
    (bodyEnd : BodyEnd (PcmTransfer D) (PcmTransfer D)) : Prop :=
  TurnKeeps (fun transfer => decide (transfer.total < bytes)) id
    (fun transfer => TransferInv Moved timeoutMs bytes transfer ∧ transfer.total < bytes)
    (TransferInv Moved timeoutMs bytes) (fun transfer => bytes - transfer.total + transfer.timeoutMs) transfer bodyEnd

variable {Moved : Nat → D → Prop} {transfer next : PcmTransfer D}

theorem pcmTurnKeeps_fallsThrough (hnext : TransferInv Moved timeoutMs bytes next)
    (hless : next.total < bytes →
      bytes - next.total + next.timeoutMs < bytes - transfer.total + transfer.timeoutMs) :
    PcmTurnKeeps Moved timeoutMs bytes transfer (.fallsThrough next) := by
  rw [PcmTurnKeeps, TurnKeeps]
  split_ifs with hmissing
  · have htotal : next.total < bytes := of_decide_eq_true hmissing
    exact ⟨⟨hnext, htotal⟩, hless htotal⟩
  · exact hnext

/-- To continue is to go on to the condition, as at the end of the body. -/
theorem pcmTurnKeeps_continues (h : PcmTurnKeeps Moved timeoutMs bytes transfer (.fallsThrough next)) :
    PcmTurnKeeps Moved timeoutMs bytes transfer (.continues next) := h

/-- One turn of a loop whose moves keep what the data have to be. -/
theorem pcmTurn_keeps {afterSleep : PcmTransfer D → BodyEnd (PcmTransfer D) (PcmTransfer D)}
    (hafter : ∀ next, PcmTurnKeeps Moved timeoutMs bytes transfer (.fallsThrough next) →
      PcmTurnKeeps Moved timeoutMs bytes transfer (afterSleep next))
    (hmove : ∀ data total count turn, Moved total data → total + count ≤ bytes → count ≤ io.available turn →
      Moved (total + count) (io.move data total count turn))
    {pollMs : Nat} (hpoll : 0 < pollMs) (turn : T) (hinv : TransferInv Moved timeoutMs bytes transfer)
    (hmissing : transfer.total < bytes) :
    PcmTurnKeeps Moved timeoutMs bytes transfer (pcmTurn io pollMs afterSleep bytes transfer turn) := by
  have hslept := hinv.slept_eq
  rcases pcmTurn_cases io pollMs transfer turn with hleaves | ⟨hready, hroom, hsucceeds⟩ | ⟨hready, hroom, hwait⟩
  · rw [pcmTurn_leaves hleaves]
    exact hinv
  · rw [pcmTurn_moves hready hroom hsucceeds]
    generalize hcount : min (io.available turn) (bytes - transfer.total) = count
    have hfits : transfer.total + count ≤ bytes ∧ count ≤ io.available turn ∧ 0 < count := by omega
    apply pcmTurnKeeps_fallsThrough
    · exact ⟨hfits.1, hslept, hmove _ _ _ turn hinv.moved hfits.1 hfits.2.1⟩
    · intro _
      simp only
      omega
  · rw [pcmTurn_sleeps hready hroom hwait]
    apply hafter
    apply pcmTurnKeeps_fallsThrough
    · refine ⟨hinv.total_le, ?_, hinv.moved⟩
      simp only
      omega
    · intro _
      simp only
      omega

/-- Every loop ends after as many turns as there are bytes and milliseconds to wait. -/
theorem transferPcm_ends {afterSleep : PcmTransfer D → BodyEnd (PcmTransfer D) (PcmTransfer D)}
    (hafter : ∀ transfer next, PcmTurnKeeps Moved timeoutMs bytes transfer (.fallsThrough next) →
      PcmTurnKeeps Moved timeoutMs bytes transfer (afterSleep next))
    (hmove : ∀ data total count turn, Moved total data → total + count ≤ bytes → count ≤ io.available turn →
      Moved (total + count) (io.move data total count turn))
    {pollMs : Nat} (hpoll : 0 < pollMs) {data : D} (hdata : Moved 0 data) {fuel : Nat}
    (hfuel : bytes + timeoutMs < fuel) (schedule : Nat → T) :
    ∃ transfer, transferPcm io timeoutMs pollMs afterSleep bytes data fuel schedule = some transfer ∧
      TransferInv Moved timeoutMs bytes transfer := by
  have hstart : TransferInv Moved timeoutMs bytes ⟨0, timeoutMs, 0, data⟩ := ⟨Nat.zero_le _, Nat.zero_add _, hdata⟩
  rw [transferPcm]
  split_ifs with hempty
  · exact ⟨_, rfl, hstart⟩
  · have hbody (transfer : PcmTransfer D) (turn : T)
        (hinv : TransferInv Moved timeoutMs bytes transfer ∧ transfer.total < bytes) :
        PcmTurnKeeps Moved timeoutMs bytes transfer (pcmTurn io pollMs afterSleep bytes transfer turn) :=
      pcmTurn_keeps (hafter transfer) hmove hpoll turn hinv.1 hinv.2
    exact doWhile_ends hbody ⟨hstart, Nat.pos_of_ne_zero hempty⟩ hfuel schedule

/-! ### What is moved -/

/-- The first bytes of the buffer reached the queue. -/
def Written (buffer : List UInt8) (total : Nat) (written : List UInt8) : Prop := written = buffer.take total

/-- The bytes that left the queue are the first of the buffer, which has the rest as it was. -/
def ReadInto (buffer : List UInt8) (total : Nat) (data : List UInt8 × List UInt8) : Prop :=
  data.1 = data.2 ++ buffer.drop total ∧ data.2.length = total

theorem Written.move {buffer : List UInt8} (written : List UInt8) (total count : Nat) (turn : QueueTurn)
    (hwritten : Written buffer total written) (_ : total + count ≤ buffer.length)
    (_ : count ≤ (writeIo buffer).available turn) :
    Written buffer (total + count) ((writeIo buffer).move written total count turn) := by
  rw [Written, List.take_add, ← hwritten]
  rfl

theorem ReadInto.move {buffer : List UInt8} (data : List UInt8 × List UInt8) (total count : Nat) (turn : ReadTurn)
    (hdata : ReadInto buffer total data) (_ : total + count ≤ buffer.length) (hcount : count ≤ readIo.available turn) :
    ReadInto buffer (total + count) (readIo.move data total count turn) := by
  obtain ⟨hbuffer, htotal⟩ := hdata
  have hread : (turn.contents.take count).length = count := List.length_take_of_le hcount
  have htake : data.1.take total = data.2 := by rw [hbuffer, ← htotal, List.take_left]
  have hdrop : data.1.drop (total + count) = buffer.drop (total + count) := by
    calc data.1.drop (total + count)
        = data.2.drop (total + count) ++ (buffer.drop total).drop (total + count - total) := by
          rw [hbuffer, List.drop_append, htotal]
      _ = (buffer.drop total).drop count := by
          rw [List.drop_of_length_le (by omega), List.nil_append, Nat.add_sub_cancel_left]
      _ = buffer.drop (total + count) := List.drop_drop
  refine ⟨?_, ?_⟩
  · show data.1.take total ++ turn.contents.take count ++ data.1.drop (total + count) = _
    rw [htake, hdrop]
    rfl
  · show (data.2 ++ turn.contents.take count).length = total + count
    rw [List.length_append, htotal, hread]

namespace BluetoothAudioSession

variable {buffer : List UInt8} {fuel : Nat}

theorem outWritePcmData_ends (hfuel : buffer.length + 1000 < fuel) (schedule : Nat → QueueTurn) :
    ∃ transfer, outWritePcmData (some buffer) fuel schedule = some transfer ∧
      TransferInv (Written buffer) 1000 buffer.length transfer :=
  transferPcm_ends (fun _ _ hnext => hnext) Written.move Nat.one_pos (show Written buffer 0 [] from rfl) hfuel schedule

theorem inReadPcmData_ends (hfuel : buffer.length + 1000 < fuel) (schedule : Nat → ReadTurn) :
    ∃ transfer, inReadPcmData (some buffer) fuel schedule = some transfer ∧
      TransferInv (ReadInto buffer) 1000 buffer.length transfer :=
  transferPcm_ends (fun _ _ => pcmTurnKeeps_continues) ReadInto.move Nat.one_pos
    (show ReadInto buffer 0 (buffer, []) from ⟨rfl, rfl⟩) hfuel schedule

end BluetoothAudioSession

theorem Hidl.BluetoothAudioSession.outWritePcmData_eq (isAidlAvailable : Bool) (buffer : Option (List UInt8))
    (fuel : Nat) (schedule : Nat → QueueTurn) :
    outWritePcmData isAidlAvailable buffer fuel schedule =
      Bluetooth.BluetoothAudioSession.outWritePcmData buffer fuel schedule := by
  cases isAidlAvailable <;> rfl

theorem Hidl.BluetoothAudioSession.inReadPcmData_eq (isAidlAvailable : Bool) (buffer : Option (List UInt8))
    (fuel : Nat) (schedule : Nat → ReadTurn) :
    inReadPcmData isAidlAvailable buffer fuel schedule =
      Bluetooth.BluetoothAudioSession.inReadPcmData buffer fuel schedule := by
  cases isAidlAvailable <;> rfl

section WriteTurns

variable {buffer : List UInt8} {transfer : PcmTransfer (List UInt8)} {turn : QueueTurn} {turns : List QueueTurn}

theorem writeTurns_leaves (h : turn.isReady = false ∨ (turn.availableToWrite ≠ 0 ∧ turn.writes = false) ∨
    (turn.availableToWrite = 0 ∧ transfer.timeoutMs < kWritePollMs)) :
    writeTurns buffer transfer.total transfer.timeoutMs (turn :: turns) = (transfer.total, []) := by
  rw [writeTurns]
  cases hready : turn.isReady with
  | false => rfl
  | true =>
      rcases h with hended | ⟨hroom, hfails⟩ | ⟨hroom, hlate⟩
      · exact absurd (hready.symm.trans hended) (by decide)
      · simp [hroom, hfails]
      · simp [hroom, not_le.mpr hlate]

theorem writeTurns_moves (hready : turn.isReady = true) (hroom : turn.availableToWrite ≠ 0)
    (hsucceeds : turn.writes = true)
    (hmore : transfer.total + min turn.availableToWrite (buffer.length - transfer.total) < buffer.length) :
    writeTurns buffer transfer.total transfer.timeoutMs (turn :: turns) =
      let count := min turn.availableToWrite (buffer.length - transfer.total)
      let (total, rest) := writeTurns buffer (transfer.total + count) transfer.timeoutMs turns
      (total, (buffer.drop transfer.total).take count ++ rest) := by
  simp [writeTurns, hready, hroom, hsucceeds, hmore]

theorem writeTurns_fills (hready : turn.isReady = true) (hroom : turn.availableToWrite ≠ 0)
    (hsucceeds : turn.writes = true)
    (hmore : ¬ transfer.total + min turn.availableToWrite (buffer.length - transfer.total) < buffer.length) :
    writeTurns buffer transfer.total transfer.timeoutMs (turn :: turns) =
      let count := min turn.availableToWrite (buffer.length - transfer.total)
      (transfer.total + count, (buffer.drop transfer.total).take count) := by
  simp [writeTurns, hready, hroom, hsucceeds, hmore]

theorem writeTurns_sleeps (hready : turn.isReady = true) (hroom : turn.availableToWrite = 0)
    (hwait : kWritePollMs ≤ transfer.timeoutMs) :
    writeTurns buffer transfer.total transfer.timeoutMs (turn :: turns) =
      writeTurns buffer transfer.total (transfer.timeoutMs - kWritePollMs) turns := by
  simp [writeTurns, hready, hroom, hwait]

end WriteTurns

/-- The writing loop over the turns that it comes to, in which the queue is told turn by turn. -/
theorem doWhile_writeTurns {buffer : List UInt8} {fuel : Nat} {schedule : Nat → QueueTurn}
    {transfer result : PcmTransfer (List UInt8)} (hless : transfer.total < buffer.length)
    (hends : doWhile (pcmTurn (writeIo buffer) kWritePollMs .fallsThrough buffer.length)
      (fun transfer => decide (transfer.total < buffer.length)) id fuel schedule transfer = some result) :
    result.total = (writeTurns buffer transfer.total transfer.timeoutMs ((List.range fuel).map schedule)).1 ∧
      result.data =
        transfer.data ++ (writeTurns buffer transfer.total transfer.timeoutMs ((List.range fuel).map schedule)).2 := by
  induction fuel generalizing schedule transfer with
  | zero => cases hends
  | succ fuel ih =>
      have hturns : (List.range (fuel + 1)).map schedule =
          schedule 0 :: (List.range fuel).map fun turn => schedule (turn + 1) := by
        rw [List.range_succ_eq_map, List.map_cons, List.map_map]
        rfl
      rw [hturns]
      generalize hrest : (List.range fuel).map (fun turn => schedule (turn + 1)) = turns
      rcases pcmTurn_cases (writeIo buffer) kWritePollMs transfer (schedule 0) with
        hleaves | ⟨hready, hroom, hsucceeds⟩ | ⟨hready, hroom, hwait⟩
      · have hturn : writeTurns buffer transfer.total transfer.timeoutMs (schedule 0 :: turns) =
            (transfer.total, []) := writeTurns_leaves hleaves
        rw [doWhile_of_leaves (pcmTurn_leaves hleaves), Option.some.injEq] at hends
        rw [hturn, ← hends]
        exact ⟨rfl, (List.append_nil _).symm⟩
      · rw [doWhile_of_fallsThrough (pcmTurn_moves hready hroom hsucceeds)] at hends
        by_cases hmore : transfer.total + min (schedule 0).availableToWrite (buffer.length - transfer.total) <
            buffer.length
        · obtain ⟨htotal, hdata⟩ := ih hmore ((if_pos (decide_eq_true hmore)).symm.trans hends)
          rw [hrest] at htotal hdata
          rw [writeTurns_moves hready hroom hsucceeds hmore]
          exact ⟨htotal, hdata.trans (List.append_assoc _ _ _)⟩
        · have hfilled := (if_neg (mt of_decide_eq_true hmore)).symm.trans hends
          rw [writeTurns_fills hready hroom hsucceeds hmore, ← Option.some.inj hfilled]
          exact ⟨rfl, rfl⟩
      · rw [doWhile_of_fallsThrough (pcmTurn_sleeps hready hroom hwait)] at hends
        rw [writeTurns_sleeps hready hroom hwait, ← hrest]
        have hgoesOn := (if_pos (decide_eq_true hless)).symm.trans hends
        refine ih ?_ hgoesOn
        exact hless

/-- What `OutWritePcmData` does on a schedule is what it does turn by turn. -/
theorem BluetoothAudioSession.outWritePcmData_eq {buffer : List UInt8} {fuel : Nat} {schedule : Nat → QueueTurn}
    {transfer : PcmTransfer (List UInt8)} (hends : outWritePcmData (some buffer) fuel schedule = some transfer) :
    Bluetooth.outWritePcmData buffer ((List.range fuel).map schedule) = (transfer.total, transfer.data) := by
  simp only [outWritePcmData, transferPcm] at hends
  rw [Bluetooth.outWritePcmData]
  by_cases hempty : buffer.length = 0
  · rw [if_pos hempty, Option.some.injEq] at hends
    rw [if_pos hempty.le, ← hends]
  · rw [if_neg hempty] at hends
    obtain ⟨htotal, hdata⟩ := doWhile_writeTurns (Nat.pos_of_ne_zero hempty) hends
    rw [if_neg (by omega)]
    exact Prod.ext htotal.symm hdata.symm

/-- The loops of both transports, whatever their turns find: after at most 1000 ms of sleep they have moved the bytes
that they return, the first of the buffer, in order. -/
theorem pcm_transferred (isAidlAvailable : Bool) (buffer : List UInt8) {fuel : Nat}
    (hfuel : buffer.length + 1000 < fuel) :
    (∀ schedule : Nat → QueueTurn, ∃ transfer,
      BluetoothAudioSession.outWritePcmData (some buffer) fuel schedule = some transfer ∧
        Hidl.BluetoothAudioSession.outWritePcmData isAidlAvailable (some buffer) fuel schedule = some transfer ∧
        transfer.sleptMs ≤ 1000 ∧ transfer.total ≤ buffer.length ∧ Written buffer transfer.total transfer.data) ∧
    ∀ schedule : Nat → ReadTurn, ∃ transfer,
      BluetoothAudioSession.inReadPcmData (some buffer) fuel schedule = some transfer ∧
        Hidl.BluetoothAudioSession.inReadPcmData isAidlAvailable (some buffer) fuel schedule = some transfer ∧
        transfer.sleptMs ≤ 1000 ∧ transfer.total ≤ buffer.length ∧ ReadInto buffer transfer.total transfer.data := by
  refine ⟨fun schedule => ?_, fun schedule => ?_⟩
  · obtain ⟨transfer, hends, hinv⟩ := BluetoothAudioSession.outWritePcmData_ends hfuel schedule
    have hslept := hinv.slept_eq
    rw [Hidl.BluetoothAudioSession.outWritePcmData_eq]
    exact ⟨transfer, hends, hends, by omega, hinv.total_le, hinv.moved⟩
  · obtain ⟨transfer, hends, hinv⟩ := BluetoothAudioSession.inReadPcmData_ends hfuel schedule
    have hslept := hinv.slept_eq
    rw [Hidl.BluetoothAudioSession.inReadPcmData_eq]
    exact ⟨transfer, hends, hends, by omega, hinv.total_le, hinv.moved⟩

/-- A session that has room for two bytes and then waits. -/
theorem pcm_transferred_twoBytes : ∃ transfer,
    BluetoothAudioSession.outWritePcmData (some [1, 2, 3]) 2000 (fun turn => ⟨true, if turn = 0 then 2 else 0, true⟩) =
        some transfer ∧ transfer.sleptMs ≤ 1000 := by
  obtain ⟨transfer, hends, -, hslept, -⟩ := (@pcm_transferred false [1, 2, 3] 2000 (by decide)).1
    fun turn => ⟨true, if turn = 0 then 2 else 0, true⟩
  exact ⟨transfer, hends, hslept⟩

end Penrose.Bluetooth

import Penrose.AudioWriteThread

/-! `ReadThread`, by which a client reads from an input stream. The thread asks the HAL for no more than there is room
for in the queue for the data, and the client goes on to read. -/

namespace Penrose.Audio

/-- `IStreamIn::ReadCommand`, and what else a client may put into the queue. -/
inductive ReadCommand where
  | read | getCapturePosition
  | other (code : BitVec 32)
  deriving DecidableEq

/-- `IStreamIn::ReadParameters`; `read` is the number of bytes that the command `READ` asks for. -/
structure ReadParameters where
  command : ReadCommand
  read : BitVec 64

structure CapturePosition where
  frames : BitVec 64
  time : BitVec 64
  deriving DecidableEq

/-- The union `reply` of a `ReadStatus`. -/
inductive ReadReply where
  | read (bytes : BitVec 64)
  | capturePosition (position : CapturePosition)
  deriving DecidableEq

/-- `IStreamIn::ReadStatus`. -/
structure ReadStatus where
  retval : Result
  replyTo : ReadCommand
  reply : ReadReply
  deriving DecidableEq

/-- What the functions of an `audio_stream_in_t` return: `read` gives an error or the bytes that it put into the
buffer; the function for positions may be missing. -/
structure HalStreamIn where
  read : Except Int (List UInt8)
  getCapturePosition : Option (Int × CapturePosition)

/-- What the thread and its client share: the queue for the data, with what the client has read from it and what the
HAL has returned. -/
structure ReadData where
  dataMq : BoundedQueue UInt8
  reply : ReadReply
  received : List UInt8
  reads : List (Except Int (List UInt8))

/-- Where the thread is in the work for a command. -/
inductive ReadPlace where
  | serving (parameters : ReadParameters)
  | reading (requestedToRead : Nat)
  | writing (buffer : List UInt8)

namespace ReadThread

/-- The bytes that the HAL returned. -/
def bytesOf : Except Int (List UInt8) → List UInt8
  | .ok bytes => bytes
  | .error _ => []

/-- What is answered to a `READ`; an error leaves the reply as it is. -/
def readStatus (reply : ReadReply) : Except Int (List UInt8) → ReadStatus
  | .ok bytes => ⟨.ok, .read, .read (BitVec.ofNat 64 bytes.length)⟩
  | .error result => ⟨WriteThread.analyzeResult result, .read, reply⟩

/-- `doGetCapturePosition`. -/
def doGetCapturePosition (hal : HalStreamIn) (reply : ReadReply) : ReadStatus :=
  match hal.getCapturePosition with
  | none => ⟨.notSupported, .getCapturePosition, reply⟩
  | some (status, position) =>
      if analyzeStatus status = .ok then ⟨.ok, .getCapturePosition, .capturePosition position⟩
      else ⟨analyzeStatus status, .getCapturePosition, reply⟩

def answer (data : ReadData) (status : ReadStatus) : (ReadPlace ⊕ ReadStatus) × ReadData :=
  (.inr status, { data with reply := status.reply })

/-- A step of the work for a command. A write to the queue that fails is logged, and the command is answered all the
same. -/
def work (place : ReadPlace) (hal : HalStreamIn) (data : ReadData) : (ReadPlace ⊕ ReadStatus) × ReadData :=
  match place with
  | .serving parameters =>
      match parameters.command with
      | .read => (.inl (.reading (min parameters.read.toNat data.dataMq.availableToWrite)), data)
      | .getCapturePosition => answer data (doGetCapturePosition hal data.reply)
      | .other code => answer data ⟨.notSupported, .other code, data.reply⟩
  | .reading _ =>
      match hal.read with
      | .error result => answer { data with reads := data.reads ++ [hal.read] } (readStatus data.reply (.error result))
      | .ok bytes => (.inl (.writing bytes), { data with reads := data.reads ++ [hal.read] })
  | .writing buffer =>
      match data.dataMq.write buffer with
      | none => answer data (readStatus data.reply (.ok buffer))
      | some dataMq => answer { data with dataMq := dataMq } (readStatus data.reply (.ok buffer))

/-- The client reads from the queue. -/
def clientReads (count : Nat) (data : ReadData) : ReadData :=
  match data.dataMq.read count with
  | none => data
  | some (bytes, dataMq) => { data with dataMq := dataMq, received := data.received ++ bytes }

def commandAt : ReadPlace → ReadCommand
  | .serving parameters => parameters.command
  | .reading _ | .writing _ => .read

theorem replyTo_readStatus (reply : ReadReply) (result : Except Int (List UInt8)) :
    (readStatus reply result).replyTo = .read := by
  cases result <;> rfl

theorem replyTo_doGetCapturePosition (hal : HalStreamIn) (reply : ReadReply) :
    (doGetCapturePosition hal reply).replyTo = .getCapturePosition := by
  rw [doGetCapturePosition]
  split
  · rfl
  · split <;> rfl

theorem commandAt_work (place : ReadPlace) (hal : HalStreamIn) (data : ReadData) :
    (work place hal data).1.elim commandAt ReadStatus.replyTo = commandAt place := by
  cases place with
  | serving parameters =>
      obtain ⟨command, read⟩ := parameters
      cases command with
      | getCapturePosition => exact replyTo_doGetCapturePosition hal data.reply
      | _ => rfl
  | reading requestedToRead =>
      rw [work]
      cases hal.read <;> rfl
  | writing buffer =>
      rw [work]
      cases data.dataMq.write buffer <;> rfl

/-- `threadLoop`, with what it does for its commands. -/
def service : Service ReadParameters ReadCommand ReadStatus ReadPlace HalStreamIn ReadData Nat where
  accept := .serving
  work := work
  use := clientReads
  question := ReadParameters.command
  questionAt := commandAt
  replyTo := ReadStatus.replyTo
  questionAt_accept _ := rfl
  questionAt_work := commandAt_work

theorem service_work : service.work = work := rfl

/-- A thread with a queue for so many bytes, which is also the size of its buffer. -/
def start (quantumCount : Nat) : ReadData := ⟨.empty quantumCount, .read 0, [], []⟩

/-- The system of the thread and its client after some steps. -/
def after (quantumCount : Nat) (events : List (ThreadEvent ReadParameters HalStreamIn Nat)) :
    ServedThread ReadParameters ReadStatus ReadPlace ReadData :=
  .after service (start quantumCount) events

/-- The HAL returns no more bytes than it was asked for. -/
def Returns (place : ReadPlace) (hal : HalStreamIn) : Prop :=
  ∀ requestedToRead, place = .reading requestedToRead → (bytesOf hal.read).length ≤ requestedToRead

/-- What the HAL has returned and is not in the queue yet. -/
def held : Option ReadPlace → List UInt8
  | some (.writing buffer) => buffer
  | none | some (.serving _) | some (.reading _) => []

/-- The result of the HAL that is not answered yet. -/
def pending : Option ReadPlace → List (Except Int (List UInt8))
  | some (.writing buffer) => [.ok buffer]
  | none | some (.serving _) | some (.reading _) => []

/-- The room that the thread needs in the queue. -/
def room : Option ReadPlace → Nat
  | some (.reading requestedToRead) => requestedToRead
  | some (.writing buffer) => buffer.length
  | none | some (.serving _) => 0

/-- The reply tells the result of the HAL: how many bytes there were, or the error. -/
def Tells (status : ReadStatus) (result : Except Int (List UInt8)) : Prop := ∃ reply, status = readStatus reply result

/-- The bytes that the HAL returned are those that the client has read, those in the queue and those that are about to
be put there, for which there is room, and each `READ` is answered with what the HAL returned for it. -/
structure Conserves (quantumCount : Nat) (place : Option ReadPlace) (replies : List ReadStatus) (data : ReadData) :
    Prop where
  capacity_eq : data.dataMq.capacity = quantumCount
  returned_eq : (data.reads.map bytesOf).flatten = data.received ++ data.dataMq.contents ++ held place
  room_le : room place ≤ data.dataMq.availableToWrite
  told : ∃ answered, data.reads = answered ++ pending place ∧
    List.Forall₂ Tells (replies.filter fun status => status.replyTo = .read) answered

variable {quantumCount : Nat} {place : Option ReadPlace} {replies : List ReadStatus} {data : ReadData}

/-- A reply to another command adds nothing. -/
theorem Conserves.answer {parameters : ReadParameters}
    (h : Conserves quantumCount (some (.serving parameters)) replies data) {status : ReadStatus}
    (hreply : status.replyTo ≠ .read) :
    Conserves quantumCount none (replies ++ [status]) { data with reply := status.reply } := by
  refine ⟨h.capacity_eq, h.returned_eq, h.room_le, ?_⟩
  obtain ⟨answered, hreads, htells⟩ := h.told
  refine ⟨answered, hreads, ?_⟩
  rw [List.filter_append]
  simpa [hreply] using htells

/-- The reply to a `READ` comes after those before. -/
theorem forall₂_answer {answered : List (Except Int (List UInt8))}
    (htells : List.Forall₂ Tells (replies.filter fun status => status.replyTo = .read) answered) (reply : ReadReply)
    (result : Except Int (List UInt8)) :
    List.Forall₂ Tells ((replies ++ [readStatus reply result]).filter fun status => status.replyTo = .read)
      (answered ++ [result]) := by
  rw [List.filter_append]
  have hlast : List.filter (fun status => decide (status.replyTo = .read)) [readStatus reply result] =
      [readStatus reply result] := by
    simp [replyTo_readStatus]
  rw [hlast]
  exact List.rel_append htells (.cons ⟨reply, rfl⟩ .nil)

theorem keeps_conserves (quantumCount : Nat) : ServedThread.Keeps service Returns (Conserves quantumCount) where
  accept command replies data h := ⟨h.capacity_eq, h.returned_eq, Nat.zero_le _, h.told⟩
  work place hal replies data h hreturns := by
    cases place with
    | serving parameters =>
        obtain ⟨command, read⟩ := parameters
        cases command with
        | read => exact ⟨h.capacity_eq, h.returned_eq, Nat.min_le_right .., h.told⟩
        | getCapturePosition =>
            apply h.answer
            rw [replyTo_doGetCapturePosition]
            decide
        | other code => exact h.answer fun hreply => (by cases hreply)
    | reading requestedToRead =>
        obtain ⟨answered, hreads, htells⟩ := h.told
        have hreturned := h.returned_eq
        have hallowed := hreturns requestedToRead rfl
        rw [pending, List.append_nil] at hreads
        rw [held, List.append_nil] at hreturned
        rw [service_work, work]
        cases hread : hal.read with
        | error result =>
            refine ⟨h.capacity_eq, ?_, Nat.zero_le _, answered ++ [.error result], ?_, forall₂_answer htells ..⟩
            · change ((data.reads ++ [Except.error result]).map bytesOf).flatten = _
              rw [List.map_append, List.flatten_append, hreturned]
              rfl
            · change data.reads ++ _ = _
              rw [hreads, pending, List.append_nil]
        | ok bytes =>
            rw [hread, bytesOf] at hallowed
            refine ⟨h.capacity_eq, ?_, Nat.le_trans hallowed h.room_le, answered, ?_, htells⟩
            · change ((data.reads ++ [Except.ok bytes]).map bytesOf).flatten = _
              rw [List.map_append, List.flatten_append, hreturned]
              simp [bytesOf, held]
            · change data.reads ++ _ = _
              rw [hreads, pending]
    | writing buffer =>
        obtain ⟨answered, hreads, htells⟩ := h.told
        have hwrite := BoundedQueue.write_of_le h.room_le
        rw [service_work, work, hwrite]
        refine ⟨h.capacity_eq, ?_, Nat.zero_le _, answered ++ [.ok buffer], ?_, forall₂_answer htells ..⟩
        · change (data.reads.map bytesOf).flatten = data.received ++ (data.dataMq.contents ++ buffer) ++ []
          rw [h.returned_eq, held, List.append_nil, List.append_assoc]
        · change data.reads = _
          rw [hreads, pending, pending, List.append_nil]
  use place count replies data h := by
    change Conserves quantumCount place replies (clientReads count data)
    rw [clientReads]
    cases hread : data.dataMq.read count with
    | none => exact h
    | some read =>
        obtain ⟨bytes, dataMq⟩ := read
        obtain ⟨hcontents, hcapacity, -⟩ := BoundedQueue.read_eq_some hread
        refine ⟨hcapacity.trans h.capacity_eq, ?_,
          Nat.le_trans h.room_le (BoundedQueue.availableToWrite_le_of_read hread), h.told⟩
        change _ = data.received ++ bytes ++ dataMq.contents ++ held place
        rw [h.returned_eq, ← hcontents, List.append_assoc data.received bytes]

/-- Nothing that the HAL returns is lost, doubled or put in another order on its way to the client, and each `READ` is
answered with what the HAL returned for it. -/
theorem reads_conserved (quantumCount : Nat) {events : List (ThreadEvent ReadParameters HalStreamIn Nat)}
    (hreturns : Run (ServedThread.next service) (ServedThread.Learns Returns) (.start (start quantumCount)) events) :
    Conserves quantumCount (ServedThread.placeOf (after quantumCount events).thread.phase)
      (after quantumCount events).made (after quantumCount events).thread.data := by
  apply (keeps_conserves quantumCount).after
  · exact ⟨rfl, rfl, Nat.zero_le _, [], rfl, .nil⟩
  · exact hreturns

/-- What the HAL returns in a run that reads three bytes. -/
def threeBytes : HalStreamIn := ⟨.ok [1, 2, 3], none⟩

/-- A client asks for three bytes, and reads two of them. -/
def readsThreeBytes : List (ThreadEvent ReadParameters HalStreamIn Nat) :=
  [.sends ⟨.read, 3⟩, .wakes, .advances threeBytes, .advances threeBytes, .advances threeBytes, .advances threeBytes,
    .advances threeBytes, .advances threeBytes, .uses 2]

theorem readsThreeBytes_conserved :
    Conserves 4 (ServedThread.placeOf (after 4 readsThreeBytes).thread.phase) (after 4 readsThreeBytes).made
      (after 4 readsThreeBytes).thread.data := by
  apply reads_conserved
  refine ⟨trivial, trivial, ?_, ?_, ?_, ?_, ?_, ?_, trivial, trivial⟩ <;>
    intro place hplace requestedToRead hreading <;> cases hplace <;> cases hreading
  decide

/-- The steps of the work from a place on. -/
def stepsFrom : ReadPlace → Nat
  | .serving _ => 2
  | .reading _ => 1
  | .writing _ => 0

theorem stepsFrom_le (place : ReadPlace) : stepsFrom place ≤ 2 := by
  cases place <;> simp [stepsFrom]

theorem workEnds : ServedThread.WorkEnds service stepsFrom 2 where
  accept_le _ := Nat.le_refl 2
  work_lt place hal data later hwork := by
    cases place with
    | serving parameters =>
        obtain ⟨command, read⟩ := parameters
        cases command <;> cases hwork
        exact Nat.lt_succ_self 1
    | reading requestedToRead =>
        rw [service_work, work] at hwork
        cases hread : hal.read <;> rw [hread] at hwork <;> cases hwork
        exact Nat.one_pos
    | writing buffer =>
        rw [service_work, work] at hwork
        cases hwrite : data.dataMq.write buffer <;> rw [hwrite] at hwork <;> cases hwork

end ReadThread

/-! ### Both threads -/

/-- A client that waits for the reply to each command before it sends the next gets all the replies, each to its
command. -/
theorem politeClients_answered (quantumCount : Nat)
    {writeEvents : List (ThreadEvent WriteCommand HalStreamOut (List UInt8))}
    {readEvents : List (ThreadEvent ReadParameters HalStreamIn Nat)}
    (hwriter : Run (ServedThread.next WriteThread.service) ServedThread.Polite
      (.start (WriteThread.start quantumCount)) writeEvents)
    (hreader : Run (ServedThread.next ReadThread.service) ServedThread.Polite
      (.start (ReadThread.start quantumCount)) readEvents) :
    ((WriteThread.after quantumCount writeEvents).history.lost = [] ∧
        (WriteThread.after quantumCount writeEvents).history.received.map WriteStatus.replyTo <+:
          (WriteThread.after quantumCount writeEvents).history.sent) ∧
      (ReadThread.after quantumCount readEvents).history.lost = [] ∧
        (ReadThread.after quantumCount readEvents).history.received.map ReadStatus.replyTo <+:
          (ReadThread.after quantumCount readEvents).history.sent.map ReadParameters.command := by
  have hwrites := ServedThread.oneAtATime_after WriteThread.service (WriteThread.start quantumCount) hwriter
  have hreads := ServedThread.oneAtATime_after ReadThread.service (ReadThread.start quantumCount) hreader
  refine ⟨⟨hwrites.lost_eq, ?_⟩, hreads.lost_eq, hreads.received_isPrefix⟩
  have hanswered := hwrites.received_isPrefix
  rw [show WriteThread.service.question = id from rfl, List.map_id] at hanswered
  exact hanswered

/-- A client that writes once, and one that asks once for the position. -/
def writesOnce : List (ThreadEvent WriteCommand HalStreamOut (List UInt8)) :=
  [.uses [1, 2], .sends .write, .wakes] ++ List.replicate 8 (.advances ⟨2, none, 0⟩) ++ [.receives, .sends .getLatency]

def asksOnce : List (ThreadEvent ReadParameters HalStreamIn Nat) :=
  [.sends ⟨.getCapturePosition, 0⟩, .wakes] ++ List.replicate 6 (.advances ReadThread.threeBytes) ++ [.receives]

theorem politeClients_answered_once :
    ((WriteThread.after 4 writesOnce).history.lost = [] ∧
        (WriteThread.after 4 writesOnce).history.received.map WriteStatus.replyTo <+:
          (WriteThread.after 4 writesOnce).history.sent) ∧
      (ReadThread.after 4 asksOnce).history.lost = [] ∧
        (ReadThread.after 4 asksOnce).history.received.map ReadStatus.replyTo <+:
          (ReadThread.after 4 asksOnce).history.sent.map ReadParameters.command :=
  politeClients_answered 4
    ⟨trivial, rfl, trivial, trivial, trivial, trivial, trivial, trivial, trivial, trivial, trivial, trivial, rfl,
      trivial⟩
    ⟨rfl, trivial, trivial, trivial, trivial, trivial, trivial, trivial, trivial, trivial⟩

/-- Whatever the clients did, a thread to which no wake is owed answers all that was sent within 15 steps of its own,
or stops if it was asked to. -/
theorem leftAlone_settles (quantumCount : Nat)
    (writeEvents : List (ThreadEvent WriteCommand HalStreamOut (List UInt8)))
    (readEvents : List (ThreadEvent ReadParameters HalStreamIn Nat)) {hals : List HalStreamOut}
    {inputs : List HalStreamIn} (hhals : 15 ≤ hals.length) (hinputs : 15 ≤ inputs.length) :
    ((WriteThread.after quantumCount writeEvents).history.owed = false →
        let later := WriteThread.after quantumCount (writeEvents ++ hals.map .advances)
        if (WriteThread.after quantumCount writeEvents).thread.stop then later.thread.phase = .stopped
        else later.history.answered.map WriteStatus.replyTo =
          (WriteThread.after quantumCount writeEvents).history.sent) ∧
      ((ReadThread.after quantumCount readEvents).history.owed = false →
        let later := ReadThread.after quantumCount (readEvents ++ inputs.map .advances)
        if (ReadThread.after quantumCount readEvents).thread.stop then later.thread.phase = .stopped
        else later.history.answered.map ReadStatus.replyTo =
          (ReadThread.after quantumCount readEvents).history.sent.map ReadParameters.command) := by
  refine ⟨?_, ?_⟩
  · intro howed
    have hsteps : ServedThread.stepsLeft WriteThread.stepsFrom 2 (WriteThread.after quantumCount writeEvents) ≤ 15 := by
      apply ServedThread.stepsLeft_le
      intro place _
      exact WriteThread.stepsFrom_le place
    obtain ⟨hstopped, hanswered⟩ := ServedThread.settles_alone WriteThread.workEnds (WriteThread.start quantumCount)
      writeEvents howed (Nat.le_trans hsteps hhals)
    split
    next hstop => exact hstopped hstop
    next hstop =>
      rw [show WriteThread.service.question = id from rfl, List.map_id] at hanswered
      exact hanswered (Bool.eq_false_iff.mpr hstop)
  · intro howed
    have hsteps : ServedThread.stepsLeft ReadThread.stepsFrom 2 (ReadThread.after quantumCount readEvents) ≤ 15 := by
      apply ServedThread.stepsLeft_le
      intro place _
      exact ReadThread.stepsFrom_le place
    obtain ⟨hstopped, hanswered⟩ := ServedThread.settles_alone ReadThread.workEnds (ReadThread.start quantumCount)
      readEvents howed (Nat.le_trans hsteps hinputs)
    split
    next hstop => exact hstopped hstop
    next hstop => exact hanswered (Bool.eq_false_iff.mpr hstop)

/-- Two threads that go on, and one that is asked to stop before it takes what was sent last. -/
theorem leftAlone_settles_once :
    (WriteThread.after 4 (writesOnce ++ [.wakes] ++
        (List.replicate 15 ⟨2, none, 0⟩ : List HalStreamOut).map .advances)).history.answered.map WriteStatus.replyTo =
          [.write, .getLatency] ∧
      (ReadThread.after 4 (asksOnce ++ (List.replicate 15 ReadThread.threeBytes).map .advances)).history.answered.map
        ReadStatus.replyTo = [.getCapturePosition] ∧
      (WriteThread.after 4 (writesOnce ++ [.asksToStop, .wakes] ++
        (List.replicate 15 ⟨2, none, 0⟩ : List HalStreamOut).map .advances)).thread.phase = .stopped := by
  have hsettles := @leftAlone_settles 4 (writesOnce ++ [.wakes]) asksOnce (List.replicate 15 ⟨2, none, 0⟩)
    (List.replicate 15 ReadThread.threeBytes) (by decide) (by decide)
  have hasked := @leftAlone_settles 4 (writesOnce ++ [.asksToStop, .wakes]) asksOnce (List.replicate 15 ⟨2, none, 0⟩)
    (List.replicate 15 ReadThread.threeBytes) (by decide) (by decide)
  exact ⟨hsettles.1 rfl, hsettles.2 rfl, hasked.1 rfl⟩

/-- A thread that was asked to stop takes at most one command more. -/
theorem asked_stopsSoon (quantumCount : Nat)
    (writeEvents : List (ThreadEvent WriteCommand HalStreamOut (List UInt8)))
    (readEvents : List (ThreadEvent ReadParameters HalStreamIn Nat)) :
    (WriteThread.after quantumCount writeEvents).history.takenLate.length ≤ 1 ∧
      (ReadThread.after quantumCount readEvents).history.takenLate.length ≤ 1 :=
  ⟨(ServedThread.stopsSoon_after _ _ _).length_le, (ServedThread.stopsSoon_after _ _ _).length_le⟩

end Penrose.Audio

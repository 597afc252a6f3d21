import Penrose.AudioDevice
import Penrose.BoundedQueues
import Penrose.CommandThreads

/-! `WriteThread`, by which a client writes to an output stream. The thread hands to the HAL what it finds in the queue
for the data, while the client goes on to write. -/

namespace Penrose.Audio

/-- `IStreamOut::WriteCommand`, and what else a client may put into the queue. -/
inductive WriteCommand where
  | write | getPresentationPosition | getLatency
  | other (code : BitVec 32)
  deriving DecidableEq

structure PresentationPosition where
  frames : BitVec 64
  tvSec : BitVec 64
  tvNSec : BitVec 64
  deriving DecidableEq

/-- The union `reply` of a `WriteStatus`. -/
inductive WriteReply where
  | written (bytes : BitVec 64)
  | presentationPosition (position : PresentationPosition)
  | latencyMs (latency : BitVec 32)
  deriving DecidableEq

/-- `IStreamOut::WriteStatus`. -/
structure WriteStatus where
  retval : Result
  replyTo : WriteCommand
  reply : WriteReply
  deriving DecidableEq

/-- What the functions of an `audio_stream_out_t` return; the one for positions may be missing. -/
structure HalStreamOut where
  write : Int
  getPresentationPosition : Option (Int × PresentationPosition)
  getLatency : BitVec 32

/-- What the thread and its client share: the queue for the data, with what the client has written to it and the
buffers that the HAL was given with its results. The reply stays as it is where a command does not set it. -/
structure WriteData where
  dataMq : BoundedQueue UInt8
  reply : WriteReply
  sent : List UInt8
  writes : List (List UInt8 × Int)

/-- Where the thread is in the work for a command. -/
inductive WritePlace where
  | serving (command : WriteCommand)
  | reading (availToRead : Nat)
  | writing (buffer : List UInt8)

namespace WriteThread

/-- A stream error as the client is told it; the result of a transfer is passed as an `int`. -/
def analyzeResult (result : Int) : Result := analyzeStatus (BitVec.ofInt 32 result).toInt

/-- What is answered to a `WRITE` whose buffer the HAL took with this result. -/
def writeStatus (result : Int) : WriteStatus :=
  if 0 ≤ result then ⟨.ok, .write, .written (BitVec.ofInt 64 result)⟩
  else ⟨analyzeResult result, .write, .written 0⟩

/-- `doGetPresentationPosition`. -/
def doGetPresentationPosition (hal : HalStreamOut) (reply : WriteReply) : WriteStatus :=
  match hal.getPresentationPosition with
  | none => ⟨.notSupported, .getPresentationPosition, reply⟩
  | some (status, position) =>
      if analyzeStatus status = .ok then ⟨.ok, .getPresentationPosition, .presentationPosition position⟩
      else ⟨analyzeStatus status, .getPresentationPosition, reply⟩

def doGetLatency (hal : HalStreamOut) : WriteStatus := ⟨.ok, .getLatency, .latencyMs hal.getLatency⟩

/-- The answer of the thread, which keeps what it says. -/
def answer (data : WriteData) (status : WriteStatus) : (WritePlace ⊕ WriteStatus) × WriteData :=
  (.inr status, { data with reply := status.reply })

/-- A step of the work for a command. Between the look at the queue and the read of it the client may write. -/
def work (place : WritePlace) (hal : HalStreamOut) (data : WriteData) : (WritePlace ⊕ WriteStatus) × WriteData :=
  match place with
  | .serving .write => (.inl (.reading data.dataMq.availableToRead), data)
  | .serving .getPresentationPosition => answer data (doGetPresentationPosition hal data.reply)
  | .serving .getLatency => answer data (doGetLatency hal)
  | .serving (.other code) => answer data ⟨.notSupported, .other code, data.reply⟩
  | .reading availToRead =>
      match data.dataMq.read availToRead with
      | none => answer data ⟨.ok, .write, .written 0⟩
      | some (buffer, dataMq) => (.inl (.writing buffer), { data with dataMq := dataMq })
  | .writing buffer => answer { data with writes := data.writes ++ [(buffer, hal.write)] } (writeStatus hal.write)

/-- The client writes to the queue. -/
def clientWrites (bytes : List UInt8) (data : WriteData) : WriteData :=
  match data.dataMq.write bytes with
  | none => data
  | some dataMq => { data with dataMq := dataMq, sent := data.sent ++ bytes }

def commandAt : WritePlace → WriteCommand
  | .serving command => command
  | .reading _ | .writing _ => .write

/-- The bytes that the thread has seen in the queue are there when it reads them. -/
theorem work_reading (hal : HalStreamOut) {data : WriteData} {availToRead : Nat}
    (havailable : availToRead ≤ data.dataMq.availableToRead) :
    work (.reading availToRead) hal data =
      (.inl (.writing (data.dataMq.contents.take availToRead)),
        { data with dataMq := ⟨data.dataMq.capacity, data.dataMq.contents.drop availToRead,
            data.dataMq.length_drop_le availToRead⟩ }) := by
  rw [work, BoundedQueue.read_of_le havailable]

theorem replyTo_writeStatus (result : Int) : (writeStatus result).replyTo = .write := by
  rw [writeStatus]
  split <;> rfl

theorem replyTo_doGetPresentationPosition (hal : HalStreamOut) (reply : WriteReply) :
    (doGetPresentationPosition hal reply).replyTo = .getPresentationPosition := by
  rw [doGetPresentationPosition]
  split
  · rfl
  · split <;> rfl

theorem commandAt_work (place : WritePlace) (hal : HalStreamOut) (data : WriteData) :
    (work place hal data).1.elim commandAt WriteStatus.replyTo = commandAt place := by
  cases place with
  | serving command =>
      cases command with
      | getPresentationPosition => exact replyTo_doGetPresentationPosition hal data.reply
      | _ => rfl
  | reading availToRead =>
      rw [work]
      cases data.dataMq.read availToRead <;> rfl
  | writing buffer => exact replyTo_writeStatus hal.write

/-- `threadLoop`, with what it does for its commands. -/
def service : Service WriteCommand WriteCommand WriteStatus WritePlace HalStreamOut WriteData (List UInt8) where
  accept := .serving
  work := work
  use := clientWrites
  question := id
  questionAt := commandAt
  replyTo := WriteStatus.replyTo
  questionAt_accept _ := rfl
  questionAt_work := commandAt_work

/-- A thread with a queue for so many bytes, which is also the size of its buffer. -/
def start (quantumCount : Nat) : WriteData := ⟨.empty quantumCount, .written 0, [], []⟩

/-- The system of the thread and its client after some steps. -/
def after (quantumCount : Nat) (events : List (ThreadEvent WriteCommand HalStreamOut (List UInt8))) :
    ServedThread WriteCommand WriteStatus WritePlace WriteData :=
  .after service (start quantumCount) events

/-- What the thread has read from the queue and not given to the HAL. -/
def held : Option WritePlace → List UInt8
  | some (.writing buffer) => buffer
  | none | some (.serving _) | some (.reading _) => []

/-- The bytes that the client sent are those that the HAL was given, the one buffer that it is about to get and
those that are in the queue, and each `WRITE` is answered with what the HAL said to its buffer. -/
structure Conserves (quantumCount : Nat) (place : Option WritePlace) (replies : List WriteStatus) (data : WriteData) :
    Prop where
  capacity_eq : data.dataMq.capacity = quantumCount
  sent_eq : data.sent = (data.writes.map Prod.fst).flatten ++ held place ++ data.dataMq.contents
  held_le : (held place).length ≤ quantumCount
  writes_le : ∀ write ∈ data.writes, write.1.length ≤ quantumCount
  available : ∀ availToRead, place = some (.reading availToRead) → availToRead ≤ data.dataMq.availableToRead
  replies_eq : replies.filter (fun status => status.replyTo = .write) = data.writes.map fun write => writeStatus write.2

variable {quantumCount : Nat} {place : Option WritePlace} {replies : List WriteStatus} {data : WriteData}

/-- A reply to another command adds nothing. -/
theorem Conserves.answer (h : Conserves quantumCount place replies data) (hheld : held place = [])
    {status : WriteStatus} (hreply : status.replyTo ≠ .write) :
    Conserves quantumCount none (replies ++ [status]) { data with reply := status.reply } := by
  refine ⟨h.capacity_eq, ?_, Nat.zero_le _, h.writes_le, fun _ hplace => (by cases hplace), ?_⟩
  · have hsent := h.sent_eq
    rw [hheld] at hsent
    exact hsent
  · rw [List.filter_append, h.replies_eq]
    simp [hreply]

theorem keeps_conserves (quantumCount : Nat) :
    ServedThread.Keeps service (fun _ _ => True) (Conserves quantumCount) where
  accept command replies data h :=
    ⟨h.capacity_eq, h.sent_eq, h.held_le, h.writes_le, fun _ hplace => (by cases hplace), h.replies_eq⟩
  work place hal replies data h _ := by
    cases place with
    | serving command =>
        cases command with
        | write =>
            refine ⟨h.capacity_eq, h.sent_eq, h.held_le, h.writes_le, ?_, h.replies_eq⟩
            intro availToRead hplace
            cases hplace
            exact Nat.le_refl _
        | getPresentationPosition =>
            apply h.answer rfl
            rw [replyTo_doGetPresentationPosition]
            decide
        | getLatency => exact h.answer rfl fun hreply => (by cases hreply)
        | other code => exact h.answer rfl fun hreply => (by cases hreply)
    | reading availToRead =>
        have hwork : service.work (.reading availToRead) hal data = _ :=
          work_reading hal (h.available availToRead rfl)
        rw [hwork]
        have hbuffer : (data.dataMq.contents.take availToRead).length ≤ quantumCount := by
          rw [← h.capacity_eq]
          exact Nat.le_trans (List.take_sublist ..).length_le data.dataMq.length_le
        refine ⟨h.capacity_eq, ?_, hbuffer, h.writes_le, fun _ hplace => (by cases hplace), h.replies_eq⟩
        have hsent := h.sent_eq
        rw [held, List.append_nil] at hsent
        rw [held, List.append_assoc, List.take_append_drop]
        exact hsent
    | writing buffer =>
        refine ⟨h.capacity_eq, ?_, Nat.zero_le _, ?_, fun _ hplace => (by cases hplace), ?_⟩
        · have hsent := h.sent_eq
          rw [held] at hsent
          simp only [held, List.map_append, List.map_cons, List.map_nil, List.flatten_append, List.flatten_cons,
            List.flatten_nil, List.append_nil]
          exact hsent
        · intro write hmem
          obtain hmem | hmem := List.mem_append.mp hmem
          · exact h.writes_le write hmem
          · cases List.mem_singleton.mp hmem
            exact h.held_le
        · rw [List.filter_append, h.replies_eq, List.map_append]
          simp [replyTo_writeStatus]
  use place bytes replies data h := by
    change Conserves quantumCount place replies (clientWrites bytes data)
    rw [clientWrites]
    cases hwrite : data.dataMq.write bytes with
    | none => exact h
    | some dataMq =>
        obtain ⟨hcontents, hcapacity⟩ := BoundedQueue.write_eq_some hwrite
        refine ⟨hcapacity.trans h.capacity_eq, ?_, h.held_le, h.writes_le, ?_, h.replies_eq⟩
        · change data.sent ++ bytes = _ ++ dataMq.contents
          rw [hcontents, h.sent_eq, List.append_assoc _ data.dataMq.contents]
        · intro availToRead hplace
          have havailable := h.available availToRead hplace
          change availToRead ≤ dataMq.contents.length
          rw [hcontents, List.length_append]
          exact Nat.le_trans havailable (Nat.le_add_right ..)

/-- Nothing that the client writes is lost, doubled or put in another order on its way to the HAL, no buffer is
larger than that of the thread, and each `WRITE` is answered with what the HAL returned for its buffer. -/
theorem writes_conserved (quantumCount : Nat)
    (events : List (ThreadEvent WriteCommand HalStreamOut (List UInt8))) :
    Conserves quantumCount (ServedThread.placeOf (after quantumCount events).thread.phase)
      (after quantumCount events).made (after quantumCount events).thread.data := by
  apply (keeps_conserves quantumCount).after
  · exact ⟨rfl, rfl, Nat.zero_le _, fun write hmem => (by cases hmem), fun _ hplace => (by cases hplace), rfl⟩
  · exact ServedThread.run_learns (fun _ _ => trivial) _ events

/-- The steps of the work from a place on. -/
def stepsFrom : WritePlace → Nat
  | .serving _ => 2
  | .reading _ => 1
  | .writing _ => 0

theorem stepsFrom_le (place : WritePlace) : stepsFrom place ≤ 2 := by
  cases place <;> simp [stepsFrom]

theorem workEnds : ServedThread.WorkEnds service stepsFrom 2 where
  accept_le _ := Nat.le_refl 2
  work_lt place hal data later hwork := by
    cases place with
    | serving command =>
        cases command <;> cases hwork
        exact Nat.lt_succ_self 1
    | reading availToRead =>
        change (work (.reading availToRead) hal data).1 = .inl later at hwork
        rw [work] at hwork
        cases hread : data.dataMq.read availToRead <;> rw [hread] at hwork <;> cases hwork
        exact Nat.one_pos
    | writing buffer => cases hwork

end WriteThread

end Penrose.Audio

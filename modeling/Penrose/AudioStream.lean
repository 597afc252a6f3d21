import Mathlib.Algebra.Ring.Int.Defs
import Mathlib.Algebra.Ring.Nat
import Mathlib.Data.List.Basic
import Mathlib.Tactic.SplitIfs
import Penrose.AudioDevice

/-! What a stream of the audio device tells and gives its client: the queue for the audio data, whose size the client
chooses, and the profiles that the HAL supports. -/

namespace Penrose.Audio

/-! ### The queue for the audio data -/

/-- `Stream::MAX_BUFFER_SIZE`. -/
def maxBufferSize : BitVec 32 := (2 : BitVec 32) <<< 30

/-- The largest buffer that a client is allowed, 1 GiB. -/
def allowedBufferSize : Nat := 2 ^ 30

/-- Whether the queues, their event flag and the thread could be made. -/
structure QueueReplies where
  commandMqIsValid : Bool
  dataMqIsValid : Bool
  statusMqIsValid : Bool
  eventFlag : Bool
  threadInit : Bool
  threadRun : Int

/-- What the client is told, and the size that the queue for the data was made with, if it was. -/
structure Prepared where
  result : Result
  dataMq : Option (BitVec 32)

/-- What `prepareForWriting` and `prepareForReading` do. `hasDataMq` says that the stream has a queue already. -/
def prepare (hasDataMq : Bool) (frameSize framesCount : BitVec 32) (replies : QueueReplies) : Prepared :=
  if hasDataMq then ⟨.invalidState, none⟩
  else if frameSize = 0 ∨ framesCount = 0 then ⟨.invalidArguments, none⟩
  else if frameSize > maxBufferSize / framesCount then ⟨.invalidArguments, none⟩
  else
    let dataMq := some (frameSize * framesCount)
    if !replies.commandMqIsValid || !replies.dataMqIsValid || !replies.statusMqIsValid then ⟨.invalidArguments, dataMq⟩
    else if !replies.eventFlag then ⟨.invalidArguments, dataMq⟩
    else if !replies.threadInit then ⟨.invalidArguments, dataMq⟩
    else if replies.threadRun ≠ 0 then ⟨.invalidArguments, dataMq⟩
    else ⟨.ok, dataMq⟩

def prepareForWriting : Bool → BitVec 32 → BitVec 32 → QueueReplies → Prepared := prepare

def prepareForReading : Bool → BitVec 32 → BitVec 32 → QueueReplies → Prepared := prepare

/-- A queue that was made has the size that was asked for, and this is allowed. -/
def Prepared.KeepsLimit (prepared : Prepared) (frameSize framesCount : BitVec 32) : Prop :=
  ∀ size, prepared.dataMq = some size →
    size.toNat = frameSize.toNat * framesCount.toNat ∧ size.toNat ≤ allowedBufferSize

/-- A size that is not rejected is at most the limit of the check. -/
theorem not_tooBig_iff (frameSize : BitVec 32) {framesCount : BitVec 32} (hcount : framesCount ≠ 0) :
    ¬ frameSize > maxBufferSize / framesCount ↔ frameSize.toNat * framesCount.toNat ≤ 2 ^ 31 := by
  have hpos : 0 < framesCount.toNat := Nat.pos_of_ne_zero fun h => hcount (BitVec.eq_of_toNat_eq h)
  rw [gt_iff_lt, BitVec.not_lt, BitVec.le_def, BitVec.toNat_udiv, Nat.le_div_iff_mul_le hpos]
  rfl

/-- A queue is made for every size up to the limit of the check. -/
theorem dataMq_prepare (frameSize framesCount : BitVec 32) (replies : QueueReplies) :
    (prepare false frameSize framesCount replies).dataMq =
      if frameSize = 0 ∨ framesCount = 0 then none
      else if frameSize.toNat * framesCount.toNat ≤ 2 ^ 31 then some (frameSize * framesCount)
      else none := by
  rw [prepare, if_neg (by decide)]
  by_cases hzero : frameSize = 0 ∨ framesCount = 0
  · rw [if_pos hzero, if_pos hzero]
  · rw [if_neg hzero, if_neg hzero]
    have hlimit := not_tooBig_iff frameSize (not_or.mp hzero).2
    by_cases hbig : frameSize > maxBufferSize / framesCount
    · rw [if_pos hbig, if_neg (hlimit.not_right.mp hbig)]
    · rw [if_neg hbig, if_pos (hlimit.mp hbig)]
      split_ifs <;> rfl

theorem keepsLimit_prepare_iff (hasDataMq : Bool) (frameSize framesCount : BitVec 32) (replies : QueueReplies) :
    (prepare hasDataMq frameSize framesCount replies).KeepsLimit frameSize framesCount ↔
      hasDataMq = true ∨ frameSize.toNat * framesCount.toNat ≤ 2 ^ 30 ∨
        2 ^ 31 < frameSize.toNat * framesCount.toNat := by
  cases hasDataMq with
  | true => exact iff_of_true (fun size hsize => by cases hsize) (Or.inl rfl)
  | false =>
      have hproduct (h : frameSize.toNat * framesCount.toNat ≤ 2 ^ 31) :
          (frameSize * framesCount).toNat = frameSize.toNat * framesCount.toNat := by
        rw [BitVec.toNat_mul, Nat.mod_eq_of_lt (Nat.lt_of_le_of_lt h (by decide))]
      rw [Prepared.KeepsLimit, dataMq_prepare, allowedBufferSize]
      split_ifs with hzero hmade
      · refine iff_of_true (fun size hsize => by cases hsize) (Or.inr (Or.inl ?_))
        have hnothing : frameSize.toNat * framesCount.toNat = 0 := by
          obtain hframe | hcount := hzero
          · rw [hframe]
            exact Nat.zero_mul _
          · rw [hcount]
            exact Nat.mul_zero _
        rw [hnothing]
        exact Nat.zero_le _
      · have hexact := hproduct hmade
        constructor
        · intro hkeeps
          exact Or.inr (Or.inl (hexact ▸ (hkeeps _ rfl).2))
        · intro hcondition size hsize
          cases hsize
          obtain hfalse | hallowed | hbig := hcondition
          · cases hfalse
          · exact ⟨hexact, hexact ▸ hallowed⟩
          · exact absurd hmade (Nat.not_le_of_lt hbig)
      · exact iff_of_true (fun size hsize => by cases hsize) (Or.inr (Or.inr (Nat.lt_of_not_le hmade)))

/-- The queues keep to the limit if and only if the client asks for at most as much, or for more than 2 GiB. -/
theorem prepared_keepsLimit_iff (hasDataMq : Bool) (frameSize framesCount : BitVec 32) (replies : QueueReplies) :
    ((prepareForWriting hasDataMq frameSize framesCount replies).KeepsLimit frameSize framesCount ∧
        (prepareForReading hasDataMq frameSize framesCount replies).KeepsLimit frameSize framesCount) ↔
      hasDataMq = true ∨ frameSize.toNat * framesCount.toNat ≤ 2 ^ 30 ∨
        2 ^ 31 < frameSize.toNat * framesCount.toNat := by
  rw [prepareForWriting, prepareForReading, keepsLimit_prepare_iff, and_self]

/-- Frames of 64 KiB, and so many that they take 2 GiB. -/
theorem twoGiB_prepared :
    ¬ (prepareForWriting false 0x10000 0x8000 ⟨true, true, true, true, true, 0⟩).KeepsLimit 0x10000 0x8000 := by
  intro hkeeps
  have hlimit := (hkeeps 0x80000000 rfl).2
  exact absurd hlimit (by decide)

end Penrose.Audio

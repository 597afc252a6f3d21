import Penrose.GptFaults

/-! What `blk_rw` counts as success. Here nothing is known about the environment but the types of its replies, so
every outcome of every call is covered, and a run is told by the calls it makes and the replies they get. A short
count is taken for success; what `UPDATE_MAIN` has done before it invalidates the primary header is therefore
known for the runs without one. -/

namespace Penrose.Gpt

open ByteRegions CallTree

/-! ### Transcripts -/

/-- A call with its reply. -/
abbrev Event := (c : Syscall) × c.Reply

abbrev Transcript := List Event

/-- The replies a call can get: a transfer moves at most the bytes it is asked to. -/
def Syscall.Allows : (c : Syscall) → c.Reply → Prop
  | .malloc size, buf => ∀ bytes, buf = some bytes → bytes.length = size
  | .calloc size, buf => ∀ bytes, buf = some bytes → bytes = List.replicate size 0
  | .read _ len, data => ∀ bytes, data = some bytes → bytes.length ≤ len
  | .write _ data, count => ∀ n, count = some n → n ≤ data.length
  | _, _ => True

/-- Every environment, its state being what it has been asked and has replied. -/
def transcripts : World sysSignature Transcript where
  answer (c : Syscall) T (r : c.Reply) T' := c.Allows r ∧ T' = T ++ [⟨c, r⟩]
  interrupt _ _ _ := False

/-- The transfer moved less than it was asked to. -/
def Event.isShort : Event → Bool
  | ⟨.read _ len, some data⟩ => data.length < len
  | ⟨.write _ data, some n⟩ => n < data.length
  | _ => false

/-- The reads, the writes and the `fsync`s of a transcript. -/
def transfers (T : Transcript) : Transcript := T.filter fun e => e.1.isTransfer

/-- No transfer is short, except that a write may be when an `fsync` fails. -/
def InFull (T : Transcript) : Prop :=
  ∀ e ∈ T, e.isShort = true → (∃ offset data n, e = ⟨.write offset data, some n⟩) ∧ ⟨.fsync, false⟩ ∈ T

theorem transfers_append (T U : Transcript) : transfers (T ++ U) = transfers T ++ transfers U :=
  List.filter_append ..

section Runs

variable {α : Type} {T T' : Transcript} {a : α}

theorem returns_sys_bind_iff {c : Syscall} {f : c.Reply → Sys α} :
    Returns transcripts (sys c >>= f) T a T' ↔
      ∃ r, c.Allows r ∧ Returns transcripts (f r) (T ++ [⟨c, r⟩]) a T' := by
  rw [sys_bind]
  apply returns_call_iff.trans
  refine ⟨?_, ?_⟩
  · rintro ⟨r, _, ⟨hallows, rfl⟩, h⟩
    exact ⟨r, hallows, h⟩
  · rintro ⟨r, hallows, h⟩
    exact ⟨r, _, ⟨hallows, rfl⟩, h⟩

/-- A program that transfers nothing leaves the transfers as they are. -/
theorem transfers_of_quiet {p : Sys α} (hp : Only Syscall.Quiet p) (h : Returns transcripts p T a T') :
    transfers T' = transfers T := by
  induction h with
  | done value T => rfl
  | @call c next r T U T' value hanswer _ ih =>
      obtain ⟨-, rfl⟩ := hanswer
      have hquiet : Syscall.isTransfer c = false := hp.1
      rw [ih (hp.2 r), transfers_append, transfers, transfers, List.filter_cons_of_neg (by simp [hquiet])]
      exact List.append_nil _

end Runs

/-! ### `blk_rw` -/

section BlkRw

variable {offset : Int} {buf : Bytes} {T T' : Transcript}

/-- The ways in which a read can go. -/
theorem returns_blkRead {x : Int × Bytes} (h : Returns transcripts (blkRead offset buf) T x T') :
    x = (-1, buf) ∧ (T' = T ++ [⟨.lseekSet offset, false⟩] ∨
        T' = T ++ [⟨.lseekSet offset, true⟩] ++ [⟨.read offset buf.length, none⟩]) ∨
      ∃ data : Bytes, data.length ≤ buf.length ∧ x = (0, data ++ buf.drop data.length) ∧
        T' = T ++ [⟨.lseekSet offset, true⟩] ++ [⟨.read offset buf.length, some data⟩] := by
  unfold blkRead at h
  obtain ⟨seek, -, h⟩ := returns_sys_bind_iff.mp h
  cases seek with
  | false =>
      obtain ⟨rfl, rfl⟩ := returns_done_iff.mp h
      exact Or.inl ⟨rfl, Or.inl rfl⟩
  | true =>
      obtain ⟨data, hallows, h⟩ := returns_sys_bind_iff.mp h
      cases data with
      | none =>
          obtain ⟨rfl, rfl⟩ := returns_done_iff.mp h
          exact Or.inl ⟨rfl, Or.inr rfl⟩
      | some data =>
          obtain ⟨rfl, rfl⟩ := returns_done_iff.mp h
          exact Or.inr ⟨data, hallows data rfl, rfl, rfl⟩

/-- The ways in which a write can go. -/
theorem returns_blkWrite {r : Int} (h : Returns transcripts (blkWrite offset buf) T r T') :
    r = -1 ∧ (T' = T ++ [⟨.lseekSet offset, false⟩] ∨
        T' = T ++ [⟨.lseekSet offset, true⟩] ++ [⟨.write offset buf, none⟩]) ∨
      ∃ n ≤ buf.length, ∃ synced : Bool, r = (if synced then 0 else -1) ∧
        T' = T ++ [⟨.lseekSet offset, true⟩] ++ [⟨.write offset buf, some n⟩] ++ [⟨.fsync, synced⟩] := by
  unfold blkWrite at h
  obtain ⟨seek, -, h⟩ := returns_sys_bind_iff.mp h
  cases seek with
  | false =>
      obtain ⟨rfl, rfl⟩ := returns_done_iff.mp h
      exact Or.inl ⟨rfl, Or.inl rfl⟩
  | true =>
      obtain ⟨count, hallows, h⟩ := returns_sys_bind_iff.mp h
      cases count with
      | none =>
          obtain ⟨rfl, rfl⟩ := returns_done_iff.mp h
          exact Or.inl ⟨rfl, Or.inr rfl⟩
      | some n =>
          obtain ⟨synced, -, h⟩ := returns_sys_bind_iff.mp h
          obtain ⟨rfl, rfl⟩ := returns_done_iff.mp h
          exact Or.inr ⟨n, hallows n rfl, synced, rfl, rfl⟩

/-- A read that returned 0 has filled the front of the buffer, and nothing says how much of it. -/
theorem transfers_blkRead {filled : Bytes} (h : Returns transcripts (blkRead offset buf) T (0, filled) T') :
    filled.length = buf.length ∧ ∃ n ≤ buf.length,
      transfers T' = transfers T ++ [⟨.read offset buf.length, some (filled.take n)⟩] := by
  rcases returns_blkRead h with ⟨hx, -⟩ | ⟨data, hlen, hx, rfl⟩
  · cases hx
  obtain rfl : filled = data ++ buf.drop data.length := (Prod.mk.inj hx).2
  refine ⟨?_, data.length, hlen, ?_⟩
  · rw [List.length_append, List.length_drop]
    omega
  · rw [List.append_assoc, transfers_append, List.take_left]
    rfl

theorem transfers_blkWrite (h : Returns transcripts (blkWrite offset buf) T 0 T') :
    ∃ n ≤ buf.length, transfers T' = transfers T ++ [⟨.write offset buf, some n⟩, ⟨.fsync, true⟩] := by
  rcases returns_blkWrite h with ⟨hr, -⟩ | ⟨n, hlen, synced, hr, rfl⟩
  · exact absurd hr (by decide)
  · cases synced with
    | false => exact absurd hr (by decide)
    | true =>
        refine ⟨n, hlen, ?_⟩
        rw [List.append_assoc, List.append_assoc, transfers_append]
        rfl

/-- A read for which `blk_rw` returned 0 has transferred the whole buffer exactly if it was not short. -/
theorem blkRead_complete_iff {x : Int × Bytes} (h : Returns transcripts (blkRead offset buf) [] x T) :
    (x.1 = 0 → ∃ data : Bytes, data.length = buf.length ∧ ⟨.read offset buf.length, some data⟩ ∈ T) ↔ InFull T := by
  rcases returns_blkRead h with ⟨rfl, rfl | rfl⟩ | ⟨data, hlen, rfl, rfl⟩
  · exact iff_of_true nofun (by simp [InFull, Event.isShort])
  · exact iff_of_true nofun (by simp [InFull, Event.isShort])
  · constructor
    · intro hfull
      obtain ⟨data', hlen', hmem⟩ := hfull rfl
      obtain rfl : data' = data := by simpa using hmem
      simp [InFull, Event.isShort, hlen']
    · intro hfull _
      refine ⟨data, hlen.antisymm (Nat.not_lt.mp fun hshort => ?_), by simp⟩
      obtain ⟨⟨_, _, _, hwrite⟩, -⟩ := hfull ⟨.read offset buf.length, some data⟩ (by simp) (by simpa [Event.isShort])
      cases hwrite

/-- A write for which `blk_rw` returned 0 has transferred the whole buffer exactly if it was not short. -/
theorem blkWrite_complete_iff {r : Int} (h : Returns transcripts (blkWrite offset buf) [] r T) :
    (r = 0 → ⟨.write offset buf, some buf.length⟩ ∈ T) ↔ InFull T := by
  rcases returns_blkWrite h with ⟨rfl, rfl | rfl⟩ | ⟨n, hlen, synced, rfl, rfl⟩
  · exact iff_of_true nofun (by simp [InFull, Event.isShort])
  · exact iff_of_true nofun (by simp [InFull, Event.isShort])
  · cases synced with
    | false => exact iff_of_true nofun (by simp [InFull, Event.isShort])
    | true =>
        refine ⟨?_, ?_⟩
        · intro hfull
          have hcount : buf.length = n := by simpa using hfull rfl
          simp [InFull, Event.isShort, hcount]
        · intro hfull _
          obtain rfl : n = buf.length := by
            refine hlen.antisymm (Nat.not_lt.mp fun hshort => ?_)
            obtain ⟨-, hsync⟩ := hfull ⟨.write offset buf, some n⟩ (by simp) (by simpa [Event.isShort])
            simp at hsync
          simp

end BlkRw

/-! ### `UPDATE_MAIN` -/

/-- What `gpt2_set_boot_chain` does up to its success: what its buffers hold after the three reads, the header and the
array computed from them, and how many bytes each transfer has moved. -/
structure ChainTransfers (crc : Bytes → UInt32) (isUfs : Bool) (boot : BootChain) where
  blkSize : Nat
  gpt2HeaderOffset : Int
  primary : Bytes
  start : Int
  pentrySize : Nat
  pentries : Bytes
  secondary : Bytes
  newStart : Int
  newPentries : Bytes
  newHeader : Bytes
  primaryCount : Nat
  pentriesCount : Nat
  secondaryCount : Nat
  newHeaderCount : Nat
  newPentriesCount : Nat
  length_primary : primary.length = blkSize
  start_eq : pentriesStartOffset primary blkSize = some start
  pentrySize_eq : get4Bytes primary pentrySizeOffset = some pentrySize
  arraySize_eq : pentriesArraySize primary = some pentries.length
  stored : get4Bytes primary partitionCrcOffset = some (crc pentries).toNat
  length_secondary : secondary.length = blkSize
  newStart_eq : pentriesStartOffset secondary blkSize = some newStart
  chained : bootChainArray isUfs boot pentries pentrySize = some (0, newPentries)
  newHeader_eq : bootChainHeader crc secondary (crc newPentries).toNat = some newHeader
  primaryCount_le : primaryCount ≤ blkSize
  pentriesCount_le : pentriesCount ≤ pentries.length
  secondaryCount_le : secondaryCount ≤ blkSize
  newHeaderCount_le : newHeaderCount ≤ newHeader.length
  newPentriesCount_le : newPentriesCount ≤ newPentries.length

namespace ChainTransfers

variable {crc : Bytes → UInt32} {isUfs : Bool} {boot : BootChain}

/-- The reads, the writes and the `fsync`s of the call. -/
def transfers (w : ChainTransfers crc isUfs boot) : Transcript :=
  [⟨.read w.blkSize w.blkSize, some (w.primary.take w.primaryCount)⟩,
    ⟨.read w.start w.pentries.length, some (w.pentries.take w.pentriesCount)⟩,
    ⟨.read w.gpt2HeaderOffset w.blkSize, some (w.secondary.take w.secondaryCount)⟩,
    ⟨.write w.gpt2HeaderOffset w.newHeader, some w.newHeaderCount⟩, ⟨.fsync, true⟩,
    ⟨.write w.newStart w.newPentries, some w.newPentriesCount⟩, ⟨.fsync, true⟩]

/-- The primary array and both headers have been read, and the new header and array written, to their last byte. -/
structure Complete (w : ChainTransfers crc isUfs boot) : Prop where
  primary : w.primaryCount = w.blkSize
  pentries : w.pentriesCount = w.pentries.length
  secondary : w.secondaryCount = w.blkSize
  newHeader : w.newHeaderCount = w.newHeader.length
  newPentries : w.newPentriesCount = w.newPentries.length

theorem complete_iff (w : ChainTransfers crc isUfs boot) :
    w.Complete ↔ ∀ e ∈ w.transfers, e.isShort = false := by
  have h1 := w.primaryCount_le
  have h2 := w.pentriesCount_le
  have h3 := w.secondaryCount_le
  have h4 := w.newHeaderCount_le
  have h5 := w.newPentriesCount_le
  simp only [transfers, Event.isShort, List.forall_mem_cons, List.length_take, w.length_primary, w.length_secondary,
    decide_eq_false_iff_not, not_lt, List.not_mem_nil, IsEmpty.forall_iff, implies_true, and_true, true_and]
  refine ⟨?_, ?_⟩
  · rintro ⟨hprimary, hpentries, hsecondary, hnewHeader, hnewPentries⟩
    omega
  · rintro ⟨hprimary, hpentries, hsecondary, hnewHeader, hnewPentries⟩
    constructor <;> omega

end ChainTransfers

section Chain

variable {crc : Bytes → UInt32} {isUfs : Bool} {boot : BootChain} {T T' : Transcript}

theorem returns_of_continue {r : Int} {p : Sys Int} (h : Returns transcripts (if r != 0 then return r else p) T 0 T') :
    r = 0 ∧ Returns transcripts p T 0 T' := by
  by_cases hr : r = 0
  · subst hr
    exact ⟨rfl, h⟩
  · rw [if_pos (by simpa using hr)] at h
    exact absurd (returns_done_iff.mp h).1.symm hr

/-- What a call of `gpt2_set_boot_chain` that returned 0 has transferred. -/
theorem transfers_gpt2SetBootChain (h : Returns transcripts (gpt2SetBootChain crc isUfs boot) T 0 T') :
    ∃ w : ChainTransfers crc isUfs boot, transfers T' = transfers T ++ w.transfers := by
  unfold gpt2SetBootChain at h
  obtain ⟨blkSize, -, h⟩ := returns_sys_bind_iff.mp h
  cases blkSize with
  | none => cases h
  | some blkSize =>
  obtain ⟨buf, hbuf, h⟩ := returns_sys_bind_iff.mp h
  cases buf with
  | none => cases h
  | some buf =>
  obtain ⟨deviceEnd, -, h⟩ := returns_sys_bind_iff.mp h
  obtain rfl : buf.length = blkSize := hbuf buf rfl
  simp only at h
  split_ifs at h with hneg
  · cases h
  -- the primary header
  obtain ⟨⟨r, primary⟩, T₁, hread, h⟩ := returns_bind_iff.mp h
  obtain ⟨rfl, h⟩ := returns_of_continue h
  obtain ⟨hprimary, n₁, hn₁, hT₁⟩ := transfers_blkRead hread
  obtain ⟨start, hstart, h⟩ := returns_ofOption_bind_iff.mp h
  obtain ⟨pentrySize, hpentrySize, h⟩ := returns_ofOption_bind_iff.mp h
  obtain ⟨arraySize, harraySize, h⟩ := returns_ofOption_bind_iff.mp h
  -- the primary array
  obtain ⟨zeros, hzeros, h⟩ := returns_sys_bind_iff.mp h
  cases zeros with
  | none => cases h
  | some zeros =>
  obtain rfl : zeros.length = arraySize := by
    rw [hzeros zeros rfl, List.length_replicate]
  obtain ⟨⟨r, pentries⟩, T₂, hread, h⟩ := returns_bind_iff.mp h
  obtain ⟨rfl, h⟩ := returns_of_continue h
  obtain ⟨hpentries, n₂, hn₂, hT₂⟩ := transfers_blkRead hread
  obtain ⟨sum, hsum, h⟩ := returns_ofOption_bind_iff.mp h
  obtain ⟨stored, hstored, h⟩ := returns_ofOption_bind_iff.mp h
  split_ifs at h with hne
  · cases h
  -- the secondary header
  obtain ⟨⟨r, secondary⟩, T₃, hread, h⟩ := returns_bind_iff.mp h
  obtain ⟨rfl, h⟩ := returns_of_continue h
  obtain ⟨hsecondary, n₃, hn₃, hT₃⟩ := transfers_blkRead hread
  obtain ⟨newStart, hnewStart, h⟩ := returns_ofOption_bind_iff.mp h
  obtain ⟨⟨r, newPentries⟩, hchained, h⟩ := returns_ofOption_bind_iff.mp h
  obtain ⟨rfl, h⟩ := returns_of_continue h
  -- the two writes
  obtain ⟨newSum, hnewSum, h⟩ := returns_ofOption_bind_iff.mp h
  obtain ⟨newHeader, hnewHeader, h⟩ := returns_ofOption_bind_iff.mp h
  obtain ⟨r, T₄, hwrite, h⟩ := returns_bind_iff.mp h
  obtain ⟨rfl, h⟩ := returns_of_continue h
  obtain ⟨n₄, hn₄, hT₄⟩ := transfers_blkWrite hwrite
  obtain ⟨n₅, hn₅, hT'⟩ := transfers_blkWrite h
  have hnewLen : newPentries.length = zeros.length := (bootChainArray_spec hchained).1.trans hpentries
  obtain rfl : (crc pentries).toNat = sum := Option.some.inj ((crc32_of_length hpentries).symm.trans hsum)
  obtain rfl : (crc newPentries).toNat = newSum :=
    Option.some.inj ((crc32_of_length hnewLen).symm.trans hnewSum)
  obtain rfl : stored = (crc pentries).toNat := by simpa using hne
  refine ⟨{
    blkSize := buf.length, gpt2HeaderOffset := deviceEnd - buf.length, primary, start, pentrySize, pentries, secondary,
    newStart, newPentries, newHeader, primaryCount := n₁, pentriesCount := n₂, secondaryCount := n₃,
    newHeaderCount := n₄, newPentriesCount := n₅, length_primary := hprimary, start_eq := hstart,
    pentrySize_eq := hpentrySize, arraySize_eq := hpentries.symm ▸ harraySize, stored := hstored,
    length_secondary := hsecondary.trans hprimary, newStart_eq := hnewStart, chained := hchained,
    newHeader_eq := hnewHeader, primaryCount_le := hn₁, pentriesCount_le := hpentries.symm ▸ hn₂,
    secondaryCount_le := hn₃.trans hprimary.le, newHeaderCount_le := hn₄, newPentriesCount_le := hn₅ }, ?_⟩
  rw [hT', hT₄, hT₃, hT₂, transfers_append, hT₁, transfers_append, transfers_append, transfers_append]
  simp [transfers, ChainTransfers.transfers, Syscall.isTransfer, hprimary, hpentries]

/-- A header state that was determined has taken one read. -/
theorem transfers_gptGetState {gpt : GptInstance} {state : GptState}
    (h : Returns transcripts (gptGetState crc gpt) T (0, state) T') :
    ∃ e : Event, transfers T' = transfers T ++ [e] := by
  obtain ⟨x, T₁, hread, h⟩ := returns_bind_iff.mp h
  cases x with
  | none => cases h
  | some x =>
  obtain ⟨_, -, h⟩ := returns_ofOption_bind_iff.mp h
  obtain ⟨-, rfl⟩ := returns_done_iff.mp h
  unfold readGptHeader at hread
  obtain ⟨blkSize, -, h⟩ := returns_sys_bind_iff.mp hread
  cases blkSize with
  | none => cases h
  | some blkSize =>
  obtain ⟨buf, -, h⟩ := returns_sys_bind_iff.mp h
  cases buf with
  | none => cases h
  | some buf =>
  obtain ⟨offset, T₂, hoffset, h⟩ := returns_bind_iff.mp h
  have hT₂ := transfers_of_quiet (only_gptHeaderOffset gpt blkSize) hoffset
  split_ifs at h with hneg
  · cases h
  obtain ⟨⟨r, gptHeader⟩, T₃, hread, h⟩ := returns_bind_iff.mp h
  by_cases hr : r = 0
  · subst hr
    obtain ⟨-, n, -, hT₃⟩ := transfers_blkRead hread
    obtain ⟨-, rfl⟩ := returns_done_iff.mp h
    refine ⟨⟨.read offset buf.length, some (gptHeader.take n)⟩, ?_⟩
    rw [hT₃, hT₂, transfers_append, transfers_append]
    simp [transfers, Syscall.isTransfer]
  · obtain ⟨hx, -⟩ := returns_done_iff.mp h
    simp [hr] at hx

end Chain

/-- `prepare_partitions` with `UPDATE_MAIN`, from `open` to the invalidation of the primary header; a value is what it
returns without it. -/
def updateMainChain (crc : Bytes → UInt32) (isUfs : Bool) : Sys (Option Int) := do
  let (r, gptPrim) ← gptGetState crc .primaryGpt
  if r != 0 then
    return some 1
  let (r, gptSecond) ← gptGetState crc .secondaryGpt
  if r != 0 then
    return some 1
  match internalStage gptPrim gptSecond with
  | none => return some (-1)
  | some internal =>
  if BootUpdateStage.updateMain.toInt = internal.toInt - 1 then
    return some 0
  if .updateMain ≠ internal then
    return some (-1)
  let r ← switchBootLun isUfs .backupBoot
  if r != 0 then
    return some r
  let r ← gpt2SetBootChain crc isUfs .backupBoot
  if r != 0 then
    return some (if r < 0 then r else 0)
  return none

/-- What `prepare_partitions` goes on with: the primary header is invalidated unless there is a value to return. -/
def finishUpdateMain (crc : Bytes → UInt32) : Option Int → Sys Int
  | some r => return r
  | none => gptSetState crc .primaryGpt .gptBadSignature

/-- The last transfers are those of a `gpt2_set_boot_chain` that moved every byte; the two before it have determined
the states of the headers. -/
def ChainInFull (crc : Bytes → UInt32) (isUfs : Bool) (T : Transcript) : Prop :=
  ∃ (before : Transcript) (w : ChainTransfers crc isUfs .backupBoot),
    before.length = 2 ∧ transfers T = before ++ w.transfers ∧ w.Complete

section Main

variable {crc : Bytes → UInt32} {isUfs : Bool} {T : Transcript}

theorem prepareOpened_updateMain :
    prepareOpened crc isUfs .updateMain = updateMainChain crc isUfs >>= finishUpdateMain crc := by
  unfold prepareOpened updateMainChain
  rw [LawfulMonad.bind_assoc]
  congr 1
  funext ⟨r, gptPrim⟩
  simp only
  split_ifs
  · rfl
  rw [LawfulMonad.bind_assoc]
  congr 1
  funext ⟨r, gptSecond⟩
  simp only
  split_ifs
  · rfl
  cases internalStage gptPrim gptSecond with
  | none => rfl
  | some internal =>
  simp only
  split_ifs
  · rfl
  · rfl
  rw [LawfulMonad.bind_assoc]
  refine congrArg (switchBootLun isUfs .backupBoot >>= ·) (funext fun r => ?_)
  split_ifs
  · rfl
  rw [LawfulMonad.bind_assoc]
  refine congrArg (gpt2SetBootChain crc isUfs .backupBoot >>= ·) (funext fun r => ?_)
  split_ifs <;> rfl

theorem returns_some_of_continue {r : Int} {p : Sys (Option Int)} {T' : Transcript} {f : Int → Int}
    (h : Returns transcripts (if r != 0 then return some (f r) else p) T none T') :
    r = 0 ∧ Returns transcripts p T none T' := by
  by_cases hr : r = 0
  · subst hr
    exact ⟨rfl, h⟩
  · rw [if_pos (by simpa using hr)] at h
    cases h

/-- What has been transferred when the primary header is invalidated. -/
theorem transfers_updateMainChain {T₀ : Transcript} (hT₀ : transfers T₀ = [])
    (h : Returns transcripts (updateMainChain crc isUfs) T₀ none T) :
    ∃ (before : Transcript) (w : ChainTransfers crc isUfs .backupBoot),
      before.length = 2 ∧ transfers T = before ++ w.transfers := by
  obtain ⟨⟨r, gptPrim⟩, T₁, hprim, h⟩ := returns_bind_iff.mp h
  obtain ⟨rfl, hafterPrim⟩ := returns_some_of_continue (f := fun _ => 1) h
  obtain ⟨⟨r, gptSecond⟩, T₂, hsecond, h⟩ := returns_bind_iff.mp hafterPrim
  obtain ⟨rfl, hdecide⟩ := returns_some_of_continue (f := fun _ => 1) h
  obtain ⟨e₁, hT₁⟩ := transfers_gptGetState hprim
  obtain ⟨e₂, hT₂⟩ := transfers_gptGetState hsecond
  cases hinternal : internalStage gptPrim gptSecond with
  | none =>
      rw [hinternal] at hdecide
      cases hdecide
  | some internal =>
  rw [hinternal] at hdecide
  simp only at hdecide
  split_ifs at hdecide
  · cases hdecide
  · cases hdecide
  obtain ⟨r, T₃, hswitch, h⟩ := returns_bind_iff.mp hdecide
  obtain ⟨rfl, hafterSwitch⟩ := returns_some_of_continue (f := id) h
  obtain ⟨r, T₄, hchain, h⟩ := returns_bind_iff.mp hafterSwitch
  obtain ⟨rfl, hend⟩ := returns_some_of_continue (f := fun r => if r < 0 then r else 0) h
  obtain ⟨-, rfl⟩ := returns_done_iff.mp hend
  obtain ⟨w, hw⟩ := transfers_gpt2SetBootChain hchain
  refine ⟨[e₁, e₂], w, rfl, ?_⟩
  rw [hw, transfers_of_quiet (only_switchBootLun _ _) hswitch, hT₂, hT₁, hT₀]
  rfl

theorem ChainInFull.inFull (h : ChainInFull crc isUfs T) : ∀ e ∈ (transfers T).drop 2, e.isShort = false := by
  obtain ⟨before, w, hbefore, hT, hcomplete⟩ := h
  rw [hT, List.drop_left' hbefore]
  exact w.complete_iff.mp hcomplete

/-- A transfer for which `blk_rw` returns 0 is complete exactly if it is not short. In a call with `UPDATE_MAIN` the
invalidation of the primary header comes after a complete chain exactly if no transfer of the chain is short; which
transfers were made before it does not depend on their counts. -/
theorem transfersComplete_iff :
    (∀ (offset : Int) (buf : Bytes) (x : Int × Bytes) (T : Transcript),
      Returns transcripts (blkRead offset buf) [] x T →
      ((x.1 = 0 → ∃ data : Bytes, data.length = buf.length ∧ ⟨.read offset buf.length, some data⟩ ∈ T) ↔
        InFull T)) ∧
    (∀ (offset : Int) (buf : Bytes) (r : Int) (T : Transcript), Returns transcripts (blkWrite offset buf) [] r T →
      ((r = 0 → ⟨.write offset buf, some buf.length⟩ ∈ T) ↔ InFull T)) ∧
    ∀ devPath : String,
      (preparePartitions crc isUfs .updateMain devPath = do
        if !(← sys (.open devPath)) then
          return -1
        let r ← updateMainChain crc isUfs >>= finishUpdateMain crc
        let _ ← sys .fsync
        return r) ∧
      ∀ T, Returns transcripts (updateMainChain crc isUfs) [⟨.open devPath, true⟩] none T →
        (ChainInFull crc isUfs T ↔ ∀ e ∈ (transfers T).drop 2, e.isShort = false) := by
  refine ⟨fun offset buf x T => blkRead_complete_iff, fun offset buf r T => blkWrite_complete_iff, fun devPath => ?_⟩
  constructor
  · rw [← prepareOpened_updateMain]
    rfl
  intro T h
  obtain ⟨before, w, hbefore, hT⟩ := transfers_updateMainChain rfl h
  refine ⟨ChainInFull.inFull, fun hfull => ?_⟩
  rw [hT, List.drop_left' hbefore] at hfull
  exact ⟨before, w, hbefore, hT, w.complete_iff.mpr hfull⟩

end Main

/-- The replies of the small disk when the write of the secondary array moves one byte and no more. -/
def shortReply : (c : Syscall) → c.Reply
  | .open _ => true
  | .ioctlBlkSszGet => some sampleImage.blkSize
  | .malloc size => some (List.replicate size 0)
  | .calloc size => some (List.replicate size 0)
  | .lseekEnd => sampleImage.geometry.size
  | .lseekSet _ => true
  | .read offset len => some (slice sampleImage.media offset.toNat len)
  | .write offset data => some (if offset = 512 ∧ 1 ≤ data.length then 1 else data.length)
  | .fsync => true
  | .stat _ => false
  | .readlink _ => none
  | .listDir _ => none
  | .setBootLun _ _ => false

theorem shortReply_allowed (c : Syscall) : c.Allows (shortReply c) := by
  cases c with
  | malloc size =>
      rintro _ ⟨⟩
      exact List.length_replicate
  | calloc size =>
      rintro _ ⟨⟩
      rfl
  | read offset len =>
      rintro _ ⟨⟩
      exact (length_slice ..).le
  | write offset data =>
      rintro _ ⟨⟩
      split_ifs with hshort
      · exact hshort.2
      · exact le_refl _
  | _ => trivial

def shortWrites : Machine sysSignature Transcript where
  answer (c : Syscall) T := (shortReply c, T ++ [⟨c, shortReply c⟩])

theorem returns_of_shortWrites {α : Type} {p : Sys α} {a : α} {T T' : Transcript}
    (h : shortWrites.run p T = some (a, T')) : Returns transcripts p T a T' := by
  refine Returns.mono (fun c T r T' hanswer => ?_) (Machine.returns_iff_run shortWrites |>.mpr h)
  obtain ⟨rfl, rfl⟩ := Prod.mk.inj (show (shortReply c, T ++ [⟨c, shortReply c⟩]) = (r, T') from hanswer)
  exact ⟨shortReply_allowed c, rfl⟩

/-- A write of one byte counts as success, and `UPDATE_MAIN` goes on to invalidate the primary header after it. -/
theorem shortArray_succeeds :
    (∃ T, Returns transcripts (blkWrite 512 [0, 0]) [] 0 T ∧ ⟨.write 512 [0, 0], some 2⟩ ∉ T) ∧
    ∃ T T', Returns transcripts (updateMainChain byteSum false) [⟨.open "/dev/block/sda", true⟩] none T ∧
      ¬ ChainInFull byteSum false T ∧
      Returns transcripts (gptSetState byteSum .primaryGpt .gptBadSignature) T 0 T' := by
  constructor
  · exact ⟨[⟨.lseekSet 512, true⟩, ⟨.write 512 [0, 0], some 1⟩, ⟨.fsync, true⟩], returns_of_shortWrites rfl,
      by simp⟩
  have hrun : ((shortWrites.run (updateMainChain byteSum false) [⟨.open "/dev/block/sda", true⟩]).any fun x =>
      x.1 == none && ((transfers x.2).drop 2).any Event.isShort &&
        (shortWrites.run (gptSetState byteSum .primaryGpt .gptBadSignature) x.2).any fun y => y.1 == 0) = true := by
    decide +kernel
  obtain ⟨⟨stop, T⟩, hchain, hcheck⟩ := Option.any_eq_true _ _ |>.mp hrun
  simp only [Bool.and_eq_true, beq_iff_eq] at hcheck
  obtain ⟨⟨rfl, hshort⟩, hset⟩ := hcheck
  obtain ⟨⟨r, T'⟩, hset, hr⟩ := Option.any_eq_true _ _ |>.mp hset
  obtain rfl : r = 0 := by simpa using hr
  refine ⟨T, T', returns_of_shortWrites hchain, fun hwritten => ?_, returns_of_shortWrites hset⟩
  obtain ⟨e, he, hshort⟩ := List.any_eq_true.mp hshort
  rw [hwritten.inFull e he] at hshort
  cases hshort

end Penrose.Gpt

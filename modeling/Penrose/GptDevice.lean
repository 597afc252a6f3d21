import Penrose.GptUtils

/-! The block device under the system calls, and the ways it can behave: a working device answers every
call in one way; on a failing one the calls of a given list fail without an effect; on a faulty one
failed and interrupted writes leave traces, atomic for a header block and arbitrary for anything else. -/

namespace Penrose.Gpt

open ByteRegions CallTree

/-- The shape of a device, whose logical blocks hold at least the header fields that are read. -/
structure Geometry where
  blkSize : Nat
  blocks : Nat
  room : partitionCrcOffset + 4 ≤ blkSize

/-- What changes on a device: its bytes and the UFS boot LUN attribute. -/
@[ext] structure Device where
  media : Nat → UInt8
  bootLun : Nat

namespace Geometry

variable (g : Geometry)

/-- The size in bytes, where `lseek64(fd, 0, SEEK_END)` ends. -/
def size : Nat := g.blocks * g.blkSize

/-- The first byte of a header block. -/
def headerPos : GptInstance → Nat
  | .primaryGpt => g.blkSize
  | .secondaryGpt => g.size - g.blkSize

/-- The bytes of a header block. -/
def header (m : Nat → UInt8) (gpt : GptInstance) : Bytes := slice m (g.headerPos gpt) g.blkSize

@[simp] theorem length_header (m : Nat → UInt8) (gpt : GptInstance) :
    (g.header m gpt).length = g.blkSize := length_slice ..

section Contents

variable {g} {crc : Bytes → UInt32} {m : Nat → UInt8} {gpt : GptInstance}

/-- What is written over a header block fills it. -/
theorem length_repaired_header (hfits : HeaderFits (g.header m gpt)) :
    (repaired crc (g.header m gpt)).length = g.blkSize :=
  (length_repaired hfits).trans (g.length_header ..)

theorem length_corrupted_header (hfits : HeaderFits (g.header m gpt)) :
    (corrupted crc (g.header m gpt)).length = g.blkSize :=
  (length_corrupted hfits).trans (g.length_header ..)

theorem length_withArrayCrc_header (hfits : HeaderFits (g.header m gpt)) (sum : Nat) :
    (withArrayCrc crc (g.header m gpt) sum).length = g.blkSize :=
  (length_withArrayCrc hfits sum).trans (g.length_header ..)

end Contents

/-- Where the entry array of a header starts, as the signed offset given to `lseek64`. -/
def startOf (gptHeader : Bytes) : Int := (BitVec.ofNat 64 (word8 gptHeader pentriesOffset * g.blkSize)).toInt

end Geometry

/-- The size in bytes of the entry array of a header. -/
def arraySizeOf (gptHeader : Bytes) : Nat :=
  word4 gptHeader partitionCountOffset * word4 gptHeader pentrySizeOffset % 2 ^ 32

theorem pentrySize_pos {gptHeader : Bytes} (harr : 0 < arraySizeOf gptHeader) :
    0 < word4 gptHeader pentrySizeOffset := by
  by_contra hzero
  rw [arraySizeOf, Nat.eq_zero_of_not_pos hzero] at harr
  exact absurd harr (by simp)

/-! ### The fields of a header block on the device -/

section Fields

variable {g : Geometry} {m : Nat → UInt8} {gpt : GptInstance}

theorem get4Bytes_header {off : Nat} (hoff : off + 4 ≤ partitionCrcOffset + 4) :
    get4Bytes (g.header m gpt) off = some (word4 (g.header m gpt) off) :=
  if_pos (by rw [g.length_header]; exact hoff.trans g.room)

theorem pentriesStartOffset_header :
    pentriesStartOffset (g.header m gpt) g.blkSize = some (g.startOf (g.header m gpt)) := by
  have hlen : pentriesOffset + 8 ≤ (g.header m gpt).length := by
    rw [g.length_header]
    exact le_trans (by decide) g.room
  rw [pentriesStartOffset, get8Bytes, if_pos hlen]
  rfl

theorem pentriesArraySize_header :
    pentriesArraySize (g.header m gpt) = some (arraySizeOf (g.header m gpt)) := by
  rw [pentriesArraySize, get4Bytes_header (by decide), get4Bytes_header (by decide)]
  rfl

end Fields

/-- The bytes that a `read` transfers: all of them, when they lie on the device. -/
def Geometry.readAt (g : Geometry) (m : Nat → UInt8) (offset : Int) (len : Nat) : Option Bytes :=
  if 0 ≤ offset ∧ offset + len ≤ g.size then some (slice m offset.toNat len) else none

def Device.write (s : Device) (pos : Nat) (data : Bytes) : Device :=
  { s with media := splice s.media pos data }

/-! ### A device that works -/

/-- What the file system answers. -/
structure Files where
  stat : String → Bool
  readlink : String → Option String
  listDir : String → Option (List String)

/-- The device on which every call succeeds that can succeed. -/
def working (g : Geometry) (files : Files) : Machine sysSignature Device where
  answer
    | .open _, s => (true, s)
    | .ioctlBlkSszGet, s => (some g.blkSize, s)
    | .malloc size, s => (some (List.replicate size 0), s)
    | .calloc size, s => (some (List.replicate size 0), s)
    | .lseekEnd, s => ((g.size : Int), s)
    | .lseekSet offset, s => (decide (0 ≤ offset), s)
    | .read offset len, s => (g.readAt s.media offset len, s)
    | .write offset data, s =>
        if 0 ≤ offset ∧ offset + data.length ≤ g.size then (some data.length, s.write offset.toNat data)
        else (none, s)
    | .fsync, s => (true, s)
    | .stat path, s => (files.stat path, s)
    | .readlink path, s => (files.readlink path, s)
    | .listDir path, s => (files.listDir path, s)
    | .setBootLun _ bootLunId, s => (true, { s with bootLun := bootLunId })

/-! ### Devices that fail -/

/-- The reply of a call that reports an error. -/
def Syscall.failed : (c : Syscall) → c.Reply
  | .open _ => false
  | .ioctlBlkSszGet => none
  | .malloc _ => none
  | .calloc _ => none
  | .lseekEnd => (-1 : Int)
  | .lseekSet _ => false
  | .read _ _ => none
  | .write _ _ => none
  | .fsync => false
  | .stat _ => false
  | .readlink _ => none
  | .listDir _ => none
  | .setBootLun _ _ => false

/-- Whether a write is the write of one of the two header blocks. -/
def Geometry.IsHeaderWrite (g : Geometry) (offset : Int) (data : Bytes) : Prop :=
  data.length = g.blkSize ∧ ∃ gpt, offset = g.headerPos gpt

/-- What a failed or interrupted write leaves: a header block is old or new, the bytes of any other
write are arbitrary. -/
structure TornWrite (g : Geometry) (offset : Int) (data : Bytes) (s t : Device) : Prop where
  bootLun : t.bootLun = s.bootLun
  outside : SameOutside s.media t.media offset.toNat data.length
  header : g.IsHeaderWrite offset data → t = s ∨ t = s.write offset.toNat data

/-- The device of which any call can report an error and which can lose power during any call. -/
def faulty (g : Geometry) : World sysSignature Device where
  answer
    | .open _, s, _, t => t = s
    | .ioctlBlkSszGet, s, r, t => t = s ∧ (r = none ∨ r = some g.blkSize)
    | .malloc size, s, r, t => t = s ∧ ∀ buf, r = some buf → buf.length = size
    | .calloc size, s, r, t => t = s ∧ (r = none ∨ r = some (List.replicate size 0))
    | .lseekEnd, s, r, t => t = s ∧ (r = (-1 : Int) ∨ r = (g.size : Int))
    | .lseekSet offset, s, r, t => t = s ∧ (r = true → 0 ≤ offset)
    | .read offset len, s, r, t => t = s ∧ (r = none ∨ r = g.readAt s.media offset len)
    | .write offset data, s, r, t =>
        (r = none ∧ TornWrite g offset data s t) ∨
          (r = some data.length ∧ 0 ≤ offset ∧ offset + data.length ≤ g.size ∧
            t = s.write offset.toNat data)
    | .fsync, s, _, t => t = s
    | .stat _, s, _, t => t = s
    | .readlink _, s, _, t => t = s
    | .listDir _, s, _, t => t = s
    | .setBootLun _ _, s, _, t => t.media = s.media
  interrupt
    | .write offset data, s, t => TornWrite g offset data s t
    | .setBootLun _ _, s, t => t.media = s.media
    | _, s, t => t = s

/-- The calls that can report an error. Whether a file exists is not one of them. -/
def Syscall.canFail : Syscall → Bool
  | .stat _ => false
  | _ => true

/-- The device on which the calls with the numbers in `fails` report an error and have no effect; the
state counts the calls. -/
def failing (g : Geometry) (files : Files) (fails : Nat → Bool) : Machine sysSignature (Device × Nat) where
  answer c s :=
    if fails s.2 && c.canFail then (c.failed, s.1, s.2 + 1)
    else (((working g files).answer c s.1).1, ((working g files).answer c s.1).2, s.2 + 1)

/-! ### Valid GPTs -/

/-- The four places of a GPT disk. -/
inductive Region where
  | header (gpt : GptInstance)
  | entries (gpt : GptInstance)
  deriving DecidableEq

namespace Geometry

variable (g : Geometry) (m : Nat → UInt8)

/-- The first byte of a region; the header block says where its entry array is. -/
def regionPos : Region → Nat
  | .header gpt => g.headerPos gpt
  | .entries gpt => (g.startOf (g.header m gpt)).toNat

def regionLen : Region → Nat
  | .header _ => g.blkSize
  | .entries gpt => arraySizeOf (g.header m gpt)

/-- The entry array that a header describes. -/
def entries (gpt : GptInstance) : Bytes := slice m (g.regionPos m (.entries gpt)) (g.regionLen m (.entries gpt))

/-- No two regions have a byte in common. -/
def Disjoint : Prop :=
  ∀ r r', r ≠ r' → Apart (g.regionPos m r) (g.regionLen m r) (g.regionPos m r') (g.regionLen m r')

/-- The four regions lie on the device and are disjoint. -/
structure Layout : Prop where
  start_nonneg : ∀ gpt, 0 ≤ g.startOf (g.header m gpt)
  onDevice : ∀ r, g.regionPos m r + g.regionLen m r ≤ g.size
  disjoint : g.Disjoint m

/-- The header starts with the signature, its CRC matches over its HeaderSize bytes, which are at most
one block, and its array CRC matches its entry array. -/
structure FullyValid (crc : Bytes → UInt32) (gpt : GptInstance) : Prop where
  signature : (g.header m gpt).take 9 = gptSignature
  headerSize_le : word4 (g.header m gpt) headerSizeOffset ≤ g.blkSize
  headerCrc : word4 (g.header m gpt) headerCrcOffset = headerSum crc (g.header m gpt)
  arrayCrc : word4 (g.header m gpt) partitionCrcOffset = (crc (g.entries m gpt)).toNat

end Geometry

/-- `gpt2_set_boot_chain` gets as far as its writes, the array it writes being `pentries`: the primary
array can be read, its CRC is the stored one, and the swap succeeds. -/
structure BootChainPlan (g : Geometry) (crc : Bytes → UInt32) (isUfs : Bool) (boot : BootChain)
    (m : Nat → UInt8) (pentries : Bytes) : Prop where
  start_nonneg : 0 ≤ g.startOf (g.header m .primaryGpt)
  onDevice : g.startOf (g.header m .primaryGpt) + arraySizeOf (g.header m .primaryGpt) ≤ g.size
  stored : word4 (g.header m .primaryGpt) partitionCrcOffset = (crc (g.entries m .primaryGpt)).toNat
  chained : bootChainArray isUfs boot (g.entries m .primaryGpt)
    (word4 (g.header m .primaryGpt) pentrySizeOffset) = some (0, pentries)

theorem BootChainPlan.length {g : Geometry} {crc : Bytes → UInt32} {isUfs : Bool} {boot : BootChain}
    {m : Nat → UInt8} {pentries : Bytes} (h : BootChainPlan g crc isUfs boot m pentries) :
    pentries.length = arraySizeOf (g.header m .primaryGpt) :=
  (bootChainArray_spec h.chained).1.trans (length_slice ..)

/-- The array that is made of a disk is one. -/
theorem BootChainPlan.unique {g : Geometry} {crc : Bytes → UInt32} {isUfs : Bool} {boot : BootChain}
    {m : Nat → UInt8} {pentries pentries' : Bytes} (h : BootChainPlan g crc isUfs boot m pentries)
    (h' : BootChainPlan g crc isUfs boot m pentries') : pentries = pentries' :=
  congrArg Prod.snd (Option.some.inj (h.chained.symm.trans h'.chained))

/-- The primary GPT decides about what is written. -/
theorem BootChainPlan.congr {g : Geometry} {crc : Bytes → UInt32} {isUfs : Bool} {boot boot' : BootChain}
    {m m' : Nat → UInt8} {pentries pentries' : Bytes} (h : BootChainPlan g crc isUfs boot m pentries)
    (hheader : g.header m' .primaryGpt = g.header m .primaryGpt)
    (hentries : g.entries m' .primaryGpt = g.entries m .primaryGpt)
    (hchained : bootChainArray isUfs boot' (g.entries m .primaryGpt)
      (word4 (g.header m .primaryGpt) pentrySizeOffset) = some (0, pentries')) :
    BootChainPlan g crc isUfs boot' m' pentries' where
  start_nonneg := hheader ▸ h.start_nonneg
  onDevice := hheader ▸ h.onDevice
  stored := by
    rw [hheader, hentries]
    exact h.stored
  chained := by
    rw [hheader, hentries]
    exact hchained

end Penrose.Gpt

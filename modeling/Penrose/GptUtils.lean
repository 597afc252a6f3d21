import Penrose.CallTree
import Penrose.GptSwap

/-! The functions of `gpt-utils` that talk to the block device, as programs over the system calls they
make. What a call answers is left to the environment, so the same program is run on a device that
works, on one that fails or loses power, and on one whose transfers are short. -/

namespace Penrose.Gpt

open ByteRegions CallTree

/-- The system calls of `gpt-utils`. A `read` or `write` carries the offset that the `lseek64` just
before it has set; its buffer is what the call fills or writes out. -/
inductive Syscall where
  | open (path : String)
  | ioctlBlkSszGet
  | malloc (size : Nat)
  | calloc (size : Nat)
  | lseekEnd
  | lseekSet (offset : Int)
  | read (offset : Int) (len : Nat)
  | write (offset : Int) (data : Bytes)
  | fsync
  | stat (path : String)
  | readlink (path : String)
  | listDir (path : String)
  | setBootLun (sgDev : String) (bootLunId : Nat)

/-- Replies: `none` and `false` are failures. A successful `read` gives the bytes it transferred, a
successful `write` their number, `malloc` the bytes the memory happens to hold. -/
@[reducible] def Syscall.Reply : Syscall → Type
  | .open _ => Bool
  | .ioctlBlkSszGet => Option Nat
  | .malloc _ => Option Bytes
  | .calloc _ => Option Bytes
  | .lseekEnd => Int
  | .lseekSet _ => Bool
  | .read _ _ => Option Bytes
  | .write _ _ => Option Nat
  | .fsync => Bool
  | .stat _ => Bool
  | .readlink _ => Option String
  | .listDir _ => Option (List String)
  | .setBootLun _ _ => Bool

def sysSignature : Signature := ⟨Syscall, Syscall.Reply⟩

abbrev Sys (α : Type) := Program sysSignature α

/-- One system call. -/
def sys (c : Syscall) : Sys c.Reply := Program.request (S := sysSignature) c

/-- `blk_rw` with `rw = 0`: the return value and the buffer. -/
def blkRead (offset : Int) (buf : Bytes) : Sys (Int × Bytes) := do
  if !(← sys (.lseekSet offset)) then
    return (-1, buf)
  match ← sys (.read offset buf.length) with
  | none => return (-1, buf)
  | some data => return (0, data ++ buf.drop data.length)

/-- `blk_rw` with `rw != 0`. -/
def blkWrite (offset : Int) (buf : Bytes) : Sys Int := do
  if !(← sys (.lseekSet offset)) then
    return -1
  match ← sys (.write offset buf) with
  | none => return -1
  | some _ => return if ← sys .fsync then 0 else -1

/-- Where `gpt_get_state` and `gpt_set_state` find a header; a negative offset is an error. -/
def gptHeaderOffset (gpt : GptInstance) (blkSize : Nat) : Sys Int :=
  match gpt with
  | .primaryGpt => return blkSize
  | .secondaryGpt => return (← sys .lseekEnd) - blkSize

/-- What `gpt_get_state` and `gpt_set_state` begin with: the offset of the header block and the block
read from it, or an error. -/
def readGptHeader (gpt : GptInstance) : Sys (Option (Int × Bytes)) := do
  match ← sys .ioctlBlkSszGet with
  | none => return none
  | some blkSize =>
  match ← sys (.malloc blkSize) with
  | none => return none
  | some gptHeader =>
  let offset ← gptHeaderOffset gpt blkSize
  if offset < 0 then
    return none
  let (r, gptHeader) ← blkRead offset gptHeader
  return if r != 0 then none else some (offset, gptHeader)

section Header

variable (crc : Bytes → UInt32)

/-- `gpt_get_state`: the return value and `*state`. -/
def gptGetState (gpt : GptInstance) : Sys (Int × GptState) := do
  match ← readGptHeader gpt with
  | none => return (-1, .gptOk)
  | some (_, gptHeader) =>
  let state ← Program.ofOption (headerState crc gptHeader)
  return (0, state)

/-- `gpt_set_state`. -/
def gptSetState (gpt : GptInstance) (state : GptState) : Sys Int := do
  match ← readGptHeader gpt with
  | none => return -1
  | some (offset, gptHeader) =>
  match ← Program.ofOption (setHeaderState crc state gptHeader) with
  | none => return -1
  | some gptHeader =>
  let r ← blkWrite offset gptHeader
  return if r != 0 then -1 else 0

/-- `gpt2_set_boot_chain`. -/
def gpt2SetBootChain (isUfs : Bool) (boot : BootChain) : Sys Int := do
  match ← sys .ioctlBlkSszGet with
  | none => return -1
  | some blkSize =>
  match ← sys (.malloc blkSize) with
  | none => return -1
  | some gptHeader =>
  let gpt2HeaderOffset := (← sys .lseekEnd) - blkSize
  if gpt2HeaderOffset < 0 then
    return -1
  -- Read primary GPT header from block dev
  let (r, gptHeader) ← blkRead blkSize gptHeader
  if r != 0 then
    return r
  let start ← Program.ofOption (pentriesStartOffset gptHeader blkSize)
  let pentrySize ← Program.ofOption (get4Bytes gptHeader pentrySizeOffset)
  let arraySize ← Program.ofOption (pentriesArraySize gptHeader)
  match ← sys (.calloc arraySize) with
  | none => return -1
  | some pentries =>
  -- Read primary GPT partititon entries array from block dev
  let (r, pentries) ← blkRead start pentries
  if r != 0 then
    return r
  let sum ← Program.ofOption (crc32 crc pentries arraySize)
  let stored ← Program.ofOption (get4Bytes gptHeader partitionCrcOffset)
  if stored != sum then
    return -1
  -- Read secondary GPT header from block dev
  let (r, gptHeader) ← blkRead gpt2HeaderOffset gptHeader
  if r != 0 then
    return r
  let start ← Program.ofOption (pentriesStartOffset gptHeader blkSize)
  let (r, pentries) ← Program.ofOption (bootChainArray isUfs boot pentries pentrySize)
  if r != 0 then
    return r
  let sum ← Program.ofOption (crc32 crc pentries arraySize)
  let gptHeader ← Program.ofOption (bootChainHeader crc gptHeader sum)
  -- Write the modified GPT header back to block dev
  let r ← blkWrite gpt2HeaderOffset gptHeader
  if r != 0 then
    return r
  -- Write the modified GPT partititon entries array back to block dev
  blkWrite start pentries

end Header

/-! ### The boot LUN of UFS targets -/

def xblPrimary : String := "/dev/block/bootdevice/by-name/xbl"
def xblBackup : String := "/dev/block/bootdevice/by-name/xblbak"
def xblAbPrimary : String := "/dev/block/bootdevice/by-name/xbl_a"
def xblAbSecondary : String := "/dev/block/bootdevice/by-name/xbl_b"

/-- `PATH_TRUNCATE_LOC`: the length of `/dev/block/sda`. -/
def pathTruncateLoc : Nat := 14

/-- `LUN_NAME_START_LOC`: the length of `/dev/block/`. -/
def lunNameStartLoc : Nat := 11

def bootLunAId : Nat := 1
def bootLunBId : Nat := 2

/-- The name that the `readdir` loop of `get_scsi_node_from_bootdevice` stops at. -/
def scsiNode (names : List String) : Option String :=
  (names.find? fun name => !(name.toList.head? == some '.') && name.toList.take 2 == ['s', 'g'])

/-- `get_scsi_node_from_bootdevice`: the path of the scsi generic node, or an error. -/
def getScsiNodeFromBootdevice (bootdevPath : String) : Sys (Option String) := do
  match ← sys (.readlink bootdevPath) with
  | none => return none
  | some realPath =>
  if realPath.toList.length < pathTruncateLoc + 1 then
    return none
  -- the truncated path, of pathTruncateLoc characters, is never below lunNameStartLoc + 1
  let lun := String.ofList ((realPath.toList.take pathTruncateLoc).drop lunNameStartLoc)
  match ← sys (.listDir ("/sys/block/" ++ lun ++ "/device/scsi_generic")) with
  | none => return none
  | some names => return (scsiNode names).map ("/dev/" ++ ·)

/-- The boot device and LUN id that `gpt_utils_set_xbl_boot_partition` starts with. -/
def xblBootDevice (chain : BootChain) : Sys (Option (String × Nat)) :=
  match chain with
  | .backupBoot => do
      if ← sys (.stat xblBackup) then return some (xblBackup, bootLunBId)
      else if ← sys (.stat xblAbSecondary) then return some (xblAbSecondary, bootLunBId)
      else return none
  | .normalBoot => do
      if ← sys (.stat xblPrimary) then return some (xblPrimary, bootLunAId)
      else if ← sys (.stat xblAbPrimary) then return some (xblAbPrimary, bootLunAId)
      else return none

/-- Whether both files exist; the second `stat` is made only when the first one succeeds. -/
def bothExist (first second : String) : Sys Bool := do
  if ← sys (.stat first) then sys (.stat second) else return false

/-- `gpt_utils_set_xbl_boot_partition`. -/
def gptUtilsSetXblBootPartition (chain : BootChain) : Sys Int := do
  match ← xblBootDevice chain with
  | none => return -1
  | some (bootDev, bootLunId) =>
  -- Either both xbl and xblbak or both xbl_a and xbl_b must exist
  if !(← bothExist xblPrimary xblBackup) then
    if !(← bothExist xblAbPrimary xblAbSecondary) then
      return -1
  match ← getScsiNodeFromBootdevice bootDev with
  | none => return -1
  | some sgDevNode =>
  return if ← sys (.setBootLun sgDevNode bootLunId) then 0 else -1

/-- The LUN switch at the head of the `UPDATE_MAIN` and `UPDATE_BACKUP` cases: nothing to do unless
the target is UFS and both xbl nodes exist. -/
def switchBootLun (isUfs : Bool) (chain : BootChain) : Sys Int := do
  if isUfs then
    if ← bothExist xblPrimary xblBackup then
      gptUtilsSetXblBootPartition chain
    else
      return 0
  else
    return 0

/-! ### The update stages -/

/-- The stage that the states of the two headers stand for, when they are acceptable. -/
def internalStage (gptPrim gptSecond : GptState) : Option BootUpdateStage :=
  if gptPrim = .gptBadCrc ∨ gptSecond = .gptBadCrc then none
  else if gptPrim = .gptBadSignature ∧ gptSecond = .gptBadSignature then none
  else if gptPrim = .gptOk ∧ gptSecond = .gptOk then some .updateMain
  else if gptPrim = .gptBadSignature then some .updateBackup
  else if gptSecond = .gptBadSignature then some .updateFinalize
  else none

section Stages

variable (crc : Bytes → UInt32) (isUfs : Bool)

/-- The cases of the `switch` in `prepare_partitions`. -/
def runStage (stage : BootUpdateStage) : Sys Int :=
  match stage with
  | .updateMain => do
      let r ← switchBootLun isUfs .backupBoot
      if r != 0 then
        return r
      let r ← gpt2SetBootChain crc isUfs .backupBoot
      if r != 0 then
        -- No backup partitions - do not corrupt GPT, do not flag error
        return if r < 0 then r else 0
      gptSetState crc .primaryGpt .gptBadSignature
  | .updateBackup => do
      let r ← switchBootLun isUfs .normalBoot
      if r != 0 then
        return r
      let r ← gptSetState crc .primaryGpt .gptOk
      if r != 0 then
        return r
      gptSetState crc .secondaryGpt .gptBadSignature
  | .updateFinalize => do
      let r ← gpt2SetBootChain crc isUfs .normalBoot
      if r < 0 then
        return r
      gptSetState crc .secondaryGpt .gptOk

/-- `prepare_partitions` between `open` and the `EXIT` label. -/
def prepareOpened (stage : BootUpdateStage) : Sys Int := do
  let (r, gptPrim) ← gptGetState crc .primaryGpt
  if r != 0 then
    return 1
  let (r, gptSecond) ← gptGetState crc .secondaryGpt
  if r != 0 then
    return 1
  match internalStage gptPrim gptSecond with
  | none => return -1
  | some internal =>
  -- Stage already set - ready for update, exitting
  if stage.toInt = internal.toInt - 1 then
    return 0
  -- Unexpected stage given
  if stage ≠ internal then
    return -1
  runStage crc isUfs stage

/-- `prepare_partitions` on a device path; `fsync` at the end is made whatever happened. -/
def preparePartitions (stage : BootUpdateStage) (devPath : String) : Sys Int := do
  if !(← sys (.open devPath)) then
    return -1
  let r ← prepareOpened crc isUfs stage
  let _ ← sys .fsync
  return r

end Stages

/-! ### The calls of each function -/

/-- The calls that transfer bytes of the device. -/
def Syscall.isTransfer : Syscall → Bool
  | .read _ _ | .write _ _ | .fsync => true
  | _ => false

def Syscall.Quiet (c : Syscall) : Prop := c.isTransfer = false

/-- The calls that ask the file system. -/
def Syscall.IsQuery : Syscall → Prop
  | .stat _ | .readlink _ | .listDir _ => True
  | _ => False

theorem Syscall.IsQuery.quiet {c : Syscall} (h : c.IsQuery) : c.Quiet := by
  cases c <;> first | rfl | cases h

section Only

theorem only_blkRead (offset : Int) (buf : Bytes) : Only (fun _ => True) (blkRead offset buf) := by
  refine ⟨trivial, fun seek => ?_⟩
  cases seek with
  | false => trivial
  | true =>
      refine ⟨trivial, fun data => ?_⟩
      cases data <;> trivial

theorem only_blkWrite (offset : Int) (buf : Bytes) : Only (fun _ => True) (blkWrite offset buf) := by
  refine ⟨trivial, fun seek => ?_⟩
  cases seek with
  | false => trivial
  | true =>
      refine ⟨trivial, fun written => ?_⟩
      cases written with
      | none => trivial
      | some n => exact ⟨trivial, fun _ => trivial⟩

theorem only_gptHeaderOffset (gpt : GptInstance) (blkSize : Nat) :
    Only Syscall.Quiet (gptHeaderOffset gpt blkSize) := by
  cases gpt with
  | primaryGpt => trivial
  | secondaryGpt => exact ⟨rfl, fun _ => trivial⟩

theorem only_readGptHeader (gpt : GptInstance) : Only (fun _ => True) (readGptHeader gpt) := by
  refine ⟨trivial, fun blkSize => ?_⟩
  cases blkSize with
  | none => trivial
  | some blkSize =>
      refine ⟨trivial, fun buf => ?_⟩
      cases buf with
      | none => trivial
      | some buf =>
          refine ((only_gptHeaderOffset gpt blkSize).mono fun _ _ => trivial).bind fun offset => ?_
          split_ifs
          · trivial
          · exact (only_blkRead offset buf).bind fun _ => trivial

theorem only_bothExist (first second : String) : Only Syscall.IsQuery (bothExist first second) := by
  refine ⟨trivial, fun exist => ?_⟩
  cases exist with
  | false => trivial
  | true => exact ⟨trivial, fun _ => trivial⟩

theorem only_xblBootDevice (chain : BootChain) : Only Syscall.IsQuery (xblBootDevice chain) := by
  cases chain <;>
    · refine ⟨trivial, fun exist => ?_⟩
      cases exist with
      | true => trivial
      | false =>
          refine ⟨trivial, fun exist => ?_⟩
          cases exist <;> trivial

theorem only_getScsiNodeFromBootdevice (path : String) :
    Only Syscall.IsQuery (getScsiNodeFromBootdevice path) := by
  refine ⟨trivial, fun realPath => ?_⟩
  cases realPath with
  | none => trivial
  | some realPath =>
      change Only _ (if realPath.toList.length < pathTruncateLoc + 1 then _ else _)
      split_ifs
      · trivial
      · refine ⟨trivial, fun names => ?_⟩
        cases names <;> trivial

/-- Switching the boot LUN transfers nothing. -/
theorem only_switchBootLun (isUfs : Bool) (chain : BootChain) :
    Only Syscall.Quiet (switchBootLun isUfs chain) := by
  have hnode (bootDev : String × Nat) : Only Syscall.Quiet (do
      match ← getScsiNodeFromBootdevice bootDev.1 with
      | none => return -1
      | some sgDevNode =>
      return if ← sys (.setBootLun sgDevNode bootDev.2) then 0 else -1) := by
    refine ((only_getScsiNodeFromBootdevice _).mono fun _ h => h.quiet).bind fun node => ?_
    cases node with
    | none => trivial
    | some node => exact ⟨rfl, fun _ => trivial⟩
  cases isUfs with
  | false => trivial
  | true =>
      refine ((only_bothExist _ _).mono fun _ h => h.quiet).bind fun exist => ?_
      cases exist with
      | false => trivial
      | true =>
          refine ((only_xblBootDevice chain).mono fun _ h => h.quiet).bind fun bootDev => ?_
          cases bootDev with
          | none => trivial
          | some bootDev =>
              refine ((only_bothExist _ _).mono fun _ h => h.quiet).bind fun exist => ?_
              cases exist with
              | true => exact hnode bootDev
              | false =>
                  refine ((only_bothExist _ _).mono fun _ h => h.quiet).bind fun exist => ?_
                  cases exist with
                  | true => exact hnode bootDev
                  | false => trivial

end Only

end Penrose.Gpt

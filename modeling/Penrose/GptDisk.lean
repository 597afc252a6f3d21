import Penrose.GptPairs
import Penrose.GptWorking

/-! The `gpt_disk` interface: both GPTs are read into buffers, partition entries are edited there, the CRCs
are recalculated and the four buffers are written back, the primary GPT first. A null pointer is a
missing buffer. -/

namespace Penrose.Gpt

open ByteRegions CallTree

def gptDiskInitMagic : Nat := 0xABCD
def bootDevDir : String := "/dev/block/bootdevice/by-name"
def blkDevFile : String := "/dev/block/mmcblk0"

def pathMax : Nat := 4096

/-! ### Path buffers -/

/-- A buffer of `PATH_MAX` characters. -/
structure CharBuf where
  chars : List Char
  size : chars.length = pathMax

namespace CharBuf

theorem size_cleared : (List.replicate pathMax '\x00').length = pathMax := List.length_replicate

theorem size_place (buf : CharBuf) (chars : List Char) :
    (chars.take pathMax ++ buf.chars.drop chars.length).length = pathMax := by
  rw [List.length_append, List.length_take, List.length_drop, buf.size]
  omega

theorem size_truncate (buf : CharBuf) (loc : Nat) : (buf.chars.set loc '\x00').length = pathMax := by
  rw [List.length_set, buf.size]

def cleared : CharBuf := ⟨List.replicate pathMax '\x00', size_cleared⟩

theorem chars_cleared : cleared.chars = List.replicate pathMax '\x00' := rfl

/-- The characters are written to the head of the buffer; what lies behind them stays. -/
def place (buf : CharBuf) (chars : List Char) : CharBuf :=
  ⟨chars.take pathMax ++ buf.chars.drop chars.length, size_place buf chars⟩

def truncate (buf : CharBuf) (loc : Nat) : CharBuf := ⟨buf.chars.set loc '\x00', size_truncate buf loc⟩

section Written

variable (buf : CharBuf) (chars : List Char) (loc : Nat)

theorem chars_place : (buf.place chars).chars = chars.take pathMax ++ buf.chars.drop chars.length := rfl

theorem chars_truncate : (buf.truncate loc).chars = buf.chars.set loc '\x00' := rfl

end Written

/-- The C string in the buffer. -/
def text (buf : CharBuf) : String := String.ofList (buf.chars.takeWhile (· != '\x00'))

theorem takeWhile_append_zeros (chars : List Char) (count : Nat) :
    (chars ++ List.replicate count '\x00').takeWhile (· != '\x00') = chars.takeWhile (· != '\x00') := by
  have hzeros : (List.replicate count '\x00').takeWhile (· != '\x00') = [] := by
    cases count <;> rfl
  rw [List.takeWhile_append, hzeros, List.append_nil]
  split_ifs with hall
  · exact ((List.takeWhile_prefix _).eq_of_length hall).symm
  · rfl

theorem text_truncate (buf : CharBuf) {loc : Nat} (hloc : loc < pathMax) :
    (buf.truncate loc).text = String.ofList ((buf.chars.take loc).takeWhile (· != '\x00')) := by
  have hset : buf.chars.set loc '\x00' = buf.chars.take loc ++ '\x00' :: buf.chars.drop (loc + 1) :=
    List.set_eq_take_append_cons_drop .. |>.trans (if_pos (by rw [buf.size]; exact hloc))
  have hstop : ('\x00' :: buf.chars.drop (loc + 1)).takeWhile (· != '\x00') = [] := rfl
  rw [text, chars_truncate, hset, List.takeWhile_append, hstop, List.append_nil]
  split_ifs with hall
  · rw [(List.takeWhile_prefix _).eq_of_length hall]
  · rfl

/-- In a cleared buffer a target stands for itself, truncated. -/
theorem text_cleared (chars : List Char) {loc : Nat} (hloc : loc < pathMax) :
    ((cleared.place chars).truncate loc).text = String.ofList ((chars.take loc).takeWhile (· != '\x00')) := by
  rw [text_truncate _ hloc, chars_place, chars_cleared, List.drop_replicate, List.take_append, List.take_take,
    Nat.min_eq_left hloc.le, List.take_replicate, takeWhile_append_zeros]

end CharBuf

/-- `struct gpt_disk`. -/
structure GptDisk where
  hdr : Option Bytes
  hdrCrc : Nat
  hdrBak : Option Bytes
  hdrBakCrc : Nat
  pentryArr : Option Bytes
  pentryArrBak : Option Bytes
  pentryArrSize : Nat
  pentrySize : Nat
  pentryArrCrc : Nat
  pentryArrBakCrc : Nat
  devpath : CharBuf
  blockSize : Nat
  isInitialized : Nat

/-- The zeroed structure of `gpt_disk_alloc`. -/
def gptDiskAlloc : GptDisk := ⟨none, 0, none, 0, none, none, 0, 0, 0, 0, .cleared, 0, 0⟩

namespace GptDisk

/-- The header buffer of an instance. -/
def header (disk : GptDisk) : GptInstance → Option Bytes
  | .primaryGpt => disk.hdr
  | .secondaryGpt => disk.hdrBak

/-- The entry array of an instance. -/
def pentries (disk : GptDisk) : GptInstance → Option Bytes
  | .primaryGpt => disk.pentryArr
  | .secondaryGpt => disk.pentryArrBak

def withPentries (disk : GptDisk) (gpt : GptInstance) (arr : Bytes) : GptDisk :=
  match gpt with
  | .primaryGpt => { disk with pentryArr := some arr }
  | .secondaryGpt => { disk with pentryArrBak := some arr }

section WithPentries

variable (disk : GptDisk) (gpt : GptInstance) (arr : Bytes)

@[simp] theorem header_withPentries : (disk.withPentries gpt arr).header = disk.header := by
  cases gpt <;> rfl

@[simp] theorem pentries_withPentries :
    (disk.withPentries gpt arr).pentries = Function.update disk.pentries gpt (some arr) := by
  funext gpt'
  cases gpt <;> cases gpt' <;> rfl

@[simp] theorem pentryArrSize_withPentries : (disk.withPentries gpt arr).pentryArrSize = disk.pentryArrSize := by
  cases gpt <;> rfl

@[simp] theorem isInitialized_withPentries : (disk.withPentries gpt arr).isInitialized = disk.isInitialized := by
  cases gpt <;> rfl

end WithPentries

end GptDisk

/-! ### Helpers of the interface -/

/-- The first `len` bytes of a buffer that must hold as many. -/
def bufferBytes (buf : Bytes) (len : Nat) : Option Bytes :=
  if len ≤ buf.length then some (buf.take len) else none

theorem bufferBytes_self {buf : Bytes} {len : Nat} (hlen : buf.length = len) :
    bufferBytes buf len = some buf := by
  rw [bufferBytes, if_pos hlen.ge, ← hlen, List.take_length]

/-- `get_dev_path_from_partition_name`: the buffer with the path, or an error. `readlink` does not end the string it
places, so behind a target shorter than `pathTruncateLoc` the buffer keeps what it held. -/
def getDevPathFromPartitionName (isUfs : Bool) (partname : String) (buf : CharBuf) : Sys (Option CharBuf) := do
  if isUfs then
    let path := bootDevDir ++ "/" ++ partname
    if !(← sys (.stat path)) then
      return none
    match ← sys (.readlink path) with
    | none => return none
    | some realPath => return some ((buf.place realPath.toList).truncate pathTruncateLoc)
  else
    return some (buf.place (blkDevFile.toList ++ ['\x00']))

/-- `gpt_get_block_size`; 0 is an error. -/
def gptGetBlockSize : Sys Nat := do
  match ← sys .ioctlBlkSszGet with
  | none => return 0
  | some blockSize => return blockSize

/-- `gpt_get_header`: the header block, or a null pointer. -/
def gptGetHeader (isUfs : Bool) (partname : String) (gpt : GptInstance) : Sys (Option Bytes) := do
  match ← getDevPathFromPartitionName isUfs partname .cleared with
  | none => return none
  | some devpath =>
  if !(← sys (.open devpath.text)) then
    return none
  let blockSize ← gptGetBlockSize
  if blockSize = 0 then
    return none
  match ← sys (.malloc blockSize) with
  -- the null pointer is reported but used all the same
  | none => .fault
  | some hdr =>
  let hdrOffset ← gptHeaderOffset gpt blockSize
  if hdrOffset < 0 then
    return none
  let (r, hdr) ← blkRead hdrOffset hdr
  return if r != 0 then none else some hdr

/-- `gpt_get_pentry_arr`: the entry array of a header, or a null pointer. -/
def gptGetPentryArr (hdr : Bytes) : Sys (Option Bytes) := do
  let blockSize ← gptGetBlockSize
  if blockSize = 0 then
    return none
  let pentriesStart ← Program.ofOption (pentriesStartOffset hdr blockSize)
  let pentriesArrSize ← Program.ofOption (pentriesArraySize hdr)
  match ← sys (.calloc pentriesArrSize) with
  | none => return none
  | some pentryArr =>
  let (r, pentryArr) ← blkRead pentriesStart pentryArr
  return if r != 0 then none else some pentryArr

/-- `gpt_set_header`. -/
def gptSetHeader (gptHeader : Option Bytes) (gpt : GptInstance) : Sys Int := do
  match gptHeader with
  | none => return -1
  | some gptHeader =>
  let blockSize ← gptGetBlockSize
  if blockSize = 0 then
    return -1
  let offset ← gptHeaderOffset gpt blockSize
  if offset ≤ 0 then
    return -1
  let data ← Program.ofOption (bufferBytes gptHeader blockSize)
  let r ← blkWrite offset data
  return if r != 0 then -1 else 0

/-- `gpt_set_pentry_arr`. -/
def gptSetPentryArr (hdr arr : Option Bytes) : Sys Int := do
  match hdr, arr with
  | some hdr, some arr =>
      let blockSize ← gptGetBlockSize
      if blockSize = 0 then
        return -1
      let pentriesStart ← Program.ofOption (pentriesStartOffset hdr blockSize)
      let pentriesArrSize ← Program.ofOption (pentriesArraySize hdr)
      let data ← Program.ofOption (bufferBytes arr pentriesArrSize)
      let r ← blkWrite pentriesStart data
      return if r != 0 then -1 else 0
  | _, _ => return -1

/-! ### The interface -/

section Interface

variable (crc : Bytes → UInt32) (isUfs : Bool)

/-- `gpt_disk_get_disk_info`: the return value and the structure, which an error leaves partly filled. -/
def gptDiskGetDiskInfo (dev : String) (dsk : GptDisk) : Sys (Int × GptDisk) := do
  let hdr ← gptGetHeader isUfs dev .primaryGpt
  let disk := { dsk with hdr := hdr }
  match hdr with
  | none => return (-1, disk)
  | some hdr =>
  let gptHeaderSize ← Program.ofOption (get4Bytes hdr headerSizeOffset)
  let hdrCrc ← Program.ofOption (crc32 crc hdr gptHeaderSize)
  let hdrBak ← gptGetHeader isUfs dev .secondaryGpt
  let disk := { disk with hdrCrc := hdrCrc, hdrBak := hdrBak }
  match hdrBak with
  | none => return (-1, disk)
  | some hdrBak =>
  let hdrBakCrc ← Program.ofOption (crc32 crc hdrBak gptHeaderSize)
  let disk := { disk with hdrBakCrc := hdrBakCrc }
  match ← getDevPathFromPartitionName isUfs dev disk.devpath with
  | none => return (-1, disk)
  | some devpath =>
  let disk := { disk with devpath := devpath }
  if !(← sys (.open devpath.text)) then
    return (-1, disk)
  let pentryArr ← gptGetPentryArr hdr
  let disk := { disk with pentryArr := pentryArr }
  if pentryArr.isNone then
    return (-1, disk)
  let pentryArrBak ← gptGetPentryArr hdrBak
  let disk := { disk with pentryArrBak := pentryArrBak }
  if pentryArrBak.isNone then
    return (-1, disk)
  let pentrySize ← Program.ofOption (get4Bytes hdr pentrySizeOffset)
  let pentryArrSize ← Program.ofOption (pentriesArraySize hdr)
  let pentryArrCrc ← Program.ofOption (get4Bytes hdr partitionCrcOffset)
  let pentryArrBakCrc ← Program.ofOption (get4Bytes hdrBak partitionCrcOffset)
  let blockSize ← gptGetBlockSize
  return (0, { disk with
    pentrySize := pentrySize
    pentryArrSize := pentryArrSize
    pentryArrCrc := pentryArrCrc
    pentryArrBakCrc := pentryArrBakCrc
    blockSize := blockSize
    isInitialized := gptDiskInitMagic })

/-- `gpt_disk_get_pentry`: the offset of the entry in the array of the instance, or a null pointer. -/
def gptDiskGetPentry (disk : GptDisk) (partname : Bytes) (gpt : GptInstance) : Option (Option Nat) :=
  if disk.isInitialized ≠ gptDiskInitMagic then some none
  else do
    let ptnArr ← disk.pentries gpt
    let ptnArr ← bufferBytes ptnArr disk.pentryArrSize
    gptPentrySeek partname ptnArr 0 disk.pentrySize

/-- `gpt_disk_update_crc`: the return value and the structure. -/
def gptDiskUpdateCrc (disk : GptDisk) : Option (Int × GptDisk) :=
  if disk.isInitialized ≠ gptDiskInitMagic then some (-1, disk)
  else do
    let pentryArrCrc ← crc32 crc (← disk.pentryArr) disk.pentryArrSize
    let pentryArrBakCrc ← crc32 crc (← disk.pentryArrBak) disk.pentryArrSize
    let hdr ← put4Bytes (← disk.hdr) partitionCrcOffset pentryArrCrc
    let hdrBak ← put4Bytes (← disk.hdrBak) partitionCrcOffset pentryArrBakCrc
    let gptHeaderSize ← get4Bytes hdr headerSizeOffset
    -- Header CRC is calculated with its own CRC field set to 0
    let hdr ← put4Bytes hdr headerCrcOffset 0
    let hdrBak ← put4Bytes hdrBak headerCrcOffset 0
    let hdrCrc ← crc32 crc hdr gptHeaderSize
    let hdrBakCrc ← crc32 crc hdrBak gptHeaderSize
    let hdr ← put4Bytes hdr headerCrcOffset hdrCrc
    let hdrBak ← put4Bytes hdrBak headerCrcOffset hdrBakCrc
    return (0, { disk with
      hdr := some hdr
      hdrCrc := hdrCrc
      hdrBak := some hdrBak
      hdrBakCrc := hdrBakCrc
      pentryArrCrc := pentryArrCrc
      pentryArrBakCrc := pentryArrBakCrc })

/-- `gpt_disk_commit`. -/
def gptDiskCommit (disk : GptDisk) : Sys Int := do
  if disk.isInitialized ≠ gptDiskInitMagic then
    return -1
  if !(← sys (.open disk.devpath.text)) then
    return -1
  if (← gptSetHeader disk.hdr .primaryGpt) ≠ 0 then
    return -1
  if (← gptSetPentryArr disk.hdr disk.pentryArr) ≠ 0 then
    return -1
  if (← gptSetHeader disk.hdrBak .secondaryGpt) ≠ 0 then
    return -1
  if (← gptSetPentryArr disk.hdrBak disk.pentryArrBak) ≠ 0 then
    return -1
  return 0

end Interface

/-! ### What the structure holds -/

/-- The structure is initialized and its four buffers are the headers `h` and the arrays `a`. -/
structure GptDisk.Holds (disk : GptDisk) (h a : GptInstance → Bytes) : Prop where
  initialized : disk.isInitialized = gptDiskInitMagic
  header : ∀ gpt, disk.header gpt = some (h gpt)
  pentries : ∀ gpt, disk.pentries gpt = some (a gpt)
  size : ∀ gpt, (a gpt).length = disk.pentryArrSize

section Holds

variable {crc : Bytes → UInt32} {disk edited : GptDisk} {h a a' : GptInstance → Bytes}

theorem GptDisk.Holds.pentries_unique (hd : disk.Holds h a) (hd' : disk.Holds h a') : a' = a := by
  funext gpt
  exact Option.some.inj ((hd'.pentries gpt).symm.trans (hd.pentries gpt))

theorem GptDisk.Holds.withPentries (hd : disk.Holds h a) {gpt : GptInstance} {arr : Bytes}
    (hlen : arr.length = (a gpt).length) :
    (disk.withPentries gpt arr).Holds h (Function.update a gpt arr) := by
  constructor
  · rw [isInitialized_withPentries]
    exact hd.initialized
  · rw [header_withPentries]
    exact hd.header
  · intro gpt'
    rw [pentries_withPentries]
    by_cases hgpt : gpt' = gpt
    · subst hgpt
      rw [Function.update_self, Function.update_self]
    · rw [Function.update_of_ne hgpt, Function.update_of_ne hgpt, hd.pentries]
  · intro gpt'
    rw [pentryArrSize_withPentries]
    by_cases hgpt : gpt' = gpt
    · subst hgpt
      rw [Function.update_self, hlen, hd.size]
    · rw [Function.update_of_ne hgpt, hd.size]

/-- The writes of `gpt_disk_update_crc` to one header. -/
theorem putCrcs_eq (crc : Bytes → UInt32) {gptHeader : Bytes} (hfits : HeaderFits gptHeader) (sum : Nat) :
    ∃ withArray cleared headerCrc, put4Bytes gptHeader partitionCrcOffset sum = some withArray ∧
      get4Bytes withArray headerSizeOffset = some (word4 gptHeader headerSizeOffset) ∧
      put4Bytes withArray headerCrcOffset 0 = some cleared ∧
      crc32 crc cleared (word4 gptHeader headerSizeOffset) = some headerCrc ∧
      put4Bytes cleared headerCrcOffset headerCrc = some (withArrayCrc crc gptHeader sum) := by
  have hlen : partitionCrcOffset + (bytes4 sum).length ≤ gptHeader.length := hfits.le (n := 4) (by decide)
  have hsize : word4 (overwrite gptHeader partitionCrcOffset (bytes4 sum)) headerSizeOffset =
      word4 gptHeader headerSizeOffset :=
    word4_overwrite_of_apart hlen (Or.inl (by decide))
  have hput : putHeaderCrc crc _ _ = some (sealed crc _) := putHeaderCrc_eq (hfits.withArrayWord sum)
  rw [hsize] at hput
  simp only [putHeaderCrc, Option.bind_eq_bind, Option.bind_eq_some_iff] at hput
  obtain ⟨cleared, hcleared, headerCrc, hsum, hsealed⟩ := hput
  refine ⟨_, cleared, headerCrc, if_pos hlen, ?_, hcleared, hsum, hsealed⟩
  rw [← hsize]
  exact if_pos ((hfits.withArrayWord sum).le (by decide))

theorem gptDiskUpdateCrc_holds (crc : Bytes → UInt32) (hd : disk.Holds h a) (hfits : ∀ gpt, HeaderFits (h gpt))
    (hsize : word4 (h .primaryGpt) headerSizeOffset = word4 (h .secondaryGpt) headerSizeOffset) :
    ∃ updated, gptDiskUpdateCrc crc disk = some (0, updated) ∧
      updated.Holds (fun gpt => withArrayCrc crc (h gpt) (crc (a gpt)).toNat) a := by
  have hsum : ∀ gpt, crc32 crc (a gpt) disk.pentryArrSize = some (crc (a gpt)).toNat := fun gpt =>
    crc32_of_length (hd.size gpt)
  obtain ⟨_, _, headerCrc, hput, hget, hclear, hcrc, hseal⟩ :=
    putCrcs_eq crc (hfits .primaryGpt) (crc (a .primaryGpt)).toNat
  obtain ⟨_, _, headerBakCrc, hput', -, hclear', hcrc', hseal'⟩ :=
    putCrcs_eq crc (hfits .secondaryGpt) (crc (a .secondaryGpt)).toNat
  rw [← hsize] at hcrc'
  have hhdr : disk.hdr = some (h .primaryGpt) := hd.header .primaryGpt
  have hhdrBak : disk.hdrBak = some (h .secondaryGpt) := hd.header .secondaryGpt
  have harr : disk.pentryArr = some (a .primaryGpt) := hd.pentries .primaryGpt
  have harrBak : disk.pentryArrBak = some (a .secondaryGpt) := hd.pentries .secondaryGpt
  refine ⟨{ disk with
    hdr := some (withArrayCrc crc (h .primaryGpt) (crc (a .primaryGpt)).toNat)
    hdrCrc := headerCrc
    hdrBak := some (withArrayCrc crc (h .secondaryGpt) (crc (a .secondaryGpt)).toNat)
    hdrBakCrc := headerBakCrc
    pentryArrCrc := (crc (a .primaryGpt)).toNat
    pentryArrBakCrc := (crc (a .secondaryGpt)).toNat }, ?_, ?_⟩
  · rw [gptDiskUpdateCrc, if_neg (not_not.mpr hd.initialized)]
    simp only [hhdr, hhdrBak, harr, harrBak, hsum, hput, hput', hget, hclear, hclear', hcrc, hcrc', hseal,
      hseal', Option.bind_eq_bind, Option.bind_some]
    rfl
  · refine ⟨hd.initialized, ?_, ?_, hd.size⟩
    · rintro (_ | _) <;> rfl
    · rintro (_ | _)
      · exact harr
      · exact harrBak

end Holds

end Penrose.Gpt

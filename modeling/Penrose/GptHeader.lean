import Penrose.ByteRegions

/-! The GPT header block as `gpt-utils` reads and rewrites it. Every read or write outside the block
buffer is a missing value here. The header CRC covers the first HeaderSize bytes with its own field
cleared, so writing any word into that field leaves the CRC itself alone; this is what lets a header
be corrupted and later repaired to the very same bytes. -/

namespace Penrose.Gpt

open ByteRegions

/-! ### GPT header defines -/

/-- `GPT_SIGNATURE`, with the terminating zero that `sizeof` counts. -/
def gptSignature : Bytes := [0x45, 0x46, 0x49, 0x20, 0x50, 0x41, 0x52, 0x54, 0]

@[reducible] def headerSizeOffset : Nat := 12
@[reducible] def headerCrcOffset : Nat := 16
@[reducible] def pentriesOffset : Nat := 72
@[reducible] def partitionCountOffset : Nat := 80
@[reducible] def pentrySizeOffset : Nat := 84
@[reducible] def partitionCrcOffset : Nat := 88

inductive GptState where
  | gptOk
  | gptBadSignature
  | gptBadCrc
  deriving DecidableEq, Repr

inductive GptInstance where
  | primaryGpt
  | secondaryGpt
  deriving DecidableEq, Repr

inductive BootChain where
  | normalBoot
  | backupBoot
  deriving DecidableEq, Repr

inductive BootUpdateStage where
  | updateMain
  | updateBackup
  | updateFinalize
  deriving DecidableEq, Repr

def BootUpdateStage.toInt : BootUpdateStage → Int
  | .updateMain => 1
  | .updateBackup => 2
  | .updateFinalize => 3

/-! ### Access to a buffer -/

/-- `GET_4_BYTES(buf + off)`. -/
def get4Bytes (buf : Bytes) (off : Nat) : Option Nat :=
  if off + 4 ≤ buf.length then some (word4 buf off) else none

/-- `GET_8_BYTES(buf + off)`. -/
def get8Bytes (buf : Bytes) (off : Nat) : Option Nat :=
  if off + 8 ≤ buf.length then some (word8 buf off) else none

/-- The buffer after `memcpy(buf + off, data, data.length)`. -/
def memcpy (buf : Bytes) (off : Nat) (data : Bytes) : Option Bytes :=
  if off + data.length ≤ buf.length then some (overwrite buf off data) else none

/-- `PUT_4_BYTES(buf + off, y)`. -/
def put4Bytes (buf : Bytes) (off : Nat) (y : Nat) : Option Bytes := memcpy buf off (bytes4 y)

/-- Whether `memcmp(buf, data, data.length)` finds a difference. -/
def memcmp (buf data : Bytes) : Option Bool :=
  if data.length ≤ buf.length then some (buf.take data.length != data) else none

/-- `crc32(crc_zero, buf, len)`, the checksum function being `crc`. -/
def crc32 (crc : Bytes → UInt32) (buf : Bytes) (len : Nat) : Option Nat :=
  if len ≤ buf.length then some (crc (buf.take len)).toNat else none

theorem crc32_of_length {crc : Bytes → UInt32} {buf : Bytes} {len : Nat} (hlen : buf.length = len) :
    crc32 crc buf len = some (crc buf).toNat := by
  rw [crc32, if_pos hlen.ge, ← hlen, List.take_length]

/-! ### The parts of the source that work on one header block -/

section Blocks

variable (crc : Bytes → UInt32)

/-- The state `gpt_get_state` finds in the header block it has read. -/
def headerState (gptHeader : Bytes) : Option GptState := do
  let differs ← memcmp gptHeader gptSignature
  let state := if differs then GptState.gptBadSignature else GptState.gptOk
  let gptHeaderSize ← get4Bytes gptHeader headerSizeOffset
  let stored ← get4Bytes gptHeader headerCrcOffset
  -- header CRC is calculated with this field cleared
  let gptHeader ← put4Bytes gptHeader headerCrcOffset 0
  let sum ← crc32 crc gptHeader gptHeaderSize
  return if sum != stored then .gptBadCrc else state

/-- Recalculating the header CRC, as `gpt_set_state` and `gpt2_set_boot_chain` do. -/
def putHeaderCrc (gptHeader : Bytes) (gptHeaderSize : Nat) : Option Bytes := do
  let gptHeader ← put4Bytes gptHeader headerCrcOffset 0
  let sum ← crc32 crc gptHeader gptHeaderSize
  put4Bytes gptHeader headerCrcOffset sum

/-- The header block `gpt_set_state` writes back, for the two states it accepts. -/
def setHeaderState (state : GptState) (gptHeader : Bytes) : Option (Option Bytes) :=
  match state with
  | .gptOk => do
      let gptHeader ← memcpy gptHeader 0 gptSignature
      let gptHeaderSize ← get4Bytes gptHeader headerSizeOffset
      return some (← putHeaderCrc crc gptHeader gptHeaderSize)
  | .gptBadSignature => do
      let gptHeader ← memcpy gptHeader 0 [0]
      let gptHeaderSize ← get4Bytes gptHeader headerSizeOffset
      return some (← putHeaderCrc crc gptHeader gptHeaderSize)
  | .gptBadCrc => some none

/-- The secondary header that `gpt2_set_boot_chain` writes back, for the CRC of the new array. -/
def bootChainHeader (gptHeader : Bytes) (sum : Nat) : Option Bytes := do
  let gptHeaderSize ← get4Bytes gptHeader headerSizeOffset
  let gptHeader ← put4Bytes gptHeader partitionCrcOffset sum
  putHeaderCrc crc gptHeader gptHeaderSize

/-- The size in bytes of the entry array that a header describes: a 32-bit product. -/
def pentriesArraySize (gptHeader : Bytes) : Option Nat := do
  let pentrySize ← get4Bytes gptHeader pentrySizeOffset
  let count ← get4Bytes gptHeader partitionCountOffset
  return count * pentrySize % 2 ^ 32

/-- Where the entry array of a header starts: a 64-bit product, passed on as a signed offset. -/
def pentriesStartOffset (gptHeader : Bytes) (blkSize : Nat) : Option Int := do
  let lba ← get8Bytes gptHeader pentriesOffset
  return (BitVec.ofNat 64 (lba * blkSize)).toInt

/-! ### What the header functions compute

Below, a block is long enough for the last field that is read, and its HeaderSize does not exceed
it; then no access is outside the block. -/

/-- The block holds every field the code reads and the bytes its HeaderSize covers. -/
structure HeaderFits (gptHeader : Bytes) : Prop where
  fields : partitionCrcOffset + 4 ≤ gptHeader.length
  covered : word4 gptHeader headerSizeOffset ≤ gptHeader.length

/-- The CRC of the covered bytes with the CRC field cleared. -/
def headerSum (gptHeader : Bytes) : Nat :=
  (crc ((overwrite gptHeader headerCrcOffset (bytes4 0)).take (word4 gptHeader headerSizeOffset))).toNat

/-- The block with its header CRC recalculated. -/
def sealed (gptHeader : Bytes) : Bytes :=
  overwrite gptHeader headerCrcOffset (bytes4 (headerSum crc gptHeader))

/-- The block with `GPT_SIGNATURE` put back and the CRC recalculated. -/
def repaired (gptHeader : Bytes) : Bytes := sealed crc (overwrite gptHeader 0 gptSignature)

/-- The block with its first byte cleared and the CRC recalculated. -/
def corrupted (gptHeader : Bytes) : Bytes := sealed crc (overwrite gptHeader 0 [0])

/-- The block with a new array CRC and the header CRC recalculated. -/
def withArrayCrc (gptHeader : Bytes) (sum : Nat) : Bytes :=
  sealed crc (overwrite gptHeader partitionCrcOffset (bytes4 sum))

variable {crc}

theorem headerSum_lt (gptHeader : Bytes) : headerSum crc gptHeader < 2 ^ 32 := UInt32.toNat_lt _

@[simp] theorem length_gptSignature : gptSignature.length = 9 := rfl

/-- A field that ends within the fields the code reads lies in the block. -/
theorem HeaderFits.le {gptHeader : Bytes} (h : HeaderFits gptHeader) {off n : Nat}
    (hoff : off + n ≤ partitionCrcOffset + 4) : off + n ≤ gptHeader.length :=
  hoff.trans h.fields

theorem HeaderFits.overwrite {gptHeader data : Bytes} {off : Nat} (h : HeaderFits gptHeader)
    (hlen : off + data.length ≤ gptHeader.length)
    (hapart : headerSizeOffset + 4 ≤ off ∨ off + data.length ≤ headerSizeOffset) :
    HeaderFits (ByteRegions.overwrite gptHeader off data) where
  fields := by
    rw [length_overwrite hlen]
    exact h.fields
  covered := by
    rw [length_overwrite hlen, word4_overwrite_of_apart hlen hapart]
    exact h.covered

/-- The header CRC does not depend on what its own field holds. -/
theorem headerSum_overwrite_crc {gptHeader : Bytes} (h : HeaderFits gptHeader) (y : Nat) :
    headerSum crc (overwrite gptHeader headerCrcOffset (bytes4 y)) = headerSum crc gptHeader := by
  have hlen : headerCrcOffset + (bytes4 y).length ≤ gptHeader.length := h.le (n := 4) (by decide)
  rw [headerSum, headerSum, overwrite_bytes4_bytes4 _ _ hlen,
    word4_overwrite_of_apart hlen (Or.inl (by decide))]

theorem HeaderFits.sealed {gptHeader : Bytes} (h : HeaderFits gptHeader) :
    HeaderFits (sealed crc gptHeader) :=
  h.overwrite (h.le (n := 4) (by decide)) (Or.inl (by decide))

theorem length_sealed {gptHeader : Bytes} (h : HeaderFits gptHeader) :
    (sealed crc gptHeader).length = gptHeader.length :=
  length_overwrite (h.le (n := 4) (by decide))

/-- Recalculating the CRC changes no byte outside its field. -/
theorem getElem?_sealed {gptHeader : Bytes} (h : HeaderFits gptHeader) {i : Nat}
    (hi : ¬(headerCrcOffset ≤ i ∧ i < headerCrcOffset + 4)) :
    (sealed crc gptHeader)[i]? = gptHeader[i]? := by
  rw [Gpt.sealed, getElem?_overwrite (h.le (n := 4) (by decide)), length_bytes4, if_neg hi]

theorem word4_sealed_of_apart {gptHeader : Bytes} (h : HeaderFits gptHeader) {off : Nat}
    (hapart : off + 4 ≤ headerCrcOffset ∨ headerCrcOffset + 4 ≤ off) :
    word4 (sealed crc gptHeader) off = word4 gptHeader off :=
  word4_overwrite_of_apart (h.le (n := 4) (by decide)) hapart

theorem headerSum_sealed {gptHeader : Bytes} (h : HeaderFits gptHeader) :
    headerSum crc (sealed crc gptHeader) = headerSum crc gptHeader :=
  headerSum_overwrite_crc h _

/-- A recalculated header carries its own CRC. -/
theorem word4_sealed {gptHeader : Bytes} (h : HeaderFits gptHeader) :
    word4 (sealed crc gptHeader) headerCrcOffset = headerSum crc (sealed crc gptHeader) := by
  rw [headerSum_sealed h]
  exact word4_overwrite (h.le (by decide)) (headerSum_lt _)

/-- Recalculating the CRC of a header whose CRC matches changes nothing. -/
theorem sealed_of_match {gptHeader : Bytes} (h : HeaderFits gptHeader)
    (hmatch : word4 gptHeader headerCrcOffset = headerSum crc gptHeader) :
    sealed crc gptHeader = gptHeader := by
  rw [sealed, ← hmatch]
  exact overwrite_word4 (h.le (by decide))

/-- Only the bytes outside the CRC field decide what a recalculated header is. -/
theorem sealed_overwrite_crc {gptHeader : Bytes} (h : HeaderFits gptHeader) (y : Nat) :
    sealed crc (overwrite gptHeader headerCrcOffset (bytes4 y)) = sealed crc gptHeader := by
  rw [sealed, headerSum_overwrite_crc h,
    overwrite_bytes4_bytes4 _ _ (h.le (by decide))]
  rfl

/-- A write outside the CRC field may be made before or after the CRC was recalculated. -/
theorem sealed_overwrite_sealed {gptHeader data : Bytes} {off : Nat} (h : HeaderFits gptHeader)
    (hlen : off + data.length ≤ gptHeader.length)
    (hsize : headerSizeOffset + 4 ≤ off ∨ off + data.length ≤ headerSizeOffset)
    (hcrc : headerCrcOffset + 4 ≤ off ∨ off + data.length ≤ headerCrcOffset) :
    sealed crc (overwrite (sealed crc gptHeader) off data) = sealed crc (overwrite gptHeader off data) := by
  have hcomm : overwrite (sealed crc gptHeader) off data =
      overwrite (overwrite gptHeader off data) headerCrcOffset (bytes4 (headerSum crc gptHeader)) :=
    overwrite_comm (h.le (n := 4) (by decide)) hlen hcrc
  rw [hcomm]
  exact sealed_overwrite_crc (h.overwrite hlen hsize) _

theorem putHeaderCrc_eq {gptHeader : Bytes} (h : HeaderFits gptHeader) :
    putHeaderCrc crc gptHeader (word4 gptHeader headerSizeOffset) = some (sealed crc gptHeader) := by
  have hlen : headerCrcOffset + (bytes4 0).length ≤ gptHeader.length := h.le (n := 4) (by decide)
  have hcovered : word4 gptHeader headerSizeOffset ≤
      (overwrite gptHeader headerCrcOffset (bytes4 0)).length := by
    rw [length_overwrite hlen]
    exact h.covered
  have hlen' : ∀ y, headerCrcOffset + (bytes4 y).length ≤
      (overwrite gptHeader headerCrcOffset (bytes4 0)).length := by
    intro y
    rw [length_overwrite hlen]
    exact hlen
  simp only [putHeaderCrc, put4Bytes, memcpy, crc32, if_pos hlen, if_pos hcovered, if_pos (hlen' _),
    Option.bind_eq_bind, Option.bind_some]
  rw [overwrite_bytes4_bytes4 _ _ hlen]
  rfl

/-- The CRC can be recalculated only where the block holds all the bytes it covers. -/
theorem headerFits_of_putHeaderCrc {gptHeader written : Bytes}
    (hroom : partitionCrcOffset + 4 ≤ gptHeader.length)
    (h : putHeaderCrc crc gptHeader (word4 gptHeader headerSizeOffset) = some written) :
    HeaderFits gptHeader := by
  have hlen : headerCrcOffset + (bytes4 0).length ≤ gptHeader.length := le_trans (by decide) hroom
  simp only [putHeaderCrc, put4Bytes, memcpy, if_pos hlen, Option.bind_eq_bind, Option.bind_some,
    Option.bind_eq_some_iff, crc32, length_overwrite hlen] at h
  obtain ⟨sum, hsum, -⟩ := h
  refine ⟨hroom, ?_⟩
  by_contra hcovered
  rw [if_neg hcovered] at hsum
  cases hsum

theorem headerFits_of_headerState {gptHeader : Bytes} {state : GptState}
    (hroom : partitionCrcOffset + 4 ≤ gptHeader.length) (h : headerState crc gptHeader = some state) :
    HeaderFits gptHeader := by
  have hlen : headerCrcOffset + (bytes4 0).length ≤ gptHeader.length := le_trans (by decide) hroom
  have hsignature : gptSignature.length ≤ gptHeader.length := le_trans (by decide) hroom
  have hsize : headerSizeOffset + 4 ≤ gptHeader.length := le_trans (by decide) hroom
  have hcrc : headerCrcOffset + 4 ≤ gptHeader.length := hlen
  simp only [headerState, memcmp, get4Bytes, put4Bytes, memcpy, if_pos hsignature, if_pos hsize,
    if_pos hcrc, if_pos hlen, Option.bind_eq_bind, Option.bind_some, Option.bind_eq_some_iff, crc32,
    length_overwrite hlen] at h
  obtain ⟨sum, hsum, -⟩ := h
  refine ⟨hroom, ?_⟩
  by_contra hcovered
  rw [if_neg hcovered] at hsum
  cases hsum

/-- What `gpt_get_state` finds: the CRC decides first, then the signature. -/
theorem headerState_eq {gptHeader : Bytes} (h : HeaderFits gptHeader) :
    headerState crc gptHeader = some
      (if word4 gptHeader headerCrcOffset = headerSum crc gptHeader then
        if gptHeader.take 9 = gptSignature then .gptOk else .gptBadSignature
      else .gptBadCrc) := by
  have hlen : headerCrcOffset + (bytes4 0).length ≤ gptHeader.length := h.le (n := 4) (by decide)
  have hcovered : word4 gptHeader headerSizeOffset ≤
      (overwrite gptHeader headerCrcOffset (bytes4 0)).length := by
    rw [length_overwrite hlen]
    exact h.covered
  have hsignature : gptSignature.length ≤ gptHeader.length := le_trans (by decide) h.fields
  have hsize : headerSizeOffset + 4 ≤ gptHeader.length := h.le (by decide)
  have hcrc : headerCrcOffset + 4 ≤ gptHeader.length := h.le (by decide)
  simp only [headerState, memcmp, get4Bytes, put4Bytes, memcpy, crc32, if_pos hsignature, if_pos hsize,
    if_pos hcrc, if_pos hlen, if_pos hcovered, Option.bind_eq_bind, Option.bind_some, Option.pure_def,
    Option.some.injEq]
  change (if headerSum crc gptHeader != word4 gptHeader headerCrcOffset then _ else
    if gptHeader.take 9 != gptSignature then _ else _) = _
  by_cases hsum : word4 gptHeader headerCrcOffset = headerSum crc gptHeader
  · by_cases htake : gptHeader.take 9 = gptSignature <;> simp [hsum, htake]
  · rw [if_neg hsum, if_pos]
    simpa using fun heq => hsum heq.symm

theorem headerState_eq_ok {gptHeader : Bytes} (h : HeaderFits gptHeader) :
    headerState crc gptHeader = some .gptOk ↔
      word4 gptHeader headerCrcOffset = headerSum crc gptHeader ∧ gptHeader.take 9 = gptSignature := by
  rw [headerState_eq h]
  by_cases hsum : word4 gptHeader headerCrcOffset = headerSum crc gptHeader <;>
    by_cases htake : gptHeader.take 9 = gptSignature <;> simp [hsum, htake]

theorem headerState_eq_badSignature {gptHeader : Bytes} (h : HeaderFits gptHeader) :
    headerState crc gptHeader = some .gptBadSignature ↔
      word4 gptHeader headerCrcOffset = headerSum crc gptHeader ∧ gptHeader.take 9 ≠ gptSignature := by
  rw [headerState_eq h]
  by_cases hsum : word4 gptHeader headerCrcOffset = headerSum crc gptHeader <;>
    by_cases htake : gptHeader.take 9 = gptSignature <;> simp [hsum, htake]

theorem take_sealed {gptHeader : Bytes} (h : HeaderFits gptHeader) :
    (sealed crc gptHeader).take 9 = gptHeader.take 9 := by
  apply List.ext_getElem?
  intro i
  rw [List.getElem?_take, List.getElem?_take]
  split_ifs with hi
  · exact getElem?_sealed h (fun hcrc => absurd (hcrc.1.trans_lt hi) (by decide))
  · rfl

/-- A recalculated header is never `GPT_BAD_CRC`. -/
theorem headerState_sealed {gptHeader : Bytes} (h : HeaderFits gptHeader) :
    headerState crc (sealed crc gptHeader) = some
      (if gptHeader.take 9 = gptSignature then .gptOk else .gptBadSignature) := by
  rw [headerState_eq h.sealed, word4_sealed h, if_pos rfl, take_sealed h]

/-! ### Corrupting, repairing and the array CRC -/

theorem HeaderFits.withSignature {gptHeader : Bytes} (h : HeaderFits gptHeader) :
    HeaderFits (ByteRegions.overwrite gptHeader 0 gptSignature) :=
  h.overwrite (h.le (n := 9) (by decide)) (Or.inr (by decide))

theorem HeaderFits.withoutSignature {gptHeader : Bytes} (h : HeaderFits gptHeader) :
    HeaderFits (ByteRegions.overwrite gptHeader 0 [0]) :=
  h.overwrite (h.le (n := 1) (by decide)) (Or.inr (by decide))

theorem HeaderFits.withArrayWord {gptHeader : Bytes} (h : HeaderFits gptHeader) (sum : Nat) :
    HeaderFits (ByteRegions.overwrite gptHeader partitionCrcOffset (bytes4 sum)) :=
  h.overwrite (h.le (n := 4) (by decide)) (Or.inl (by decide))

theorem setHeaderState_ok {gptHeader : Bytes} (h : HeaderFits gptHeader) :
    setHeaderState crc .gptOk gptHeader = some (some (repaired crc gptHeader)) := by
  have hfits := h.withSignature
  have hsize : headerSizeOffset + 4 ≤ (overwrite gptHeader 0 gptSignature).length := hfits.le (by decide)
  have hlen : 0 + gptSignature.length ≤ gptHeader.length := h.le (n := 9) (by decide)
  simp only [setHeaderState, memcpy, get4Bytes, if_pos hlen, if_pos hsize, Option.bind_eq_bind,
    Option.bind_some, putHeaderCrc_eq hfits]
  rfl

theorem setHeaderState_badSignature {gptHeader : Bytes} (h : HeaderFits gptHeader) :
    setHeaderState crc .gptBadSignature gptHeader = some (some (corrupted crc gptHeader)) := by
  have hfits := h.withoutSignature
  have hsize : headerSizeOffset + 4 ≤ (overwrite gptHeader 0 [0]).length := hfits.le (by decide)
  have hlen : 0 + [(0 : UInt8)].length ≤ gptHeader.length := h.le (n := 1) (by decide)
  simp only [setHeaderState, memcpy, get4Bytes, if_pos hlen, if_pos hsize, Option.bind_eq_bind,
    Option.bind_some, putHeaderCrc_eq hfits]
  rfl

/-- Replacing bytes before the HeaderSize field does not make a header fit. -/
theorem headerFits_of_overwrite_front {gptHeader data : Bytes} (hdata : 0 + data.length ≤ headerSizeOffset)
    (hlen : 0 + data.length ≤ gptHeader.length) (h : HeaderFits (overwrite gptHeader 0 data)) :
    HeaderFits gptHeader where
  fields := by
    rw [← length_overwrite hlen]
    exact h.fields
  covered := by
    rw [← length_overwrite hlen, ← word4_overwrite_of_apart hlen (Or.inr hdata)]
    exact h.covered

/-- The two states that `gpt_set_state` accepts need a header that holds the bytes it covers. -/
theorem headerFits_of_setHeaderState {state : GptState} {gptHeader : Bytes} {written : Option Bytes}
    (hroom : partitionCrcOffset + 4 ≤ gptHeader.length) (hstate : state ≠ .gptBadCrc)
    (h : setHeaderState crc state gptHeader = some written) : HeaderFits gptHeader := by
  have hfield : ∀ {data : Bytes}, 0 + data.length ≤ gptHeader.length →
      partitionCrcOffset + 4 ≤ (overwrite gptHeader 0 data).length ∧
        headerSizeOffset + 4 ≤ (overwrite gptHeader 0 data).length := by
    intro data hlen
    rw [length_overwrite hlen]
    exact ⟨hroom, le_trans (by decide) hroom⟩
  cases state with
  | gptBadCrc => exact absurd rfl hstate
  | gptOk =>
      have hlen : 0 + gptSignature.length ≤ gptHeader.length := le_trans (by decide) hroom
      simp only [setHeaderState, memcpy, get4Bytes, if_pos hlen, if_pos (hfield hlen).2,
        Option.bind_eq_bind, Option.bind_some, Option.bind_eq_some_iff] at h
      obtain ⟨sealed, hsealed, -⟩ := h
      exact headerFits_of_overwrite_front (by decide) hlen
        (headerFits_of_putHeaderCrc (hfield hlen).1 hsealed)
  | gptBadSignature =>
      have hlen : 0 + [(0 : UInt8)].length ≤ gptHeader.length := le_trans (by decide) hroom
      simp only [setHeaderState, memcpy, get4Bytes, if_pos hlen, if_pos (hfield hlen).2,
        Option.bind_eq_bind, Option.bind_some, Option.bind_eq_some_iff] at h
      obtain ⟨sealed, hsealed, -⟩ := h
      exact headerFits_of_overwrite_front (by decide) hlen
        (headerFits_of_putHeaderCrc (hfield hlen).1 hsealed)

theorem bootChainHeader_eq {gptHeader : Bytes} (h : HeaderFits gptHeader) (sum : Nat) :
    bootChainHeader crc gptHeader sum = some (withArrayCrc crc gptHeader sum) := by
  have hlen : partitionCrcOffset + (bytes4 sum).length ≤ gptHeader.length := h.le (n := 4) (by decide)
  have hsize : headerSizeOffset + 4 ≤ gptHeader.length := h.le (by decide)
  have hseal : putHeaderCrc crc (overwrite gptHeader partitionCrcOffset (bytes4 sum))
      (word4 gptHeader headerSizeOffset) = some (withArrayCrc crc gptHeader sum) := by
    rw [← word4_overwrite_of_apart hlen (Or.inl (by decide))]
    exact putHeaderCrc_eq (h.withArrayWord sum)
  simp only [bootChainHeader, get4Bytes, put4Bytes, memcpy, if_pos hlen, if_pos hsize,
    Option.bind_eq_bind, Option.bind_some, hseal]

theorem take_withSignature (gptHeader : Bytes) :
    (overwrite gptHeader 0 gptSignature).take 9 = gptSignature := by
  rw [overwrite, List.take_zero, List.nil_append]
  exact List.take_left' rfl

theorem take_withoutSignature (gptHeader : Bytes) :
    (overwrite gptHeader 0 [0]).take 9 ≠ gptSignature := by
  simp [overwrite, gptSignature]

theorem headerState_repaired {gptHeader : Bytes} (h : HeaderFits gptHeader) :
    headerState crc (repaired crc gptHeader) = some .gptOk := by
  rw [repaired, headerState_sealed h.withSignature, if_pos (take_withSignature _)]

theorem headerState_corrupted {gptHeader : Bytes} (h : HeaderFits gptHeader) :
    headerState crc (corrupted crc gptHeader) = some .gptBadSignature := by
  rw [corrupted, headerState_sealed h.withoutSignature, if_neg (take_withoutSignature _)]

/-- Repairing a valid header changes nothing. -/
theorem repaired_of_ok {gptHeader : Bytes} (h : HeaderFits gptHeader)
    (hok : headerState crc gptHeader = some .gptOk) : repaired crc gptHeader = gptHeader := by
  obtain ⟨hmatch, htake⟩ := (headerState_eq_ok h).mp hok
  have hsame : overwrite gptHeader 0 gptSignature = gptHeader := by
    apply overwrite_self (h.le (n := 9) (by decide))
    intro i hi
    rw [length_gptSignature] at hi
    rw [Nat.zero_add, ← htake, List.getElem?_take, if_pos hi]
  rw [repaired, hsame, sealed_of_match h hmatch]

/-- Corrupting a header and repairing it is the same as repairing it. -/
theorem repaired_corrupted {gptHeader : Bytes} (h : HeaderFits gptHeader) :
    repaired crc (corrupted crc gptHeader) = repaired crc gptHeader := by
  have hlen : 0 + gptSignature.length ≤ gptHeader.length := h.le (n := 9) (by decide)
  have hcover : overwrite (overwrite gptHeader 0 [0]) 0 gptSignature = overwrite gptHeader 0 gptSignature := by
    apply List.ext_getElem?
    intro i
    rw [getElem?_overwrite (by rw [length_overwrite (h.le (n := 1) (by decide))]; exact hlen),
      getElem?_overwrite (h.le (n := 1) (by decide)), getElem?_overwrite hlen]
    rw [length_gptSignature, List.length_singleton]
    split_ifs <;> first | rfl | omega
  rw [repaired, corrupted, sealed_overwrite_sealed h.withoutSignature
    (by rw [length_overwrite (h.le (n := 1) (by decide))]; exact hlen) (Or.inr (by decide))
    (Or.inr (by decide)), hcover]
  rfl

theorem length_repaired {gptHeader : Bytes} (h : HeaderFits gptHeader) :
    (repaired crc gptHeader).length = gptHeader.length := by
  rw [repaired, length_sealed h.withSignature, length_overwrite (h.le (n := 9) (by decide))]

theorem length_corrupted {gptHeader : Bytes} (h : HeaderFits gptHeader) :
    (corrupted crc gptHeader).length = gptHeader.length := by
  rw [corrupted, length_sealed h.withoutSignature, length_overwrite (h.le (n := 1) (by decide))]

theorem length_withArrayCrc {gptHeader : Bytes} (h : HeaderFits gptHeader) (sum : Nat) :
    (withArrayCrc crc gptHeader sum).length = gptHeader.length := by
  rw [withArrayCrc, length_sealed (h.withArrayWord sum), length_overwrite (h.le (n := 4) (by decide))]

/-- Corrupting a header changes its first byte and its CRC field only. -/
theorem getElem?_corrupted {gptHeader : Bytes} (h : HeaderFits gptHeader) {i : Nat} (hi : i ≠ 0)
    (hcrc : ¬(headerCrcOffset ≤ i ∧ i < headerCrcOffset + 4)) :
    (corrupted crc gptHeader)[i]? = gptHeader[i]? := by
  rw [corrupted, getElem?_sealed h.withoutSignature hcrc, getElem?_overwrite (h.le (n := 1) (by decide)),
    List.length_singleton, if_neg (by omega)]

theorem take_withArrayCrc {gptHeader : Bytes} (h : HeaderFits gptHeader) (sum : Nat) :
    (withArrayCrc crc gptHeader sum).take 9 = gptHeader.take 9 := by
  rw [withArrayCrc, take_sealed (h.withArrayWord sum)]
  apply List.ext_getElem?
  intro i
  rw [List.getElem?_take, List.getElem?_take]
  split_ifs with hi
  · rw [getElem?_overwrite (h.le (n := 4) (by decide)),
      if_neg fun hcrc => absurd (hcrc.1.trans_lt hi) (by decide)]
  · rfl

/-- A new array CRC changes its own field and the header CRC only. -/
theorem getElem?_withArrayCrc {gptHeader : Bytes} (h : HeaderFits gptHeader) (sum : Nat) {i : Nat}
    (hcrc : ¬(headerCrcOffset ≤ i ∧ i < headerCrcOffset + 4))
    (harray : ¬(partitionCrcOffset ≤ i ∧ i < partitionCrcOffset + 4)) :
    (withArrayCrc crc gptHeader sum)[i]? = gptHeader[i]? := by
  rw [withArrayCrc, getElem?_sealed (h.withArrayWord sum) hcrc, getElem?_overwrite (h.le (n := 4) (by decide)),
    length_bytes4, if_neg harray]

/-- Giving a header whose CRC matches the array CRC that it has changes nothing. -/
theorem withArrayCrc_of_match {gptHeader : Bytes} (h : HeaderFits gptHeader)
    (hmatch : word4 gptHeader headerCrcOffset = headerSum crc gptHeader) :
    withArrayCrc crc gptHeader (word4 gptHeader partitionCrcOffset) = gptHeader := by
  rw [withArrayCrc, overwrite_word4 (h.le (by decide)), sealed_of_match h hmatch]

theorem word4_withArrayCrc {gptHeader : Bytes} (h : HeaderFits gptHeader) {sum : Nat} (hsum : sum < 2 ^ 32) :
    word4 (withArrayCrc crc gptHeader sum) partitionCrcOffset = sum := by
  have hlen : partitionCrcOffset + (bytes4 sum).length ≤ gptHeader.length := h.le (n := 4) (by decide)
  rw [withArrayCrc, word4_sealed_of_apart (h.withArrayWord sum) (Or.inr (by decide)), word4_overwrite hlen hsum]

/-- Repairing a header does not touch the CRC of its array. -/
theorem word4_repaired {gptHeader : Bytes} (h : HeaderFits gptHeader) :
    word4 (repaired crc gptHeader) partitionCrcOffset = word4 gptHeader partitionCrcOffset := by
  rw [repaired, word4_sealed_of_apart h.withSignature (Or.inr (by decide)),
    word4_overwrite_of_apart (h.le (n := 9) (by decide)) (Or.inr (by decide))]

/-- Giving a valid header another array CRC keeps it valid. -/
theorem headerState_withArrayCrc {gptHeader : Bytes} (h : HeaderFits gptHeader) (sum : Nat) :
    headerState crc (withArrayCrc crc gptHeader sum) = some
      (if gptHeader.take 9 = gptSignature then .gptOk else .gptBadSignature) := by
  have htake : (withArrayCrc crc gptHeader sum).take 9 = gptHeader.take 9 := take_withArrayCrc h sum
  rw [← htake, withArrayCrc, headerState_sealed (h.withArrayWord sum), take_sealed (h.withArrayWord sum)]

theorem withArrayCrc_withArrayCrc {gptHeader : Bytes} (h : HeaderFits gptHeader) (sum : Nat) :
    withArrayCrc crc (withArrayCrc crc gptHeader sum) sum = withArrayCrc crc gptHeader sum := by
  have hlen : partitionCrcOffset + (bytes4 sum).length ≤ gptHeader.length := h.le (n := 4) (by decide)
  rw [withArrayCrc, withArrayCrc, sealed_overwrite_sealed (h.withArrayWord sum)
    (by rw [length_overwrite hlen]; exact hlen) (Or.inl (by decide)) (Or.inl (by decide)),
    overwrite_bytes4_bytes4 _ _ hlen]

end Blocks

end Penrose.Gpt

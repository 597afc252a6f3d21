import Penrose.GptWorking

/-! The three update stages on a device that works, each from the headers it expects: the devices it
passes through, in order, and the one it leaves. -/

namespace Penrose.Gpt

open ByteRegions CallTree

/-! ### Devices -/

theorem Device.write_of_slice {s : Device} {pos : Nat} {data : Bytes}
    (h : slice s.media pos data.length = data) : s.write pos data = s := by
  rw [Device.write, splice_of_slice_eq h]

theorem Device.withBootLun_write (s : Device) (lun : Option Nat) (pos : Nat) (data : Bytes) :
    (s.write pos data).withBootLun lun = (s.withBootLun lun).write pos data := by
  cases lun <;> rfl

section Stages

variable (g : Geometry) (crc : Bytes → UInt32)

/-- The device with its header block replaced. -/
def Device.writeHeader (s : Device) (gpt : GptInstance) (gptHeader : Bytes) : Device :=
  s.write (g.headerPos gpt) gptHeader

/-- After the first write of `gpt2_set_boot_chain`. -/
def Device.withChainHeader (s : Device) (pentries : Bytes) : Device :=
  s.writeHeader g .secondaryGpt (withArrayCrc crc (g.header s.media .secondaryGpt) (crc pentries).toNat)

/-- After both writes of `gpt2_set_boot_chain`. -/
def Device.withChain (s : Device) (pentries : Bytes) : Device :=
  (s.withChainHeader g crc pentries).write (g.startOf (g.header s.media .secondaryGpt)).toNat pentries

def Device.corruptHeader (s : Device) (gpt : GptInstance) : Device :=
  s.writeHeader g gpt (corrupted crc (g.header s.media gpt))

def Device.repairHeader (s : Device) (gpt : GptInstance) : Device :=
  s.writeHeader g gpt (repaired crc (g.header s.media gpt))

variable {g crc} {s : Device}

/-- The headers of a disk of two blocks are one block; those of any other are apart. -/
theorem headers_same_or_apart (hblocks : 2 ≤ g.blocks) :
    g.headerPos .primaryGpt = g.headerPos .secondaryGpt ∨
      Apart (g.headerPos .primaryGpt) g.blkSize (g.headerPos .secondaryGpt) g.blkSize := by
  rcases Nat.eq_or_lt_of_le hblocks with htwo | hthree
  · left
    simp only [Geometry.headerPos, Geometry.size, ← htwo]
    omega
  · have hsize : 3 * g.blkSize ≤ g.size := Nat.mul_le_mul_right _ hthree
    right
    simp only [Apart, Geometry.headerPos]
    omega

theorem headers_apart (hblocks : 2 ≤ g.blocks)
    (hne : g.header s.media .primaryGpt ≠ g.header s.media .secondaryGpt) :
    Apart (g.headerPos .primaryGpt) g.blkSize (g.headerPos .secondaryGpt) g.blkSize := by
  rcases headers_same_or_apart hblocks with hsame | hapart
  · refine absurd ?_ hne
    rw [Geometry.header, Geometry.header, hsame]
  · exact hapart

theorem header_writeHeader_self {gpt : GptInstance} {gptHeader : Bytes} (hlen : gptHeader.length = g.blkSize) :
    g.header (s.writeHeader g gpt gptHeader).media gpt = gptHeader :=
  slice_splice_of_length hlen

theorem header_writeHeader_of_ne {gpt gpt' : GptInstance} {gptHeader : Bytes}
    (hapart : Apart (g.headerPos .primaryGpt) g.blkSize (g.headerPos .secondaryGpt) g.blkSize)
    (hlen : gptHeader.length = g.blkSize) (hne : gpt' ≠ gpt) :
    g.header (s.writeHeader g gpt gptHeader).media gpt' = g.header s.media gpt' := by
  apply slice_splice_of_apart
  rw [hlen]
  cases gpt <;> cases gpt'
  · exact absurd rfl hne
  · exact hapart.symm
  · exact hapart
  · exact absurd rfl hne

section Headers

variable {gpt : GptInstance} (hfits : HeaderFits (g.header s.media gpt))

include hfits

theorem header_corruptHeader_self :
    g.header (s.corruptHeader g crc gpt).media gpt = corrupted crc (g.header s.media gpt) :=
  header_writeHeader_self (Geometry.length_corrupted_header hfits)

theorem header_repairHeader_self :
    g.header (s.repairHeader g crc gpt).media gpt = repaired crc (g.header s.media gpt) :=
  header_writeHeader_self (Geometry.length_repaired_header hfits)

theorem header_corruptHeader_of_ne {gpt' : GptInstance}
    (hapart : Apart (g.headerPos .primaryGpt) g.blkSize (g.headerPos .secondaryGpt) g.blkSize)
    (hne : gpt' ≠ gpt) : g.header (s.corruptHeader g crc gpt).media gpt' = g.header s.media gpt' :=
  header_writeHeader_of_ne hapart (Geometry.length_corrupted_header hfits) hne

theorem header_repairHeader_of_ne {gpt' : GptInstance}
    (hapart : Apart (g.headerPos .primaryGpt) g.blkSize (g.headerPos .secondaryGpt) g.blkSize)
    (hne : gpt' ≠ gpt) : g.header (s.repairHeader g crc gpt).media gpt' = g.header s.media gpt' :=
  header_writeHeader_of_ne hapart (Geometry.length_repaired_header hfits) hne

end Headers

theorem header_withChainHeader_self {pentries : Bytes}
    (hfits : HeaderFits (g.header s.media .secondaryGpt)) :
    g.header (s.withChainHeader g crc pentries).media .secondaryGpt =
      withArrayCrc crc (g.header s.media .secondaryGpt) (crc pentries).toNat :=
  header_writeHeader_self (Geometry.length_withArrayCrc_header hfits _)

/-! ### Traces -/

section Working

variable (files : Files) {isUfs : Bool} (hblocks : 2 ≤ g.blocks)

include hblocks

theorem trace_corruptHeader {gpt : GptInstance} (hfits : HeaderFits (g.header s.media gpt)) :
    (working g files).Trace (gptSetState crc gpt .gptBadSignature) s {s, s.corruptHeader g crc gpt} 0
      (s.corruptHeader g crc gpt) :=
  trace_gptSetState hblocks (setHeaderState_badSignature hfits)
    (Geometry.length_corrupted_header hfits)

theorem trace_repairHeader {gpt : GptInstance} (hfits : HeaderFits (g.header s.media gpt)) :
    (working g files).Trace (gptSetState crc gpt .gptOk) s {s, s.repairHeader g crc gpt} 0
      (s.repairHeader g crc gpt) :=
  trace_gptSetState hblocks (setHeaderState_ok hfits) (Geometry.length_repaired_header hfits)

theorem trace_withChain {boot : BootChain} {pentries : Bytes}
    (hfits : HeaderFits (g.header s.media .secondaryGpt))
    (hplan : BootChainPlan g crc isUfs boot s.media pentries)
    (h0 : 0 ≤ g.startOf (g.header s.media .secondaryGpt))
    (hrange : g.startOf (g.header s.media .secondaryGpt) + pentries.length ≤ g.size) :
    (working g files).Trace (gpt2SetBootChain crc isUfs boot) s
      {s, s.withChainHeader g crc pentries, s.withChain g crc pentries} 0 (s.withChain g crc pentries) :=
  trace_gpt2SetBootChain hblocks hplan (bootChainHeader_eq hfits _)
    (Geometry.length_withArrayCrc_header hfits _) h0 hrange

/-- `UPDATE_MAIN`: the LUN, the secondary header, the secondary array, the primary header. -/
theorem trace_updateMain (devPath : String) {lun : Option Nat} {pentries : Bytes}
    (hprim : headerState crc (g.header s.media .primaryGpt) = some .gptOk)
    (hsecond : headerState crc (g.header s.media .secondaryGpt) = some .gptOk)
    (hlun : (working g files).Trace (switchBootLun isUfs .backupBoot) s {s, s.withBootLun lun} 0
      (s.withBootLun lun))
    (hplan : BootChainPlan g crc isUfs .backupBoot s.media pentries)
    (h0 : 0 ≤ g.startOf (g.header s.media .secondaryGpt))
    (hrange : g.startOf (g.header s.media .secondaryGpt) + pentries.length ≤ g.size)
    (hprimFits : HeaderFits (g.header ((s.withBootLun lun).withChain g crc pentries).media .primaryGpt)) :
    (working g files).Trace (preparePartitions crc isUfs .updateMain devPath) s
      {s, s.withBootLun lun, (s.withBootLun lun).withChainHeader g crc pentries,
        (s.withBootLun lun).withChain g crc pentries,
        ((s.withBootLun lun).withChain g crc pentries).corruptHeader g crc .primaryGpt} 0
      (((s.withBootLun lun).withChain g crc pentries).corruptHeader g crc .primaryGpt) := by
  have hroom : ∀ gpt, partitionCrcOffset + 4 ≤ (g.header s.media gpt).length := by
    intro gpt
    rw [g.length_header]
    exact g.room
  apply trace_stage hblocks hprim hsecond (by decide)
  obtain ⟨s', hs'⟩ : ∃ s', s' = s.withBootLun lun := ⟨_, rfl⟩
  have hmedia : s'.media = s.media := by rw [hs', Device.media_withBootLun]
  rw [← hs'] at hlun hprimFits ⊢
  rw [← hmedia] at hplan h0 hrange
  have hchain := trace_withChain (s := s') files hblocks
    (by rw [hmedia]; exact headerFits_of_headerState (hroom _) hsecond) hplan h0 hrange
  have hrest := Machine.trace_bind (M := working g files) (f := fun r : Int =>
    if r != 0 then .done (if r < 0 then r else 0) else gptSetState crc .primaryGpt .gptBadSignature)
    hchain (trace_corruptHeader files hblocks hprimFits)
  have hall := Machine.trace_bind (M := working g files) (f := fun r : Int => if r != 0 then .done r else do
    let r ← gpt2SetBootChain crc isUfs .backupBoot
    if r != 0 then
      return if r < 0 then r else 0
    gptSetState crc .primaryGpt .gptBadSignature) hlun hrest
  simp only [Set.insert_union, Set.singleton_union, Set.insert_eq_of_mem, Set.mem_insert_iff, true_or] at hall
  exact hall

/-- `UPDATE_BACKUP`: the LUN, the primary header, the secondary header. -/
theorem trace_updateBackup (devPath : String) {lun : Option Nat}
    (hprim : headerState crc (g.header s.media .primaryGpt) = some .gptBadSignature)
    (hsecond : headerState crc (g.header s.media .secondaryGpt) = some .gptOk)
    (hlun : (working g files).Trace (switchBootLun isUfs .normalBoot) s {s, s.withBootLun lun} 0
      (s.withBootLun lun))
    (hapart : Apart (g.headerPos .primaryGpt) g.blkSize (g.headerPos .secondaryGpt) g.blkSize) :
    (working g files).Trace (preparePartitions crc isUfs .updateBackup devPath) s
      {s, s.withBootLun lun, (s.withBootLun lun).repairHeader g crc .primaryGpt,
        ((s.withBootLun lun).repairHeader g crc .primaryGpt).corruptHeader g crc .secondaryGpt} 0
      (((s.withBootLun lun).repairHeader g crc .primaryGpt).corruptHeader g crc .secondaryGpt) := by
  have hfits : ∀ gpt, HeaderFits (g.header (s.withBootLun lun).media gpt) := by
    intro gpt
    rw [Device.media_withBootLun]
    have hroom : partitionCrcOffset + 4 ≤ (g.header s.media gpt).length := by
      rw [g.length_header]
      exact g.room
    cases gpt with
    | primaryGpt => exact headerFits_of_headerState hroom hprim
    | secondaryGpt => exact headerFits_of_headerState hroom hsecond
  apply trace_stage hblocks hprim hsecond (by decide)
  have hsecondFits : HeaderFits
      (g.header ((s.withBootLun lun).repairHeader g crc .primaryGpt).media .secondaryGpt) := by
    rw [header_repairHeader_of_ne (hfits _) hapart (by decide)]
    exact hfits _
  have hrest := Machine.trace_bind (M := working g files) (f := fun r : Int => if r != 0 then .done r else
    gptSetState crc .secondaryGpt .gptBadSignature) (trace_repairHeader files hblocks (hfits .primaryGpt))
    (trace_corruptHeader files hblocks hsecondFits)
  have hall := Machine.trace_bind (M := working g files) (f := fun r : Int => if r != 0 then .done r else do
    let r ← gptSetState crc .primaryGpt .gptOk
    if r != 0 then
      return r
    gptSetState crc .secondaryGpt .gptBadSignature) hlun hrest
  simp only [Set.insert_union, Set.singleton_union, Set.insert_eq_of_mem, Set.mem_insert_iff, true_or] at hall
  exact hall

/-- `UPDATE_FINALIZE`: the secondary header, the secondary array, the secondary header again. -/
theorem trace_updateFinalize (devPath : String) {pentries : Bytes}
    (hprim : headerState crc (g.header s.media .primaryGpt) = some .gptOk)
    (hsecond : headerState crc (g.header s.media .secondaryGpt) = some .gptBadSignature)
    (hplan : BootChainPlan g crc isUfs .normalBoot s.media pentries)
    (h0 : 0 ≤ g.startOf (g.header s.media .secondaryGpt))
    (hrange : g.startOf (g.header s.media .secondaryGpt) + pentries.length ≤ g.size)
    (hkept : HeaderFits (g.header (s.withChain g crc pentries).media .secondaryGpt)) :
    (working g files).Trace (preparePartitions crc isUfs .updateFinalize devPath) s
      {s, s.withChainHeader g crc pentries, s.withChain g crc pentries,
        (s.withChain g crc pentries).repairHeader g crc .secondaryGpt} 0
      ((s.withChain g crc pentries).repairHeader g crc .secondaryGpt) := by
  have hroom : partitionCrcOffset + 4 ≤ (g.header s.media .secondaryGpt).length := by
    rw [g.length_header]
    exact g.room
  apply trace_stage hblocks hprim hsecond (by decide)
  have hchain := trace_withChain files hblocks (headerFits_of_headerState hroom hsecond) hplan h0 hrange
  have hall := Machine.trace_bind (M := working g files) (f := fun r : Int => if r < 0 then .done r else
    gptSetState crc .secondaryGpt .gptOk) hchain (trace_repairHeader files hblocks hkept)
  simp only [Set.insert_union, Set.singleton_union, Set.insert_eq_of_mem, Set.mem_insert_iff, true_or] at hall
  exact hall

end Working

end Stages

end Penrose.Gpt

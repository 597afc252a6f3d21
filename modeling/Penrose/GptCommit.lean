import Penrose.GptEdits
import Penrose.GptFaults

/-! A whole `gpt_disk` session: as long as the edits stay in the arrays, the disk of a working device ends with both
GPTs valid and with exactly the edited arrays; and wherever the commit is cut off, one copy is valid, because each copy
is written while the other one is complete. -/

namespace Penrose.Gpt

open ByteRegions CallTree

/-- The path of the device can be found. -/
def Files.Resolves (files : Files) (isUfs : Bool) (dev : String) : Prop :=
  isUfs = true → files.stat (bootDevDir ++ "/" ++ dev) = true ∧ files.readlink (bootDevDir ++ "/" ++ dev) ≠ none

section Working

variable {g : Geometry} {files : Files} {s : Device} {isUfs : Bool} {dev : String}

theorem Geometry.blkSize_ne_zero (g : Geometry) : g.blkSize ≠ 0 := by
  have hroom := g.room
  simp only [partitionCrcOffset] at hroom
  omega

theorem trace_getDevPath (hdev : files.Resolves isUfs dev) (buf : CharBuf) :
    ∃ devpath, (working g files).Trace (getDevPathFromPartitionName isUfs dev buf) s {s} (some devpath) s := by
  cases isUfs with
  | false => exact ⟨_, Machine.trace_done _ s⟩
  | true =>
      obtain ⟨hstat, hlink⟩ := hdev rfl
      obtain ⟨realPath, hlink⟩ := Option.ne_none_iff_exists'.mp hlink
      refine ⟨(buf.place realPath.toList).truncate pathTruncateLoc, ?_⟩
      unfold getDevPathFromPartitionName
      refine trace_sys (r := true) (congrArg (·, s) hstat) ?_
      refine trace_sys (r := some realPath) (congrArg (·, s) hlink) ?_
      exact Machine.trace_done _ s

theorem trace_gptGetBlockSize : (working g files).Trace gptGetBlockSize s {s} g.blkSize s :=
  trace_sys (r := some g.blkSize) rfl (Machine.trace_done _ s)

theorem trace_gptGetHeader (hblocks : 2 ≤ g.blocks) (hdev : files.Resolves isUfs dev) (gpt : GptInstance) :
    (working g files).Trace (gptGetHeader isUfs dev gpt) s {s} (some (g.header s.media gpt)) s := by
  obtain ⟨devpath, hpath⟩ := trace_getDevPath (g := g) (s := s) hdev .cleared
  unfold gptGetHeader
  apply Machine.trace_pureBind hpath
  apply trace_sys (r := true) rfl
  apply Machine.trace_pureBind trace_gptGetBlockSize
  rw [if_neg g.blkSize_ne_zero]
  apply trace_sys (r := some (List.replicate g.blkSize 0)) rfl
  apply Machine.trace_pureBind (trace_gptHeaderOffset hblocks gpt)
  rw [if_neg (Int.not_lt.mpr (Int.natCast_nonneg _))]
  exact Machine.trace_pureBind (trace_readHeaderBlock hblocks gpt List.length_replicate) (Machine.trace_done _ s)

theorem trace_gptGetPentryArr {gpt : GptInstance} (h0 : 0 ≤ g.startOf (g.header s.media gpt))
    (hrange : g.startOf (g.header s.media gpt) + arraySizeOf (g.header s.media gpt) ≤ g.size) :
    (working g files).Trace (gptGetPentryArr (g.header s.media gpt)) s {s} (some (g.entries s.media gpt)) s := by
  unfold gptGetPentryArr
  apply Machine.trace_pureBind trace_gptGetBlockSize
  rw [if_neg g.blkSize_ne_zero]
  simp only [pentriesStartOffset_header, pentriesArraySize_header, Program.ofOption_some, Program.done_bind]
  apply trace_sys (r := some (List.replicate (arraySizeOf (g.header s.media gpt)) 0)) rfl
  have hread : (working g files).Trace (blkRead (g.startOf (g.header s.media gpt))
      (List.replicate (arraySizeOf (g.header s.media gpt)) 0)) s {s} (0, g.entries s.media gpt) s := by
    have hlong : (working g files).Trace (blkRead (g.startOf (g.header s.media gpt))
        (List.replicate (arraySizeOf (g.header s.media gpt)) 0)) s {s}
        (0, slice s.media (g.startOf (g.header s.media gpt)).toNat
          (List.replicate (arraySizeOf (g.header s.media gpt)) (0 : UInt8)).length) s :=
      trace_blkRead h0 (by rwa [List.length_replicate])
    rwa [List.length_replicate] at hlong
  exact Machine.trace_pureBind hread (Machine.trace_done _ s)

/-- The structure that `gpt_disk_get_disk_info` fills. -/
def Geometry.diskInfo (g : Geometry) (crc : Bytes → UInt32) (m : Nat → UInt8) (devpath : CharBuf) : GptDisk where
  hdr := some (g.header m .primaryGpt)
  hdrCrc := (crc ((g.header m .primaryGpt).take (word4 (g.header m .primaryGpt) headerSizeOffset))).toNat
  hdrBak := some (g.header m .secondaryGpt)
  hdrBakCrc := (crc ((g.header m .secondaryGpt).take (word4 (g.header m .primaryGpt) headerSizeOffset))).toNat
  pentryArr := some (g.entries m .primaryGpt)
  pentryArrBak := some (g.entries m .secondaryGpt)
  pentryArrSize := arraySizeOf (g.header m .primaryGpt)
  pentrySize := word4 (g.header m .primaryGpt) pentrySizeOffset
  pentryArrCrc := word4 (g.header m .primaryGpt) partitionCrcOffset
  pentryArrBakCrc := word4 (g.header m .secondaryGpt) partitionCrcOffset
  devpath := devpath
  blockSize := g.blkSize
  isInitialized := gptDiskInitMagic

/-- On a healthy disk `gpt_disk_get_disk_info` reads both headers and both arrays. -/
theorem trace_gptDiskGetDiskInfo {crc : Bytes → UInt32} (hd : g.Healthy crc s.media)
    (hdev : files.Resolves isUfs dev) (dsk : GptDisk) :
    ∃ disk, (working g files).Trace (gptDiskGetDiskInfo crc isUfs dev dsk) s {s} (0, disk) s ∧
      disk.Holds (g.header s.media) (g.entries s.media) ∧
      disk.pentrySize = word4 (g.header s.media .primaryGpt) pentrySizeOffset ∧
      disk.pentryArrSize = arraySizeOf (g.header s.media .primaryGpt) := by
  have hblocks := Geometry.two_le_blocks (hd.layout.onDevice (.header .primaryGpt))
  obtain ⟨devpath, hpath⟩ := trace_getDevPath (g := g) (s := s) hdev dsk.devpath
  have hsum : ∀ gpt, crc32 crc (g.header s.media gpt) (word4 (g.header s.media .primaryGpt) headerSizeOffset) =
      some (crc ((g.header s.media gpt).take (word4 (g.header s.media .primaryGpt) headerSizeOffset))).toNat := by
    intro gpt
    have hle := (hd.valid .primaryGpt).headerSize_le
    rw [crc32, if_pos (by rw [g.length_header]; exact hle)]
  have harray : ∀ gpt, (working g files).Trace (gptGetPentryArr (g.header s.media gpt)) s {s}
      (some (g.entries s.media gpt)) s := by
    intro gpt
    have h0 := hd.layout.start_nonneg gpt
    have hrange := hd.layout.onDevice (.entries gpt)
    simp only [Geometry.regionPos, Geometry.regionLen] at hrange
    exact trace_gptGetPentryArr h0 (by omega)
  have hlen : ∀ gpt, (g.entries s.media gpt).length = arraySizeOf (g.header s.media .primaryGpt) := by
    intro gpt
    rw [Geometry.entries, length_slice, hd.regionLen_entries gpt .primaryGpt]
    rfl
  refine ⟨g.diskInfo crc s.media devpath, ?_, ?_, rfl, rfl⟩
  swap
  · refine ⟨rfl, ?_, ?_, hlen⟩
    · rintro (_ | _) <;> rfl
    · rintro (_ | _) <;> rfl
  unfold gptDiskGetDiskInfo
  apply Machine.trace_pureBind (trace_gptGetHeader hblocks hdev .primaryGpt)
  simp only [get4Bytes_header (show headerSizeOffset + 4 ≤ partitionCrcOffset + 4 by decide), hsum,
    Program.ofOption_some, Program.done_bind]
  apply Machine.trace_pureBind (trace_gptGetHeader hblocks hdev .secondaryGpt)
  simp only [hsum, Program.ofOption_some, Program.done_bind]
  apply Machine.trace_pureBind hpath
  apply trace_sys (r := true) rfl
  apply Machine.trace_pureBind (harray .primaryGpt)
  apply Machine.trace_pureBind (harray .secondaryGpt)
  simp only [get4Bytes_header (show pentrySizeOffset + 4 ≤ partitionCrcOffset + 4 by decide),
    get4Bytes_header (show partitionCrcOffset + 4 ≤ partitionCrcOffset + 4 by decide),
    pentriesArraySize_header, Program.ofOption_some, Program.done_bind]
  exact Machine.trace_pureBind trace_gptGetBlockSize (Machine.trace_done _ s)

/-! ### The four writes of the commit -/

section Block

variable {gptHeader : Bytes} (hlen : gptHeader.length = g.blkSize)

include hlen

theorem pentriesStartOffset_block : pentriesStartOffset gptHeader g.blkSize = some (g.startOf gptHeader) := by
  have hroom : pentriesOffset + 8 ≤ gptHeader.length := by
    rw [hlen]
    exact le_trans (by decide) g.room
  rw [pentriesStartOffset, get8Bytes, if_pos hroom]
  rfl

theorem pentriesArraySize_block : pentriesArraySize gptHeader = some (arraySizeOf gptHeader) := by
  have hroom : partitionCrcOffset + 4 ≤ gptHeader.length := by
    rw [hlen]
    exact g.room
  rw [pentriesArraySize, get4Bytes, get4Bytes, if_pos (le_trans (by decide) hroom),
    if_pos (le_trans (by decide) hroom)]
  rfl

end Block

theorem trace_gptSetHeader (hblocks : 2 ≤ g.blocks) (gpt : GptInstance) {gptHeader : Bytes}
    (hlen : gptHeader.length = g.blkSize) :
    (working g files).Trace (gptSetHeader (some gptHeader) gpt) s
      {s, s.write (g.headerPos gpt) gptHeader} 0 (s.write (g.headerPos gpt) gptHeader) := by
  have hpos : ¬ ((g.headerPos gpt : Int) ≤ 0) := by
    have htwo := Geometry.two_blocks_le hblocks
    have hzero := g.blkSize_ne_zero
    cases gpt <;> simp only [Geometry.headerPos] <;> omega
  unfold gptSetHeader
  apply Machine.trace_pureBind trace_gptGetBlockSize
  rw [if_neg g.blkSize_ne_zero]
  apply Machine.trace_pureBind (trace_gptHeaderOffset hblocks gpt)
  rw [if_neg hpos]
  simp only [bufferBytes_self hlen, Program.ofOption_some, Program.done_bind]
  exact Machine.trace_map (fun r : Int => if r != 0 then (-1 : Int) else 0)
    (trace_writeHeaderBlock hblocks gpt hlen)

theorem trace_gptSetPentryArr {gptHeader arr : Bytes} (hlen : gptHeader.length = g.blkSize)
    (harr : arr.length = arraySizeOf gptHeader) (h0 : 0 ≤ g.startOf gptHeader)
    (hrange : g.startOf gptHeader + arr.length ≤ g.size) :
    (working g files).Trace (gptSetPentryArr (some gptHeader) (some arr)) s
      {s, s.write (g.startOf gptHeader).toNat arr} 0 (s.write (g.startOf gptHeader).toNat arr) := by
  unfold gptSetPentryArr
  apply Machine.trace_pureBind trace_gptGetBlockSize
  rw [if_neg g.blkSize_ne_zero]
  simp only [pentriesStartOffset_block hlen, pentriesArraySize_block hlen, bufferBytes_self harr,
    Program.ofOption_some, Program.done_bind]
  exact Machine.trace_map (fun r : Int => if r != 0 then (-1 : Int) else 0) (trace_blkWrite h0 hrange)

end Working

section Faulty

variable {g : Geometry} {C : Device → Prop} {Q : Int → Device → Prop} {s : Device}

theorem wp_gptGetBlockSize {Q : Nat → Device → Prop} (hC : C s) (herr : Q 0 s) (hok : Q g.blkSize s) :
    wp (faulty g) Q C gptGetBlockSize s := by
  unfold gptGetBlockSize
  rw [sys_bind]
  refine wp_pureCall hC (fun _ ht => ht) ?_
  rintro r t ⟨rfl, rfl | rfl⟩
  · exact ⟨rfl, hC, herr⟩
  · exact ⟨rfl, hC, hok⟩

/-- The block size is known, or the function returns -1. -/
theorem wp_withBlockSize {f : Nat → Sys Int} (hC : C s) (herr : Q (-1) s)
    (hok : wp (faulty g) Q C (f g.blkSize) s) :
    wp (faulty g) Q C (do
      let blockSize ← gptGetBlockSize
      if blockSize = 0 then
        return -1
      f blockSize) s := by
  refine wp_seq (wp_gptGetBlockSize (Q := fun n t => t = s ∧ (n = 0 ∨ n = g.blkSize)) hC
    ⟨rfl, Or.inl rfl⟩ ⟨rfl, Or.inr rfl⟩) ?_
  rintro n t ⟨rfl, rfl | rfl⟩
  · exact ⟨hC, herr⟩
  · rw [if_neg g.blkSize_ne_zero]
    exact hok

theorem wp_gptSetHeader {gpt : GptInstance} {gptHeader : Bytes} (hlen : gptHeader.length = g.blkSize)
    (hC : C s) (herr : Q (-1) s)
    (hok : C (s.write (g.headerPos gpt) gptHeader) ∧ Q (-1) (s.write (g.headerPos gpt) gptHeader) ∧
      Q 0 (s.write (g.headerPos gpt) gptHeader)) :
    wp (faulty g) Q C (gptSetHeader (some gptHeader) gpt) s := by
  obtain ⟨hCw, herrw, hokw⟩ := hok
  apply wp_withBlockSize hC herr
  refine wp_seq (wp_gptHeaderOffset (Q := fun offset t => t = s ∧ (offset < 0 ∨ offset = g.headerPos gpt))
    hC (fun _ hneg => ⟨rfl, Or.inl hneg⟩) ⟨rfl, Or.inr rfl⟩) ?_
  rintro offset t ⟨rfl, hoffset⟩
  by_cases hneg : offset ≤ 0
  · rw [if_pos hneg]
    exact ⟨hC, herr⟩
  rw [if_neg hneg]
  obtain rfl : offset = g.headerPos gpt := hoffset.resolve_left (by omega)
  simp only [bufferBytes_self hlen, Program.ofOption_some, Program.done_bind]
  refine wp_seq (wp_blkWrite (Q := fun r u => C u ∧ Q (if r != 0 then -1 else 0) u) hC
    ⟨hC, herr⟩ ?_ (fun _ _ => ⟨hCw, ⟨hCw, herrw⟩, ⟨hCw, hokw⟩⟩)) (fun r u h => h)
  intro _ u hu
  rcases hu.header ⟨hlen, gpt, rfl⟩ with rfl | rfl
  · exact ⟨hC, hC, herr⟩
  · exact ⟨hCw, hCw, herrw⟩

theorem wp_gptSetPentryArr {gptHeader arr : Bytes} (hlen : gptHeader.length = g.blkSize)
    (harr : arr.length = arraySizeOf gptHeader) (hC : C s) (herr : Q (-1) s)
    (htorn : ∀ t, TornWrite g (g.startOf gptHeader) arr s t → C t ∧ Q (-1) t)
    (hok : C (s.write (g.startOf gptHeader).toNat arr) ∧ Q (-1) (s.write (g.startOf gptHeader).toNat arr) ∧
      Q 0 (s.write (g.startOf gptHeader).toNat arr)) :
    wp (faulty g) Q C (gptSetPentryArr (some gptHeader) (some arr)) s := by
  obtain ⟨hCw, herrw, hokw⟩ := hok
  apply wp_withBlockSize hC herr
  simp only [pentriesStartOffset_block hlen, pentriesArraySize_block hlen, bufferBytes_self harr,
    Program.ofOption_some, Program.done_bind]
  exact wp_seq (wp_blkWrite (Q := fun r u => C u ∧ Q (if r != 0 then -1 else 0) u) hC ⟨hC, herr⟩
    (fun _ t ht => ⟨(htorn t ht).1, (htorn t ht).1, (htorn t ht).2⟩)
    (fun _ _ => ⟨hCw, ⟨hCw, herrw⟩, ⟨hCw, hokw⟩⟩)) (fun r u h => h)

theorem faultless_gptGetBlockSize (s : Device) :
    Faultless (faulty g) (fun blockSize _ => blockSize = 0 ∨ blockSize = g.blkSize) gptGetBlockSize s := by
  have honly : Only (fun _ => True) gptGetBlockSize := by
    refine ⟨trivial, fun blockSize => ?_⟩
    cases blockSize <;> trivial
  have hwp : wp (faulty g) (fun blockSize (_ : Device) => blockSize = 0 ∨ blockSize = g.blkSize) (fun _ => True)
      gptGetBlockSize s := wp_gptGetBlockSize trivial (Or.inl rfl) (Or.inr rfl)
  refine ⟨honly.not_faults s, fun blockSize t hreturns => ?_⟩
  have hfound := wp_returns hwp hreturns
  exact hfound

theorem faultless_blkWrite (offset : Int) (buf : Bytes) (s : Device) :
    Faultless (faulty g) (fun _ _ => True) (do
      let r ← blkWrite offset buf
      return if r != 0 then (-1 : Int) else 0) s := by
  have honly := (only_blkWrite offset buf).bind (f := fun r => .done (if r != 0 then (-1 : Int) else 0))
    fun _ => trivial
  exact ⟨honly.not_faults s, fun _ _ _ => trivial⟩

theorem faultless_gptSetHeader {gpt : GptInstance} {gptHeader : Bytes} (hlen : gptHeader.length = g.blkSize)
    (s : Device) : Faultless (faulty g) (fun _ _ => True) (gptSetHeader (some gptHeader) gpt) s := by
  unfold gptSetHeader
  refine faultless_bind (faultless_gptGetBlockSize s) fun blockSize t hblockSize => ?_
  rcases hblockSize with rfl | rfl
  · exact faultless_done trivial
  rw [if_neg g.blkSize_ne_zero]
  have hoffset : Faultless (faulty g) (fun _ _ => True) (gptHeaderOffset gpt g.blkSize) t :=
    ⟨(only_gptHeaderOffset gpt g.blkSize).not_faults t, fun _ _ _ => trivial⟩
  refine faultless_bind hoffset fun offset u _ => ?_
  split_ifs
  · exact faultless_done trivial
  simp only [bufferBytes_self hlen, Program.ofOption_some, Program.done_bind]
  exact faultless_blkWrite offset gptHeader u

theorem faultless_gptSetPentryArr {gptHeader arr : Bytes} (hlen : gptHeader.length = g.blkSize)
    (harr : arr.length = arraySizeOf gptHeader) (s : Device) :
    Faultless (faulty g) (fun _ _ => True) (gptSetPentryArr (some gptHeader) (some arr)) s := by
  unfold gptSetPentryArr
  refine faultless_bind (faultless_gptGetBlockSize s) fun blockSize t hblockSize => ?_
  rcases hblockSize with rfl | rfl
  · exact faultless_done trivial
  rw [if_neg g.blkSize_ne_zero]
  simp only [pentriesStartOffset_block hlen, pentriesArraySize_block hlen, bufferBytes_self harr,
    Program.ofOption_some, Program.done_bind]
  exact faultless_blkWrite _ arr t

end Faulty

/-! ### The commit of a structure whose CRCs are up to date -/

/-- The device after the header and then the array of one copy were written. -/
def Device.writeCopy (g : Geometry) (s : Device) (gpt : GptInstance) (gptHeader arr : Bytes) : Device :=
  (s.write (g.headerPos gpt) gptHeader).write (g.startOf gptHeader).toNat arr

section Commit

variable {g : Geometry} {crc : Bytes → UInt32} {m₀ : Nat → UInt8} {s : Device} {disk : GptDisk}
  {a : GptInstance → Bytes} (hd : g.Healthy crc m₀)

/-- The header that `gpt_disk_update_crc` makes for a new array. -/
def Geometry.newHeader (g : Geometry) (crc : Bytes → UInt32) (m₀ : Nat → UInt8) (a : GptInstance → Bytes)
    (gpt : GptInstance) : Bytes :=
  withArrayCrc crc (g.header m₀ gpt) (crc (a gpt)).toNat

/-- The headers still describe the same arrays, and the GPT is valid. -/
structure Geometry.Kept (g : Geometry) (crc : Bytes → UInt32) (m₀ : Nat → UInt8) (gpt : GptInstance) (t : Device) :
    Prop where
  fields : ∀ gpt', SameFields (g.header m₀ gpt') (g.header t.media gpt')
  valid : ValidGpt crc (g.view m₀ t.media) gpt

theorem Geometry.Kept.fullyValid {gpt : GptInstance} {t : Device} (h : g.Kept crc m₀ gpt t) :
    g.FullyValid t.media crc gpt :=
  (Geometry.fullyValid_iff (h.fields gpt)).mpr h.valid

include hd

theorem newHeader_sameFields (gpt : GptInstance) : SameFields (g.header m₀ gpt) (g.newHeader crc m₀ a gpt) :=
  SameFields.withArrayCrc (hd.validGpt gpt).fits _

theorem length_newHeader (gpt : GptInstance) : (g.newHeader crc m₀ a gpt).length = g.blkSize :=
  (newHeader_sameFields hd gpt).length.trans (g.length_header ..)

/-- Writing a header that describes the same array does not disturb the other copy. -/
theorem Geometry.Kept.writeHeader {gpt gpt' : GptInstance} (hne : gpt' ≠ gpt) (h : g.Kept crc m₀ gpt' s) :
    g.Kept crc m₀ gpt' (s.write (g.headerPos gpt) (g.newHeader crc m₀ a gpt)) := by
  have hview : g.view m₀ (s.write (g.headerPos gpt) (g.newHeader crc m₀ a gpt)).media =
      Function.update (g.view m₀ s.media) (.header gpt) (g.newHeader crc m₀ a gpt) :=
    view_writeHeader hd (length_newHeader hd gpt)
  have hother : ∀ r, r ≠ .header gpt →
      g.view m₀ (s.write (g.headerPos gpt) (g.newHeader crc m₀ a gpt)).media r = g.view m₀ s.media r := by
    intro r hr
    rw [hview, Function.update_of_ne hr]
  refine ⟨fun c => ?_, h.valid.congr (hother _ (by simpa using hne)) (hother _ (by simp))⟩
  by_cases hc : c = gpt
  · subst hc
    have hsame := congrFun hview (.header c)
    rw [Geometry.view_header, Function.update_self] at hsame
    rw [hsame]
    exact newHeader_sameFields hd c
  · have hsame := hother (.header c) (by simpa using hc)
    simp only [Geometry.view_header] at hsame
    rw [hsame]
    exact h.fields c

/-- Whatever happens inside one array does not disturb the other copy. -/
theorem Geometry.Kept.entries {gpt gpt' : GptInstance} {t : Device} (hne : gpt' ≠ gpt)
    (h : g.Kept crc m₀ gpt' s) (hout : SameOutside s.media t.media (g.regionPos m₀ (.entries gpt))
      (g.regionLen m₀ (.entries gpt))) : g.Kept crc m₀ gpt' t := by
  have hother : ∀ r, r ≠ .entries gpt → g.view m₀ t.media r = g.view m₀ s.media r :=
    fun r hr => Geometry.view_of_sameOutside hd.layout.disjoint hr hout
  refine ⟨fun c => ?_, h.valid.congr (hother _ (by simp)) (hother _ (by simpa using hne))⟩
  have hsame := hother (.header c) (by simp)
  simp only [Geometry.view_header] at hsame
  rw [hsame]
  exact h.fields c

variable (hlen : ∀ gpt, (a gpt).length = g.regionLen m₀ (.entries gpt))

include hlen

theorem view_writeCopy (gpt : GptInstance) :
    g.view m₀ (s.writeCopy g gpt (g.newHeader crc m₀ a gpt) (a gpt)).media =
      Function.update (Function.update (g.view m₀ s.media) (.header gpt) (g.newHeader crc m₀ a gpt))
        (.entries gpt) (a gpt) := by
  rw [Device.writeCopy, view_writeEntries hd (newHeader_sameFields hd gpt) (hlen gpt),
    view_writeHeader hd (length_newHeader hd gpt)]

/-- A copy that was written completely is valid. -/
theorem valid_writeCopy (gpt : GptInstance) :
    ValidGpt crc (g.view m₀ (s.writeCopy g gpt (g.newHeader crc m₀ a gpt) (a gpt)).media) gpt := by
  have hvalid := hd.validGpt gpt
  rw [view_writeCopy hd hlen]
  refine validGpt_withArrayCrc (a gpt) hvalid.fits hvalid.signature ?_ (Function.update_self ..)
  rw [Function.update_of_ne (by simp), Function.update_self]
  rfl

/-- One copy is written while the other one is valid. -/
theorem wp_writeCopy {gpt gpt' : GptInstance} {rest : Sys Int} (hne : gpt' ≠ gpt) (h : g.Kept crc m₀ gpt' s)
    (hrest : ∀ t, g.Kept crc m₀ gpt t →
      wp (faulty g) (fun _ _ => True) (fun t => ∃ c, g.Kept crc m₀ c t) rest t) :
    wp (faulty g) (fun _ _ => True) (fun t => ∃ c, g.Kept crc m₀ c t) (do
      if (← gptSetHeader (some (g.newHeader crc m₀ a gpt)) gpt) ≠ 0 then
        return -1
      if (← gptSetPentryArr (some (g.newHeader crc m₀ a gpt)) (some (a gpt))) ≠ 0 then
        return -1
      rest) s := by
  have hfields := newHeader_sameFields (a := a) hd gpt
  have hblk := length_newHeader (a := a) hd gpt
  have h₁ := h.writeHeader (a := a) hd hne
  have herr : ∀ {P : Prop}, (-1 : Int) = 0 → P := fun h => absurd h (by decide)
  refine wp_seq (wp_gptSetHeader (Q := fun r t => g.Kept crc m₀ gpt' t ∧
    (r = 0 → t = s.write (g.headerPos gpt) (g.newHeader crc m₀ a gpt))) hblk ⟨_, h⟩ ⟨h, herr⟩
    ⟨⟨_, h₁⟩, ⟨h₁, herr⟩, ⟨h₁, fun _ => rfl⟩⟩) ?_
  rintro r t ⟨hkept, hwritten⟩
  by_cases hr : r = 0
  swap
  · rw [if_pos hr]
    exact ⟨⟨_, hkept⟩, trivial⟩
  rw [if_neg (not_not.mpr hr)]
  obtain rfl := hwritten hr
  have harr : (a gpt).length = arraySizeOf (g.newHeader crc m₀ a gpt) :=
    (hlen gpt).trans hfields.arraySizeOf.symm
  have hinside : ∀ t, TornWrite g (g.startOf (g.newHeader crc m₀ a gpt)) (a gpt)
      (s.write (g.headerPos gpt) (g.newHeader crc m₀ a gpt)) t → g.Kept crc m₀ gpt' t := by
    intro t ht
    have hout := ht.outside
    rw [hlen, hfields.startOf] at hout
    exact h₁.entries hd hne hout
  have h₂ : g.Kept crc m₀ gpt' (s.writeCopy g gpt (g.newHeader crc m₀ a gpt) (a gpt)) :=
    hinside _ ⟨rfl, sameOutside_splice _ _ _, fun _ => Or.inr rfl⟩
  refine wp_seq (wp_gptSetPentryArr (Q := fun r t => (∃ c, g.Kept crc m₀ c t) ∧
    (r = 0 → t = s.writeCopy g gpt (g.newHeader crc m₀ a gpt) (a gpt))) hblk harr ⟨_, h₁⟩ ⟨⟨_, h₁⟩, herr⟩
    (fun t ht => ⟨⟨_, hinside t ht⟩, ⟨_, hinside t ht⟩, herr⟩)
    ⟨⟨_, h₂⟩, ⟨⟨_, h₂⟩, herr⟩, ⟨⟨_, h₂⟩, fun _ => rfl⟩⟩) ?_
  rintro r t ⟨hkept, hwritten⟩
  by_cases hr : r = 0
  swap
  · rw [if_pos hr]
    exact ⟨hkept, trivial⟩
  rw [if_neg (not_not.mpr hr)]
  obtain rfl := hwritten hr
  exact hrest _ ⟨h₂.fields, valid_writeCopy hd hlen gpt⟩

theorem wp_gptDiskCommit (hdisk : disk.Holds (g.newHeader crc m₀ a) a) (h : g.Kept crc m₀ .secondaryGpt s) :
    wp (faulty g) (fun _ _ => True) (fun t => ∃ c, g.Kept crc m₀ c t) (gptDiskCommit disk) s := by
  have hhdr : disk.hdr = some _ := hdisk.header .primaryGpt
  have hhdrBak : disk.hdrBak = some _ := hdisk.header .secondaryGpt
  have harr : disk.pentryArr = some _ := hdisk.pentries .primaryGpt
  have harrBak : disk.pentryArrBak = some _ := hdisk.pentries .secondaryGpt
  unfold gptDiskCommit
  rw [if_neg (not_not.mpr hdisk.initialized), hhdr, hhdrBak, harr, harrBak, sys_bind]
  refine wp_pureCall ⟨_, h⟩ (fun _ ht => ht) ?_
  rintro opened t rfl
  refine ⟨rfl, ?_⟩
  cases opened with
  | false => exact ⟨⟨_, h⟩, trivial⟩
  | true =>
      apply wp_writeCopy hd hlen (by decide) h
      intro t ht
      exact wp_writeCopy hd hlen (by decide) ht fun u hu => ⟨⟨_, hu⟩, trivial⟩

/-- A copy of the right sizes is written without leaving its buffers. -/
theorem faultless_writeCopy (gpt : GptInstance) {rest : Sys Int} (hrest : ∀ t, ¬ Faults (faulty g) rest t)
    (t : Device) :
    Faultless (faulty g) (fun _ _ => True) (do
      if (← gptSetHeader (some (g.newHeader crc m₀ a gpt)) gpt) ≠ 0 then
        return -1
      if (← gptSetPentryArr (some (g.newHeader crc m₀ a gpt)) (some (a gpt))) ≠ 0 then
        return -1
      rest) t := by
  have hblk := length_newHeader (a := a) hd gpt
  have harr : (a gpt).length = arraySizeOf (g.newHeader crc m₀ a gpt) :=
    (hlen gpt).trans (newHeader_sameFields hd gpt).arraySizeOf.symm
  refine faultless_bind (faultless_gptSetHeader hblk t) fun r u _ => ?_
  by_cases hr : r = 0
  swap
  · rw [if_pos hr]
    exact faultless_done trivial
  rw [if_neg (not_not.mpr hr)]
  refine faultless_bind (faultless_gptSetPentryArr hblk harr u) fun r v _ => ?_
  by_cases hr : r = 0
  swap
  · rw [if_pos hr]
    exact faultless_done trivial
  rw [if_neg (not_not.mpr hr)]
  exact ⟨hrest v, fun _ _ _ => trivial⟩

theorem not_faults_gptDiskCommit (hdisk : disk.Holds (g.newHeader crc m₀ a) a) (s : Device) :
    ¬ Faults (faulty g) (gptDiskCommit disk) s := by
  have hhdr : disk.hdr = some _ := hdisk.header .primaryGpt
  have hhdrBak : disk.hdrBak = some _ := hdisk.header .secondaryGpt
  have harr : disk.pentryArr = some _ := hdisk.pentries .primaryGpt
  have harrBak : disk.pentryArrBak = some _ := hdisk.pentries .secondaryGpt
  unfold gptDiskCommit
  rw [if_neg (not_not.mpr hdisk.initialized), hhdr, hhdrBak, harr, harrBak, faults_sys_bind_iff]
  rintro ⟨opened, t, -, hfaults⟩
  cases opened with
  | false => exact not_faults_done _ hfaults
  | true =>
      refine (faultless_writeCopy hd hlen .primaryGpt (fun u => ?_) t).1 hfaults
      exact (faultless_writeCopy hd hlen .secondaryGpt (fun _ => not_faults_done _) u).1

theorem run_gptDiskCommit {files : Files} (hdisk : disk.Holds (g.newHeader crc m₀ a) a) :
    (working g files).run (gptDiskCommit disk) s = some (0,
      (s.writeCopy g .primaryGpt (g.newHeader crc m₀ a .primaryGpt) (a .primaryGpt)).writeCopy g .secondaryGpt
        (g.newHeader crc m₀ a .secondaryGpt) (a .secondaryGpt)) := by
  have hblocks := Geometry.two_le_blocks (hd.layout.onDevice (.header .primaryGpt))
  have hhdr : disk.hdr = some _ := hdisk.header .primaryGpt
  have hhdrBak : disk.hdrBak = some _ := hdisk.header .secondaryGpt
  have harr : disk.pentryArr = some _ := hdisk.pentries .primaryGpt
  have harrBak : disk.pentryArrBak = some _ := hdisk.pentries .secondaryGpt
  have harray : ∀ gpt t, (working g files).run
      (gptSetPentryArr (some (g.newHeader crc m₀ a gpt)) (some (a gpt))) t =
        some (0, t.write (g.startOf (g.newHeader crc m₀ a gpt)).toNat (a gpt)) := by
    intro gpt t
    have hfields := newHeader_sameFields (a := a) hd gpt
    have h0 := hd.layout.start_nonneg gpt
    have hrange := hd.layout.onDevice (.entries gpt)
    have hlong := hlen gpt
    simp only [Geometry.regionPos, Geometry.regionLen] at hrange hlong
    refine (trace_gptSetPentryArr (length_newHeader hd gpt) ((hlen gpt).trans hfields.arraySizeOf.symm) ?_ ?_).run_eq
    · rw [hfields.startOf]
      exact h0
    · rw [hfields.startOf]
      omega
  have hheader : ∀ gpt t, (working g files).run (gptSetHeader (some (g.newHeader crc m₀ a gpt)) gpt) t =
      some (0, t.write (g.headerPos gpt) (g.newHeader crc m₀ a gpt)) :=
    fun gpt t => (trace_gptSetHeader hblocks gpt (length_newHeader hd gpt)).run_eq
  unfold gptDiskCommit
  rw [if_neg (not_not.mpr hdisk.initialized), hhdr, hhdrBak, harr, harrBak]
  change (working g files).run (gptSetHeader _ .primaryGpt >>= _) s = _
  simp only [Machine.run_bind, hheader, harray, Option.bind_some, ne_eq, not_true_eq_false, if_false]
  rfl

end Commit

/-! ### Sessions -/

/-- Both GPTs are valid, the arrays are those of the structure, and of the headers only the CRC fields
changed. -/
structure Committed (g : Geometry) (crc : Bytes → UInt32) (edited : GptDisk) (s t : Device) : Prop where
  valid : ∀ gpt, g.FullyValid t.media crc gpt
  arrays : ∀ gpt, edited.pentries gpt = some (g.entries t.media gpt)
  headers : ∀ gpt i, ¬(headerCrcOffset ≤ i ∧ i < headerCrcOffset + 4) →
    ¬(partitionCrcOffset ≤ i ∧ i < partitionCrcOffset + 4) →
      (g.header t.media gpt)[i]? = (g.header s.media gpt)[i]?

section Session

variable {g : Geometry} {files : Files} {crc : Bytes → UInt32} {isUfs : Bool} {dev : String} {s : Device}
  {a : GptInstance → Bytes}

/-- The two copies on the device after a commit. -/
theorem committed_writeCopy (hd : g.Healthy crc s.media)
    (hlen : ∀ gpt, (a gpt).length = g.regionLen s.media (.entries gpt)) {edited : GptDisk}
    (hedited : edited.Holds (g.header s.media) a) :
    Committed g crc edited s ((s.writeCopy g .primaryGpt (g.newHeader crc s.media a .primaryGpt)
      (a .primaryGpt)).writeCopy g .secondaryGpt (g.newHeader crc s.media a .secondaryGpt) (a .secondaryGpt)) := by
  obtain ⟨t, ht⟩ : ∃ t, t = (s.writeCopy g .primaryGpt (g.newHeader crc s.media a .primaryGpt)
    (a .primaryGpt)).writeCopy g .secondaryGpt (g.newHeader crc s.media a .secondaryGpt) (a .secondaryGpt) := ⟨_, rfl⟩
  have hview := view_writeCopy (s := s.writeCopy g .primaryGpt (g.newHeader crc s.media a .primaryGpt)
    (a .primaryGpt)) hd hlen .secondaryGpt
  rw [← ht, view_writeCopy hd hlen] at hview
  rw [← ht]
  have hheader : ∀ gpt, g.header t.media gpt = g.newHeader crc s.media a gpt := by
    intro gpt
    have hregion : g.header t.media gpt = g.view s.media t.media (.header gpt) := rfl
    rw [hregion, hview]
    cases gpt <;> simp
  have hfields : ∀ gpt, SameFields (g.header s.media gpt) (g.header t.media gpt) := by
    intro gpt
    rw [hheader]
    exact newHeader_sameFields hd gpt
  have hentries : ∀ gpt, g.entries t.media gpt = a gpt := by
    intro gpt
    rw [← Geometry.view_entries (hfields gpt), hview]
    cases gpt <;> simp
  constructor
  · intro gpt
    have hvalid := hd.validGpt gpt
    refine (Geometry.fullyValid_iff (hfields gpt)).mpr
      (validGpt_withArrayCrc (a gpt) hvalid.fits hvalid.signature (hheader gpt) ?_)
    rw [Geometry.view_entries (hfields gpt), hentries]
  · intro gpt
    rw [hentries, hedited.pentries]
  · intro gpt i hcrc harray
    have hfits : HeaderFits (g.header s.media gpt) := (hd.validGpt gpt).fits
    rw [hheader, Geometry.newHeader, getElem?_withArrayCrc hfits _ hcrc harray]

/-- Committing what was read changes nothing. -/
theorem writeCopy_self (hd : g.Healthy crc s.media) (gpt : GptInstance) :
    s.writeCopy g gpt (g.newHeader crc s.media (g.entries s.media) gpt) (g.entries s.media gpt) = s := by
  have hvalid := hd.validGpt gpt
  have hsame : g.newHeader crc s.media (g.entries s.media) gpt = g.header s.media gpt := by
    rw [Geometry.newHeader, ← (hd.valid gpt).arrayCrc]
    exact withArrayCrc_of_match hvalid.fits hvalid.headerCrc
  have hheader : s.write (g.headerPos gpt) (g.header s.media gpt) = s := by
    apply Device.write_of_slice
    rw [g.length_header]
    rfl
  rw [hsame, Device.writeCopy, hheader]
  apply Device.write_of_slice
  rw [Geometry.entries, length_slice]
  rfl

/-- The CRCs of the edited structure are recalculated and it is committed: the disk has both GPTs valid and exactly the
edited arrays, and is the old one when nothing was edited. A commit that was cut off leaves one of the GPTs valid. -/
def Commits (g : Geometry) (files : Files) (crc : Bytes → UInt32) (disk edited : GptDisk) (s : Device) : Prop :=
  ∃ updated, gptDiskUpdateCrc crc edited = some (0, updated) ∧
    (∃ t, (working g files).run (gptDiskCommit updated) s = some (0, t) ∧ Committed g crc edited s t ∧
      (edited = disk → t = s)) ∧
    ∀ t, Leaves (faulty g) (gptDiskCommit updated) s t → ∃ gpt, g.FullyValid t.media crc gpt

/-- The disk is read, and whatever a client does inside the entries it is given can be done and committed. -/
def SessionsCommit (g : Geometry) (files : Files) (crc : Bytes → UInt32) (isUfs : Bool) (dev : String) (dsk : GptDisk)
    (s : Device) : Prop :=
  ∃ disk, (working g files).run (gptDiskGetDiskInfo crc isUfs dev dsk) s = some ((0, disk), s) ∧
    ∀ steps : List EditStep, (∀ step ∈ steps, step.Proper disk.pentrySize) →
      ∃ edited, EditSession.run ⟨disk, []⟩ steps = some edited ∧ Commits g files crc disk edited.disk s

theorem commits_of_holds (hd : g.Healthy crc s.media)
    (hsize : word4 (g.header s.media .primaryGpt) headerSizeOffset =
      word4 (g.header s.media .secondaryGpt) headerSizeOffset) {disk edited : GptDisk}
    (hdisk : disk.Holds (g.header s.media) (g.entries s.media)) (hedited : edited.Holds (g.header s.media) a)
    (harrSize : edited.pentryArrSize = disk.pentryArrSize) : Commits g files crc disk edited s := by
  have hlen : ∀ gpt, (a gpt).length = g.regionLen s.media (.entries gpt) := by
    intro gpt
    rw [hedited.size, harrSize, ← hdisk.size gpt]
    exact length_slice ..
  obtain ⟨updated, hupdate, hupdated⟩ := gptDiskUpdateCrc_holds crc
    hedited (fun gpt => (hd.validGpt gpt).fits) hsize
  refine ⟨updated, hupdate, ⟨_, run_gptDiskCommit hd hlen hupdated, committed_writeCopy hd hlen hedited, ?_⟩, ?_⟩
  · intro heq
    subst heq
    obtain rfl : a = g.entries s.media := hdisk.pentries_unique hedited
    rw [writeCopy_self hd, writeCopy_self hd]
  · rintro t (hvisits | hfaults)
    · have hkept : g.Kept crc s.media .secondaryGpt s := ⟨fun _ => SameFields.refl _, hd.validGpt _⟩
      obtain ⟨gpt, hgpt⟩ := wp_visits (wp_gptDiskCommit hd hlen hupdated hkept) hvisits
      exact ⟨gpt, hgpt.fullyValid⟩
    · exact absurd hfaults (not_faults_gptDiskCommit hd hlen hupdated s)

/-- On a disk with two valid GPTs whose headers agree, every session can be done and committed exactly if every entry
whose name begins in the array lies in the array. -/
theorem gptDisk_session_iff (hd : g.Healthy crc s.media)
    (hsize : word4 (g.header s.media .primaryGpt) headerSizeOffset =
      word4 (g.header s.media .secondaryGpt) headerSizeOffset)
    (hdev : files.Resolves isUfs dev) (dsk : GptDisk) :
    SessionsCommit g files crc isUfs dev dsk s ↔
      EntriesInside (word4 (g.header s.media .primaryGpt) pentrySizeOffset)
        (arraySizeOf (g.header s.media .primaryGpt)) := by
  obtain ⟨disk, hread, hdisk, hpentrySize, harrSize⟩ := trace_gptDiskGetDiskInfo (s := s) hd hdev dsk
  have hpos : 0 < disk.pentryArrSize → 0 < disk.pentrySize := by
    rw [hpentrySize, harrSize]
    exact pentrySize_pos
  have hstays := EditSession.run_ne_none_iff hdisk hpos
  rw [← hpentrySize, ← harrSize]
  constructor
  · rintro ⟨disk', hrun, hsessions⟩
    cases hread.run_eq.symm.trans hrun
    refine hstays.mp fun steps hproper => ?_
    obtain ⟨edited, hedited, -⟩ := hsessions steps hproper
    rw [hedited]
    exact Option.some_ne_none edited
  · intro hinside
    refine ⟨_, hread.run_eq, fun steps hproper => ?_⟩
    obtain ⟨edited, hrun, hedited⟩ := (EditSession.inside_nil hdisk).run hpos hinside hproper
    obtain ⟨a, ha⟩ := hedited.holds
    exact ⟨edited, hrun, commits_of_holds hd hsize hdisk ha hedited.pentryArrSize⟩

end Session

theorem sample_headerSizes :
    word4 (sampleImage.geometry.header sampleImage.media .primaryGpt) headerSizeOffset =
      word4 (sampleImage.geometry.header sampleImage.media .secondaryGpt) headerSizeOffset := by
  rw [Image.header_media, Image.header_media]
  decide +kernel

theorem sample_resolves (dev : String) : sampleFiles.Resolves false dev := fun h => by cases h

/-- One byte is written into an entry of either array. -/
def sampleEdits : List EditStep :=
  [.getPentry (cstr "abl") .primaryGpt, .write 0 48 [1], .getPentry (cstr "ablbak") .secondaryGpt, .write 1 48 [2]]

theorem sample_memcpy {off : Nat} {data : Bytes} (hroom : off + data.length ≤ 256) :
    memcpy sampleEntries off data = some (overwrite sampleEntries off data) := by
  have hlen : sampleEntries.length = 256 := by decide +kernel
  rw [memcpy, if_pos (by rw [hlen]; exact hroom)]

/-- The lookups return the first entry of one array and the second one of the other. -/
theorem run_sampleEdits {disk : GptDisk} {h : GptInstance → Bytes} (hdisk : disk.Holds h fun _ => sampleEntries)
    (hstep : disk.pentrySize = 128) :
    EditSession.run ⟨disk, []⟩ sampleEdits =
      some ⟨(disk.withPentries .primaryGpt (overwrite sampleEntries 48 [1])).withPentries .secondaryGpt
        (overwrite sampleEntries 176 [2]), [(.primaryGpt, 0), (.secondaryGpt, 128)]⟩ := by
  have hlength : (overwrite sampleEntries 48 [1]).length = sampleEntries.length := by decide +kernel
  have hheld : (disk.withPentries .primaryGpt (overwrite sampleEntries 48 [1])).Holds h
      (Function.update (fun _ => sampleEntries) .primaryGpt (overwrite sampleEntries 48 [1])) :=
    hdisk.withPentries hlength
  have hfirst : gptDiskGetPentry disk (cstr "abl") .primaryGpt = some (some 0) := by
    rw [gptDiskGetPentry_eq hdisk hstep]
    decide +kernel
  have hsecond : gptDiskGetPentry (disk.withPentries .primaryGpt (overwrite sampleEntries 48 [1])) (cstr "ablbak")
      .secondaryGpt = some (some 128) := by
    rw [gptDiskGetPentry_eq hheld hstep, Function.update_of_ne (by decide)]
    decide +kernel
  have hedits := EditSession.run_edit ⟨disk, []⟩ hfirst (hdisk.pentries _) rfl 48 [1]
    [.getPentry (cstr "ablbak") .secondaryGpt, .write 1 48 [2]]
  rw [sample_memcpy (by decide), Option.bind_some] at hedits
  have hrest := EditSession.run_edit ⟨disk.withPentries .primaryGpt (overwrite sampleEntries 48 [1]),
    [(.primaryGpt, 0)]⟩ hsecond (hheld.pentries _) rfl 48 [2] []
  rw [Function.update_of_ne (by decide), sample_memcpy (by decide)] at hrest
  exact hedits.trans hrest

/-- On the small disk the edits are committed. -/
theorem gptDisk_session_iff_sample : ∃ disk edited updated t,
    (working sampleImage.geometry sampleFiles).run (gptDiskGetDiskInfo byteSum false "abl" gptDiskAlloc) sampleDevice =
      some ((0, disk), sampleDevice) ∧
    EditSession.run ⟨disk, []⟩ sampleEdits = some edited ∧
    gptDiskUpdateCrc byteSum edited.disk = some (0, updated) ∧
    (working sampleImage.geometry sampleFiles).run (gptDiskCommit updated) sampleDevice = some (0, t) ∧
    (∀ gpt, sampleImage.geometry.FullyValid t.media byteSum gpt) ∧
    sampleImage.geometry.entries t.media .primaryGpt = overwrite sampleEntries 48 [1] ∧
    sampleImage.geometry.entries t.media .secondaryGpt = overwrite sampleEntries 176 [2] := by
  have hentries : sampleImage.geometry.entries sampleDevice.media = fun _ => sampleEntries := by
    funext gpt
    exact Image.entries_media sample_describes gpt
  have hpentrySize : word4 (sampleImage.geometry.header sampleDevice.media .primaryGpt) pentrySizeOffset = 128 := by
    rw [show sampleDevice.media = sampleImage.media from rfl, Image.header_media]
    decide +kernel
  have harrSize : arraySizeOf (sampleImage.geometry.header sampleDevice.media .primaryGpt) = 256 := by
    rw [show sampleDevice.media = sampleImage.media from rfl, Image.header_media]
    decide +kernel
  have hinside : EntriesInside (word4 (sampleImage.geometry.header sampleDevice.media .primaryGpt) pentrySizeOffset)
      (arraySizeOf (sampleImage.geometry.header sampleDevice.media .primaryGpt)) := by
    rw [hpentrySize, harrSize]
    exact entriesInside_of_whole (by decide) (by decide)
  obtain ⟨disk, hread, hsessions⟩ := (gptDisk_session_iff (s := sampleDevice) sample_healthy sample_headerSizes
    (sample_resolves "abl") gptDiskAlloc).mpr hinside
  obtain ⟨disk', htrace, hdisk, hstep, -⟩ := trace_gptDiskGetDiskInfo (s := sampleDevice) sample_healthy
    (sample_resolves "abl") gptDiskAlloc
  cases htrace.run_eq.symm.trans hread
  rw [hpentrySize] at hstep
  rw [hentries] at hdisk
  have hproper : ∀ step ∈ sampleEdits, step.Proper disk.pentrySize := by
    rw [hstep]
    decide +kernel
  obtain ⟨edited, hrun, updated, hupdate, ⟨t, hcommit, hcommitted, -⟩, -⟩ := hsessions sampleEdits hproper
  cases hrun.symm.trans (run_sampleEdits hdisk hstep)
  exact ⟨disk, _, updated, t, hread, hrun, hupdate, hcommit, hcommitted.valid,
    Option.some.inj (hcommitted.arrays .primaryGpt).symm, Option.some.inj (hcommitted.arrays .secondaryGpt).symm⟩

/-- On the disk whose last entry is cut off a lookup reads past the array. -/
theorem not_sessionsCommit_cut :
    cutImage.geometry.Healthy byteSum cutImage.media ∧
      word4 (cutImage.geometry.header cutImage.media .primaryGpt) headerSizeOffset =
        word4 (cutImage.geometry.header cutImage.media .secondaryGpt) headerSizeOffset ∧
      sampleFiles.Resolves false "abl" ∧
      ¬ SessionsCommit cutImage.geometry sampleFiles byteSum false "abl" gptDiskAlloc ⟨cutImage.media, 1⟩ := by
  refine ⟨cut_healthy, ?_, sample_resolves "abl", ?_⟩
  · rw [Image.header_media, Image.header_media]
    decide +kernel
  · rintro ⟨disk, hread, hsessions⟩
    obtain ⟨disk', htrace, hdisk, hstep, -⟩ := trace_gptDiskGetDiskInfo (s := ⟨cutImage.media, 1⟩) cut_healthy
      (sample_resolves "abl") gptDiskAlloc
    cases htrace.run_eq.symm.trans hread
    have hproper : ∀ x ∈ cstr "xbl", x ≠ 0 := by decide +kernel
    obtain ⟨edited, hrun, -⟩ := hsessions [.getPentry (cstr "xbl") .primaryGpt] (List.forall_mem_singleton.mpr hproper)
    have hentries : cutImage.geometry.entries cutImage.media .primaryGpt = cutEntries :=
      Image.entries_media cut_describes .primaryGpt
    have hlookup : gptDiskGetPentry disk (cstr "xbl") .primaryGpt = none := by
      rw [gptDiskGetPentry_eq hdisk (hstep.trans cut_pentrySize), hentries]
      decide +kernel
    rw [EditSession.run_cons, EditSession.next, hlookup] at hrun
    cases hrun

end Penrose.Gpt

import Penrose.GptBounds
import Penrose.GptRetry

/-! Where `prepare_partitions` leaves its buffers. The functions that only transfer bytes never do; the header
functions do exactly if the HeaderSize of the block they read exceeds the block, and `gpt2_set_boot_chain` if the
swap leaves the array. A call reads some headers again after it has written to the device, so the condition for a
whole call also looks at what the secondary array is written over. -/

namespace Penrose.Gpt

open ByteRegions CallTree

/-! ### The header functions -/

/-- The HeaderSize of a block on the device does not exceed the block. -/
def Geometry.HeaderCovered (g : Geometry) (m : Nat → UInt8) (gpt : GptInstance) : Prop :=
  word4 (g.header m gpt) headerSizeOffset ≤ g.blkSize

/-- The state that a header stands for: its CRC decides first, then its signature. -/
def stateOf (crc : Bytes → UInt32) (gptHeader : Bytes) : GptState :=
  if word4 gptHeader headerCrcOffset = headerSum crc gptHeader then
    if gptHeader.take 9 = gptSignature then .gptOk else .gptBadSignature
  else .gptBadCrc

section Headers

variable {g : Geometry} {crc : Bytes → UInt32} {s : Device} {gpt : GptInstance}

theorem headerFits_iff : HeaderFits (g.header s.media gpt) ↔ g.HeaderCovered s.media gpt := by
  refine ⟨?_, ?_⟩
  · intro h
    have hcovered := h.covered
    rwa [g.length_header] at hcovered
  · intro h
    refine ⟨?_, ?_⟩ <;> rw [g.length_header]
    · exact g.room
    · exact h

theorem headerState_eq_none_iff :
    headerState crc (g.header s.media gpt) = none ↔ ¬ g.HeaderCovered s.media gpt := by
  rw [← headerFits_iff]
  refine ⟨?_, ?_⟩
  · intro h hfits
    rw [headerState_eq hfits] at h
    cases h
  · intro h
    by_contra hsome
    obtain ⟨state, hstate⟩ := Option.ne_none_iff_exists'.mp hsome
    exact h (fits_of_state hstate)

theorem headerState_of_covered (h : g.HeaderCovered s.media gpt) :
    headerState crc (g.header s.media gpt) = some (stateOf crc (g.header s.media gpt)) :=
  headerState_eq (headerFits_iff.mpr h)

theorem setHeaderState_eq_none_iff {state : GptState} (hstate : state ≠ .gptBadCrc) :
    setHeaderState crc state (g.header s.media gpt) = none ↔ ¬ g.HeaderCovered s.media gpt := by
  rw [← headerFits_iff]
  refine ⟨?_, ?_⟩
  · intro h hfits
    cases state with
    | gptOk => exact nomatch (setHeaderState_ok hfits).symm.trans h
    | gptBadSignature => exact nomatch (setHeaderState_badSignature hfits).symm.trans h
    | gptBadCrc => exact hstate rfl
  · intro h
    by_contra hsome
    obtain ⟨written, hwritten⟩ := Option.ne_none_iff_exists'.mp hsome
    refine h (headerFits_of_setHeaderState ?_ hstate hwritten)
    rw [g.length_header]
    exact g.room

/-- The header block of a device of one block cannot be read. -/
theorem not_faults_gptGetState_bind {α : Type} {f : Int × GptState → Sys α} (hblocks : ¬ 2 ≤ g.blocks)
    (herr : ¬ Faults (faulty g) (f (-1, .gptOk)) s) :
    ¬ Faults (faulty g) (gptGetState crc .primaryGpt >>= f) s := by
  have hread : ∀ x t, Returns (faulty g) (readGptHeader .primaryGpt) s x t → x = none ∧ t = s := by
    intro x t hreturns
    refine wp_returns (C := fun _ => True) (Q := fun x t => x = none ∧ t = s) ?_ hreturns
    exact wp_readGptHeader trivial ⟨rfl, rfl⟩ fun hrange => absurd (Geometry.two_le_blocks hrange) hblocks
  unfold gptGetState
  rw [LawfulMonad.bind_assoc, (only_readGptHeader _).faults_bind_iff]
  rintro ⟨x, t, hreturns, hfaults⟩
  obtain ⟨rfl, rfl⟩ := hread x t hreturns
  exact herr hfaults

variable (hblocks : 2 ≤ g.blocks)

include hblocks

/-- What follows the reading of a header block that lies on the device. -/
theorem faults_readGptHeader_bind_iff {α : Type} {f : Option (Int × Bytes) → Sys α}
    (herr : ¬ Faults (faulty g) (f none) s) :
    Faults (faulty g) (readGptHeader gpt >>= f) s ↔
      Faults (faulty g) (f (some (g.headerPos gpt, g.header s.media gpt))) s := by
  rw [(only_readGptHeader gpt).faults_bind_iff]
  refine ⟨?_, ?_⟩
  · rintro ⟨x, t, hreturns, hfaults⟩
    have hread : t = s ∧ (x = none ∨ x = some (↑(g.headerPos gpt), g.header s.media gpt)) := by
      refine wp_returns (C := fun _ => True)
        (Q := fun x t => t = s ∧ (x = none ∨ x = some (↑(g.headerPos gpt), g.header s.media gpt))) ?_ hreturns
      exact wp_readGptHeader trivial ⟨rfl, Or.inl rfl⟩ fun _ => ⟨rfl, Or.inr rfl⟩
    obtain ⟨rfl, rfl | rfl⟩ := hread
    · exact absurd hfaults herr
    · exact hfaults
  · exact fun hfaults => ⟨_, s, returns_of_trace sampleFiles (trace_readGptHeader hblocks), hfaults⟩

/-- `gpt_get_state` leaves the block exactly if the HeaderSize exceeds it; otherwise it returns the state. -/
theorem faults_gptGetState_bind_iff {α : Type} {f : Int × GptState → Sys α}
    (herr : ¬ Faults (faulty g) (f (-1, .gptOk)) s) :
    Faults (faulty g) (gptGetState crc gpt >>= f) s ↔ ¬ g.HeaderCovered s.media gpt ∨
      Faults (faulty g) (f (0, stateOf crc (g.header s.media gpt))) s := by
  unfold gptGetState
  rw [LawfulMonad.bind_assoc, faults_readGptHeader_bind_iff hblocks herr]
  change Faults (faulty g) ((Program.ofOption (headerState crc (g.header s.media gpt)) >>= fun state =>
    Program.done ((0 : Int), state)) >>= f) s ↔ _
  rw [LawfulMonad.bind_assoc, faults_ofOption_bind_iff, headerState_eq_none_iff]
  by_cases hcovered : g.HeaderCovered s.media gpt
  · rw [headerState_of_covered hcovered]
    simp only [Option.some.injEq, exists_eq_left', Program.done_bind]
  · simp only [hcovered, not_false_eq_true, true_or]

theorem faults_gptSetState_iff {state : GptState} (hstate : state ≠ .gptBadCrc) :
    Faults (faulty g) (gptSetState crc gpt state) s ↔ ¬ g.HeaderCovered s.media gpt := by
  have hnone : setHeaderState crc state (g.header s.media gpt) = none ↔ _ := setHeaderState_eq_none_iff hstate
  unfold gptSetState
  rw [faults_readGptHeader_bind_iff hblocks, ← hnone]
  swap
  · exact not_faults_done _
  simp only
  rw [faults_ofOption_bind_iff]
  apply or_iff_left
  rintro ⟨written, -, hfaults⟩
  cases written with
  | none => exact not_faults_done _ hfaults
  | some gptHeader =>
      refine Only.not_faults (Only.bind (only_blkWrite _ gptHeader) fun r => ?_) s hfaults
      trivial

end Headers

/-! ### `gpt2_set_boot_chain` -/

/-- The primary array can be read and has the CRC that is stored for it. -/
structure ArrayRead (g : Geometry) (crc : Bytes → UInt32) (m : Nat → UInt8) : Prop where
  start_nonneg : 0 ≤ g.startOf (g.header m .primaryGpt)
  onDevice : g.startOf (g.header m .primaryGpt) + arraySizeOf (g.header m .primaryGpt) ≤ g.size
  stored : word4 (g.header m .primaryGpt) partitionCrcOffset = (crc (g.entries m .primaryGpt)).toNat

section Chain

variable {g : Geometry} {crc : Bytes → UInt32} {isUfs : Bool} {boot : BootChain} {s : Device} {α : Type}

theorem faults_sys_bind_iff {c : Syscall} {f : c.Reply → Sys α} : Faults (faulty g) (sys c >>= f) s ↔
    ∃ r t, (faulty g).answer c s r t ∧ Faults (faulty g) (f r) t :=
  faults_call_iff

theorem faults_blkSize_malloc_iff {err : Sys α} {f : Nat → Bytes → Sys α} (herr : ¬ Faults (faulty g) err s) :
    Faults (faulty g) (do
      match ← sys .ioctlBlkSszGet with
      | none => err
      | some blkSize =>
      match ← sys (.malloc blkSize) with
      | none => err
      | some buf => f blkSize buf) s ↔ ∃ buf, buf.length = g.blkSize ∧ Faults (faulty g) (f g.blkSize buf) s := by
  rw [faults_sys_bind_iff]
  refine ⟨?_, ?_⟩
  · rintro ⟨blkSize, t, ⟨rfl, rfl | rfl⟩, h⟩
    · exact absurd h herr
    · obtain ⟨buf, t, ⟨rfl, hbuf⟩, h⟩ := faults_sys_bind_iff.mp h
      cases buf with
      | none => exact absurd h herr
      | some buf => exact ⟨buf, hbuf buf rfl, h⟩
  · rintro ⟨buf, hbuf, h⟩
    refine ⟨some g.blkSize, s, ⟨rfl, Or.inr rfl⟩, faults_sys_bind_iff.mpr ⟨some buf, s, ⟨rfl, ?_⟩, h⟩⟩
    rintro _ ⟨⟩
    exact hbuf

theorem faults_lseekEnd_bind_iff {f : Int → Sys α} : Faults (faulty g) (sys .lseekEnd >>= f) s ↔
    Faults (faulty g) (f (-1)) s ∨ Faults (faulty g) (f g.size) s := by
  rw [faults_sys_bind_iff]
  refine ⟨?_, ?_⟩
  · rintro ⟨r, t, ⟨rfl, rfl | rfl⟩, h⟩
    · exact Or.inl h
    · exact Or.inr h
  · rintro (h | h)
    · exact ⟨(-1 : Int), s, ⟨rfl, Or.inl rfl⟩, h⟩
    · exact ⟨(g.size : Int), s, ⟨rfl, Or.inr rfl⟩, h⟩

theorem faults_calloc_bind_iff {size : Nat} {f : Option Bytes → Sys α} (herr : ¬ Faults (faulty g) (f none) s) :
    Faults (faulty g) (sys (.calloc size) >>= f) s ↔ Faults (faulty g) (f (some (List.replicate size 0))) s := by
  rw [faults_sys_bind_iff]
  refine ⟨?_, ?_⟩
  · rintro ⟨r, t, ⟨rfl, rfl | rfl⟩, h⟩
    · exact absurd h herr
    · exact h
  · exact fun h => ⟨some (List.replicate size 0), s, ⟨rfl, Or.inr rfl⟩, h⟩

/-- What follows a read, which fails or fills the buffer from the device. -/
theorem faults_blkRead_bind_iff {offset : Int} {buf : Bytes} {f : Int × Bytes → Sys α}
    (herr : ¬ Faults (faulty g) (f (-1, buf)) s) : Faults (faulty g) (blkRead offset buf >>= f) s ↔
      (0 ≤ offset ∧ offset + buf.length ≤ g.size) ∧
        Faults (faulty g) (f (0, slice s.media offset.toNat buf.length)) s := by
  rw [(only_blkRead offset buf).faults_bind_iff]
  refine ⟨?_, ?_⟩
  · rintro ⟨x, t, hreturns, h⟩
    have hread : t = s ∧ (x = (-1, buf) ∨ x = (0, slice s.media offset.toNat buf.length) ∧
        0 ≤ offset ∧ offset + buf.length ≤ g.size) := by
      refine wp_returns (C := fun _ => True) (Q := fun x t => t = s ∧ (x = (-1, buf) ∨
        x = (0, slice s.media offset.toNat buf.length) ∧ 0 ≤ offset ∧ offset + buf.length ≤ g.size)) ?_ hreturns
      exact wp_blkRead trivial ⟨rfl, Or.inl rfl⟩ fun h0 hrange => ⟨rfl, Or.inr ⟨rfl, h0, hrange⟩⟩
    obtain ⟨rfl, rfl | ⟨rfl, hrange⟩⟩ := hread
    · exact absurd h herr
    · exact ⟨hrange, h⟩
  · rintro ⟨⟨h0, hrange⟩, h⟩
    exact ⟨_, s, returns_of_trace sampleFiles (trace_blkRead h0 hrange), h⟩

/-- With a secondary header that covers no more than its block, `gpt2_set_boot_chain` leaves its buffers exactly if
it gets to the swap and the swap leaves the array. -/
theorem faults_gpt2SetBootChain_iff (hblocks : 2 ≤ g.blocks) (hcovered : g.HeaderCovered s.media .secondaryGpt) :
    Faults (faulty g) (gpt2SetBootChain crc isUfs boot) s ↔ ArrayRead g crc s.media ∧
      bootChainArray isUfs boot (g.entries s.media .primaryGpt)
        (word4 (g.header s.media .primaryGpt) pentrySizeOffset) = none := by
  have htwo := Geometry.two_blocks_le hblocks
  have hoffset : (g.size : Int) - (g.blkSize : Int) = g.headerPos .secondaryGpt :=
    (Nat.cast_sub (by omega)).symm
  have hpos : ¬ (g.headerPos .secondaryGpt : Int) < 0 := Int.not_lt.mpr (Int.natCast_nonneg _)
  have hneg : (-1 : Int) - (g.blkSize : Int) < 0 := by omega
  have hprimary : (0 : Int) ≤ g.blkSize ∧ (g.blkSize : Int) + g.blkSize ≤ g.size := ⟨by omega, by exact_mod_cast htwo⟩
  have hsecondary : (0 : Int) ≤ g.headerPos .secondaryGpt ∧
      (g.headerPos .secondaryGpt : Int) + g.blkSize ≤ g.size :=
    ⟨by omega, by exact_mod_cast Geometry.headerPos_onDevice hblocks .secondaryGpt⟩
  have hblock : slice s.media (g.blkSize : Int).toNat g.blkSize = g.header s.media .primaryGpt := by
    rw [Int.toNat_natCast]
    rfl
  have hsecondBlock : slice s.media (g.headerPos .secondaryGpt : Int).toNat g.blkSize =
      g.header s.media .secondaryGpt := by
    rw [Int.toNat_natCast]
    rfl
  have harray : (g.entries s.media .primaryGpt).length = arraySizeOf (g.header s.media .primaryGpt) :=
    length_slice ..
  -- a buffer of one block exists, and what it holds does not matter
  have hbuffer (buf : Bytes) (hbuf : buf.length = g.blkSize) (P : Prop) :
      (∃ buf : Bytes, buf.length = g.blkSize ∧ P) ↔ P := ⟨fun h => h.elim fun _ h => h.2, fun h => ⟨buf, hbuf, h⟩⟩
  apply (faults_blkSize_malloc_iff (not_faults_done _)).trans
  refine Iff.trans (exists_congr fun buf => and_congr_right fun hbuf => ?_)
    (hbuffer (List.replicate g.blkSize 0) List.length_replicate _)
  rw [faults_lseekEnd_bind_iff]
  simp only [hneg, if_true, Program.pure_eq_done, not_faults_done, false_or, hoffset, hpos, if_false]
  -- the primary header
  rw [faults_blkRead_bind_iff (by simp), hbuf, and_iff_right hprimary]
  simp only [hblock, bne_self_eq_false, Bool.false_eq_true, if_false, pentriesStartOffset_header,
    get4Bytes_header (show pentrySizeOffset + 4 ≤ partitionCrcOffset + 4 by decide),
    get4Bytes_header (show partitionCrcOffset + 4 ≤ partitionCrcOffset + 4 by decide),
    pentriesArraySize_header, Program.ofOption_some, Program.done_bind]
  -- the primary array
  rw [faults_calloc_bind_iff (by simp)]
  simp only
  rw [faults_blkRead_bind_iff (by simp), List.length_replicate]
  have hentries : slice s.media (g.startOf (g.header s.media .primaryGpt)).toNat
      (arraySizeOf (g.header s.media .primaryGpt)) = g.entries s.media .primaryGpt := rfl
  simp only [hentries, bne_self_eq_false, Bool.false_eq_true, if_false,
    crc32_of_length harray, Program.ofOption_some, Program.done_bind]
  by_cases hstored : word4 (g.header s.media .primaryGpt) partitionCrcOffset =
      (crc (g.entries s.media .primaryGpt)).toNat
  swap
  · rw [if_pos (by simpa using hstored)]
    exact iff_of_false (fun h => not_faults_done _ h.2) fun h => hstored h.1.stored
  rw [if_neg (by simpa using hstored)]
  -- the secondary header and the new array
  rw [faults_blkRead_bind_iff (by simp), g.length_header, and_iff_right hsecondary]
  simp only [hsecondBlock, bne_self_eq_false, Bool.false_eq_true, if_false, pentriesStartOffset_header,
    Program.ofOption_some, Program.done_bind]
  rw [faults_ofOption_bind_iff, or_iff_left]
  · exact ⟨fun h => ⟨⟨h.1.1, h.1.2, hstored⟩, h.2⟩, fun h => ⟨⟨h.1.start_nonneg, h.1.onDevice⟩, h.2⟩⟩
  -- after a swap that stays in the array nothing is left to go wrong
  rintro ⟨⟨r, pentries⟩, hchain, hfaults⟩
  obtain ⟨hlen, -⟩ := bootChainArray_spec hchain
  simp only [crc32_of_length (hlen.trans harray), bootChainHeader_eq (headerFits_iff.mpr hcovered),
    Program.ofOption_some, Program.done_bind] at hfaults
  split_ifs at hfaults
  · exact not_faults_done _ hfaults
  · refine Only.not_faults (Only.bind (only_blkWrite _ _) fun r => ?_) s hfaults
    split_ifs
    · trivial
    · exact only_blkWrite _ _

/-- A call that returned 0 has made both writes. -/
theorem returns_gpt2SetBootChain_iff {t : Device} (hblocks : 2 ≤ g.blocks)
    (hcovered : g.HeaderCovered s.media .secondaryGpt) :
    Returns (faulty g) (gpt2SetBootChain crc isUfs boot) s 0 t ↔
      ∃ written, BootChainPlan g crc isUfs boot s.media written ∧
        0 ≤ g.startOf (g.header s.media .secondaryGpt) ∧
        g.startOf (g.header s.media .secondaryGpt) + written.length ≤ g.size ∧ t = s.withChain g crc written := by
  have hfits : HeaderFits (g.header s.media .secondaryGpt) := headerFits_iff.mpr hcovered
  have hheader (written : Bytes) : bootChainHeader crc (g.header s.media .secondaryGpt) (crc written).toNat =
      some (withArrayCrc crc (g.header s.media .secondaryGpt) (crc written).toNat) := bootChainHeader_eq hfits _
  have hlen (sum : Nat) : (withArrayCrc crc (g.header s.media .secondaryGpt) sum).length = g.blkSize :=
    Geometry.length_withArrayCrc_header hfits sum
  refine ⟨?_, ?_⟩
  · intro hreturns
    refine wp_returns (C := fun _ => True) (Q := fun r t => r = 0 → ∃ written,
      BootChainPlan g crc isUfs boot s.media written ∧ 0 ≤ g.startOf (g.header s.media .secondaryGpt) ∧
        g.startOf (g.header s.media .secondaryGpt) + written.length ≤ g.size ∧ t = s.withChain g crc written)
      (wp_gpt2SetBootChain trivial ?_ ?_) hreturns rfl
    · rintro r (hneg | ⟨rfl, -⟩) hr <;> omega
    · intro written gptHeader hplan hnew
      obtain rfl := Option.some.inj ((hheader written).symm.trans hnew)
      refine ⟨hlen _, ⟨trivial, nofun⟩, fun _ _ _ => ⟨trivial, nofun⟩, fun h0 hrange => ⟨trivial, nofun, ?_⟩⟩
      exact fun _ => ⟨written, hplan, h0, hrange, rfl⟩
  · rintro ⟨written, hplan, h0, hrange, rfl⟩
    exact returns_of_trace sampleFiles (trace_gpt2SetBootChain hblocks hplan (hheader written) (hlen _) h0 hrange)

end Chain

/-! ### What is read again -/

section Again

variable {g : Geometry} {crc : Bytes → UInt32} {s : Device} {gpt : GptInstance} (hblocks : 2 ≤ g.blocks)

include hblocks

/-- Replacing the secondary header changes the HeaderSize of no block, so only the secondary array can. -/
theorem headerCovered_withChain_iff {written : Bytes} (hcovered : g.HeaderCovered s.media .secondaryGpt) :
    g.HeaderCovered (s.withChain g crc written).media gpt ↔
      g.HeaderCovered (splice s.media (g.startOf (g.header s.media .secondaryGpt)).toNat written) gpt := by
  have hfits : HeaderFits (g.header s.media .secondaryGpt) := headerFits_iff.mpr hcovered
  have hsize (i : Nat) (h1 : headerSizeOffset ≤ i) (h2 : i < headerSizeOffset + 4) :
      (s.withChainHeader g crc written).media (g.headerPos gpt + i) = s.media (g.headerPos gpt + i) := by
    have hkept : (g.header (s.withChainHeader g crc written).media gpt)[i]? = (g.header s.media gpt)[i]? := by
      have hsecond : (g.header (s.withChainHeader g crc written).media .secondaryGpt)[i]? =
          (g.header s.media .secondaryGpt)[i]? := by
        have hbefore : i < headerCrcOffset ∧ i < partitionCrcOffset := by
          simp only [headerSizeOffset, headerCrcOffset, partitionCrcOffset] at h2 ⊢
          omega
        rw [header_withChainHeader_self hfits, getElem?_withArrayCrc hfits _ (by omega) (by omega)]
      cases gpt with
      | secondaryGpt => exact hsecond
      | primaryGpt =>
          rcases headers_same_or_apart hblocks with hsame | hapart
          · simp only [Geometry.header, hsame] at hsecond ⊢
            exact hsecond
          · rw [Device.withChainHeader, header_writeHeader_of_ne hapart
              (Geometry.length_withArrayCrc_header hfits _) (by decide)]
    have hroom := g.room
    have hi : i < g.blkSize := by
      simp only [headerSizeOffset, partitionCrcOffset] at h2 hroom
      omega
    rw [Geometry.header, Geometry.header, getElem?_slice, getElem?_slice, if_pos hi, if_pos hi] at hkept
    exact Option.some.inj hkept
  have hword : word4 (g.header (s.withChain g crc written).media gpt) headerSizeOffset =
      word4 (g.header (splice s.media (g.startOf (g.header s.media .secondaryGpt)).toNat written) gpt)
        headerSizeOffset := by
    apply word4_congr
    intro i h1 h2
    rw [Geometry.header, Geometry.header, getElem?_slice, getElem?_slice]
    simp only [Device.withChain, Device.write, splice, hsize i h1 h2]
  rw [Geometry.HeaderCovered, Geometry.HeaderCovered, hword]

/-- Repairing the primary header leaves the secondary one covered. -/
theorem headerCovered_repairHeader (hprimary : g.HeaderCovered s.media .primaryGpt)
    (hsecondary : g.HeaderCovered s.media .secondaryGpt) :
    g.HeaderCovered (s.repairHeader g crc .primaryGpt).media .secondaryGpt := by
  have hfits : HeaderFits (g.header s.media .primaryGpt) := headerFits_iff.mpr hprimary
  have hself : g.header (s.repairHeader g crc .primaryGpt).media .primaryGpt = _ := header_repairHeader_self hfits
  rcases headers_same_or_apart hblocks with hsame | hapart
  · have hstate : headerState crc (repaired crc _) = some .gptOk := headerState_repaired hfits
    rw [← hself] at hstate
    have hcovered : g.HeaderCovered (s.repairHeader g crc .primaryGpt).media .primaryGpt :=
      headerFits_iff.mp (fits_of_state hstate)
    simp only [Geometry.HeaderCovered, Geometry.header, hsame] at hcovered ⊢
    exact hcovered
  · rw [Geometry.HeaderCovered, header_repairHeader_of_ne hfits hapart (by decide)]
    exact hsecondary

end Again

/-! ### A whole call -/

/-- For the stages that call `gpt2_set_boot_chain`: the chain, and the header block that is read after it. -/
def BootUpdateStage.chain : BootUpdateStage → Option (BootChain × GptInstance)
  | .updateMain => some (.backupBoot, .primaryGpt)
  | .updateBackup => none
  | .updateFinalize => some (.normalBoot, .secondaryGpt)

/-- The swap stays in the primary array, and the array that is written does not put a HeaderSize beyond the block
into the header that is read again. -/
structure ChainInBounds (g : Geometry) (isUfs : Bool) (boot : BootChain) (again : GptInstance) (m : Nat → UInt8) :
    Prop where
  rounds : boot = .backupBoot →
    RoundsInBounds isUfs (word4 (g.header m .primaryGpt) pentrySizeOffset) (g.entries m .primaryGpt)
  covered : ∀ written, bootChainArray isUfs boot (g.entries m .primaryGpt)
      (word4 (g.header m .primaryGpt) pentrySizeOffset) = some (0, written) →
    0 ≤ g.startOf (g.header m .secondaryGpt) →
    g.startOf (g.header m .secondaryGpt) + written.length ≤ g.size →
    g.HeaderCovered (splice m (g.startOf (g.header m .secondaryGpt)).toNat written) again

/-- Both headers cover no more than their blocks, and when they stand for the stage, so that it is run, and the
primary array can be used, its chain stays in bounds. -/
structure StaysInBuffers (g : Geometry) (crc : Bytes → UInt32) (isUfs : Bool) (stage : BootUpdateStage)
    (m : Nat → UInt8) : Prop where
  headers : ∀ gpt, g.HeaderCovered m gpt
  chain : internalStage (stateOf crc (g.header m .primaryGpt)) (stateOf crc (g.header m .secondaryGpt)) =
      some stage → ∀ boot again, stage.chain = some (boot, again) → ArrayRead g crc m →
    ChainInBounds g isUfs boot again m

section Call

variable {g : Geometry} {crc : Bytes → UInt32} {isUfs : Bool} {stage : BootUpdateStage} {s : Device}

theorem bootChainArray_eq_none_iff {boot : BootChain} :
    bootChainArray isUfs boot (g.entries s.media .primaryGpt)
        (word4 (g.header s.media .primaryGpt) pentrySizeOffset) = none ↔
      ¬ (boot = .backupBoot → RoundsInBounds isUfs (word4 (g.header s.media .primaryGpt) pentrySizeOffset)
        (g.entries s.media .primaryGpt)) := by
  cases boot with
  | normalBoot => exact iff_of_false nofun fun h => h nofun
  | backupBoot =>
      have hpos : 0 < (g.entries s.media .primaryGpt).length →
          0 < word4 (g.header s.media .primaryGpt) pentrySizeOffset := by
        rw [Geometry.entries, length_slice]
        exact pentrySize_pos
      rw [← gptBootChainSwap_ne_none_iff hpos, bootChainArray]
      simp

/-- Switching the boot LUN neither faults nor changes a header, and it may have nothing to do. -/
theorem faults_switchBootLun_bind_iff {chain : BootChain} {p : Sys Int} {P : Prop}
    (hp : ∀ t : Device, t.media = s.media → (Faults (faulty g) p t ↔ P)) :
    Faults (faulty g) (do
      let r ← switchBootLun isUfs chain
      if r != 0 then
        return r
      p) s ↔ P := by
  rw [(only_switchBootLun isUfs chain).faults_bind_iff]
  refine ⟨?_, ?_⟩
  · rintro ⟨r, t, hreturns, hfaults⟩
    have hmedia : t.media = s.media := by
      refine wp_returns (C := fun _ => True) (Q := fun _ t => t.media = s.media) ?_ hreturns
      exact wp_switchBootLun (fun _ _ => trivial) fun _ _ ht => ht
    by_cases hr : r = 0
    · subst hr
      exact (hp t hmedia).mp hfaults
    · rw [if_pos (by simpa using hr)] at hfaults
      exact absurd hfaults (not_faults_done _)
  · intro h
    have hrun : (working g sampleFiles).run (switchBootLun isUfs chain) s = some (0, s) := by
      cases isUfs <;> rfl
    exact ⟨0, s, returns_of_run hrun, (hp s rfl).mpr h⟩

variable (hblocks : 2 ≤ g.blocks) (hheaders : ∀ gpt, g.HeaderCovered s.media gpt)

include hblocks hheaders

/-- `gpt2_set_boot_chain` followed by `gpt_set_state`. -/
theorem faults_chain_iff {boot : BootChain} {again : GptInstance} {f : Int → Sys Int}
    (hstop : ∀ r t, r < 0 ∨ r = 1 ∧ boot = .backupBoot → ¬ Faults (faulty g) (f r) t)
    (hgo : ∀ t, Faults (faulty g) (f 0) t ↔ ¬ g.HeaderCovered t.media again) :
    Faults (faulty g) (gpt2SetBootChain crc isUfs boot >>= f) s ↔
      ArrayRead g crc s.media ∧ ¬ ChainInBounds g isUfs boot again s.media := by
  rw [faults_bind_iff, faults_gpt2SetBootChain_iff hblocks (hheaders _)]
  refine ⟨?_, ?_⟩
  · rintro (⟨hread, hnone⟩ | ⟨r, t, hreturns, hfaults⟩)
    · exact ⟨hread, fun hchain => bootChainArray_eq_none_iff.mp hnone hchain.rounds⟩
    · have hr : r = 0 := by
        by_contra hne
        refine hstop r t ?_ hfaults
        refine wp_returns (C := fun _ => True) (Q := fun r _ => r ≠ 0 → r < 0 ∨ r = 1 ∧ boot = .backupBoot)
          (wp_gpt2SetBootChain trivial (fun r hr _ => hr) ?_) hreturns hne
        intro pentries gptHeader _ hheader
        have hlen : gptHeader.length = g.blkSize := by
          rw [bootChainHeader_eq (headerFits_iff.mpr (hheaders .secondaryGpt))] at hheader
          cases hheader
          exact Geometry.length_withArrayCrc_header (headerFits_iff.mpr (hheaders .secondaryGpt)) _
        exact ⟨hlen, ⟨trivial, fun _ => Or.inl (by decide)⟩, fun _ _ _ => ⟨trivial, fun _ => Or.inl (by decide)⟩,
          fun _ _ => ⟨trivial, fun _ => Or.inl (by decide), fun hzero => absurd rfl hzero⟩⟩
      subst hr
      obtain ⟨written, hplan, h0, hrange, rfl⟩ := (returns_gpt2SetBootChain_iff hblocks (hheaders _)).mp hreturns
      rw [hgo, headerCovered_withChain_iff hblocks (hheaders _)] at hfaults
      exact ⟨⟨hplan.start_nonneg, hplan.onDevice, hplan.stored⟩,
        fun hchain => hfaults (hchain.covered written hplan.chained h0 hrange)⟩
  · rintro ⟨hread, hchain⟩
    by_cases hrounds : boot = .backupBoot →
        RoundsInBounds isUfs (word4 (g.header s.media .primaryGpt) pentrySizeOffset) (g.entries s.media .primaryGpt)
    · -- the swap stays in the array, so it is the header read again that does not fit
      have hcovered : ¬ ∀ written, bootChainArray isUfs boot (g.entries s.media .primaryGpt)
          (word4 (g.header s.media .primaryGpt) pentrySizeOffset) = some (0, written) →
          0 ≤ g.startOf (g.header s.media .secondaryGpt) →
          g.startOf (g.header s.media .secondaryGpt) + written.length ≤ g.size →
          g.HeaderCovered (splice s.media (g.startOf (g.header s.media .secondaryGpt)).toNat written) again :=
        fun h => hchain ⟨hrounds, h⟩
      push Not at hcovered
      obtain ⟨written, hchained, h0, hrange, hagain⟩ := hcovered
      refine Or.inr ⟨0, s.withChain g crc written, ?_, ?_⟩
      · exact (returns_gpt2SetBootChain_iff hblocks (hheaders _)).mpr
          ⟨written, ⟨hread.start_nonneg, hread.onDevice, hread.stored, hchained⟩, h0, hrange, rfl⟩
      · rw [hgo, headerCovered_withChain_iff hblocks (hheaders _)]
        exact hagain
    · exact Or.inl ⟨hread, bootChainArray_eq_none_iff.mpr hrounds⟩

/-- A stage leaves its buffers exactly if its chain does. -/
theorem faults_runStage_iff : Faults (faulty g) (runStage crc isUfs stage) s ↔
    ∃ boot again, stage.chain = some (boot, again) ∧ ArrayRead g crc s.media ∧
      ¬ ChainInBounds g isUfs boot again s.media := by
  have hcovered (t : Device) (ht : t.media = s.media) (gpt : GptInstance) : g.HeaderCovered t.media gpt := by
    rw [ht]
    exact hheaders gpt
  cases stage with
  | updateMain =>
      simp only [BootUpdateStage.chain, Option.some.injEq, Prod.mk.injEq, existsAndEq, and_true, true_and]
      unfold runStage
      apply faults_switchBootLun_bind_iff
      intro t ht
      rw [← ht]
      refine faults_chain_iff hblocks (hcovered t ht) (fun r u hr => ?_) fun u => ?_
      · rw [if_pos (by simp only [bne_iff_ne]; omega)]
        exact not_faults_done _
      · exact faults_gptSetState_iff hblocks (by decide)
  | updateBackup =>
      simp only [BootUpdateStage.chain, reduceCtorEq, false_and, exists_false]
      unfold runStage
      refine faults_switchBootLun_bind_iff fun t ht => iff_of_false ?_ not_false
      rw [faults_bind_iff, faults_gptSetState_iff hblocks (by decide), not_or, not_not]
      refine ⟨hcovered t ht .primaryGpt, ?_⟩
      rintro ⟨r, u, hreturns, hfaults⟩
      have hfits : HeaderFits (g.header t.media .primaryGpt) := headerFits_iff.mpr (hcovered t ht .primaryGpt)
      have hagain : wp (faulty g) (fun r u => r = 0 → g.HeaderCovered u.media .secondaryGpt) (fun _ => True)
          (gptSetState crc .primaryGpt .gptOk) t := by
        apply wp_gptSetState trivial nofun
        intro gptHeader hset
        rw [setHeaderState_ok hfits] at hset
        cases hset
        exact ⟨Geometry.length_repaired_header hfits, trivial, nofun,
          fun _ => headerCovered_repairHeader hblocks (hcovered t ht _) (hcovered t ht _)⟩
      by_cases hr : r = 0
      · have hlater := wp_returns hagain hreturns hr
        subst hr
        exact (faults_gptSetState_iff hblocks (by decide)).mp hfaults hlater
      · rw [if_pos (by simpa using hr)] at hfaults
        exact not_faults_done _ hfaults
  | updateFinalize =>
      simp only [BootUpdateStage.chain, Option.some.injEq, Prod.mk.injEq, existsAndEq, and_true, true_and]
      change Faults (faulty g) (gpt2SetBootChain crc isUfs .normalBoot >>= fun r =>
        if r < 0 then .done r else gptSetState crc .secondaryGpt .gptOk) s ↔ _
      refine faults_chain_iff hblocks hheaders (fun r u hr => ?_) fun u => ?_
      · rcases hr with hneg | ⟨-, hboot⟩
        · rw [if_pos hneg]
          exact not_faults_done _
        · cases hboot
      · exact faults_gptSetState_iff hblocks (by decide)

end Call

section Prepare

variable {g : Geometry} {crc : Bytes → UInt32} {isUfs : Bool} {stage : BootUpdateStage} {s : Device}

/-- After both headers have been read, only a stage that is run can leave its buffers. -/
theorem faults_decide_iff (hblocks : 2 ≤ g.blocks) (hheaders : ∀ gpt, g.HeaderCovered s.media gpt)
    {gptPrim gptSecond : GptState} :
    Faults (faulty g) (match internalStage gptPrim gptSecond with
      | none => .done (-1)
      | some internal =>
        if stage.toInt = internal.toInt - 1 then .done 0
        else if stage ≠ internal then .done (-1) else runStage crc isUfs stage) s ↔
      internalStage gptPrim gptSecond = some stage ∧ ∃ boot again, stage.chain = some (boot, again) ∧
        ArrayRead g crc s.media ∧ ¬ ChainInBounds g isUfs boot again s.media := by
  rw [← faults_runStage_iff hblocks hheaders]
  cases internalStage gptPrim gptSecond with
  | none => exact iff_of_false (not_faults_done _) nofun
  | some internal =>
      by_cases hstage : stage = internal
      · subst hstage
        simp only
        rw [if_neg (by omega), if_neg (not_not.mpr rfl), true_and]
      · refine iff_of_false ?_ fun h => hstage (Option.some.inj h.1).symm
        simp only
        split_ifs <;> exact not_faults_done _

theorem faults_prepareOpened_iff (hblocks : 2 ≤ g.blocks) :
    Faults (faulty g) (prepareOpened crc isUfs stage) s ↔ ¬ StaysInBuffers g crc isUfs stage s.media := by
  have hread : Faults (faulty g) (prepareOpened crc isUfs stage) s ↔
      ¬ g.HeaderCovered s.media .primaryGpt ∨ ¬ g.HeaderCovered s.media .secondaryGpt ∨
        Faults (faulty g) (match internalStage (stateOf crc (g.header s.media .primaryGpt))
            (stateOf crc (g.header s.media .secondaryGpt)) with
          | none => .done (-1)
          | some internal =>
            if stage.toInt = internal.toInt - 1 then .done 0
            else if stage ≠ internal then .done (-1) else runStage crc isUfs stage) s := by
    unfold prepareOpened
    rw [faults_gptGetState_bind_iff hblocks (by simp)]
    simp only [bne_self_eq_false, Bool.false_eq_true, if_false]
    rw [faults_gptGetState_bind_iff hblocks (by simp)]
    rfl
  rw [hread]
  by_cases hheaders : ∀ gpt, g.HeaderCovered s.media gpt
  · rw [faults_decide_iff hblocks hheaders, or_iff_right (not_not.mpr (hheaders _)),
      or_iff_right (not_not.mpr (hheaders _))]
    refine ⟨?_, ?_⟩
    · rintro ⟨hinternal, boot, again, hchain, harray, hbounds⟩ hstays
      exact hbounds (hstays.chain hinternal boot again hchain harray)
    · intro hstays
      by_contra hnone
      refine hstays ⟨hheaders, fun hinternal boot again hchain harray => ?_⟩
      by_contra hbounds
      exact hnone ⟨hinternal, boot, again, hchain, harray, hbounds⟩
  · refine iff_of_true ?_ fun hstays => hheaders hstays.headers
    by_contra hcovered
    simp only [not_or, not_not] at hcovered
    exact hheaders fun gpt => by cases gpt <;> simp only [hcovered]

/-- Opening the device and the last `fsync` do not fault. -/
theorem faults_preparePartitions_iff (devPath : String) :
    Faults (faulty g) (preparePartitions crc isUfs stage devPath) s ↔
      Faults (faulty g) (prepareOpened crc isUfs stage) s := by
  have hsync : Faults (faulty g) (prepareOpened crc isUfs stage >>= fun r => do
      let _ ← sys .fsync
      return r) s ↔ Faults (faulty g) (prepareOpened crc isUfs stage) s := by
    rw [faults_bind_iff]
    apply or_iff_left
    rintro ⟨r, t, -, hfaults⟩
    obtain ⟨_, _, -, hdone⟩ := faults_sys_bind_iff.mp hfaults
    exact not_faults_done _ hdone
  rw [← hsync]
  unfold preparePartitions
  rw [faults_sys_bind_iff]
  refine ⟨?_, ?_⟩
  · rintro ⟨opened, t, rfl, hfaults⟩
    cases opened with
    | false => exact absurd hfaults (not_faults_done _)
    | true => exact hfaults
  · exact fun hfaults => ⟨true, s, rfl, hfaults⟩

/-- On a device of less than two blocks no header can be read, and nothing more is done. -/
theorem not_faults_of_few_blocks (hblocks : ¬ 2 ≤ g.blocks) (devPath : String) :
    ¬ Faults (faulty g) (preparePartitions crc isUfs stage devPath) s := by
  rw [faults_preparePartitions_iff]
  unfold prepareOpened
  exact not_faults_gptGetState_bind hblocks (by simp)

/-- A call of `prepare_partitions` stays in its buffers, whatever fails, exactly if the headers and the arrays on the
device keep it there; what that means for the swap is said for the array as it is, when entries do not overlap. -/
theorem not_faults_preparePartitions_iff {devPath : String} :
    (¬ Faults (faulty g) (preparePartitions crc isUfs stage devPath) s ↔
      (2 ≤ g.blocks → StaysInBuffers g crc isUfs stage s.media)) ∧
    ∀ (pentries : Bytes) (pentrySize : Nat), ptnEntrySize ≤ pentrySize →
      (RoundsInBounds isUfs pentrySize pentries ↔
        ∀ name ∈ ptnSwapList, skipsName isUfs name = false → RoundInBounds pentrySize pentries name) := by
  refine ⟨?_, fun _ _ hsize => roundsInBounds_iff hsize⟩
  by_cases hblocks : 2 ≤ g.blocks
  · rw [faults_preparePartitions_iff, faults_prepareOpened_iff hblocks, not_not]
    exact ⟨fun h _ => h, fun h => h hblocks⟩
  · exact iff_of_true (not_faults_of_few_blocks hblocks devPath) fun h => absurd h hblocks

end Prepare

/-- Erased flash: every byte is 0xFF. -/
def erased : Device := ⟨fun _ => 0xFF, 1⟩

def erasedGeometry : Geometry := ⟨512, 4, by decide⟩

/-- On erased flash the HeaderSize reads as 2^32 - 1, and the CRC is taken over that many bytes of one block. -/
theorem erased_faults :
    Faults (faulty erasedGeometry) (preparePartitions byteSum false .updateMain "/dev/block/sda") erased := by
  rw [faults_preparePartitions_iff, faults_prepareOpened_iff (by decide)]
  intro hstays
  have hcovered := hstays.headers .primaryGpt
  revert hcovered
  unfold Geometry.HeaderCovered
  decide +kernel

end Penrose.Gpt

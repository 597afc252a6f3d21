import Penrose.GptBounds
import Penrose.GptRetry

/-! A whole update cycle on a working device: `UPDATE_MAIN`, `UPDATE_BACKUP` and `UPDATE_FINALIZE` in
turn. The disk after each stage is given by the contents of the four regions; the cycle can only be
stopped by a swap that leaves the entry array, which needs an array whose size was cut off at 32 bits. -/

namespace Penrose.Gpt

open ByteRegions CallTree

/-- A partition and its backup, which the swap does not skip, are both in the array. -/
def HasPair (isUfs : Bool) (pentries : Bytes) (pentrySize : Nat) : Prop :=
  ∃ name ∈ ptnSwapList, skipsName isUfs name = false ∧ HasEntry pentries pentrySize name ∧
    HasEntry pentries pentrySize (name ++ bakPtnNameExt)

/-- Every byte outside the two headers and the secondary array is the same. -/
def Geometry.Untouched (g : Geometry) (m₀ m : Nat → UInt8) : Prop :=
  ∀ i, (∀ r, r ≠ .entries .primaryGpt → i < g.regionPos m₀ r ∨ g.regionPos m₀ r + g.regionLen m₀ r ≤ i) →
    m i = m₀ i

/-- The three stages return 0 and leave these devices. -/
structure UpdateCycle (g : Geometry) (files : Files) (crc : Bytes → UInt32) (isUfs : Bool) (devPath : String)
    (s s₁ s₂ s₃ : Device) : Prop where
  main : (working g files).run (preparePartitions crc isUfs .updateMain devPath) s = some (0, s₁)
  backup : (working g files).run (preparePartitions crc isUfs .updateBackup devPath) s₁ = some (0, s₂)
  finalize : (working g files).run (preparePartitions crc isUfs .updateFinalize devPath) s₂ = some (0, s₃)
  /-- After `UPDATE_MAIN` the primary header differs in its first byte and its CRC field only. -/
  mainPrimary : ∀ i, i ≠ 0 → ¬(headerCrcOffset ≤ i ∧ i < headerCrcOffset + 4) →
    (g.header s₁.media .primaryGpt)[i]? = (g.header s.media .primaryGpt)[i]?
  mainSecondary : g.FullyValid s₁.media crc .secondaryGpt
  mainEntries : gptBootChainSwap isUfs (g.entries s.media .primaryGpt)
    (word4 (g.header s.media .primaryGpt) pentrySizeOffset) = some (0, g.entries s₁.media .secondaryGpt)
  /-- After `UPDATE_BACKUP` the primary header is the original one. -/
  backupPrimary : g.header s₂.media .primaryGpt = g.header s.media .primaryGpt
  backupSignature : (g.header s₂.media .secondaryGpt).take 9 ≠ gptSignature
  backupCrc : word4 (g.header s₂.media .secondaryGpt) headerCrcOffset =
    headerSum crc (g.header s₂.media .secondaryGpt)
  /-- After `UPDATE_FINALIZE` both GPTs are valid and describe the same array. -/
  finalPrimary : g.header s₃.media .primaryGpt = g.header s.media .primaryGpt
  finalSecondary : g.FullyValid s₃.media crc .secondaryGpt
  finalEntries : g.entries s₃.media .secondaryGpt = g.entries s.media .primaryGpt
  /-- In every state on the way the primary array is the original one, and so is all the rest. -/
  untouched : ∀ c, c ∈ (working g files).cuts (preparePartitions crc isUfs .updateMain devPath) s ∨
    c ∈ (working g files).cuts (preparePartitions crc isUfs .updateBackup devPath) s₁ ∨
    c ∈ (working g files).cuts (preparePartitions crc isUfs .updateFinalize devPath) s₂ →
    g.Untouched s.media c.media ∧
      g.view s.media c.media (.entries .primaryGpt) = g.entries s.media .primaryGpt

section Steps

variable {g : Geometry} {crc : Bytes → UInt32} {m₀ : Nat → UInt8} {s : Device} {pentries : Bytes}

theorem untouched_write (hu : g.Untouched m₀ s.media) {r : Region} {data : Bytes}
    (hr : r ≠ .entries .primaryGpt) (hlen : data.length = g.regionLen m₀ r) :
    g.Untouched m₀ (s.write (g.regionPos m₀ r) data).media := by
  intro i hi
  rw [← hu i hi]
  apply splice_of_outside
  rw [hlen]
  exact hi r hr

/-- Outside the two headers and the secondary array lies, among others, the primary array. -/
theorem Geometry.Untouched.primaryEntries (hd : g.Disjoint m₀) (hu : g.Untouched m₀ s.media) :
    g.view m₀ s.media (.entries .primaryGpt) = g.view m₀ m₀ (.entries .primaryGpt) := by
  apply slice_congr
  intro i h1 h2
  apply hu i
  intro r hr
  have hapart := hd (.entries .primaryGpt) r hr.symm
  unfold Apart at hapart
  omega

theorem view_writeHeaderBlock (hd : g.Healthy crc m₀) (gpt : GptInstance) {gptHeader : Bytes}
    (hlen : gptHeader.length = g.blkSize) :
    g.view m₀ (s.writeHeader g gpt gptHeader).media =
      Function.update (g.view m₀ s.media) (.header gpt) gptHeader :=
  view_writeHeader hd hlen

/-- What corrupting a header does to the contents. -/
theorem view_corruptHeader (hd : g.Healthy crc m₀) {gpt : GptInstance}
    (hfits : HeaderFits (g.header s.media gpt)) :
    g.view m₀ (s.corruptHeader g crc gpt).media =
      Function.update (g.view m₀ s.media) (.header gpt) (corrupted crc (g.header s.media gpt)) :=
  view_writeHeader hd (Geometry.length_corrupted_header hfits)

theorem view_repairHeader (hd : g.Healthy crc m₀) {gpt : GptInstance}
    (hfits : HeaderFits (g.header s.media gpt)) :
    g.view m₀ (s.repairHeader g crc gpt).media =
      Function.update (g.view m₀ s.media) (.header gpt) (repaired crc (g.header s.media gpt)) :=
  view_writeHeader hd (Geometry.length_repaired_header hfits)

/-- What `gpt2_set_boot_chain` does to the contents. -/
theorem view_withChain (hd : g.Healthy crc m₀) (hfits : HeaderFits (g.header s.media .secondaryGpt))
    (hfields : SameFields (g.header m₀ .secondaryGpt) (g.header s.media .secondaryGpt))
    (hlen : pentries.length = g.regionLen m₀ (.entries .secondaryGpt)) :
    g.view m₀ (s.withChain g crc pentries).media =
      Function.update (Function.update (g.view m₀ s.media) (.header .secondaryGpt)
        (withArrayCrc crc (g.header s.media .secondaryGpt) (crc pentries).toNat))
        (.entries .secondaryGpt) pentries := by
  rw [Device.withChain, view_writeEntries hd hfields hlen, Device.withChainHeader]
  rw [view_writeHeaderBlock hd _ (Geometry.length_withArrayCrc_header hfits _)]

theorem untouched_corruptHeader (hu : g.Untouched m₀ s.media) {gpt : GptInstance}
    (hfits : HeaderFits (g.header s.media gpt)) : g.Untouched m₀ (s.corruptHeader g crc gpt).media :=
  untouched_write hu (r := .header gpt) (fun heq => nomatch heq)
    (Geometry.length_corrupted_header hfits)

theorem untouched_repairHeader (hu : g.Untouched m₀ s.media) {gpt : GptInstance}
    (hfits : HeaderFits (g.header s.media gpt)) : g.Untouched m₀ (s.repairHeader g crc gpt).media :=
  untouched_write hu (r := .header gpt) (fun heq => nomatch heq)
    (Geometry.length_repaired_header hfits)

theorem untouched_withChainHeader (hu : g.Untouched m₀ s.media)
    (hfits : HeaderFits (g.header s.media .secondaryGpt)) :
    g.Untouched m₀ (s.withChainHeader g crc pentries).media :=
  untouched_write hu (r := .header .secondaryGpt) (by decide)
    (Geometry.length_withArrayCrc_header hfits _)

theorem untouched_withChain (hu : g.Untouched m₀ s.media)
    (hfits : HeaderFits (g.header s.media .secondaryGpt))
    (hfields : SameFields (g.header m₀ .secondaryGpt) (g.header s.media .secondaryGpt))
    (hlen : pentries.length = g.regionLen m₀ (.entries .secondaryGpt)) :
    g.Untouched m₀ (s.withChain g crc pentries).media := by
  rw [Device.withChain, hfields.startOf]
  exact untouched_write (untouched_withChainHeader hu hfits) (r := .entries .secondaryGpt) (by decide) hlen

end Steps

/-! ### The stages on the contents of the regions -/

section Contents

variable (crc : Bytes → UInt32)

/-- `UPDATE_MAIN`: the new array goes to the secondary GPT, the primary header is corrupted. -/
def mainContents (pentries : Bytes) (v : Contents) : Contents
  | .header .primaryGpt => corrupted crc (v (.header .primaryGpt))
  | .header .secondaryGpt => withArrayCrc crc (v (.header .secondaryGpt)) (crc pentries).toNat
  | .entries .primaryGpt => v (.entries .primaryGpt)
  | .entries .secondaryGpt => pentries

/-- `UPDATE_BACKUP`: the primary header is repaired, the secondary one corrupted. -/
def backupContents (v : Contents) : Contents
  | .header .primaryGpt => repaired crc (v (.header .primaryGpt))
  | .header .secondaryGpt => corrupted crc (v (.header .secondaryGpt))
  | .entries gpt => v (.entries gpt)

/-- `UPDATE_FINALIZE`: the primary array goes to the secondary GPT, whose header is repaired. -/
def finalizeContents (v : Contents) : Contents
  | .header .primaryGpt => v (.header .primaryGpt)
  | .header .secondaryGpt =>
      repaired crc (withArrayCrc crc (v (.header .secondaryGpt)) (crc (v (.entries .primaryGpt))).toNat)
  | .entries _ => v (.entries .primaryGpt)

variable {crc} {v : Contents} {pentries : Bytes}

/-- The headers keep their fields. -/
def SameShape (v v' : Contents) : Prop := ∀ gpt, SameFields (v (.header gpt)) (v' (.header gpt))

theorem sameShape_mainContents (hv : ∀ gpt, HeaderFits (v (.header gpt))) :
    SameShape v (mainContents crc pentries v) := by
  intro gpt
  cases gpt with
  | primaryGpt => exact SameFields.corrupted (hv _)
  | secondaryGpt => exact SameFields.withArrayCrc (hv _) _

theorem sameShape_backupContents (hv : ∀ gpt, HeaderFits (v (.header gpt))) :
    SameShape v (backupContents crc v) := by
  intro gpt
  cases gpt with
  | primaryGpt => exact SameFields.repaired (hv _)
  | secondaryGpt => exact SameFields.corrupted (hv _)

theorem sameShape_finalizeContents (hv : ∀ gpt, HeaderFits (v (.header gpt))) :
    SameShape v (finalizeContents crc v) := by
  intro gpt
  cases gpt with
  | primaryGpt => exact SameFields.refl _
  | secondaryGpt =>
      have harray : SameFields (v (.header .secondaryGpt)) (withArrayCrc crc (v (.header .secondaryGpt))
          (crc (v (.entries .primaryGpt))).toNat) := SameFields.withArrayCrc (hv _) _
      exact harray.trans (SameFields.repaired (harray.fits (hv _)))

/-- After `UPDATE_MAIN` the secondary GPT is the valid one. -/
theorem validGpt_mainContents (pentries : Bytes) (hv : ValidGpt crc v .secondaryGpt) :
    ValidGpt crc (mainContents crc pentries v) .secondaryGpt :=
  validGpt_withArrayCrc pentries hv.fits hv.signature rfl rfl

/-- `UPDATE_BACKUP` undoes what `UPDATE_MAIN` did to the primary header. -/
theorem backupContents_mainContents (hv : ValidGpt crc v .primaryGpt) :
    backupContents crc (mainContents crc pentries v) (.header .primaryGpt) = v (.header .primaryGpt) := by
  change repaired crc (corrupted crc (v (.header .primaryGpt))) = _
  rw [repaired_corrupted hv.fits, repaired_of_ok hv.fits hv.headerState]

/-- After `UPDATE_FINALIZE` the secondary GPT is valid whatever signature it had. -/
theorem validGpt_finalizeContents (hv : HeaderFits (v (.header .secondaryGpt))) :
    ValidGpt crc (finalizeContents crc v) .secondaryGpt := by
  have hfits : HeaderFits (withArrayCrc crc (v (.header .secondaryGpt)) (crc (v (.entries .primaryGpt))).toNat) :=
    (hv.withArrayWord _).sealed
  exact validGpt_repaired hfits (word4_withArrayCrc hv (UInt32.toNat_lt _)) rfl

end Contents

section Refinement

variable {g : Geometry} {files : Files} {crc : Bytes → UInt32} {isUfs : Bool} {m₀ : Nat → UInt8} {s : Device}
  {lun : Option Nat}

/-- The headers keep the fields they have on `m₀`. -/
def Geometry.Shape (g : Geometry) (m₀ m : Nat → UInt8) : Prop :=
  ∀ gpt, SameFields (g.header m₀ gpt) (g.header m gpt)

theorem Geometry.Shape.fits (hd : g.Healthy crc m₀) (hshape : g.Shape m₀ s.media) (gpt : GptInstance) :
    HeaderFits (g.header s.media gpt) :=
  (hshape gpt).fits (hd.validGpt gpt).fits

theorem Geometry.Healthy.two_le_blocks (hd : g.Healthy crc m₀) : 2 ≤ g.blocks :=
  Geometry.two_le_blocks (hd.layout.onDevice (.header .primaryGpt))

/-- An array as long as the primary one fits where the secondary header says. -/
theorem Geometry.Shape.secondaryRange (hd : g.Healthy crc m₀) (hshape : g.Shape m₀ s.media) {pentries : Bytes}
    (hlen : pentries.length = g.regionLen m₀ (.entries .secondaryGpt)) :
    0 ≤ g.startOf (g.header s.media .secondaryGpt) ∧
      g.startOf (g.header s.media .secondaryGpt) + pentries.length ≤ g.size := by
  have hstart := hd.layout.start_nonneg .secondaryGpt
  have hdevice := hd.layout.onDevice (.entries .secondaryGpt)
  rw [(hshape .secondaryGpt).startOf]
  simp only [Geometry.regionPos] at hdevice
  omega

theorem Geometry.Shape.planLength (hd : g.Healthy crc m₀) (hshape : g.Shape m₀ s.media) {boot : BootChain}
    {pentries : Bytes} (hplan : BootChainPlan g crc isUfs boot s.media pentries) :
    pentries.length = g.regionLen m₀ (.entries .secondaryGpt) := by
  rw [hplan.length, (hshape .primaryGpt).arraySizeOf]
  exact hd.regionLen_entries .primaryGpt .secondaryGpt

/-- `UPDATE_MAIN` does to the device what `mainContents` does to the contents. -/
theorem refine_updateMain (hd : g.Healthy crc m₀) (hshape : g.Shape m₀ s.media)
    (hu : g.Untouched m₀ s.media) (devPath : String) {pentries : Bytes}
    (hprim : headerState crc (g.header s.media .primaryGpt) = some .gptOk)
    (hsecond : headerState crc (g.header s.media .secondaryGpt) = some .gptOk)
    (hlun : (working g files).Trace (switchBootLun isUfs .backupBoot) s {s, s.withBootLun lun} 0
      (s.withBootLun lun))
    (hplan : BootChainPlan g crc isUfs .backupBoot s.media pentries) :
    ∃ t, (working g files).run (preparePartitions crc isUfs .updateMain devPath) s = some (0, t) ∧
      g.view m₀ t.media = mainContents crc pentries (g.view m₀ s.media) ∧
      ∀ c ∈ (working g files).cuts (preparePartitions crc isUfs .updateMain devPath) s,
        g.Untouched m₀ c.media := by
  have hlen := hshape.planLength hd hplan
  obtain ⟨h0, hrange⟩ := hshape.secondaryRange hd hlen
  obtain ⟨s', hs'⟩ : ∃ s', s' = s.withBootLun lun := ⟨_, rfl⟩
  have hmedia : s'.media = s.media := by rw [hs', Device.media_withBootLun]
  have hfits : ∀ gpt, HeaderFits (g.header s'.media gpt) := by
    intro gpt
    rw [hmedia]
    exact hshape.fits hd gpt
  have hview := view_withChain (s := s') hd (hfits _) (by rw [hmedia]; exact hshape _) hlen
  have hkept : g.header (s'.withChain g crc pentries).media .primaryGpt = g.header s'.media .primaryGpt := by
    have hprimary := congrFun hview (.header .primaryGpt)
    rwa [Function.update_of_ne (by decide), Function.update_of_ne (by decide)] at hprimary
  have hchainFits : HeaderFits (g.header (s'.withChain g crc pentries).media .primaryGpt) := by
    rw [hkept]
    exact hfits _
  have htrace := trace_updateMain files hd.two_le_blocks devPath hprim hsecond hlun hplan h0 hrange
    (by rw [← hs']; exact hchainFits)
  rw [← hs'] at htrace
  refine ⟨_, htrace.run_eq, ?_, ?_⟩
  · rw [view_corruptHeader hd hchainFits, hview, hkept, hmedia]
    funext r
    rcases r with gpt | gpt <;> cases gpt <;> rfl
  · have hu' : g.Untouched m₀ s'.media := by
      rw [hmedia]
      exact hu
    have hchain : g.Untouched m₀ (s'.withChain g crc pentries).media :=
      untouched_withChain hu' (hfits _) (by rw [hmedia]; exact hshape _) hlen
    intro c hc
    have hmem := (htrace.mem_cuts_iff c).mp hc
    rcases hmem with rfl | rfl | rfl | rfl | rfl
    · exact hu
    · exact hu'
    · exact untouched_withChainHeader hu' (hfits _)
    · exact hchain
    · exact untouched_corruptHeader hchain hchainFits

/-- `UPDATE_BACKUP` does to the device what `backupContents` does to the contents. -/
theorem refine_updateBackup (hd : g.Healthy crc m₀) (hshape : g.Shape m₀ s.media)
    (hu : g.Untouched m₀ s.media) (devPath : String)
    (hprim : headerState crc (g.header s.media .primaryGpt) = some .gptBadSignature)
    (hsecond : headerState crc (g.header s.media .secondaryGpt) = some .gptOk)
    (hlun : (working g files).Trace (switchBootLun isUfs .normalBoot) s {s, s.withBootLun lun} 0
      (s.withBootLun lun)) :
    ∃ t, (working g files).run (preparePartitions crc isUfs .updateBackup devPath) s = some (0, t) ∧
      g.view m₀ t.media = backupContents crc (g.view m₀ s.media) ∧
      ∀ c ∈ (working g files).cuts (preparePartitions crc isUfs .updateBackup devPath) s,
        g.Untouched m₀ c.media := by
  have hapart := hd.layout.disjoint (.header .primaryGpt) (.header .secondaryGpt) (by decide)
  have htrace := trace_updateBackup files hd.two_le_blocks devPath hprim hsecond hlun hapart
  obtain ⟨s', hs'⟩ : ∃ s', s' = s.withBootLun lun := ⟨_, rfl⟩
  have hmedia : s'.media = s.media := by rw [hs', Device.media_withBootLun]
  rw [← hs'] at htrace
  have hfits : ∀ gpt, HeaderFits (g.header s'.media gpt) := by
    intro gpt
    rw [hmedia]
    exact hshape.fits hd gpt
  have hkept : g.header (s'.repairHeader g crc .primaryGpt).media .secondaryGpt =
      g.header s'.media .secondaryGpt := header_repairHeader_of_ne (hfits _) hapart (by decide)
  have hrepairFits : HeaderFits (g.header (s'.repairHeader g crc .primaryGpt).media .secondaryGpt) := by
    rw [hkept]
    exact hfits _
  refine ⟨_, htrace.run_eq, ?_, ?_⟩
  · rw [view_corruptHeader hd hrepairFits, view_repairHeader hd (hfits _), hkept, hmedia]
    funext r
    rcases r with gpt | gpt <;> cases gpt <;> rfl
  · have hu' : g.Untouched m₀ s'.media := by
      rw [hmedia]
      exact hu
    have hrepair : g.Untouched m₀ (s'.repairHeader g crc .primaryGpt).media :=
      untouched_repairHeader hu' (hfits _)
    intro c hc
    have hmem := (htrace.mem_cuts_iff c).mp hc
    rcases hmem with rfl | rfl | rfl | rfl
    · exact hu
    · exact hu'
    · exact hrepair
    · exact untouched_corruptHeader hrepair hrepairFits

/-- `UPDATE_FINALIZE` does to the device what `finalizeContents` does to the contents. -/
theorem refine_updateFinalize (files : Files) (hd : g.Healthy crc m₀) (hshape : g.Shape m₀ s.media)
    (hu : g.Untouched m₀ s.media) (devPath : String)
    (hprim : headerState crc (g.header s.media .primaryGpt) = some .gptOk)
    (hsecond : headerState crc (g.header s.media .secondaryGpt) = some .gptBadSignature)
    (hplan : BootChainPlan g crc isUfs .normalBoot s.media (g.view m₀ s.media (.entries .primaryGpt))) :
    ∃ t, (working g files).run (preparePartitions crc isUfs .updateFinalize devPath) s = some (0, t) ∧
      g.view m₀ t.media = finalizeContents crc (g.view m₀ s.media) ∧
      ∀ c ∈ (working g files).cuts (preparePartitions crc isUfs .updateFinalize devPath) s,
        g.Untouched m₀ c.media := by
  have hlen := hshape.planLength hd hplan
  obtain ⟨h0, hrange⟩ := hshape.secondaryRange hd hlen
  have hfits := hshape.fits hd
  have hview := view_withChain hd (hfits .secondaryGpt) (hshape .secondaryGpt) hlen
  have hheader := congrFun hview (.header .secondaryGpt)
  rw [Function.update_of_ne (by decide), Function.update_self, Geometry.view_header] at hheader
  have hchainFits : HeaderFits (g.header (s.withChain g crc
      (g.view m₀ s.media (.entries .primaryGpt))).media .secondaryGpt) := by
    rw [hheader]
    exact (SameFields.withArrayCrc (hfits _) _).fits (hfits _)
  have htrace := trace_updateFinalize files hd.two_le_blocks devPath hprim hsecond hplan h0 hrange hchainFits
  refine ⟨_, htrace.run_eq, ?_, ?_⟩
  · rw [view_repairHeader hd hchainFits, hview, hheader]
    funext r
    rcases r with gpt | gpt <;> cases gpt <;> rfl
  · have hchain : g.Untouched m₀ (s.withChain g crc (g.view m₀ s.media (.entries .primaryGpt))).media :=
      untouched_withChain hu (hfits _) (hshape _) hlen
    intro c hc
    have hmem := (htrace.mem_cuts_iff c).mp hc
    rcases hmem with rfl | rfl | rfl | rfl
    · exact hu
    · exact untouched_withChainHeader hu (hfits _)
    · exact hchain
    · exact untouched_repairHeader hchain hchainFits

end Refinement

/-! ### The cycle -/

section Cycle

variable {g : Geometry} {files : Files} {crc : Bytes → UInt32} {isUfs : Bool} {devPath : String} {s : Device}

/-- Every boot LUN switch succeeds. -/
def LunSwitches (g : Geometry) (files : Files) (isUfs : Bool) : Prop :=
  ∀ chain s, ∃ t, (working g files).run (switchBootLun isUfs chain) s = some (0, t)

theorem LunSwitches.exists_lun (h : LunSwitches g files isUfs) (chain : BootChain) :
    ∃ lun, ∀ s, (working g files).Trace (switchBootLun isUfs chain) s {s, s.withBootLun lun} 0
      (s.withBootLun lun) := by
  have hswitch : Switches g files (switchBootLun isUfs chain) := switches_switchBootLun isUfs chain
  obtain ⟨r, lun, hlun⟩ := hswitch
  obtain ⟨t, ht⟩ := h chain ⟨fun _ => 0, 0⟩
  obtain rfl : r = 0 := congrArg Prod.fst (Option.some.inj ((hlun _).run_eq.symm.trans ht))
  exact ⟨lun, hlun⟩

theorem Geometry.Healthy.plan (hd : g.Healthy crc s.media) {boot : BootChain} {pentries : Bytes}
    (hchained : bootChainArray isUfs boot (g.entries s.media .primaryGpt)
      (word4 (g.header s.media .primaryGpt) pentrySizeOffset) = some (0, pentries)) :
    BootChainPlan g crc isUfs boot s.media pentries where
  start_nonneg := hd.layout.start_nonneg .primaryGpt
  onDevice := by
    have hstart := hd.layout.start_nonneg .primaryGpt
    have hdevice := hd.layout.onDevice (.entries .primaryGpt)
    simp only [Geometry.regionPos, Geometry.regionLen] at hdevice
    omega
  stored := (hd.valid .primaryGpt).arrayCrc
  chained := hchained

theorem shape_of_view {v : Contents} {t : Device} (hview : g.view s.media t.media = v)
    (hv : SameShape (g.view s.media s.media) v) : g.Shape s.media t.media := by
  subst hview
  exact hv

theorem SameShape.trans {v v' v'' : Contents} (h : SameShape v v') (h' : SameShape v' v'') : SameShape v v'' :=
  fun gpt => (h gpt).trans (h' gpt)

theorem SameShape.fits {v v' : Contents} (h : SameShape v v') (hv : ∀ gpt, HeaderFits (v (.header gpt)))
    (gpt : GptInstance) : HeaderFits (v' (.header gpt)) :=
  (h gpt).fits (hv gpt)

/-- The device that a call leaves is one it passes through. -/
theorem last_mem_cuts {α : Type} {p : Sys α} {a : α} {t : Device}
    (hrun : (working g files).run p s = some (a, t)) : t ∈ (working g files).cuts p s :=
  (Machine.visits_iff_mem_cuts _).mp ((Machine.returns_iff_run _).mpr hrun).visits

/-- With a swap that stays in the array the cycle goes through. -/
theorem exists_updateCycle (hd : g.Healthy crc s.media) (hlun : LunSwitches g files isUfs) {pentries : Bytes}
    (hswap : gptBootChainSwap isUfs (g.entries s.media .primaryGpt)
      (word4 (g.header s.media .primaryGpt) pentrySizeOffset) = some (0, pentries)) :
    ∃ s₁ s₂ s₃, UpdateCycle g files crc isUfs devPath s s₁ s₂ s₃ := by
  have hv := hd.validGpt
  have hfits : ∀ gpt, HeaderFits (g.view s.media s.media (.header gpt)) := fun gpt => (hv gpt).fits
  obtain ⟨lun₁, hlun₁⟩ := hlun.exists_lun .backupBoot
  obtain ⟨lun₂, hlun₂⟩ := hlun.exists_lun .normalBoot
  have hplan₁ : BootChainPlan g crc isUfs .backupBoot s.media pentries := hd.plan hswap
  -- `UPDATE_MAIN`
  obtain ⟨s₁, hrun₁, hview₁, hu₁⟩ := refine_updateMain hd (fun _ => SameFields.refl _) (fun _ _ => rfl) devPath
    (hv .primaryGpt).headerState (hv .secondaryGpt).headerState (hlun₁ s) hplan₁
  have hsame₁ : SameShape (g.view s.media s.media) (mainContents crc pentries (g.view s.media s.media)) :=
    sameShape_mainContents hfits
  have hshape₁ := shape_of_view hview₁ hsame₁
  have hvalid₁ := validGpt_mainContents pentries (hv .secondaryGpt)
  have hprim₁ : g.header s₁.media .primaryGpt = corrupted crc (g.header s.media .primaryGpt) :=
    congrFun hview₁ (.header .primaryGpt)
  rw [← hview₁] at hvalid₁
  -- `UPDATE_BACKUP`
  obtain ⟨s₂, hrun₂, hview₂, hu₂⟩ := refine_updateBackup hd hshape₁ (hu₁ s₁ (last_mem_cuts hrun₁)) devPath
    (by rw [hprim₁]; exact headerState_corrupted (hfits .primaryGpt)) hvalid₁.headerState (hlun₂ s₁)
  have hsame₂ : SameShape (g.view s.media s.media) (backupContents crc (g.view s.media s₁.media)) := by
    rw [hview₁]
    exact hsame₁.trans (sameShape_backupContents (hsame₁.fits hfits))
  have hshape₂ := shape_of_view hview₂ hsame₂
  have hprim₂ : g.header s₂.media .primaryGpt = g.header s.media .primaryGpt := by
    apply (congrFun hview₂ (.header .primaryGpt)).trans
    rw [hview₁]
    exact backupContents_mainContents (hv .primaryGpt)
  have hsecond₂ : g.header s₂.media .secondaryGpt = corrupted crc (g.header s₁.media .secondaryGpt) :=
    congrFun hview₂ (.header .secondaryGpt)
  have hstate₂ : headerState crc (g.header s₂.media .secondaryGpt) = some .gptBadSignature := by
    rw [hsecond₂]
    exact headerState_corrupted hvalid₁.fits
  have hentries₂ : g.view s.media s₂.media (.entries .primaryGpt) = g.entries s.media .primaryGpt := by
    apply (congrFun hview₂ (.entries .primaryGpt)).trans
    rw [hview₁]
    rfl
  -- `UPDATE_FINALIZE`
  have hplan₂ : BootChainPlan g crc isUfs .normalBoot s₂.media
      (g.view s.media s₂.media (.entries .primaryGpt)) := by
    have hsame : g.entries s₂.media .primaryGpt = g.entries s.media .primaryGpt := by
      rw [← Geometry.view_entries (hshape₂ .primaryGpt), hentries₂]
    exact hplan₁.congr hprim₂ hsame (congrArg (fun entries => some (0, entries)) hentries₂.symm)
  obtain ⟨s₃, hrun₃, hview₃, hu₃⟩ := refine_updateFinalize files hd hshape₂ (hu₂ s₂ (last_mem_cuts hrun₂)) devPath
    (by rw [hprim₂]; exact (hv .primaryGpt).headerState) hstate₂ hplan₂
  have hfits₂ : ∀ gpt, HeaderFits (g.view s.media s₂.media (.header gpt)) := by
    rw [hview₂]
    exact hsame₂.fits hfits
  have hsame₃ : SameShape (g.view s.media s.media) (finalizeContents crc (g.view s.media s₂.media)) := by
    refine SameShape.trans ?_ (sameShape_finalizeContents hfits₂)
    rw [hview₂]
    exact hsame₂
  have hshape₃ := shape_of_view hview₃ hsame₃
  have hvalid₃ : ValidGpt crc (g.view s.media s₃.media) .secondaryGpt := by
    rw [hview₃]
    exact validGpt_finalizeContents (hfits₂ .secondaryGpt)
  obtain ⟨hcrc₂, hsignature₂⟩ := (headerState_eq_badSignature (hfits₂ .secondaryGpt)).mp hstate₂
  refine ⟨s₁, s₂, s₃, hrun₁, hrun₂, hrun₃, ?_, ?_, ?_, hprim₂, hsignature₂,
    hcrc₂, ?_, ?_, ?_, ?_⟩
  · intro i hi hcrc
    rw [hprim₁]
    exact getElem?_corrupted (hfits .primaryGpt) hi hcrc
  · exact (Geometry.fullyValid_iff (hshape₁ _)).mpr hvalid₁
  · rw [← Geometry.view_entries (hshape₁ .secondaryGpt), hview₁]
    exact hswap
  · exact (congrFun hview₃ (.header .primaryGpt)).trans hprim₂
  · exact (Geometry.fullyValid_iff (hshape₃ _)).mpr hvalid₃
  · rw [← Geometry.view_entries (hshape₃ .secondaryGpt), hview₃]
    exact hentries₂
  · have huntouched : ∀ c : Device, g.Untouched s.media c.media → g.Untouched s.media c.media ∧
        g.view s.media c.media (.entries .primaryGpt) = g.entries s.media .primaryGpt :=
      fun c hc => ⟨hc, hc.primaryEntries hd.layout.disjoint⟩
    rintro c (hc | hc | hc)
    · exact huntouched c (hu₁ c hc)
    · exact huntouched c (hu₂ c hc)
    · exact huntouched c (hu₃ c hc)

/-- The cycle goes through exactly when no round of the swap leaves the entry array that is read. -/
theorem updateCycle_iff (hd : g.Healthy crc s.media) (hlun : LunSwitches g files isUfs)
    (hsize : ptnEntrySize ≤ word4 (g.header s.media .primaryGpt) pentrySizeOffset)
    (hpair : HasPair isUfs (g.entries s.media .primaryGpt)
      (word4 (g.header s.media .primaryGpt) pentrySizeOffset)) :
    (∃ s₁ s₂ s₃, UpdateCycle g files crc isUfs devPath s s₁ s₂ s₃) ↔
      ∀ name ∈ ptnSwapList, skipsName isUfs name = false →
        RoundInBounds (word4 (g.header s.media .primaryGpt) pentrySizeOffset) (g.entries s.media .primaryGpt) name := by
  have hpos : 0 < word4 (g.header s.media .primaryGpt) pentrySizeOffset := lt_of_lt_of_le (by decide) hsize
  rw [← roundsInBounds_iff hsize, ← gptBootChainSwap_ne_none_iff fun _ => hpos]
  refine ⟨?_, ?_⟩
  · rintro ⟨s₁, s₂, s₃, hcycle⟩
    rw [hcycle.mainEntries]
    exact Option.some_ne_none _
  · intro hswap
    obtain ⟨⟨r, pentries⟩, hswap⟩ := Option.ne_none_iff_exists'.mp hswap
    obtain ⟨name, hmem, hskip, hptn, hbak⟩ := hpair
    obtain rfl := gptBootChainSwapLoop_of_pair hsize (ptnSwapList_nonzero name hmem) hskip hmem hptn hbak hswap
    exact exists_updateCycle hd hlun hswap

end Cycle

/-! ### Two disks -/

theorem sample_lunSwitches (g : Geometry) (files : Files) : LunSwitches g files false :=
  fun _ s => ⟨s, rfl⟩

theorem sample_hasPair : HasPair false sampleEntries 128 := by
  refine ⟨cstr "abl", by decide +kernel, by decide +kernel, ⟨0, ?_, ?_⟩, 1, ?_, ?_⟩
  · change _ ≤ _
    decide +kernel
  · decide +kernel
  · change _ ≤ _
    decide +kernel
  · decide +kernel

theorem updateCycle_iff_sample : ∃ s₁ s₂ s₃, UpdateCycle sampleImage.geometry sampleFiles byteSum false
    "/dev/block/sda" sampleDevice s₁ s₂ s₃ := by
  have hword : word4 (sampleImage.geometry.header sampleImage.media .primaryGpt) pentrySizeOffset = 128 := by
    rw [Image.header_media]
    decide +kernel
  have hentries := Image.entries_media sample_describes .primaryGpt
  refine (updateCycle_iff sample_healthy (sample_lunSwitches _ _) ?_ ?_).mpr ?_
  · rw [sampleDevice, hword]
  · rw [sampleDevice, hword, hentries]
    exact sample_hasPair
  · rw [sampleDevice, hword, hentries]
    exact fun name _ _ => roundInBounds_of_whole (by decide) ⟨2, by decide +kernel⟩ name

theorem cut_hasPair : HasPair false cutEntries 200 := by
  refine ⟨cstr "abl", by decide +kernel, by decide +kernel, ⟨0, ?_, ?_⟩, 1, ?_, ?_⟩
  · change _ ≤ _
    decide +kernel
  · decide +kernel
  · change _ ≤ _
    decide +kernel
  · decide +kernel

/-- On that disk the search for a name reads past the array. -/
theorem not_updateCycle_cut :
    cutImage.geometry.Healthy byteSum cutImage.media ∧
      ptnEntrySize ≤ word4 (cutImage.geometry.header cutImage.media .primaryGpt) pentrySizeOffset ∧
      HasPair false (cutImage.geometry.entries cutImage.media .primaryGpt)
        (word4 (cutImage.geometry.header cutImage.media .primaryGpt) pentrySizeOffset) ∧
      LunSwitches cutImage.geometry sampleFiles false ∧
      ¬ ∃ s₁ s₂ s₃, UpdateCycle cutImage.geometry sampleFiles byteSum false "/dev/block/sda"
        ⟨cutImage.media, 1⟩ s₁ s₂ s₃ := by
  have hentries := Image.entries_media cut_describes .primaryGpt
  refine ⟨cut_healthy, ?_, ?_, sample_lunSwitches _ _, ?_⟩
  · rw [cut_pentrySize]
    decide
  · rw [cut_pentrySize, hentries]
    exact cut_hasPair
  · rintro ⟨s₁, s₂, s₃, hcycle⟩
    have hswap := hcycle.mainEntries
    rw [cut_pentrySize, hentries] at hswap
    exact absurd (cut_swap.symm.trans hswap) (by simp)

end Penrose.Gpt

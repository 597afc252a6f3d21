import Penrose.GptImage
import Penrose.GptStages

/-! Calling `prepare_partitions` again after a loss of power. Where the secondary GPT has room of its own, a
retried `UPDATE_MAIN` finds the headers it expects at every cut, or finds its own work done; elsewhere what it has
written must not mislead it. The other two stages pass through two valid headers, which stand for `UPDATE_MAIN`,
and are refused there. -/

namespace Penrose.Gpt

open ByteRegions CallTree

section Retry

variable {g : Geometry} {files : Files} {crc : Bytes → UInt32} {isUfs : Bool} {devPath : String}
  {stage : BootUpdateStage} {s t : Device}

/-- Wherever the call is cut off, calling it again returns 0 and leaves `t`. -/
def RetrySucceeds (g : Geometry) (files : Files) (crc : Bytes → UInt32) (isUfs : Bool)
    (stage : BootUpdateStage) (devPath : String) (s t : Device) : Prop :=
  ∀ c ∈ (working g files).cuts (preparePartitions crc isUfs stage devPath) s,
    (working g files).run (preparePartitions crc isUfs stage devPath) c = some (0, t)

/-- The secondary GPT, with an array as long as the primary one, lies apart from the primary GPT. -/
structure Geometry.RetryRoom (g : Geometry) (m : Nat → UInt8) : Prop where
  headers : Apart (g.headerPos .primaryGpt) g.blkSize (g.headerPos .secondaryGpt) g.blkSize
  secondaryHeader : Apart (g.regionPos m (.entries .primaryGpt)) (g.regionLen m (.entries .primaryGpt))
    (g.headerPos .secondaryGpt) g.blkSize
  newArray : ∀ r, r ≠ .entries .secondaryGpt → Apart (g.regionPos m r) (g.regionLen m r)
    (g.regionPos m (.entries .secondaryGpt)) (g.regionLen m (.entries .primaryGpt))

theorem fits_of_state {gpt : GptInstance} {state : GptState}
    (h : headerState crc (g.header s.media gpt) = some state) : HeaderFits (g.header s.media gpt) := by
  refine headerFits_of_headerState ?_ h
  rw [g.length_header]
  exact g.room

/-- A disk whose primary header is valid is not one with a corrupted one. -/
theorem media_ne_of_corrupted {c : Device} (hc : headerState crc (g.header c.media .primaryGpt) = some .gptOk)
    (hprim : headerState crc (g.header t.media .primaryGpt) = some .gptBadSignature) : t.media ≠ c.media := by
  intro hsame
  rw [hsame, hc] at hprim
  cases hprim

/-- The device that `UPDATE_MAIN` leaves when it writes the array. -/
def Device.afterMain (g : Geometry) (crc : Bytes → UInt32) (s : Device) (pentries : Bytes) : Device :=
  (s.withChain g crc pentries).corruptHeader g crc .primaryGpt

/-- `UPDATE_MAIN` makes the array of the primary one and has room for it, and the primary header that it reads again
once the array is written covers no more than its block. -/
structure MainWrites (g : Geometry) (crc : Bytes → UInt32) (isUfs : Bool) (s : Device) (pentries : Bytes) : Prop
    extends BootChainPlan g crc isUfs .backupBoot s.media pentries where
  secondStart : 0 ≤ g.startOf (g.header s.media .secondaryGpt)
  secondRoom : g.startOf (g.header s.media .secondaryGpt) + pentries.length ≤ g.size
  primFits : HeaderFits (g.header (s.withChain g crc pentries).media .primaryGpt)

/-- The disk is one that `UPDATE_MAIN` makes an array of, with the same disk in the end. -/
def GivesAgain (g : Geometry) (crc : Bytes → UInt32) (isUfs : Bool) (s t : Device) : Prop :=
  ∃ pentries, MainWrites g crc isUfs s pentries ∧ (s.afterMain g crc pentries).media = t.media

/-- What `UPDATE_MAIN` has written does not mislead it when it is called again: with the secondary header written, and
with the array written too, the disk still gives the same one in the end, and at the end the secondary header is the
valid one. -/
structure Retriable (g : Geometry) (crc : Bytes → UInt32) (isUfs : Bool) (s : Device) (pentries : Bytes) : Prop where
  afterHeader : GivesAgain g crc isUfs (s.withChainHeader g crc pentries) (s.afterMain g crc pentries)
  afterArray : (s.afterMain g crc pentries).media = (s.withChain g crc pentries).media ∨
    (∀ gpt, headerState crc (g.header (s.withChain g crc pentries).media gpt) = some .gptOk) ∧
      GivesAgain g crc isUfs (s.withChain g crc pentries) (s.afterMain g crc pentries)
  finished : headerState crc (g.header (s.afterMain g crc pentries).media .secondaryGpt) = some .gptOk

section Media

variable {pentries : Bytes} {s' t' : Device}

/-- The boot LUN does not decide about any of this. -/
theorem MainWrites.congr (h : MainWrites g crc isUfs s pentries) (hmedia : s'.media = s.media) :
    MainWrites g crc isUfs s' pentries := by
  obtain ⟨m, bootLun⟩ := s
  obtain ⟨m', bootLun'⟩ := s'
  obtain rfl : m' = m := hmedia
  exact ⟨h.toBootChainPlan, h.secondStart, h.secondRoom, h.primFits⟩

theorem GivesAgain.congr (h : GivesAgain g crc isUfs s t) (hmedia : s'.media = s.media)
    (hmedia' : t'.media = t.media) : GivesAgain g crc isUfs s' t' := by
  obtain ⟨pentries, hmain, hgives⟩ := h
  refine ⟨pentries, hmain.congr hmedia, ?_⟩
  obtain ⟨m, bootLun⟩ := s
  obtain ⟨m', bootLun'⟩ := s'
  obtain rfl : m' = m := hmedia
  exact hgives.trans hmedia'.symm

theorem Retriable.congr (h : Retriable g crc isUfs s pentries) (hmedia : s'.media = s.media) :
    Retriable g crc isUfs s' pentries := by
  obtain ⟨m, bootLun⟩ := s
  obtain ⟨m', bootLun'⟩ := s'
  obtain rfl : m' = m := hmedia
  refine ⟨h.afterHeader.congr rfl rfl, ?_, h.finished⟩
  exact h.afterArray.imp id fun hagain => ⟨hagain.1, hagain.2.congr rfl rfl⟩

end Media

/-! ### What a successful call found -/

theorem Geometry.Healthy.retryRoom (h : g.Healthy crc s.media) : g.RetryRoom s.media where
  headers := h.layout.disjoint (.header .primaryGpt) (.header .secondaryGpt) (by decide)
  secondaryHeader := h.layout.disjoint (.entries .primaryGpt) (.header .secondaryGpt) (by decide)
  newArray := by
    intro r hr
    rw [h.regionLen_entries .primaryGpt .secondaryGpt]
    exact h.layout.disjoint r _ hr

theorem run_switchBootLun {chain : BootChain} {p : Int → Sys Int}
    (hrun : (working g files).run (do
      let r ← switchBootLun isUfs chain
      if r != 0 then
        return r
      p r) s = some (0, t)) :
    ∃ lun, (∀ s, (working g files).Trace (switchBootLun isUfs chain) s {s, s.withBootLun lun} 0
      (s.withBootLun lun)) ∧ (working g files).run (p 0) (s.withBootLun lun) = some (0, t) := by
  have hswitch : Switches g files (switchBootLun isUfs chain) := switches_switchBootLun isUfs chain
  obtain ⟨r, lun, hlun⟩ := hswitch
  rw [Machine.run_bind, (hlun s).run_eq, Option.bind_some] at hrun
  by_cases hr : r = 0
  · subst hr
    exact ⟨lun, hlun, hrun⟩
  · simp only at hrun
    rw [if_pos (by simpa using hr)] at hrun
    exact absurd (congrArg Prod.fst (Option.some.inj hrun)) hr

/-- `gpt_set_state` that returns 0 has corrupted a header that fits its block. -/
theorem run_corruptHeader {gpt : GptInstance}
    (hrun : (working g files).run (gptSetState crc gpt .gptBadSignature) s = some (0, t)) :
    HeaderFits (g.header s.media gpt) ∧ t = s.corruptHeader g crc gpt := by
  refine run_of_wp (C := fun _ => True) (Q := fun r t => r = 0 →
    HeaderFits (g.header s.media gpt) ∧ t = s.corruptHeader g crc gpt) ?_ hrun rfl
  apply wp_gptSetState trivial nofun
  intro gptHeader hheader
  have hfits : HeaderFits (g.header s.media gpt) := by
    refine headerFits_of_setHeaderState ?_ (by decide) hheader
    rw [g.length_header]
    exact g.room
  rw [setHeaderState_badSignature hfits] at hheader
  cases hheader
  exact ⟨Geometry.length_corrupted_header hfits, trivial, nofun, fun _ => ⟨hfits, rfl⟩⟩

/-- An `UPDATE_MAIN` that wrote to the disk has made all its writes. -/
theorem run_updateMain {lun : Option Nat} (hblocks : 2 ≤ g.blocks)
    (hlun : ∀ s, (working g files).Trace (switchBootLun isUfs .backupBoot) s {s, s.withBootLun lun} 0
      (s.withBootLun lun))
    (hsecond : headerState crc (g.header s.media .secondaryGpt) = some .gptOk)
    (hrun : (working g files).run (runStage crc isUfs .updateMain) s = some (0, t))
    (hwrote : t.media ≠ s.media) :
    ∃ pentries, MainWrites g crc isUfs (s.withBootLun lun) pentries ∧
      t = (s.withBootLun lun).afterMain g crc pentries := by
  have hmedia : (s.withBootLun lun).media = s.media := Device.media_withBootLun ..
  obtain ⟨s', hs'⟩ : ∃ s', s' = s.withBootLun lun := ⟨_, rfl⟩
  rw [← hs'] at hmedia ⊢
  change (working g files).run (switchBootLun isUfs .backupBoot >>= fun r => if r != 0 then .done r else do
    let r ← gpt2SetBootChain crc isUfs .backupBoot
    if r != 0 then
      return if r < 0 then r else 0
    gptSetState crc .primaryGpt .gptBadSignature) s = some (0, t) at hrun
  rw [Machine.run_bind, (hlun s).run_eq, ← hs', Option.bind_some] at hrun
  simp only [bne_self_eq_false, Bool.false_eq_true, if_false] at hrun
  rw [Machine.run_bind, Option.bind_eq_some_iff] at hrun
  obtain ⟨⟨r, u⟩, hchain, hrest⟩ := hrun
  have hfits : HeaderFits (g.header s'.media .secondaryGpt) := by
    rw [hmedia]
    exact fits_of_state hsecond
  rcases run_gpt2SetBootChain hfits hchain with hneg | ⟨rfl, rfl⟩ | ⟨rfl, pentries, hplan, h0, hrange⟩
  · simp only at hrest
    rw [if_pos (by simp only [bne_iff_ne]; omega), if_pos hneg] at hrest
    have hr : r = 0 := congrArg Prod.fst (Option.some.inj hrest)
    omega
  · cases hrest
    exact absurd hmedia hwrote
  · have htrace := trace_withChain files hblocks hfits hplan h0 hrange
    obtain rfl : s'.withChain g crc pentries = u :=
      congrArg Prod.snd (Option.some.inj (htrace.run_eq.symm.trans hchain))
    obtain ⟨hprimFits, rfl⟩ := run_corruptHeader hrest
    exact ⟨pentries, ⟨hplan, h0, hrange, hprimFits⟩, rfl⟩

theorem run_updateFinalize
    (hrun : (working g files).run (runStage crc isUfs .updateFinalize) s = some (0, t)) :
    headerState crc (g.header t.media .secondaryGpt) = some .gptOk := by
  change (working g files).run (gpt2SetBootChain crc isUfs .normalBoot >>= fun r =>
    if r < 0 then .done r else gptSetState crc .secondaryGpt .gptOk) s = some (0, t) at hrun
  rw [Machine.run_bind, Option.bind_eq_some_iff] at hrun
  obtain ⟨⟨r, u⟩, -, hset⟩ := hrun
  simp only at hset
  split_ifs at hset with hneg
  · have hr : r = 0 := congrArg Prod.fst (Option.some.inj hset)
    omega
  refine run_of_wp (C := fun _ => True) (Q := fun r t => r = 0 →
    headerState crc (g.header t.media .secondaryGpt) = some .gptOk) ?_ hset rfl
  apply wp_gptSetState trivial (fun hzero => by cases hzero)
  intro gptHeader hheader
  have hfits : HeaderFits (g.header u.media .secondaryGpt) := by
    refine headerFits_of_setHeaderState ?_ (by decide) hheader
    rw [g.length_header]
    exact g.room
  rw [setHeaderState_ok hfits] at hheader
  cases hheader
  have hlen : (repaired crc (g.header u.media .secondaryGpt)).length = g.blkSize :=
    Geometry.length_repaired_header hfits
  refine ⟨hlen, trivial, ?_, ?_⟩
  · intro hzero
    cases hzero
  intro _
  rw [Device.write, Geometry.header, slice_splice_of_length hlen, headerState_repaired hfits]

/-! ### `UPDATE_MAIN` can be retried -/

section Room

variable {lun : Option Nat} {pentries : Bytes}

/-- Once the first write of `gpt2_set_boot_chain` has been made, making it again changes nothing. -/
theorem withChain_withChainHeader (hfits : HeaderFits (g.header s.media .secondaryGpt)) :
    (s.withChainHeader g crc pentries).withChain g crc pentries = s.withChain g crc pentries := by
  have hheader : g.header (s.withChainHeader g crc pentries).media .secondaryGpt = _ :=
    header_withChainHeader_self hfits
  have hsame : (s.withChainHeader g crc pentries).withChainHeader g crc pentries =
      s.withChainHeader g crc pentries := by
    rw [Device.withChainHeader, hheader, withArrayCrc_withArrayCrc hfits]
    apply Device.write_of_slice
    rw [length_withArrayCrc hfits, g.length_header]
    exact hheader
  rw [Device.withChain, hsame, hheader, (SameFields.withArrayCrc hfits _).startOf]
  rfl

/-- The secondary header with the CRC of a new array is as valid as it was. -/
theorem headerState_newArrayCrc (hsecond : headerState crc (g.header s.media .secondaryGpt) = some .gptOk) :
    headerState crc (withArrayCrc crc (g.header s.media .secondaryGpt) (crc pentries).toNat) = some .gptOk := by
  have hfits := fits_of_state hsecond
  rw [headerState_withArrayCrc hfits, if_pos ((headerState_eq_ok hfits).mp hsecond).2]

theorem slice_withChain (hroom : g.RetryRoom s.media)
    (hplan : BootChainPlan g crc isUfs .backupBoot s.media pentries) {r : Region}
    (hr : r ≠ .entries .secondaryGpt) :
    slice (s.withChain g crc pentries).media (g.regionPos s.media r) (g.regionLen s.media r) =
      slice (s.withChainHeader g crc pentries).media (g.regionPos s.media r) (g.regionLen s.media r) := by
  apply slice_splice_of_apart
  rw [hplan.length]
  exact hroom.newArray r hr

theorem header_withChainHeader_primary (hroom : g.RetryRoom s.media)
    (hfits : HeaderFits (g.header s.media .secondaryGpt)) :
    g.header (s.withChainHeader g crc pentries).media .primaryGpt = g.header s.media .primaryGpt := by
  apply header_writeHeader_of_ne hroom.headers (Geometry.length_withArrayCrc_header hfits _)
  decide

theorem entries_withChainHeader (hroom : g.RetryRoom s.media)
    (hfits : HeaderFits (g.header s.media .secondaryGpt)) :
    g.entries (s.withChainHeader g crc pentries).media .primaryGpt = g.entries s.media .primaryGpt := by
  simp only [Geometry.entries, Geometry.regionPos, Geometry.regionLen,
    header_withChainHeader_primary hroom hfits]
  apply slice_splice_of_apart
  rw [length_withArrayCrc hfits, g.length_header]
  exact hroom.secondaryHeader

variable (hroom : g.RetryRoom s.media) (hplan : BootChainPlan g crc isUfs .backupBoot s.media pentries)
  (hfits : HeaderFits (g.header s.media .secondaryGpt))

include hroom hplan hfits

theorem header_withChain_primary :
    g.header (s.withChain g crc pentries).media .primaryGpt = g.header s.media .primaryGpt :=
  (slice_withChain hroom hplan (r := .header .primaryGpt) (by decide)).trans
    (header_withChainHeader_primary hroom hfits)

theorem header_withChain_secondary :
    g.header (s.withChain g crc pentries).media .secondaryGpt =
      withArrayCrc crc (g.header s.media .secondaryGpt) (crc pentries).toNat :=
  (slice_withChain hroom hplan (r := .header .secondaryGpt) (by decide)).trans
    (header_withChainHeader_self hfits)

theorem entries_withChain :
    g.entries (s.withChain g crc pentries).media .primaryGpt = g.entries s.media .primaryGpt := by
  rw [← entries_withChainHeader hroom hfits]
  simp only [Geometry.entries, Geometry.regionPos, Geometry.regionLen,
    header_withChainHeader_primary hroom hfits, header_withChain_primary hroom hplan hfits]
  exact slice_withChain hroom hplan (r := .entries .primaryGpt) (by decide)

/-- Once both writes of `gpt2_set_boot_chain` have been made, making them again changes nothing. -/
theorem withChain_withChain :
    (s.withChain g crc pentries).withChain g crc pentries = s.withChain g crc pentries := by
  have hheader := header_withChain_secondary hroom hplan hfits
  have hsame : (s.withChain g crc pentries).withChainHeader g crc pentries = s.withChain g crc pentries := by
    rw [Device.withChainHeader, hheader, withArrayCrc_withArrayCrc hfits]
    apply Device.write_of_slice
    rw [length_withArrayCrc hfits, g.length_header]
    exact hheader
  rw [Device.withChain, hsame, hheader, (SameFields.withArrayCrc hfits _).startOf]
  exact Device.write_of_slice (slice_splice_self ..)

end Room

section Main

variable {lun : Option Nat} {pentries : Bytes}

/-- Where the secondary GPT has room of its own, `UPDATE_MAIN` can be called again after each of its writes. -/
theorem retriable_of_room (hroom : g.RetryRoom s.media) (hmain : MainWrites g crc isUfs s pentries)
    (hheaders : ∀ gpt, headerState crc (g.header s.media gpt) = some .gptOk) :
    Retriable g crc isUfs s pentries := by
  have hplan := hmain.toBootChainPlan
  have hfits : HeaderFits (g.header s.media .secondaryGpt) := fits_of_state (hheaders _)
  have hfields : SameFields (g.header s.media .secondaryGpt)
      (withArrayCrc crc (g.header s.media .secondaryGpt) (crc pentries).toNat) := SameFields.withArrayCrc hfits _
  have hsealed : headerState crc (withArrayCrc crc (g.header s.media .secondaryGpt) (crc pentries).toNat) =
      some .gptOk := headerState_newArrayCrc (hheaders .secondaryGpt)
  have hsecond := header_withChain_secondary hroom hplan hfits
  have hprim := header_withChain_primary hroom hplan hfits
  -- what is read again is what was read
  have hgives : ∀ c : Device, g.header c.media .primaryGpt = g.header s.media .primaryGpt →
      g.entries c.media .primaryGpt = g.entries s.media .primaryGpt →
      g.header c.media .secondaryGpt = withArrayCrc crc (g.header s.media .secondaryGpt) (crc pentries).toNat →
      c.withChain g crc pentries = s.withChain g crc pentries →
      GivesAgain g crc isUfs c (s.afterMain g crc pentries) := by
    intro c hheader hentries hnew hchain
    refine ⟨pentries, ⟨hplan.congr hheader hentries hplan.chained, ?_, ?_, ?_⟩, ?_⟩
    · rw [hnew, hfields.startOf]
      exact hmain.secondStart
    · rw [hnew, hfields.startOf]
      exact hmain.secondRoom
    · rw [hchain]
      exact hmain.primFits
    · rw [Device.afterMain, hchain]
      rfl
  refine ⟨?_, Or.inr ⟨?_, ?_⟩, ?_⟩
  · exact hgives _ (header_withChainHeader_primary hroom hfits) (entries_withChainHeader hroom hfits)
      (header_withChainHeader_self hfits) (withChain_withChainHeader hfits)
  · intro gpt
    cases gpt with
    | primaryGpt =>
        rw [hprim]
        exact hheaders _
    | secondaryGpt =>
        rw [hsecond]
        exact hsealed
  · exact hgives _ hprim (entries_withChain hroom hplan hfits) hsecond (withChain_withChain hroom hplan hfits)
  · rw [Device.afterMain, header_corruptHeader_of_ne hmain.primFits hroom.headers (by decide), hsecond]
    exact hsealed

/-- The primary header is corrupted at the end. -/
theorem headerState_afterMain (hmain : MainWrites g crc isUfs s pentries) :
    headerState crc (g.header (s.afterMain g crc pentries).media .primaryGpt) = some .gptBadSignature := by
  rw [Device.afterMain, header_corruptHeader_self hmain.primFits]
  exact headerState_corrupted hmain.primFits

variable (hblocks : 2 ≤ g.blocks)

include hblocks

/-- With the secondary header written both headers are still valid, also where they are one block. -/
theorem headerState_afterHeader (hheaders : ∀ gpt, headerState crc (g.header s.media gpt) = some .gptOk)
    (gpt : GptInstance) :
    headerState crc (g.header (s.withChainHeader g crc pentries).media gpt) = some .gptOk := by
  have hfits : HeaderFits (g.header s.media .secondaryGpt) := fits_of_state (hheaders _)
  have hsealed : headerState crc (g.header (s.withChainHeader g crc pentries).media .secondaryGpt) =
      some .gptOk := by
    rw [header_withChainHeader_self hfits]
    exact headerState_newArrayCrc (hheaders _)
  cases gpt with
  | secondaryGpt => exact hsealed
  | primaryGpt =>
      rcases headers_same_or_apart hblocks with hsame | hapart
      · rw [Geometry.header, hsame]
        exact hsealed
      · rw [Device.withChainHeader, header_writeHeader_of_ne hapart (Geometry.length_withArrayCrc_header hfits _)
          (by decide)]
        exact hheaders _

variable (devPath)

/-- When its work is done `UPDATE_MAIN` has nothing to do exactly if the secondary header is valid. -/
theorem run_finished_iff (hprim : headerState crc (g.header t.media .primaryGpt) = some .gptBadSignature) :
    (working g files).run (preparePartitions crc isUfs .updateMain devPath) t = some (0, t) ↔
      headerState crc (g.header t.media .secondaryGpt) = some .gptOk := by
  refine ⟨?_, ?_⟩
  · intro hrun
    obtain ⟨-, gptPrim, gptSecond, internal, hprim', hsecond, hinternal, -⟩ := run_preparePartitions hrun
    rw [hprim] at hprim'
    cases hprim'
    obtain rfl : gptSecond = .gptOk := by
      revert hinternal
      cases gptSecond <;> cases internal <;> decide
    exact hsecond
  · intro hsecond
    have hinternal : internalStage .gptBadSignature .gptOk = some .updateBackup := by decide
    exact (trace_alreadySet hblocks hprim hsecond hinternal (by decide)).run_eq

variable (hlun : ∀ s, (working g files).Trace (switchBootLun isUfs .backupBoot) s {s, s.withBootLun lun} 0
  (s.withBootLun lun))

include hlun

theorem trace_mainWrites (hheaders : ∀ gpt, headerState crc (g.header s.media gpt) = some .gptOk)
    (hmain : MainWrites g crc isUfs (s.withBootLun lun) pentries) :
    (working g files).Trace (preparePartitions crc isUfs .updateMain devPath) s
      {s, s.withBootLun lun, (s.withBootLun lun).withChainHeader g crc pentries,
        (s.withBootLun lun).withChain g crc pentries, (s.withBootLun lun).afterMain g crc pentries} 0
      ((s.withBootLun lun).afterMain g crc pentries) := by
  obtain ⟨hplan, h0, hrange, hprimFits⟩ := hmain
  rw [Device.media_withBootLun] at hplan h0 hrange
  exact trace_updateMain files hblocks devPath (hheaders _) (hheaders _) (hlun s) hplan h0 hrange hprimFits

/-- From two valid headers `UPDATE_MAIN` leads to another disk exactly if its writes do. -/
theorem run_mainWrites_iff {c : Device} (hheaders : ∀ gpt, headerState crc (g.header c.media gpt) = some .gptOk)
    (hswitched : c.withBootLun lun = c) (hbootLun : t.bootLun = c.bootLun) (hchanged : t.media ≠ c.media) :
    (working g files).run (preparePartitions crc isUfs .updateMain devPath) c = some (0, t) ↔
      GivesAgain g crc isUfs c t := by
  refine ⟨?_, ?_⟩
  · intro hrun
    obtain ⟨-, gptPrim, gptSecond, internal, hprim, hsecond, hinternal, hran⟩ := run_preparePartitions hrun
    rcases hran with ⟨-, rfl⟩ | ⟨-, hstage⟩
    · exact absurd rfl hchanged
    · obtain ⟨pentries, hmain, rfl⟩ := run_updateMain hblocks hlun (hheaders _) hstage hchanged
      rw [hswitched] at hmain ⊢
      exact ⟨pentries, hmain, rfl⟩
  · rintro ⟨pentries, hmain, hmedia⟩
    rw [← hswitched] at hmain
    rw [(trace_mainWrites devPath hblocks hlun hheaders hmain).run_eq, hswitched]
    exact congrArg (fun u => some ((0 : Int), u)) (Device.ext hmedia hbootLun.symm)

/-- A call that leads to a disk whose primary header is corrupted has done so already, or starts from two valid headers
and makes the array again. -/
theorem run_toCorrupted_iff {c : Device} (hswitched : c.withBootLun lun = c) (hbootLun : t.bootLun = c.bootLun)
    (hprim : headerState crc (g.header t.media .primaryGpt) = some .gptBadSignature)
    (hend : (working g files).run (preparePartitions crc isUfs .updateMain devPath) t = some (0, t)) :
    (working g files).run (preparePartitions crc isUfs .updateMain devPath) c = some (0, t) ↔
      t.media = c.media ∨
        (∀ gpt, headerState crc (g.header c.media gpt) = some .gptOk) ∧ GivesAgain g crc isUfs c t := by
  have hiff (hheaders : ∀ gpt, headerState crc (g.header c.media gpt) = some .gptOk) :=
    run_mainWrites_iff devPath hblocks hlun hheaders hswitched hbootLun (media_ne_of_corrupted (hheaders _) hprim)
  constructor
  · intro hrun
    obtain ⟨-, gptPrim, gptSecond, internal, hprim', hsecond, hinternal, hran⟩ := run_preparePartitions hrun
    rcases hran with ⟨-, hsame⟩ | ⟨rfl, -⟩
    · exact Or.inl (congrArg Device.media hsame)
    · obtain ⟨rfl, rfl⟩ : gptPrim = .gptOk ∧ gptSecond = .gptOk := by
        revert hinternal
        cases gptPrim <;> cases gptSecond <;> decide
      have hheaders : ∀ gpt, headerState crc (g.header c.media gpt) = some .gptOk := by
        rintro (_ | _)
        · exact hprim'
        · exact hsecond
      exact Or.inr ⟨hheaders, (hiff hheaders).mp hrun⟩
  · rintro (hsame | ⟨hheaders, hgives⟩)
    · obtain rfl : t = c := Device.ext hsame hbootLun
      exact hend
    · exact (hiff hheaders).mpr hgives

/-- `UPDATE_MAIN` can be called again at every cut exactly if what it has written by then does not mislead it. -/
theorem retrySucceeds_updateMain_iff (hheaders : ∀ gpt, headerState crc (g.header s.media gpt) = some .gptOk)
    (hmain : MainWrites g crc isUfs (s.withBootLun lun) pentries) :
    RetrySucceeds g files crc isUfs .updateMain devPath s ((s.withBootLun lun).afterMain g crc pentries) ↔
      Retriable g crc isUfs (s.withBootLun lun) pentries := by
  have htrace := trace_mainWrites devPath hblocks hlun hheaders hmain
  have hmedia : (s.withBootLun lun).media = s.media := Device.media_withBootLun ..
  have hswitchedTwice : (s.withBootLun lun).withBootLun lun = s.withBootLun lun := Device.withBootLun_withBootLun ..
  obtain ⟨s', hs'⟩ : ∃ s', s' = s.withBootLun lun := ⟨_, rfl⟩
  rw [← hs'] at htrace hmedia hswitchedTwice hmain ⊢
  have hheaders' : ∀ gpt, headerState crc (g.header s'.media gpt) = some .gptOk := by
    rw [hmedia]
    exact hheaders
  have hlast := headerState_afterMain hmain
  have hheaderWritten : (s'.withChainHeader g crc pentries).withBootLun lun = s'.withChainHeader g crc pentries := by
    rw [Device.withChainHeader, Device.writeHeader, Device.withBootLun_write, hswitchedTwice]
  have harrayWritten : (s'.withChain g crc pentries).withBootLun lun = s'.withChain g crc pentries := by
    rw [Device.withChain, Device.withBootLun_write, hheaderWritten]
  have hafterHeader : ∀ gpt, headerState crc (g.header (s'.withChainHeader g crc pentries).media gpt) = some .gptOk :=
    headerState_afterHeader hblocks hheaders'
  have hatHeader := run_mainWrites_iff (t := s'.afterMain g crc pentries) devPath hblocks hlun hafterHeader
    hheaderWritten rfl (media_ne_of_corrupted (hafterHeader _) hlast)
  have hatArray := run_toCorrupted_iff (t := s'.afterMain g crc pentries) devPath hblocks hlun harrayWritten rfl hlast
  have hatEnd : (working g files).run (preparePartitions crc isUfs .updateMain devPath) (s'.afterMain g crc pentries) =
      some (0, s'.afterMain g crc pentries) ↔
        headerState crc (g.header (s'.afterMain g crc pentries).media .secondaryGpt) = some .gptOk :=
    run_finished_iff devPath hblocks hlast
  constructor
  · intro hretry
    have hend := hretry (s'.afterMain g crc pentries) ((htrace.mem_cuts_iff _).mpr (by simp))
    exact ⟨hatHeader.mp (hretry _ ((htrace.mem_cuts_iff _).mpr (by simp))),
      (hatArray hend).mp (hretry _ ((htrace.mem_cuts_iff _).mpr (by simp))), hatEnd.mp hend⟩
  · intro hretriable
    have hend := hatEnd.mpr hretriable.finished
    intro c hc
    rcases (htrace.mem_cuts_iff c).mp hc with rfl | rfl | rfl | rfl | rfl
    · exact htrace.run_eq
    · have hmain' := hmain
      rw [← hswitchedTwice] at hmain'
      have hrun := (trace_mainWrites devPath hblocks hlun hheaders' hmain').run_eq
      rwa [hswitchedTwice] at hrun
    · exact hatHeader.mpr hretriable.afterHeader
    · exact (hatArray hend).mpr hretriable.afterArray
    · exact hend

end Main

/-! ### The other two stages cannot -/

/-- Two headers of state `GPT_OK` stand for `UPDATE_MAIN`, so no other stage can be retried on them. -/
theorem not_retrySucceeds {c : Device}
    (hc : c ∈ (working g files).cuts (preparePartitions crc isUfs stage devPath) s)
    (hsecond : headerState crc (g.header c.media .secondaryGpt) = some .gptOk)
    (hrefused : ∀ gptPrim internal, headerState crc (g.header c.media .primaryGpt) = some gptPrim →
      internalStage gptPrim .gptOk = some internal → stage.toInt ≠ internal.toInt - 1 ∧ stage ≠ internal) :
    ¬ RetrySucceeds g files crc isUfs stage devPath s t := by
  intro hretry
  obtain ⟨-, gptPrim, gptSecond, internal, hprim, hsecond', hinternal, hran⟩ :=
    run_preparePartitions (hretry c hc)
  rw [hsecond] at hsecond'
  cases hsecond'
  obtain ⟨hset, hstage⟩ := hrefused gptPrim internal hprim hinternal
  rcases hran with ⟨heq, -⟩ | ⟨heq, -⟩
  · exact hset heq
  · exact hstage heq

/-- A retried `UPDATE_BACKUP` is refused between its two writes. -/
theorem not_retrySucceeds_updateBackup {lun : Option Nat} (hblocks : 2 ≤ g.blocks)
    (hprim : headerState crc (g.header s.media .primaryGpt) = some .gptBadSignature)
    (hsecond : headerState crc (g.header s.media .secondaryGpt) = some .gptOk)
    (hlun : (working g files).Trace (switchBootLun isUfs .normalBoot) s {s, s.withBootLun lun} 0
      (s.withBootLun lun)) :
    ¬ RetrySucceeds g files crc isUfs .updateBackup devPath s t := by
  have hapart : Apart (g.headerPos .primaryGpt) g.blkSize (g.headerPos .secondaryGpt) g.blkSize := by
    apply headers_apart (s := s) hblocks
    intro heq
    rw [heq, hsecond] at hprim
    cases hprim
  have htrace := trace_updateBackup files hblocks devPath hprim hsecond hlun hapart
  have hfits : HeaderFits (g.header (s.withBootLun lun).media .primaryGpt) := by
    rw [Device.media_withBootLun]
    exact fits_of_state hprim
  apply not_retrySucceeds (c := (s.withBootLun lun).repairHeader g crc .primaryGpt)
  · exact (htrace.mem_cuts_iff _).mpr (by simp)
  · rw [header_repairHeader_of_ne hfits hapart (by decide), Device.media_withBootLun]
    exact hsecond
  · intro gptPrim internal hstate hinternal
    rw [header_repairHeader_self hfits, headerState_repaired hfits] at hstate
    cases hstate
    cases hinternal
    decide

/-- A retried `UPDATE_FINALIZE` is refused after its last write. -/
theorem not_retrySucceeds_updateFinalize
    (hcall : (working g files).run (preparePartitions crc isUfs .updateFinalize devPath) s = some (0, t))
    (hrun : (working g files).run (runStage crc isUfs .updateFinalize) s = some (0, t)) :
    ¬ RetrySucceeds g files crc isUfs .updateFinalize devPath s t := by
  refine not_retrySucceeds (c := t) ?_ (run_updateFinalize hrun) ?_
  · exact (Machine.visits_iff_mem_cuts _).mp ((Machine.returns_iff_run _).mpr hcall).visits
  · intro gptPrim internal _ hinternal
    revert hinternal
    cases gptPrim <;> cases internal <;> decide

end Retry

/-! ### The small disk -/

def sampleFiles : Files where
  stat _ := false
  readlink _ := none
  listDir _ := none

def sampleDevice : Device := ⟨sampleImage.media, 1⟩

def sampleSwapped : Bytes := sampleEntry "ablbak" ++ sampleEntry "abl"

theorem sample_state (gpt : GptInstance) :
    headerState byteSum (sampleImage.geometry.header sampleImage.media gpt) = some .gptOk :=
  (sample_healthy.validGpt gpt).headerState

theorem sample_plan (isUfs : Bool) :
    BootChainPlan sampleImage.geometry byteSum isUfs .backupBoot sampleImage.media sampleSwapped where
  start_nonneg := sample_healthy.layout.start_nonneg .primaryGpt
  onDevice := by
    rw [Image.header_media]
    decide +kernel
  stored := (sample_healthy.valid .primaryGpt).arrayCrc
  chained := by
    rw [Image.header_media, Image.entries_media sample_describes]
    cases isUfs <;> decide +kernel

/-- Without the xbl nodes there is no LUN to switch. -/
theorem sample_switchBootLun (isUfs : Bool) (chain : BootChain) (s : Device) :
    (working sampleImage.geometry sampleFiles).Trace (switchBootLun isUfs chain) s {s, s.withBootLun none} 0
      (s.withBootLun none) := by
  rw [Device.withBootLun, Set.pair_eq_singleton]
  cases isUfs with
  | false => exact Machine.trace_done 0 s
  | true => exact trace_sys (r := false) rfl (Machine.trace_done 0 s)

theorem sample_fits (gpt : GptInstance) : HeaderFits (sampleImage.geometry.header sampleImage.media gpt) :=
  (sample_healthy.validGpt gpt).fits

theorem sample_withChain_primary :
    sampleImage.geometry.header (sampleDevice.withChain sampleImage.geometry byteSum sampleSwapped).media .primaryGpt =
      sampleImage.geometry.header sampleImage.media .primaryGpt :=
  header_withChain_primary (s := sampleDevice) sample_healthy.retryRoom (sample_plan false) (sample_fits _)

theorem sample_mainWrites (isUfs : Bool) :
    MainWrites sampleImage.geometry byteSum isUfs sampleDevice sampleSwapped where
  toBootChainPlan := sample_plan isUfs
  secondStart := sample_healthy.layout.start_nonneg .secondaryGpt
  secondRoom := by
    rw [sampleDevice, Image.header_media]
    decide +kernel
  primFits := by
    rw [sample_withChain_primary]
    exact sample_fits _

theorem sample_updateMain (isUfs : Bool) (devPath : String) :
    (working sampleImage.geometry sampleFiles).Trace (preparePartitions byteSum isUfs .updateMain devPath)
      sampleDevice {sampleDevice, sampleDevice.withBootLun none,
        sampleDevice.withChainHeader sampleImage.geometry byteSum sampleSwapped,
        sampleDevice.withChain sampleImage.geometry byteSum sampleSwapped,
        sampleDevice.afterMain sampleImage.geometry byteSum sampleSwapped} 0
      (sampleDevice.afterMain sampleImage.geometry byteSum sampleSwapped) :=
  trace_mainWrites devPath (by decide) (sample_switchBootLun isUfs .backupBoot) sample_state (sample_mainWrites isUfs)

theorem sample_retriable : Retriable sampleImage.geometry byteSum false sampleDevice sampleSwapped :=
  retriable_of_room sample_healthy.retryRoom (sample_mainWrites false) sample_state

/-- Cut off anywhere, it is finished by calling it again. -/
theorem sample_retried {c : Device} (hc : c ∈ (working sampleImage.geometry sampleFiles).cuts
    (preparePartitions byteSum false .updateMain "/dev/block/sda") sampleDevice) :
    (working sampleImage.geometry sampleFiles).run (preparePartitions byteSum false .updateMain "/dev/block/sda") c =
      some (0, sampleDevice.afterMain sampleImage.geometry byteSum sampleSwapped) := by
  have hmedia : (sampleDevice.withBootLun none).media = sampleDevice.media := Device.media_withBootLun ..
  have hretry := retrySucceeds_updateMain_iff (s := sampleDevice) "/dev/block/sda" (by decide)
    (sample_switchBootLun false .backupBoot) sample_state ((sample_mainWrites false).congr hmedia)
  exact hretry.mpr (sample_retriable.congr hmedia) c hc

theorem sample_afterMain_state :
    headerState byteSum (sampleImage.geometry.header
      (sampleDevice.afterMain sampleImage.geometry byteSum sampleSwapped).media .primaryGpt) = some .gptBadSignature :=
  headerState_afterMain (sample_mainWrites false)

/-- The sample disk after its primary header was corrupted, as `UPDATE_BACKUP` expects it. -/
def sampleCorrupted : Device := sampleDevice.corruptHeader sampleImage.geometry byteSum .primaryGpt

end Penrose.Gpt

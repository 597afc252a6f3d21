import Penrose.GptRegions
import Penrose.GptFaulty

/-! What the functions of `gpt-utils` do on a device that works: the value each one returns, the device
it leaves, and every device it can be cut off with. Anything a working device does a faulty one may do,
so the rules about faulty devices say what a run that was observed must have found. -/

namespace Penrose.Gpt

open ByteRegions CallTree

/-- The boot LUN that a switch leaves active, when it switches. -/
def Device.withBootLun (s : Device) : Option Nat → Device
  | none => s
  | some bootLunId => { s with bootLun := bootLunId }

@[simp] theorem Device.media_withBootLun (s : Device) (lun : Option Nat) :
    (s.withBootLun lun).media = s.media := by
  cases lun <;> rfl

@[simp] theorem Device.withBootLun_withBootLun (s : Device) (lun : Option Nat) :
    (s.withBootLun lun).withBootLun lun = s.withBootLun lun := by
  cases lun <;> rfl

/-- A device on which the primary header block fits has two blocks. -/
theorem Geometry.two_le_blocks {g : Geometry} (h : g.headerPos .primaryGpt + g.blkSize ≤ g.size) :
    2 ≤ g.blocks := by
  have hroom := g.room
  simp only [headerPos, size, ← two_mul] at h
  exact Nat.le_of_mul_le_mul_right h (by simp only [partitionCrcOffset] at hroom; omega)

section Sizes

variable {g : Geometry} (hblocks : 2 ≤ g.blocks)

include hblocks

theorem Geometry.two_blocks_le : g.blkSize + g.blkSize ≤ g.size := by
  rw [← two_mul]
  exact Nat.mul_le_mul_right _ hblocks

theorem Geometry.headerPos_onDevice (gpt : GptInstance) : g.headerPos gpt + g.blkSize ≤ g.size := by
  have htwo := Geometry.two_blocks_le hblocks
  cases gpt with
  | primaryGpt => exact htwo
  | secondaryGpt =>
      simp only [headerPos]
      omega

end Sizes

section Working

variable {g : Geometry} {files : Files} {s : Device}

/-! ### The calls -/

/-- A call that leaves the device alone. -/
theorem trace_sys {α : Type} {c : Syscall} {f : c.Reply → Sys α} {A : Set Device} {a : α} {t : Device}
    {r : c.Reply} (hanswer : (working g files).answer c s = (r, s))
    (h : (working g files).Trace (f r) s A a t) : (working g files).Trace (sys c >>= f) s A a t :=
  Machine.trace_pureCall hanswer h

theorem trace_blkRead {offset : Int} {buf : Bytes} (h0 : 0 ≤ offset) (hrange : offset + buf.length ≤ g.size) :
    (working g files).Trace (blkRead offset buf) s {s} (0, slice s.media offset.toNat buf.length) s := by
  unfold blkRead
  refine trace_sys (r := true) (congrArg (·, s) (decide_eq_true h0)) ?_
  simp only [Bool.not_true, Bool.false_eq_true, if_false]
  refine trace_sys (r := some (slice s.media offset.toNat buf.length))
    (congrArg (·, s) (if_pos ⟨h0, hrange⟩)) ?_
  have hdrop : slice s.media offset.toNat buf.length ++
      buf.drop (slice s.media offset.toNat buf.length).length = slice s.media offset.toNat buf.length := by
    rw [length_slice, List.drop_length, List.append_nil]
  simp only [hdrop]
  exact Machine.trace_done _ s

theorem trace_blkWrite {offset : Int} {buf : Bytes} (h0 : 0 ≤ offset) (hrange : offset + buf.length ≤ g.size) :
    (working g files).Trace (blkWrite offset buf) s {s, s.write offset.toNat buf} 0
      (s.write offset.toNat buf) := by
  unfold blkWrite
  refine trace_sys (r := true) (congrArg (·, s) (decide_eq_true h0)) ?_
  simp only [Bool.not_true, Bool.false_eq_true, if_false]
  refine Machine.trace_call (t := s.write offset.toNat buf) (r := some buf.length) (if_pos ⟨h0, hrange⟩) ?_
  exact trace_sys (r := true) rfl (Machine.trace_done 0 _)

section Headers

variable {crc : Bytes → UInt32} {gpt : GptInstance} (hblocks : 2 ≤ g.blocks)

include hblocks

/-- Reading a header block into a buffer of one block. -/
theorem trace_readHeaderBlock (gpt : GptInstance) {buf : Bytes} (hbuf : buf.length = g.blkSize) :
    (working g files).Trace (blkRead (g.headerPos gpt) buf) s {s} (0, g.header s.media gpt) s := by
  have hpos := Geometry.headerPos_onDevice hblocks gpt
  have hread : (working g files).Trace (blkRead (g.headerPos gpt) buf) s {s}
      (0, slice s.media (g.headerPos gpt : Int).toNat buf.length) s :=
    trace_blkRead (by omega) (by omega)
  rwa [hbuf] at hread

theorem trace_writeHeaderBlock (gpt : GptInstance) {gptHeader : Bytes} (hlen : gptHeader.length = g.blkSize) :
    (working g files).Trace (blkWrite (g.headerPos gpt) gptHeader) s
      {s, s.write (g.headerPos gpt) gptHeader} 0 (s.write (g.headerPos gpt) gptHeader) := by
  have hpos := Geometry.headerPos_onDevice hblocks gpt
  exact trace_blkWrite (by omega) (by omega)

theorem trace_gptHeaderOffset (gpt : GptInstance) :
    (working g files).Trace (gptHeaderOffset gpt g.blkSize) s {s} (g.headerPos gpt) s := by
  cases gpt with
  | primaryGpt => exact Machine.trace_done _ s
  | secondaryGpt =>
      have htwo := Geometry.two_blocks_le hblocks
      unfold gptHeaderOffset Geometry.headerPos
      apply trace_sys (r := (g.size : Int)) rfl
      rw [Nat.cast_sub (by omega)]
      exact Machine.trace_done _ s

theorem trace_readGptHeader :
    (working g files).Trace (readGptHeader gpt) s {s} (some (g.headerPos gpt, g.header s.media gpt)) s := by
  unfold readGptHeader
  apply trace_sys (r := some g.blkSize) rfl
  apply trace_sys (r := some (List.replicate g.blkSize 0)) rfl
  apply Machine.trace_pureBind (trace_gptHeaderOffset hblocks gpt)
  rw [if_neg (by omega)]
  exact Machine.trace_pureBind (trace_readHeaderBlock hblocks gpt List.length_replicate)
    (Machine.trace_done _ s)

theorem trace_gptGetState {state : GptState} (hstate : headerState crc (g.header s.media gpt) = some state) :
    (working g files).Trace (gptGetState crc gpt) s {s} (0, state) s := by
  apply Machine.trace_pureBind (trace_readGptHeader hblocks)
  simp only [hstate, Program.ofOption_some, Program.done_bind]
  exact Machine.trace_done _ s

theorem trace_gptSetState {state : GptState} {gptHeader : Bytes}
    (hset : setHeaderState crc state (g.header s.media gpt) = some (some gptHeader))
    (hlen : gptHeader.length = g.blkSize) :
    (working g files).Trace (gptSetState crc gpt state) s {s, s.write (g.headerPos gpt) gptHeader} 0
      (s.write (g.headerPos gpt) gptHeader) := by
  apply Machine.trace_pureBind (trace_readGptHeader hblocks)
  simp only [hset, Program.ofOption_some, Program.done_bind]
  exact Machine.trace_map (fun r : Int => if r != 0 then (-1 : Int) else 0)
    (trace_writeHeaderBlock hblocks gpt hlen)

/-- `gpt2_set_boot_chain` when nothing stops it: the secondary header, then the secondary array. -/
theorem trace_gpt2SetBootChain {isUfs : Bool} {boot : BootChain} {pentries gptHeader : Bytes}
    (hplan : BootChainPlan g crc isUfs boot s.media pentries)
    (hheader : bootChainHeader crc (g.header s.media .secondaryGpt) (crc pentries).toNat = some gptHeader)
    (hlen : gptHeader.length = g.blkSize) (h0 : 0 ≤ g.startOf (g.header s.media .secondaryGpt))
    (hrange : g.startOf (g.header s.media .secondaryGpt) + pentries.length ≤ g.size) :
    (working g files).Trace (gpt2SetBootChain crc isUfs boot) s
      {s, s.write (g.headerPos .secondaryGpt) gptHeader,
        (s.write (g.headerPos .secondaryGpt) gptHeader).write
          (g.startOf (g.header s.media .secondaryGpt)).toNat pentries} 0
      ((s.write (g.headerPos .secondaryGpt) gptHeader).write
          (g.startOf (g.header s.media .secondaryGpt)).toNat pentries) := by
  have htwo := Geometry.two_blocks_le hblocks
  have hoffset : (g.size : Int) - (g.blkSize : Int) = g.headerPos .secondaryGpt :=
    (Nat.cast_sub (by omega)).symm
  have harray : (g.entries s.media .primaryGpt).length = arraySizeOf (g.header s.media .primaryGpt) :=
    length_slice ..
  unfold gpt2SetBootChain
  apply trace_sys (r := some g.blkSize) rfl
  apply trace_sys (r := some (List.replicate g.blkSize 0)) rfl
  apply trace_sys (r := (g.size : Int)) rfl
  simp only [hoffset]
  rw [if_neg (Int.not_lt.mpr (Int.natCast_nonneg _))]
  -- the primary header and array
  apply Machine.trace_pureBind (trace_readHeaderBlock hblocks .primaryGpt List.length_replicate)
  simp only [bne_self_eq_false, Bool.false_eq_true, if_false, pentriesStartOffset_header,
    get4Bytes_header (show pentrySizeOffset + 4 ≤ partitionCrcOffset + 4 by decide),
    get4Bytes_header (show partitionCrcOffset + 4 ≤ partitionCrcOffset + 4 by decide),
    pentriesArraySize_header, Program.ofOption_some, Program.done_bind]
  apply trace_sys (r := some (List.replicate (arraySizeOf (g.header s.media .primaryGpt)) 0)) rfl
  refine Machine.trace_pureBind
    (trace_blkRead hplan.start_nonneg (by rw [List.length_replicate]; exact hplan.onDevice)) ?_
  have hentries : slice s.media (g.startOf (g.header s.media .primaryGpt)).toNat
      (List.replicate (arraySizeOf (g.header s.media .primaryGpt)) (0 : UInt8)).length =
        g.entries s.media .primaryGpt := by
    rw [List.length_replicate]
    rfl
  simp only [bne_self_eq_false, Bool.false_eq_true, if_false, hentries,
    crc32_of_length harray, hplan.stored, Program.ofOption_some,
    Program.done_bind]
  -- the secondary header and the new array
  apply Machine.trace_pureBind (trace_readHeaderBlock hblocks .secondaryGpt (g.length_header ..))
  simp only [bne_self_eq_false, Bool.false_eq_true, if_false, pentriesStartOffset_header, hplan.chained,
    crc32_of_length hplan.length, hheader, Program.ofOption_some, Program.done_bind]
  have hboth := Machine.trace_bind (M := working g files) (f := fun r : Int => if r != 0 then Program.done r else
    blkWrite (g.startOf (g.header s.media .secondaryGpt)) pentries)
    (trace_writeHeaderBlock (s := s) hblocks .secondaryGpt hlen) (trace_blkWrite h0 hrange)
  rwa [Set.insert_union, Set.singleton_union, Set.insert_eq_of_mem (Set.mem_insert ..)] at hboth

end Headers

/-- What `gpt2_set_boot_chain` must have found, by the value it returned. -/
theorem run_gpt2SetBootChain {crc : Bytes → UInt32} {isUfs : Bool} {boot : BootChain} {r : Int} {t : Device}
    (hfits : HeaderFits (g.header s.media .secondaryGpt))
    (hrun : (working g files).run (gpt2SetBootChain crc isUfs boot) s = some (r, t)) :
    r < 0 ∨ r = 1 ∧ t = s ∨ r = 0 ∧ ∃ pentries, BootChainPlan g crc isUfs boot s.media pentries ∧
      0 ≤ g.startOf (g.header s.media .secondaryGpt) ∧
      g.startOf (g.header s.media .secondaryGpt) + pentries.length ≤ g.size := by
  refine run_of_wp (C := fun _ => True) (Q := fun r t => r < 0 ∨ r = 1 ∧ t = s ∨ r = 0 ∧ ∃ pentries,
    BootChainPlan g crc isUfs boot s.media pentries ∧ 0 ≤ g.startOf (g.header s.media .secondaryGpt) ∧
      g.startOf (g.header s.media .secondaryGpt) + pentries.length ≤ g.size) ?_ hrun
  apply wp_gpt2SetBootChain trivial
  · rintro r (hneg | ⟨rfl, -⟩)
    · exact Or.inl hneg
    · exact Or.inr (Or.inl ⟨rfl, rfl⟩)
  intro pentries gptHeader hplan hheader
  rw [bootChainHeader_eq hfits] at hheader
  cases hheader
  have herr : (-1 : Int) < 0 := by decide
  refine ⟨Geometry.length_withArrayCrc_header hfits _, ⟨trivial, Or.inl herr⟩,
    fun _ _ _ => ⟨trivial, Or.inl herr⟩, fun h0 hrange => ⟨trivial, Or.inl herr, ?_⟩⟩
  exact Or.inr (Or.inr ⟨rfl, pentries, hplan, h0, hrange⟩)

/-! ### The boot LUN -/

/-- The program only asks, and its answer does not depend on the device. -/
def Asks {α : Type} (g : Geometry) (files : Files) (p : Sys α) : Prop :=
  ∃ a, ∀ s, (working g files).Trace p s {s} a s

/-- The program at most switches the boot LUN, to the same one whatever device it finds. -/
def Switches (g : Geometry) (files : Files) (p : Sys Int) : Prop :=
  ∃ (r : Int) (lun : Option Nat), ∀ s,
    (working g files).Trace p s {s, s.withBootLun lun} r (s.withBootLun lun)

theorem asks_of_only {α : Type} {p : Sys α} (hp : Only Syscall.IsQuery p) : Asks g files p := by
  induction p with
  | done value => exact ⟨value, fun s => Machine.trace_done value s⟩
  | fault => exact hp.elim
  | call c next ih =>
      have hquery : Syscall.IsQuery c := hp.1
      have hasks (r : Syscall.Reply c) (hr : ∀ s, (working g files).answer c s = (r, s)) :
          Asks g files (Program.call c next) := by
        obtain ⟨a, ha⟩ := ih r (hp.2 r)
        exact ⟨a, fun s => Machine.trace_pureCall (hr s) (ha s)⟩
      cases c with
      | stat path => exact hasks (files.stat path) fun _ => rfl
      | readlink path => exact hasks (files.readlink path) fun _ => rfl
      | listDir path => exact hasks (files.listDir path) fun _ => rfl
      | _ => cases hquery

theorem switches_done (r : Int) : Switches g files (.done r) := by
  refine ⟨r, none, fun s => ?_⟩
  rw [Device.withBootLun, Set.pair_eq_singleton]
  exact Machine.trace_done r s

theorem switches_bind {α : Type} {p : Sys α} {f : α → Sys Int} (hp : Asks g files p)
    (hf : ∀ a, Switches g files (f a)) : Switches g files (p >>= f) := by
  obtain ⟨a, ha⟩ := hp
  obtain ⟨r, lun, hb⟩ := hf a
  exact ⟨r, lun, fun s => Machine.trace_pureBind (ha s) (hb s)⟩

/-- Setting the boot LUN through the scsi generic node of a boot device. -/
theorem switches_setBootLun (bootDev : String × Nat) : Switches g files (do
    match ← getScsiNodeFromBootdevice bootDev.1 with
    | none => return -1
    | some sgDevNode =>
    return if ← sys (.setBootLun sgDevNode bootDev.2) then 0 else -1) := by
  apply switches_bind (asks_of_only (only_getScsiNodeFromBootdevice _))
  intro node
  cases node with
  | none => exact switches_done _
  | some node =>
      refine ⟨0, some bootDev.2, fun s => ?_⟩
      exact Machine.trace_call (r := true) rfl (Machine.trace_done 0 _)

/-- The boot LUN switch returns the same and leaves the same LUN active whatever device it finds. -/
theorem switches_switchBootLun (isUfs : Bool) (chain : BootChain) :
    Switches g files (switchBootLun isUfs chain) := by
  cases isUfs with
  | false => exact switches_done 0
  | true =>
      apply switches_bind (asks_of_only (only_bothExist _ _))
      intro exist
      cases exist with
      | false => exact switches_done 0
      | true =>
          apply switches_bind (asks_of_only (only_xblBootDevice chain))
          intro bootDev
          cases bootDev with
          | none => exact switches_done _
          | some bootDev =>
              apply switches_bind (asks_of_only (only_bothExist _ _))
              intro exist
              cases exist with
              | true => exact switches_setBootLun bootDev
              | false =>
                  apply switches_bind (asks_of_only (only_bothExist _ _))
                  intro exist
                  cases exist with
                  | true => exact switches_setBootLun bootDev
                  | false => exact switches_done _

/-! ### The stages -/

section Stages

variable {crc : Bytes → UInt32} {isUfs : Bool} {stage internal : BootUpdateStage} {devPath : String}
  {gptPrim gptSecond : GptState} {A : Set Device} {r : Int} {t : Device}

/-- The calls around the stage neither change the device nor the result. -/
theorem trace_preparePartitions (h : (working g files).Trace (prepareOpened crc isUfs stage) s A r t) :
    (working g files).Trace (preparePartitions crc isUfs stage devPath) s A r t := by
  unfold preparePartitions
  apply trace_sys (r := true) rfl
  have hsync : (working g files).Trace (do
      let _ ← sys .fsync
      return r) t {t} r t := trace_sys (r := true) rfl (Machine.trace_done r t)
  have hboth := Machine.trace_bind (M := working g files) (f := fun r => do
      let _ ← sys .fsync
      return r) h hsync
  rwa [Set.union_singleton, Set.insert_eq_of_mem h.last_mem] at hboth

/-- On headers of known states `prepare_partitions` decides by the stage they stand for. -/
theorem trace_prepareOpened (hblocks : 2 ≤ g.blocks)
    (hprim : headerState crc (g.header s.media .primaryGpt) = some gptPrim)
    (hsecond : headerState crc (g.header s.media .secondaryGpt) = some gptSecond)
    (hinternal : internalStage gptPrim gptSecond = some internal)
    (h : (working g files).Trace (if stage.toInt = internal.toInt - 1 then .done 0 else
      if stage ≠ internal then .done (-1) else runStage crc isUfs stage) s A r t) :
    (working g files).Trace (prepareOpened crc isUfs stage) s A r t := by
  unfold prepareOpened
  apply Machine.trace_pureBind (trace_gptGetState hblocks hprim)
  apply Machine.trace_pureBind (trace_gptGetState hblocks hsecond)
  simp only [bne_self_eq_false, Bool.false_eq_true, if_false, hinternal]
  exact h

/-- The stage that the headers stand for is run. -/
theorem trace_stage (hblocks : 2 ≤ g.blocks)
    (hprim : headerState crc (g.header s.media .primaryGpt) = some gptPrim)
    (hsecond : headerState crc (g.header s.media .secondaryGpt) = some gptSecond)
    (hinternal : internalStage gptPrim gptSecond = some stage)
    (h : (working g files).Trace (runStage crc isUfs stage) s A r t) :
    (working g files).Trace (preparePartitions crc isUfs stage devPath) s A r t := by
  refine trace_preparePartitions (trace_prepareOpened hblocks hprim hsecond hinternal ?_)
  rw [if_neg (by omega), if_neg (not_not.mpr rfl)]
  exact h

/-- The stage before the one that the headers stand for has been done. -/
theorem trace_alreadySet (hblocks : 2 ≤ g.blocks)
    (hprim : headerState crc (g.header s.media .primaryGpt) = some gptPrim)
    (hsecond : headerState crc (g.header s.media .secondaryGpt) = some gptSecond)
    (hinternal : internalStage gptPrim gptSecond = some internal)
    (hset : stage.toInt = internal.toInt - 1) :
    (working g files).Trace (preparePartitions crc isUfs stage devPath) s {s} 0 s := by
  refine trace_preparePartitions (trace_prepareOpened hblocks hprim hsecond hinternal ?_)
  rw [if_pos hset]
  exact Machine.trace_done 0 s

theorem run_gptGetState {gpt : GptInstance} {x : Int × GptState}
    (hrun : (working g files).run (gptGetState crc gpt) s = some (x, t)) :
    t = s ∧ (x.1 = 0 → g.headerPos gpt + g.blkSize ≤ g.size ∧
      headerState crc (g.header s.media gpt) = some x.2) := by
  refine run_of_wp (C := fun _ => True) (Q := fun x t => t = s ∧ (x.1 = 0 →
    g.headerPos gpt + g.blkSize ≤ g.size ∧ headerState crc (g.header s.media gpt) = some x.2)) ?_ hrun
  exact wp_gptGetState trivial ⟨rfl, fun hzero => by cases hzero⟩
    fun state hrange hstate => ⟨rfl, fun _ => ⟨hrange, hstate⟩⟩

/-- A call that returned 0 found two headers of acceptable states, and the stage was set already or was
run to a result of 0. -/
theorem run_preparePartitions (hrun : (working g files).run (preparePartitions crc isUfs stage devPath) s =
    some (0, t)) :
    2 ≤ g.blocks ∧ ∃ gptPrim gptSecond internal,
      headerState crc (g.header s.media .primaryGpt) = some gptPrim ∧
      headerState crc (g.header s.media .secondaryGpt) = some gptSecond ∧
      internalStage gptPrim gptSecond = some internal ∧
      (stage.toInt = internal.toInt - 1 ∧ t = s ∨
        stage = internal ∧ (working g files).run (runStage crc isUfs stage) s = some (0, t)) := by
  have hopened : (working g files).run (prepareOpened crc isUfs stage) s = some (0, t) := by
    have hrun' : ((working g files).run (prepareOpened crc isUfs stage) s).bind (fun x => some x) =
        some (0, t) := by
      rw [← hrun]
      change _ = (working g files).run (prepareOpened crc isUfs stage >>= fun r => do
        let _ ← sys .fsync
        return r) s
      rw [Machine.run_bind]
      rfl
    simpa using hrun'
  unfold prepareOpened at hopened
  rw [Machine.run_bind, Option.bind_eq_some_iff] at hopened
  obtain ⟨⟨⟨r, gptPrim⟩, u⟩, hprim, hopened⟩ := hopened
  obtain ⟨rfl, hprimState⟩ := run_gptGetState hprim
  simp only at hopened
  by_cases hr : r = 0
  swap
  · rw [if_pos (by simpa using hr)] at hopened
    cases hopened
  subst hr
  obtain ⟨hrange, hprimState⟩ := hprimState rfl
  rw [if_neg (by simp), Machine.run_bind, Option.bind_eq_some_iff] at hopened
  obtain ⟨⟨⟨r, gptSecond⟩, v⟩, hsecond, hopened⟩ := hopened
  obtain ⟨rfl, hsecondState⟩ := run_gptGetState hsecond
  simp only at hopened
  by_cases hr : r = 0
  swap
  · rw [if_pos (by simpa using hr)] at hopened
    cases hopened
  subst hr
  rw [if_neg (by simp)] at hopened
  have hblocks := Geometry.two_le_blocks hrange
  cases hinternal : internalStage gptPrim gptSecond with
  | none =>
      rw [hinternal] at hopened
      cases hopened
  | some internal =>
      rw [hinternal] at hopened
      simp only at hopened
      refine ⟨hblocks, gptPrim, gptSecond, internal, hprimState, (hsecondState rfl).2, hinternal, ?_⟩
      by_cases hset : stage.toInt = internal.toInt - 1
      · rw [if_pos hset] at hopened
        cases hopened
        exact Or.inl ⟨hset, rfl⟩
      · rw [if_neg hset] at hopened
        by_cases hstage : stage ≠ internal
        · rw [if_pos hstage] at hopened
          cases hopened
        · rw [if_neg hstage] at hopened
          exact Or.inr ⟨not_not.mp hstage, hopened⟩

end Stages

end Working

end Penrose.Gpt

import Penrose.GptCycle

/-! The boot LUN and the primary GPT header under `UPDATE_MAIN` when some calls report an error. The calls
of `prepare_partitions` are made in a fixed order as long as none fails, so which of them fail says how far
the call gets: the LUN is switched by call 17, the primary header is written by call 39, and everything that
stops the call in between leaves the one switched without the other. -/

namespace Penrose.Gpt

open ByteRegions CallTree

/-- None of the calls from `a` up to, not including, `b` fails. -/
def Clear (fails : Nat → Bool) (a b : Nat) : Prop := ∀ k, a ≤ k → k < b → fails k = false

section Clear

variable {fails : Nat → Bool} {a b c : Nat}

theorem clear_succ (h : fails a = false) : Clear fails a (a + 1) := by
  intro k h1 h2
  obtain rfl : k = a := by omega
  exact h

theorem Clear.append (h : Clear fails a b) (h' : Clear fails b c) : Clear fails a c := by
  intro k h1 h2
  rcases Nat.lt_or_ge k b with hlt | hge
  · exact h k h1 hlt
  · exact h' k hge h2

theorem Clear.mono (h : Clear fails a c) {a' c' : Nat} (ha : a ≤ a') (hc : c' ≤ c) : Clear fails a' c' :=
  fun k h1 h2 => h k (ha.trans h1) (h2.trans_le hc)

theorem not_clear (h : fails b = true) (ha : a ≤ b) (hc : b < c) : ¬ Clear fails a c := by
  intro hclear
  rw [hclear b ha hc] at h
  cases h

end Clear

section Failing

variable {g : Geometry} {files : Files} {fails : Nat → Bool} {s : Device} {n : Nat}

/-- A call that can report an error does so, or is answered as by a working device. -/
theorem run_failing_call {α : Type} {c : Syscall} {f : c.Reply → Sys α} {x : α × Device × Nat}
    (hc : c.canFail = true) (hrun : (failing g files fails).run (sys c >>= f) (s, n) = some x) :
    (fails n = true ∧ (failing g files fails).run (f c.failed) (s, n + 1) = some x) ∨
      (fails n = false ∧ (failing g files fails).run (f ((working g files).answer c s).1)
        (((working g files).answer c s).2, n + 1) = some x) := by
  change (failing g files fails).run (f ((failing g files fails).answer c (s, n)).1)
    ((failing g files fails).answer c (s, n)).2 = some x at hrun
  simp only [failing, hc, Bool.and_true] at hrun
  split_ifs at hrun with hfails
  · exact Or.inl ⟨hfails, hrun⟩
  · exact Or.inr ⟨Bool.not_eq_true _ ▸ hfails, hrun⟩

theorem run_failing_stat {α : Type} {path : String} {f : Bool → Sys α} {x : α × Device × Nat}
    (hrun : (failing g files fails).run (sys (.stat path) >>= f) (s, n) = some x) :
    (failing g files fails).run (f (files.stat path)) (s, n + 1) = some x := by
  have hanswer : (failing g files fails).answer (.stat path) (s, n) = (files.stat path, s, n + 1) := by
    simp only [failing, Syscall.canFail, Bool.and_false, Bool.false_eq_true, if_false]
    rfl
  change (failing g files fails).run (f ((failing g files fails).answer (.stat path) (s, n)).1)
    ((failing g files fails).answer (.stat path) (s, n)).2 = some x at hrun
  rwa [hanswer] at hrun

/-- A seek takes place unless it reports an error or the offset is negative. -/
theorem run_failing_lseekSet {α : Type} {offset : Int} {f : Bool → Sys α} {x : α × Device × Nat}
    (hrun : (failing g files fails).run (sys (.lseekSet offset) >>= f) (s, n) = some x) :
    (¬ (fails n = false ∧ 0 ≤ offset) ∧ (failing g files fails).run (f false) (s, n + 1) = some x) ∨
      ((fails n = false ∧ 0 ≤ offset) ∧ (failing g files fails).run (f true) (s, n + 1) = some x) := by
  rcases run_failing_call rfl hrun with ⟨hfails, hrun⟩ | ⟨hanswered, hrun⟩
  · refine Or.inl ⟨?_, hrun⟩
    intro h
    exact Bool.false_ne_true (h.1.symm.trans hfails)
  by_cases h0 : 0 ≤ offset
  · simp only [working, decide_eq_true h0] at hrun
    exact Or.inr ⟨⟨hanswered, h0⟩, hrun⟩
  · simp only [working, decide_eq_false h0] at hrun
    exact Or.inl ⟨fun h => h0 h.2, hrun⟩

theorem run_failing_blkRead {offset : Int} {buf : Bytes} {x : (Int × Bytes) × Device × Nat}
    (hrun : (failing g files fails).run (blkRead offset buf) (s, n) = some x) :
    (x = ((0, slice s.media offset.toNat buf.length), s, n + 2) ∧ Clear fails n (n + 2) ∧
        0 ≤ offset ∧ offset + buf.length ≤ g.size) ∨
      (x.1.1 = -1 ∧ x.2.1 = s ∧
        ¬ (Clear fails n (n + 2) ∧ 0 ≤ offset ∧ offset + buf.length ≤ g.size)) := by
  unfold blkRead at hrun
  rcases run_failing_lseekSet hrun with ⟨hnot, hrun⟩ | ⟨⟨hfirst, h0⟩, hrun⟩
  · cases hrun
    exact Or.inr ⟨rfl, rfl, fun h => hnot ⟨h.1 n le_rfl (by omega), h.2.1⟩⟩
  simp only [Bool.not_true, Bool.false_eq_true, if_false] at hrun
  rcases run_failing_call rfl hrun with ⟨hfails, hrun⟩ | ⟨hsecond, hrun⟩
  · cases hrun
    exact Or.inr ⟨rfl, rfl, fun h => not_clear hfails (by omega) (by omega) h.1⟩
  by_cases hrange : offset + buf.length ≤ g.size
  · simp only [working, Geometry.readAt, if_pos (And.intro h0 hrange)] at hrun
    rw [length_slice, List.drop_length, List.append_nil] at hrun
    cases hrun
    exact Or.inl ⟨rfl, (clear_succ hfirst).append (clear_succ hsecond), h0, hrange⟩
  · simp only [working, Geometry.readAt, if_neg fun h : 0 ≤ offset ∧ _ => hrange h.2] at hrun
    cases hrun
    exact Or.inr ⟨rfl, rfl, fun h => hrange h.2.2⟩

theorem run_failing_readThen {α : Type} {offset : Int} {buf : Bytes} {p : Int × Bytes → Sys α}
    {x : α × Device × Nat} (hrun : (failing g files fails).run (blkRead offset buf >>= p) (s, n) = some x) :
    ((failing g files fails).run (p (0, slice s.media offset.toNat buf.length)) (s, n + 2) = some x ∧
        Clear fails n (n + 2) ∧ 0 ≤ offset ∧ offset + buf.length ≤ g.size) ∨
      ((∃ buf' n', (failing g files fails).run (p (-1, buf')) (s, n') = some x) ∧
        ¬ (Clear fails n (n + 2) ∧ 0 ≤ offset ∧ offset + buf.length ≤ g.size)) := by
  rw [Machine.run_bind, Option.bind_eq_some_iff] at hrun
  obtain ⟨⟨⟨r, buf'⟩, s', n'⟩, hread, hrun⟩ := hrun
  rcases run_failing_blkRead hread with ⟨hx, hfound⟩ | ⟨hr, hs, hnot⟩
  · cases hx
    exact Or.inl ⟨hrun, hfound⟩
  · obtain rfl : -1 = r := hr.symm
    obtain rfl : s = s' := hs.symm
    exact Or.inr ⟨⟨buf', n', hrun⟩, hnot⟩

/-- The last call, `fsync`, decides about the result only. -/
theorem run_failing_blkWrite {offset : Int} {buf : Bytes} {x : Int × Device × Nat}
    (hrun : (failing g files fails).run (blkWrite offset buf) (s, n) = some x) :
    (x.2 = (s.write offset.toNat buf, n + 3) ∧ (x.1 = 0 ↔ fails (n + 2) = false) ∧ Clear fails n (n + 2) ∧
        0 ≤ offset ∧ offset + buf.length ≤ g.size) ∨
      (x.1 = -1 ∧ x.2.1 = s ∧
        ¬ (Clear fails n (n + 2) ∧ 0 ≤ offset ∧ offset + buf.length ≤ g.size)) := by
  unfold blkWrite at hrun
  rcases run_failing_lseekSet hrun with ⟨hnot, hrun⟩ | ⟨⟨hfirst, h0⟩, hrun⟩
  · cases hrun
    exact Or.inr ⟨rfl, rfl, fun h => hnot ⟨h.1 n le_rfl (by omega), h.2.1⟩⟩
  simp only [Bool.not_true, Bool.false_eq_true, if_false] at hrun
  rcases run_failing_call rfl hrun with ⟨hfails, hrun⟩ | ⟨hsecond, hrun⟩
  · cases hrun
    exact Or.inr ⟨rfl, rfl, fun h => not_clear hfails (by omega) (by omega) h.1⟩
  by_cases hrange : offset + buf.length ≤ g.size
  swap
  · simp only [working, if_neg fun h : 0 ≤ offset ∧ _ => hrange h.2] at hrun
    cases hrun
    exact Or.inr ⟨rfl, rfl, fun h => hrange h.2.2⟩
  simp only [working, if_pos (And.intro h0 hrange)] at hrun
  have hclear := (clear_succ hfirst).append (clear_succ hsecond)
  rcases run_failing_call rfl hrun with ⟨hfails, hrun⟩ | ⟨hthird, hrun⟩
  · cases hrun
    exact Or.inl ⟨rfl, by simp [Syscall.failed, hfails], hclear, h0, hrange⟩
  · cases hrun
    exact Or.inl ⟨rfl, by simp [hthird, working], hclear, h0, hrange⟩

/-! ### Functions -/

/-- The calls that reading a header takes: for the secondary one the device size is asked for too. -/
def headerCalls : GptInstance → Nat
  | .primaryGpt => 4
  | .secondaryGpt => 5

section Functions

variable {crc : Bytes → UInt32} {gpt : GptInstance} (hblocks : 2 ≤ g.blocks)

include hblocks

theorem run_failing_readHeaderBlock {buf : Bytes} {x : (Int × Bytes) × Device × Nat}
    (hbuf : buf.length = g.blkSize)
    (hrun : (failing g files fails).run (blkRead (g.headerPos gpt) buf) (s, n) = some x) :
    (x = ((0, g.header s.media gpt), s, n + 2) ∧ Clear fails n (n + 2)) ∨
      (x.1.1 = -1 ∧ x.2.1 = s ∧ ¬ Clear fails n (n + 2)) := by
  have hpos := Geometry.headerPos_onDevice hblocks gpt
  have h0 : (0 : Int) ≤ g.headerPos gpt := Int.natCast_nonneg _
  have hrange : (g.headerPos gpt : Int) + buf.length ≤ g.size := by
    rw [hbuf]
    exact_mod_cast hpos
  rcases run_failing_blkRead hrun with ⟨hx, hclear, -⟩ | ⟨hr, hs, hnot⟩
  · rw [hbuf] at hx
    exact Or.inl ⟨hx, hclear⟩
  · exact Or.inr ⟨hr, hs, fun hclear => hnot ⟨hclear, h0, hrange⟩⟩

/-- Reading a header block at the right offset, as the last two of the calls that reading a header takes. -/
theorem run_failing_readHeaderAt {x : Option (Int × Bytes) × Device × Nat} {k : Nat} (hk : headerCalls gpt = k + 2)
    (hclear : Clear fails n (n + k)) (hrun : (failing g files fails).run (do
      let (r, gptHeader) ← blkRead (g.headerPos gpt) (List.replicate g.blkSize 0)
      return if r != 0 then none else some ((g.headerPos gpt : Int), gptHeader)) (s, n + k) = some x) :
    (x = (some ((g.headerPos gpt : Int), g.header s.media gpt), s, n + headerCalls gpt) ∧
        Clear fails n (n + headerCalls gpt)) ∨
      (x.1 = none ∧ x.2.1 = s ∧ ¬ Clear fails n (n + headerCalls gpt)) := by
  rw [Machine.run_bind, Option.bind_eq_some_iff] at hrun
  obtain ⟨⟨⟨r, buf⟩, s', n'⟩, hblock, hrun⟩ := hrun
  rcases run_failing_readHeaderBlock hblocks List.length_replicate hblock with ⟨hx, hlast⟩ | ⟨hr, hs, hnot⟩
  · cases hx
    cases hrun
    rw [hk]
    exact Or.inl ⟨rfl, hclear.append hlast⟩
  · obtain rfl : -1 = r := hr.symm
    obtain rfl : s = s' := hs.symm
    cases hrun
    rw [hk]
    exact Or.inr ⟨rfl, rfl, fun hall => hnot (hall.mono (by omega) (by omega))⟩

theorem run_failing_readGptHeader {x : Option (Int × Bytes) × Device × Nat}
    (hrun : (failing g files fails).run (readGptHeader gpt) (s, n) = some x) :
    (x = (some ((g.headerPos gpt : Int), g.header s.media gpt), s, n + headerCalls gpt) ∧
        Clear fails n (n + headerCalls gpt)) ∨
      (x.1 = none ∧ x.2.1 = s ∧ ¬ Clear fails n (n + headerCalls gpt)) := by
  have hfour : 4 ≤ headerCalls gpt := by cases gpt <;> decide
  unfold readGptHeader at hrun
  rcases run_failing_call rfl hrun with ⟨hfails, hrun⟩ | ⟨hfirst, hrun⟩
  · cases hrun
    exact Or.inr ⟨rfl, rfl, not_clear hfails le_rfl (by omega)⟩
  simp only [working] at hrun
  rcases run_failing_call rfl hrun with ⟨hfails, hrun⟩ | ⟨hsecond, hrun⟩
  · cases hrun
    exact Or.inr ⟨rfl, rfl, not_clear hfails (by omega) (by omega)⟩
  simp only [working] at hrun
  have htwo : Clear fails n (n + 2) := (clear_succ hfirst).append (clear_succ hsecond)
  have hpos : ¬ ((g.headerPos gpt : Int) < 0) := Int.not_lt.mpr (Int.natCast_nonneg _)
  cases gpt with
  | primaryGpt =>
      simp only [gptHeaderOffset, pure_bind] at hrun
      rw [if_neg (Int.not_lt.mpr (Int.natCast_nonneg _))] at hrun
      exact run_failing_readHeaderAt hblocks rfl htwo hrun
  | secondaryGpt =>
      have hoffset : (g.size : Int) - (g.blkSize : Int) = g.headerPos .secondaryGpt :=
        (Nat.cast_sub ((Nat.le_add_left _ _).trans (Geometry.two_blocks_le hblocks))).symm
      simp only [gptHeaderOffset, bind_assoc] at hrun
      rcases run_failing_call rfl hrun with ⟨hfails, hrun⟩ | ⟨hthird, hrun⟩
      · simp only [Syscall.failed] at hrun
        have hneg : (-1 : Int) - (g.blkSize : Int) < 0 := by omega
        simp only [pure_bind, if_pos hneg] at hrun
        cases hrun
        exact Or.inr ⟨rfl, rfl, not_clear hfails (by omega) (by simp only [headerCalls]; omega)⟩
      · simp only [working, pure_bind, hoffset, if_neg hpos] at hrun
        exact run_failing_readHeaderAt hblocks rfl (htwo.append (clear_succ hthird)) hrun

theorem run_failing_gptGetState {state : GptState} {x : (Int × GptState) × Device × Nat}
    (hstate : headerState crc (g.header s.media gpt) = some state)
    (hrun : (failing g files fails).run (gptGetState crc gpt) (s, n) = some x) :
    (x = ((0, state), s, n + headerCalls gpt) ∧ Clear fails n (n + headerCalls gpt)) ∨
      (x.1.1 = -1 ∧ x.2.1 = s ∧ ¬ Clear fails n (n + headerCalls gpt)) := by
  unfold gptGetState at hrun
  rw [Machine.run_bind, Option.bind_eq_some_iff] at hrun
  obtain ⟨⟨found, s', n'⟩, hread, hrun⟩ := hrun
  rcases run_failing_readGptHeader hblocks hread with ⟨hx, hclear⟩ | ⟨hfound, hs, hnot⟩
  · cases hx
    simp only [hstate, Program.ofOption_some, Program.done_bind] at hrun
    cases hrun
    exact Or.inl ⟨rfl, hclear⟩
  · obtain rfl : none = found := hfound.symm
    obtain rfl : s = s' := hs.symm
    cases hrun
    exact Or.inr ⟨rfl, rfl, hnot⟩

/-- The primary header is invalidated by the sixth call, whatever the `fsync` after it answers. -/
theorem run_failing_corruptPrimary {x : Int × Device × Nat}
    (hrun : (failing g files fails).run (gptSetState crc .primaryGpt .gptBadSignature) (s, n) = some x) :
    (x.2.1.bootLun = s.bootLun ∧ headerState crc (g.header x.2.1.media .primaryGpt) = some .gptBadSignature ∧
        Clear fails n (n + 6)) ∨
      (x.2.1 = s ∧ ¬ Clear fails n (n + 6)) := by
  unfold gptSetState at hrun
  rw [Machine.run_bind, Option.bind_eq_some_iff] at hrun
  obtain ⟨⟨found, s', n'⟩, hread, hrun⟩ := hrun
  rcases run_failing_readGptHeader hblocks hread with ⟨hx, hclear⟩ | ⟨hfound, hs, hnot⟩
  swap
  · obtain rfl : none = found := hfound.symm
    obtain rfl : s = s' := hs.symm
    cases hrun
    exact Or.inr ⟨rfl, fun hall => hnot (hall.mono le_rfl (by simp only [headerCalls]; omega))⟩
  cases hx
  simp only at hrun
  cases hset : setHeaderState crc .gptBadSignature (g.header s.media .primaryGpt) with
  | none =>
      rw [hset] at hrun
      cases hrun
  | some written =>
  have hfits : HeaderFits (g.header s.media .primaryGpt) := by
    refine headerFits_of_setHeaderState ?_ (by decide) hset
    rw [g.length_header]
    exact g.room
  simp only [setHeaderState_badSignature hfits, Program.ofOption_some, Program.done_bind] at hrun
  rw [Machine.run_bind, Option.bind_eq_some_iff] at hrun
  obtain ⟨⟨r, s', n'⟩, hwrite, hrun⟩ := hrun
  obtain rfl : x = (if r != 0 then -1 else 0, s', n') := (Option.some.inj hrun).symm
  have hpos := Geometry.headerPos_onDevice hblocks .primaryGpt
  have hlen : (corrupted crc (g.header s.media .primaryGpt)).length = g.blkSize :=
    Geometry.length_corrupted_header hfits
  rcases run_failing_blkWrite hwrite with ⟨hx, -, hlast, -⟩ | ⟨-, hs, hnot⟩
  · obtain rfl : s.corruptHeader g crc .primaryGpt = s' := (congrArg Prod.fst hx).symm
    refine Or.inl ⟨rfl, ?_, hclear.append hlast⟩
    rw [header_corruptHeader_self hfits]
    exact headerState_corrupted hfits
  · refine Or.inr ⟨hs, fun hall => hnot ⟨hall.mono (by simp only [headerCalls]; omega) le_rfl, ?_, ?_⟩⟩
    · exact Int.natCast_nonneg _
    · rw [hlen]
      exact_mod_cast hpos

end Functions

/-! ### The boot LUN -/

/-- The scsi generic node that the file system gives for a boot device. -/
def Files.sgNode (files : Files) (bootdevPath : String) : Option String := do
  let realPath ← files.readlink bootdevPath
  if realPath.toList.length < pathTruncateLoc + 1 then none
  else do
    let lun := String.ofList ((realPath.toList.take pathTruncateLoc).drop lunNameStartLoc)
    let names ← files.listDir ("/sys/block/" ++ lun ++ "/device/scsi_generic")
    (scsiNode names).map ("/dev/" ++ ·)

theorem run_failing_getScsiNode {path : String} {x : Option String × Device × Nat}
    (hrun : (failing g files fails).run (getScsiNodeFromBootdevice path) (s, n) = some x) :
    (x = (files.sgNode path, s, n + 2) ∧ Clear fails n (n + 2)) ∨
      (x.1 = none ∧ x.2.1 = s ∧ ¬ (Clear fails n (n + 2) ∧ files.sgNode path ≠ none)) := by
  unfold getScsiNodeFromBootdevice at hrun
  rcases run_failing_call rfl hrun with ⟨hfails, hrun⟩ | ⟨hfirst, hrun⟩
  · cases hrun
    exact Or.inr ⟨rfl, rfl, fun h => not_clear hfails le_rfl (by omega) h.1⟩
  simp only [working] at hrun
  cases hpath : files.readlink path with
  | none =>
      rw [hpath] at hrun
      cases hrun
      exact Or.inr ⟨rfl, rfl, fun h => h.2 (by simp only [Files.sgNode, hpath, Option.bind_eq_bind, Option.bind_none])⟩
  | some realPath =>
  simp only [hpath] at hrun
  by_cases hlong : realPath.toList.length < pathTruncateLoc + 1
  · rw [if_pos hlong] at hrun
    cases hrun
    refine Or.inr ⟨rfl, rfl, fun h => h.2 ?_⟩
    simp only [Files.sgNode, hpath, Option.bind_eq_bind, Option.bind_some, if_pos hlong]
  rw [if_neg hlong] at hrun
  rcases run_failing_call rfl hrun with ⟨hfails, hrun⟩ | ⟨hsecond, hrun⟩
  · cases hrun
    exact Or.inr ⟨rfl, rfl, fun h => not_clear hfails (by omega) (by omega) h.1⟩
  simp only [working] at hrun
  have hclear := (clear_succ hfirst).append (clear_succ hsecond)
  refine Or.inl ⟨?_, hclear⟩
  simp only [Files.sgNode, hpath, Option.bind_eq_bind, Option.bind_some, if_neg hlong]
  split at hrun
  · rename_i hnames
    rw [hnames]
    exact (Option.some.inj hrun).symm
  · rename_i names hnames
    rw [hnames]
    exact (Option.some.inj hrun).symm

/-- Three calls can fail here: `readlink`, reading the directory, and the switch itself. -/
theorem run_failing_switchBootLun {x : Int × Device × Nat} (hprimary : files.stat xblPrimary = true)
    (hbackup : files.stat xblBackup = true)
    (hrun : (failing g files fails).run (switchBootLun true .backupBoot) (s, n) = some x) :
    (x = (0, s.withBootLun (some bootLunBId), n + 8) ∧ Clear fails (n + 5) (n + 8) ∧ files.sgNode xblBackup ≠ none) ∨
      (x.1 = -1 ∧ x.2.1 = s ∧ ¬ (Clear fails (n + 5) (n + 8) ∧ files.sgNode xblBackup ≠ none)) := by
  simp only [switchBootLun, gptUtilsSetXblBootPartition, xblBootDevice, bothExist, if_true, bind_assoc] at hrun
  have hrun := run_failing_stat hrun
  simp only [hprimary, if_true] at hrun
  have hrun := run_failing_stat hrun
  simp only [hbackup, if_true] at hrun
  have hrun := run_failing_stat hrun
  simp only [hbackup, if_true, pure_bind] at hrun
  have hrun := run_failing_stat hrun
  simp only [hprimary, if_true] at hrun
  have hrun := run_failing_stat hrun
  simp only [hbackup, Bool.not_true, Bool.false_eq_true, if_false] at hrun
  rw [Machine.run_bind, Option.bind_eq_some_iff] at hrun
  obtain ⟨⟨node, s', n'⟩, hnode, hrun⟩ := hrun
  rcases run_failing_getScsiNode hnode with ⟨hx, hclear⟩ | ⟨hnone, hs, hnot⟩
  swap
  · obtain rfl : none = node := hnone.symm
    obtain rfl : s = s' := hs.symm
    cases hrun
    exact Or.inr ⟨rfl, rfl, fun h => hnot ⟨h.1.mono (by omega) (by omega), h.2⟩⟩
  cases hx
  cases hsg : files.sgNode xblBackup with
  | none =>
      simp only [hsg] at hrun
      cases hrun
      exact Or.inr ⟨rfl, rfl, fun h => h.2 rfl⟩
  | some node =>
  simp only [hsg] at hrun
  rcases run_failing_call rfl hrun with ⟨hfails, hrun⟩ | ⟨hlast, hrun⟩
  · cases hrun
    exact Or.inr ⟨rfl, rfl, fun h => not_clear hfails (by omega) (by omega) h.1⟩
  · cases hrun
    exact Or.inl ⟨rfl, hclear.append (clear_succ hlast), Option.some_ne_none node⟩

/-! ### The secondary GPT -/

/-- `gpt2_set_boot_chain`, making its calls from number `n` on, gets through its last `write`. -/
structure ChainWritten (g : Geometry) (crc : Bytes → UInt32) (fails : Nat → Bool) (n : Nat) (m : Nat → UInt8)
    (pentries : Bytes) : Prop where
  clear : Clear fails n (n + 15)
  plan : BootChainPlan g crc true .backupBoot m pentries
  start_nonneg : 0 ≤ g.startOf (g.header m .secondaryGpt)
  onDevice : g.startOf (g.header m .secondaryGpt) + pentries.length ≤ g.size

/-- The array that is written is determined by the bytes of the device. -/
theorem ChainWritten.pentries_unique {g : Geometry} {crc : Bytes → UInt32} {fails : Nat → Bool} {n : Nat}
    {m : Nat → UInt8} {pentries pentries' : Bytes} (h : ChainWritten g crc fails n m pentries)
    (h' : ChainWritten g crc fails n m pentries') : pentries = pentries' := by
  have hsame := h.plan.chained.symm.trans h'.plan.chained
  cases hsame
  rfl

/-- What `gpt2_set_boot_chain` leaves when it does not get that far. -/
def ChainStopped (g : Geometry) (crc : Bytes → UInt32) (fails : Nat → Bool) (n : Nat) (s : Device)
    (x : Int × Device × Nat) : Prop :=
  x.1 ≠ 0 ∧ (x.2.1 = s ∨ ∃ pentries, x.2.1 = s.withChainHeader g crc pentries) ∧
    ∀ pentries, ¬ ChainWritten g crc fails n s.media pentries

section Chain

variable {crc : Bytes → UInt32} (hblocks : 2 ≤ g.blocks)

/-- A call that failed has stopped it. -/
theorem chainStopped_of_fails {r : Int} {k n' : Nat} (hr : r ≠ 0) (hk : k < 15) (hfails : fails (n + k) = true) :
    ChainStopped g crc fails n s (r, s, n') :=
  ⟨hr, Or.inl rfl, fun _ h => not_clear hfails (by omega) (by omega) h.clear⟩

include hblocks

/-- The block of a header is on the device, so a transfer of it that does not happen was stopped by a call that
failed. -/
theorem chainStopped_of_header (gpt : GptInstance) {buf : Bytes} {r : Int} {k n' : Nat} (hr : r ≠ 0)
    (hk : k + 2 ≤ 15) (hlen : buf.length = g.blkSize)
    (hnot : ¬ (Clear fails (n + k) (n + k + 2) ∧ 0 ≤ (g.headerPos gpt : Int) ∧
      (g.headerPos gpt : Int) + buf.length ≤ g.size)) : ChainStopped g crc fails n s (r, s, n') := by
  refine ⟨hr, Or.inl rfl, fun _ h => hnot ⟨h.clear.mono (by omega) (by omega), Int.natCast_nonneg _, ?_⟩⟩
  rw [hlen]
  exact_mod_cast Geometry.headerPos_onDevice hblocks gpt

/-- The writes of `gpt2_set_boot_chain`, which its eleventh call begins. -/
theorem run_failing_chainWrites {pentries : Bytes} {x : Int × Device × Nat}
    (hfits : HeaderFits (g.header s.media .secondaryGpt))
    (hplan : BootChainPlan g crc true .backupBoot s.media pentries) (hclear : Clear fails n (n + 10))
    (hrun : (failing g files fails).run (do
      let r ← blkWrite (g.headerPos .secondaryGpt)
        (withArrayCrc crc (g.header s.media .secondaryGpt) (crc pentries).toNat)
      if r != 0 then
        return r
      blkWrite (g.startOf (g.header s.media .secondaryGpt)) pentries) (s, n + 10) = some x) :
    (∃ pentries, ChainWritten g crc fails n s.media pentries ∧ x.2 = (s.withChain g crc pentries, n + 16) ∧
        (x.1 = 0 ↔ fails (n + 15) = false)) ∨
      ChainStopped g crc fails n s x := by
  have herr : (-1 : Int) ≠ 0 := by decide
  have hlen : (withArrayCrc crc (g.header s.media .secondaryGpt) (crc pentries).toNat).length = g.blkSize :=
    Geometry.length_withArrayCrc_header hfits _
  rw [Machine.run_bind, Option.bind_eq_some_iff] at hrun
  obtain ⟨⟨r, s', n'⟩, hheader, hrun⟩ := hrun
  rcases run_failing_blkWrite hheader with ⟨hs, hr, hwrite, -⟩ | ⟨hr, hs, hnot⟩
  swap
  · obtain rfl : -1 = r := hr.symm
    obtain rfl : s = s' := hs.symm
    cases hrun
    exact Or.inr (chainStopped_of_header hblocks .secondaryGpt (k := 10) herr (by decide) hlen hnot)
  obtain ⟨rfl, rfl⟩ : s.withChainHeader g crc pentries = s' ∧ n + 13 = n' := ⟨(congrArg Prod.fst hs).symm,
    (congrArg Prod.snd hs).symm⟩
  simp only at hr hrun
  by_cases hsync : fails (n + 12) = false
  swap
  · rw [if_pos (by simpa using fun hzero => hsync (hr.mp hzero))] at hrun
    cases hrun
    exact Or.inr ⟨fun hzero => hsync (hr.mp hzero), Or.inr ⟨pentries, rfl⟩,
      fun _ h => hsync (h.clear (n + 12) (by omega) (by omega))⟩
  rw [if_neg (by simpa using hr.mpr hsync)] at hrun
  replace hclear := (hclear.append hwrite).append (clear_succ hsync)
  rcases run_failing_blkWrite hrun with ⟨hx, hr, hwrite, h0, hrange⟩ | ⟨hr, hs, hnot⟩
  · exact Or.inl ⟨pentries, ⟨hclear.append hwrite, hplan, h0, hrange⟩, hx, hr⟩
  · refine Or.inr ⟨by rw [hr]; exact herr, Or.inr ⟨pentries, hs⟩, fun pentries' h => hnot ⟨?_, ?_, ?_⟩⟩
    · exact h.clear.mono (by omega) (by omega)
    · exact h.start_nonneg
    · rw [hplan.length, ← h.plan.length]
      exact h.onDevice

theorem run_failing_gpt2SetBootChain {x : Int × Device × Nat}
    (hfits : HeaderFits (g.header s.media .secondaryGpt))
    (hrun : (failing g files fails).run (gpt2SetBootChain crc true .backupBoot) (s, n) = some x) :
    (∃ pentries, ChainWritten g crc fails n s.media pentries ∧ x.2 = (s.withChain g crc pentries, n + 16) ∧
        (x.1 = 0 ↔ fails (n + 15) = false)) ∨
      ChainStopped g crc fails n s x := by
  have htwo := Geometry.two_blocks_le hblocks
  have hoffset : (g.size : Int) - (g.blkSize : Int) = g.headerPos .secondaryGpt :=
    (Nat.cast_sub (by omega)).symm
  have herr : (-1 : Int) ≠ 0 := by decide
  unfold gpt2SetBootChain at hrun
  rcases run_failing_call rfl hrun with ⟨hfails, hrun⟩ | ⟨hfirst, hrun⟩
  · cases hrun
    exact Or.inr (chainStopped_of_fails (k := 0) herr (by decide) hfails)
  simp only [working] at hrun
  rcases run_failing_call rfl hrun with ⟨hfails, hrun⟩ | ⟨hsecond, hrun⟩
  · cases hrun
    exact Or.inr (chainStopped_of_fails (k := 1) herr (by decide) hfails)
  simp only [working] at hrun
  rcases run_failing_call rfl hrun with ⟨hfails, hrun⟩ | ⟨hthird, hrun⟩
  · simp only [Syscall.failed] at hrun
    change (failing g files fails).run (if (-1 : Int) - (g.blkSize : Int) < 0 then Program.done (-1) else _) _ =
      some x at hrun
    rw [if_pos (by omega)] at hrun
    cases hrun
    exact Or.inr (chainStopped_of_fails (k := 2) herr (by decide) hfails)
  simp only [working, hoffset] at hrun
  rw [if_neg (Int.not_lt.mpr (Int.natCast_nonneg _))] at hrun
  have hclear : Clear fails n (n + 3) :=
    ((clear_succ hfirst).append (clear_succ hsecond)).append (clear_succ hthird)
  -- the primary header
  rcases run_failing_readThen hrun with ⟨hrun, hread, -⟩ | ⟨⟨_, _, hrun⟩, hnot⟩
  swap
  · cases hrun
    exact Or.inr (chainStopped_of_header hblocks .primaryGpt (k := 3) herr (by decide) List.length_replicate hnot)
  replace hclear := hclear.append hread
  have hblock : slice s.media (g.blkSize : Int).toNat g.blkSize = g.header s.media .primaryGpt := rfl
  simp only [List.length_replicate, bne_self_eq_false, Bool.false_eq_true, if_false, hblock,
    pentriesStartOffset_header, pentriesArraySize_header,
    get4Bytes_header (show pentrySizeOffset + 4 ≤ partitionCrcOffset + 4 by decide), Program.ofOption_some,
    Program.done_bind] at hrun
  -- the primary array
  rcases run_failing_call rfl hrun with ⟨hfails, hrun⟩ | ⟨hcalloc, hrun⟩
  · cases hrun
    exact Or.inr (chainStopped_of_fails (k := 5) herr (by decide) hfails)
  replace hclear := hclear.append (clear_succ hcalloc)
  simp only [working] at hrun
  rcases run_failing_readThen hrun with ⟨hrun, hread, h0, hrange⟩ | ⟨⟨_, _, hrun⟩, hnot⟩
  swap
  · cases hrun
    refine Or.inr ⟨herr, Or.inl rfl, fun pentries h => hnot ⟨h.clear.mono (by omega) (by omega), ?_, ?_⟩⟩
    · exact h.plan.start_nonneg
    · rw [List.length_replicate]
      exact h.plan.onDevice
  replace hclear := hclear.append hread
  rw [List.length_replicate] at hrange
  have hentries : slice s.media (g.startOf (g.header s.media .primaryGpt)).toNat
      (arraySizeOf (g.header s.media .primaryGpt)) = g.entries s.media .primaryGpt := rfl
  have hlen : (g.entries s.media .primaryGpt).length = arraySizeOf (g.header s.media .primaryGpt) :=
    length_slice ..
  simp only [List.length_replicate, bne_self_eq_false, Bool.false_eq_true, if_false, hentries,
    crc32_of_length hlen, get4Bytes_header (show partitionCrcOffset + 4 ≤ partitionCrcOffset + 4 by decide),
    Program.ofOption_some, Program.done_bind] at hrun
  by_cases hstored : word4 (g.header s.media .primaryGpt) partitionCrcOffset =
    (crc (g.entries s.media .primaryGpt)).toNat
  swap
  · rw [if_pos (by simpa using hstored)] at hrun
    cases hrun
    exact Or.inr ⟨herr, Or.inl rfl, fun pentries h => hstored h.plan.stored⟩
  rw [if_neg (by simpa using hstored)] at hrun
  -- the secondary header
  rcases run_failing_readThen hrun with ⟨hrun, hread, -⟩ | ⟨⟨_, _, hrun⟩, hnot⟩
  swap
  · cases hrun
    exact Or.inr (chainStopped_of_header hblocks .secondaryGpt (k := 8) herr (by decide) (g.length_header ..) hnot)
  replace hclear := hclear.append hread
  have hblock : slice s.media (g.headerPos .secondaryGpt : Int).toNat g.blkSize =
    g.header s.media .secondaryGpt := rfl
  simp only [g.length_header, hblock, bne_self_eq_false, Bool.false_eq_true, if_false,
    pentriesStartOffset_header, Program.ofOption_some, Program.done_bind] at hrun
  cases hchained : bootChainArray true .backupBoot (g.entries s.media .primaryGpt)
    (word4 (g.header s.media .primaryGpt) pentrySizeOffset) with
  | none =>
      rw [hchained] at hrun
      cases hrun
  | some chained =>
  obtain ⟨r, pentries⟩ := chained
  simp only [hchained, Program.ofOption_some, Program.done_bind] at hrun
  by_cases hr : r = 0
  swap
  · rw [if_pos (by simpa using hr)] at hrun
    cases hrun
    refine Or.inr ⟨hr, Or.inl rfl, fun pentries h => hr ?_⟩
    have hsame := hchained.symm.trans h.plan.chained
    cases hsame
    rfl
  subst hr
  have hplan : BootChainPlan g crc true .backupBoot s.media pentries := ⟨h0, hrange, hstored, hchained⟩
  rw [if_neg (by simp)] at hrun
  simp only [crc32_of_length hplan.length, bootChainHeader_eq hfits, Program.ofOption_some,
    Program.done_bind] at hrun
  -- the two writes
  exact run_failing_chainWrites hblocks hfits hplan hclear hrun

end Chain

/-! ### `UPDATE_MAIN` -/

/-- The active boot LUN is the backup LUN if and only if the primary GPT header is not valid. -/
def LunFollowsGpt (g : Geometry) (crc : Bytes → UInt32) (t : Device) : Prop :=
  t.bootLun = bootLunBId ↔ headerState crc (g.header t.media .primaryGpt) ≠ some .gptOk

/-- Once the LUN is the backup LUN, the header decides. -/
theorem lunFollowsGpt_of_bootLunB {g : Geometry} {crc : Bytes → UInt32} {t : Device} (ht : t.bootLun = bootLunBId) :
    LunFollowsGpt g crc t ↔ headerState crc (g.header t.media .primaryGpt) ≠ some .gptOk := by
  rw [LunFollowsGpt]
  exact ⟨fun h => h.mp ht, fun h => ⟨fun _ => h, fun _ => ht⟩⟩

/-- `UPDATE_MAIN` gets through its LUN switch: `open`, four calls for the primary and five for the
secondary header, and after the five calls of `stat` the three calls of the switch. -/
structure LunSwitched (files : Files) (fails : Nat → Bool) : Prop where
  headers : Clear fails 0 10
  switch : Clear fails 15 18
  node : files.sgNode xblBackup ≠ none

variable {crc : Bytes → UInt32} {devPath : String} {x : Int × Device × Nat}

section Main

variable (hblocks : 2 ≤ g.blocks) (hprimary : files.stat xblPrimary = true)
  (hbackup : files.stat xblBackup = true)
  (hprim : headerState crc (g.header s.media .primaryGpt) = some .gptOk)
  (hsecond : headerState crc (g.header s.media .secondaryGpt) = some .gptOk)

include hblocks hprimary hbackup hprim hsecond

/-- `UPDATE_MAIN` stops before its LUN switch, or goes on after it. -/
theorem run_failing_updateMain
    (hrun : (failing g files fails).run (preparePartitions crc true .updateMain devPath) (s, 0) = some x) :
    (¬ LunSwitched files fails ∧ x.2.1 = s) ∨
      LunSwitched files fails ∧ ∃ y, x.2.1 = y.2.1 ∧ (failing g files fails).run (do
        let r ← gpt2SetBootChain crc true .backupBoot
        if r != 0 then
          return if r < 0 then r else 0
        gptSetState crc .primaryGpt .gptBadSignature) (s.withBootLun (some bootLunBId), 18) = some y := by
  unfold preparePartitions at hrun
  rcases run_failing_call rfl hrun with ⟨hfails, hrun⟩ | ⟨hopen, hrun⟩
  · cases hrun
    exact Or.inl ⟨fun h => not_clear hfails le_rfl (by decide) h.headers, rfl⟩
  simp only [working, Bool.not_true, Bool.false_eq_true, if_false] at hrun
  rw [Machine.run_bind, Option.bind_eq_some_iff] at hrun
  obtain ⟨y, hopened, hrun⟩ := hrun
  have hdevice : x.2.1 = y.2.1 := by
    rcases run_failing_call rfl hrun with ⟨-, hrun⟩ | ⟨-, hrun⟩ <;>
    · cases hrun
      rfl
  rw [hdevice]
  unfold prepareOpened at hopened
  rw [Machine.run_bind, Option.bind_eq_some_iff] at hopened
  obtain ⟨⟨⟨r, gptPrim⟩, s', n'⟩, hstate, hopened⟩ := hopened
  rcases run_failing_gptGetState hblocks hprim hstate with ⟨hx, hfirst⟩ | ⟨hr, hs, hnot⟩
  swap
  · obtain rfl : -1 = r := hr.symm
    obtain rfl : s = s' := hs.symm
    cases hopened
    exact Or.inl ⟨fun h => hnot (h.headers.mono (by decide) (by decide)), rfl⟩
  cases hx
  simp only [bne_self_eq_false, Bool.false_eq_true, if_false] at hopened
  rw [Machine.run_bind, Option.bind_eq_some_iff] at hopened
  obtain ⟨⟨⟨r, gptSecond⟩, s', n'⟩, hstate, hopened⟩ := hopened
  rcases run_failing_gptGetState hblocks hsecond hstate with ⟨hx, hsecond⟩ | ⟨hr, hs, hnot⟩
  swap
  · obtain rfl : -1 = r := hr.symm
    obtain rfl : s = s' := hs.symm
    cases hopened
    exact Or.inl ⟨fun h => hnot (h.headers.mono (by decide) (by decide)), rfl⟩
  cases hx
  have hclear : Clear fails 0 10 := ((clear_succ hopen).append hfirst).append hsecond
  change (failing g files fails).run (switchBootLun true .backupBoot >>= _) (s, 10) = some y at hopened
  rw [Machine.run_bind, Option.bind_eq_some_iff] at hopened
  obtain ⟨⟨r, s', n'⟩, hswitch, hopened⟩ := hopened
  rcases run_failing_switchBootLun hprimary hbackup hswitch with ⟨hx, hclear', hnode⟩ | ⟨hr, hs, hnot⟩
  · cases hx
    exact Or.inr ⟨⟨hclear, hclear', hnode⟩, y, rfl, hopened⟩
  · obtain rfl : -1 = r := hr.symm
    obtain rfl : s = s' := hs.symm
    cases hopened
    exact Or.inl ⟨fun h => hnot ⟨h.switch, h.node⟩, rfl⟩

end Main

/-- The boot LUN and the primary GPT are switched both or neither exactly when `UPDATE_MAIN` stops before its
LUN switch, or once past it writes the secondary GPT and then invalidates the primary header. That header
is invalidated by the seven calls after the writes, or by a secondary array written over it. -/
theorem lunFollowsGpt_iff (hblocks : 2 ≤ g.blocks) (hprimary : files.stat xblPrimary = true)
    (hbackup : files.stat xblBackup = true)
    (hprim : headerState crc (g.header s.media .primaryGpt) = some .gptOk)
    (hsecond : headerState crc (g.header s.media .secondaryGpt) = some .gptOk) (hlun : s.bootLun = bootLunAId)
    (hrun : (failing g files fails).run (preparePartitions crc true .updateMain devPath) (s, 0) = some x) :
    LunFollowsGpt g crc x.2.1 ↔ (LunSwitched files fails → ∃ pentries,
      ChainWritten g crc fails 18 s.media pentries ∧ (Clear fails 33 40 ∨
        headerState crc (g.header (s.withChain g crc pentries).media .primaryGpt) ≠ some .gptOk)) := by
  rcases run_failing_updateMain hblocks hprimary hbackup hprim hsecond hrun with
    ⟨hnot, hx⟩ | ⟨hswitched, y, hx, hrest⟩
  · rw [LunFollowsGpt, hx, hlun, hprim]
    exact iff_of_true (by decide) fun h => absurd h hnot
  rw [hx]
  simp only [hswitched, true_imp_iff]
  -- the LUN is the backup LUN from here on
  have hfits : HeaderFits (g.header (s.withBootLun (some bootLunBId)).media .secondaryGpt) := fits_of_state hsecond
  rw [Machine.run_bind, Option.bind_eq_some_iff] at hrest
  obtain ⟨⟨r, s', n'⟩, hchain, hrest⟩ := hrest
  rcases run_failing_gpt2SetBootChain hblocks hfits hchain with
    ⟨pentries, hwritten, hs, hr⟩ | ⟨hr, hs, hnot⟩
  swap
  · -- the primary header is still valid, and the secondary GPT was not written
    simp only at hr hs hrest
    rw [if_pos (by simpa using hr)] at hrest
    obtain rfl : y = (if r < 0 then r else 0, s', n') := (Option.some.inj hrest).symm
    have hheaders : ∀ gpt, headerState crc (g.header s.media gpt) = some .gptOk := by
      rintro (_ | _)
      · exact hprim
      · exact hsecond
    have hvalid : headerState crc (g.header s'.media .primaryGpt) = some .gptOk := by
      rcases hs with rfl | ⟨pentries, rfl⟩
      · exact hprim
      · exact headerState_afterHeader hblocks hheaders .primaryGpt
    have hbootLun : s'.bootLun = bootLunBId := by
      rcases hs with rfl | ⟨pentries, rfl⟩ <;> rfl
    rw [lunFollowsGpt_of_bootLunB hbootLun]
    exact iff_of_false (fun h => h hvalid) fun h => hnot h.choose h.choose_spec.1
  obtain ⟨rfl, rfl⟩ : (s.withBootLun (some bootLunBId)).withChain g crc pentries = s' ∧ 34 = n' :=
    ⟨(congrArg Prod.fst hs).symm, (congrArg Prod.snd hs).symm⟩
  -- unless the header is invalidated, it is valid or not as the secondary array leaves it
  have hkeeps (hnot : ¬ Clear fails 33 40) :
      headerState crc (g.header (s.withChain g crc pentries).media .primaryGpt) ≠ some .gptOk ↔
        ∃ pentries, ChainWritten g crc fails 18 s.media pentries ∧ (Clear fails 33 40 ∨
          headerState crc (g.header (s.withChain g crc pentries).media .primaryGpt) ≠ some .gptOk) := by
    refine ⟨?_, ?_⟩
    · intro hinvalid
      exact ⟨pentries, hwritten, Or.inr hinvalid⟩
    · rintro ⟨pentries', hwritten', hclear | hinvalid⟩
      · exact absurd hclear hnot
      · have hsame : pentries' = pentries := hwritten'.pentries_unique hwritten
        rwa [hsame] at hinvalid
  simp only at hr hrest
  by_cases hsync : fails 33 = false
  swap
  · rw [if_pos (by simpa using fun hzero => hsync (hr.mp hzero))] at hrest
    cases hrest
    rw [lunFollowsGpt_of_bootLunB rfl]
    exact hkeeps fun hclear => hsync (hclear 33 le_rfl (by decide))
  rw [if_neg (by simpa using hr.mpr hsync)] at hrest
  rcases run_failing_corruptPrimary hblocks hrest with ⟨hbootLun, hstate, hclear⟩ | ⟨hkept, hnot⟩
  · rw [lunFollowsGpt_of_bootLunB hbootLun, hstate]
    exact iff_of_true (by decide) ⟨pentries, hwritten, Or.inl ((clear_succ hsync).append hclear)⟩
  · rw [hkept, lunFollowsGpt_of_bootLunB rfl]
    exact hkeeps fun hclear => hnot (hclear.mono (by decide) le_rfl)

end Failing

/-! ### The small disk on a UFS target -/

def ufsFiles : Files where
  stat _ := true
  readlink _ := some "/dev/block/sdb1"
  listDir _ := some [".", "..", "sg1"]

/-- `UPDATE_MAIN` on the small disk, the calls in `fails` failing. -/
def runSample (fails : Nat → Bool) : Option (Int × Device × Nat) :=
  (failing sampleImage.geometry ufsFiles fails).run
    (preparePartitions byteSum true .updateMain "/dev/block/sda") (sampleDevice, 0)

/-- Without a failure both are switched. -/
theorem lunFollowsGpt_iff_sample :
    ∃ x, runSample (fun _ => false) = some x ∧ LunFollowsGpt sampleImage.geometry byteSum x.2.1 := by
  obtain ⟨x, hrun⟩ : ∃ x, runSample (fun _ => false) = some x :=
    Option.isSome_iff_exists.mp (by decide +kernel)
  have hclear : ∀ a b, Clear (fun _ => false) a b := fun _ _ _ _ _ => rfl
  have hwritten : ChainWritten sampleImage.geometry byteSum (fun _ => false) 18 sampleDevice.media
      sampleSwapped := by
    exact ⟨hclear _ _, sample_plan true, (sample_mainWrites true).secondStart, (sample_mainWrites true).secondRoom⟩
  refine ⟨x, hrun, (lunFollowsGpt_iff (by decide) rfl rfl (sample_state _) (sample_state _) rfl hrun).mpr ?_⟩
  exact fun _ => ⟨sampleSwapped, hwritten, Or.inl (hclear _ _)⟩

/-- The primary array cannot be read after the LUN was switched: the call reports the error and leaves the
backup LUN active next to a valid primary header. -/
theorem lun_switched_alone :
    ∃ x, runSample (fun k => k == 25) = some x ∧ x.1 = -1 ∧
      ¬ LunFollowsGpt sampleImage.geometry byteSum x.2.1 := by
  have hfound : (runSample fun k => k == 25).map (fun x => (x.1, x.2.1.bootLun,
      headerState byteSum (sampleImage.geometry.header x.2.1.media .primaryGpt))) =
        some (-1, bootLunBId, some .gptOk) := by decide +kernel
  obtain ⟨x, hrun, hx⟩ := Option.map_eq_some_iff.mp hfound
  simp only [Prod.mk.injEq] at hx
  exact ⟨x, hrun, hx.1, fun h => h.mp hx.2.1 hx.2.2⟩

end Penrose.Gpt

import Penrose.GptDevice

/-! What the functions of `gpt-utils` do on a faulty device: one rule for each function, which says what
has to be proved about every way it can return and every state in which it can be cut off. -/

namespace Penrose.Gpt

open ByteRegions CallTree

@[simp] theorem sys_bind {α : Type} (c : Syscall) (f : c.Reply → Sys α) :
    (sys c >>= f) = Program.call (S := sysSignature) c f := rfl

section Faulty

variable {g : Geometry} {C : Device → Prop} {s : Device}

/-- A call without an effect on the device, followed by the rest of the program. -/
theorem wp_pureCall {α : Type} {Q : α → Device → Prop} {c : Syscall} {f : c.Reply → Sys α} (hC : C s)
    (hcut : ∀ t, (faulty g).interrupt c s t → t = s)
    (hnext : ∀ r t, (faulty g).answer c s r t → t = s ∧ wp (faulty g) Q C (f r) s) :
    wp (faulty g) Q C (Program.call (S := sysSignature) c f) s := by
  refine ⟨hC, fun t ht => hcut t ht ▸ hC, fun r t hr => ?_⟩
  obtain ⟨rfl, h⟩ := hnext r t hr
  exact h

theorem media_of_answer {c : Syscall} {r : c.Reply} {t : Device} (hquiet : c.Quiet)
    (hanswer : (faulty g).answer c s r t) : t.media = s.media := by
  cases c with
  | write => cases hquiet
  | setBootLun => exact hanswer
  | ioctlBlkSszGet | malloc | calloc | lseekEnd | lseekSet | read => exact congrArg Device.media hanswer.1
  | _ => exact congrArg Device.media hanswer

theorem media_of_interrupt {c : Syscall} {t : Device} (hquiet : c.Quiet) (hcut : (faulty g).interrupt c s t) :
    t.media = s.media := by
  cases c with
  | write => cases hquiet
  | setBootLun => exact hcut
  | _ => exact congrArg Device.media hcut

/-- What a working device does, a faulty one may do. -/
theorem faulty_of_working {files : Files} {c : Syscall} {s t : Device} {r : c.Reply}
    (hanswer : (working g files).answer c s = (r, t)) : (faulty g).answer c s r t := by
  cases c with
  | write offset data =>
      simp only [working] at hanswer
      split_ifs at hanswer with hrange
      · cases hanswer
        exact Or.inr ⟨rfl, hrange.1, hrange.2, rfl⟩
      · cases hanswer
        exact Or.inl ⟨rfl, rfl, fun _ _ => rfl, fun _ => Or.inl rfl⟩
  | malloc size =>
      cases hanswer
      refine ⟨rfl, ?_⟩
      rintro buf hbuf
      cases hbuf
      exact List.length_replicate
  | lseekSet offset =>
      cases hanswer
      exact ⟨rfl, of_decide_eq_true⟩
  | ioctlBlkSszGet | calloc | lseekEnd | read =>
      cases hanswer
      exact ⟨rfl, Or.inr rfl⟩
  | _ =>
      cases hanswer
      rfl

theorem returns_of_run {α : Type} {files : Files} {p : Sys α} {a : α} {t : Device}
    (hrun : (working g files).run p s = some (a, t)) : Returns (faulty g) p s a t :=
  ((Machine.returns_iff_run _).mpr hrun).mono fun _ _ _ _ => faulty_of_working

/-- Where a run on a working device can be cut off, it can be on a faulty one. -/
theorem visits_of_cut {α : Type} {files : Files} {p : Sys α} {t : Device} (hcut : t ∈ (working g files).cuts p s) :
    Visits (faulty g) p s t := by
  have hvisit := (Machine.visits_iff_mem_cuts (working g files)).mpr hcut
  exact hvisit.mono (fun _ _ _ _ => faulty_of_working) fun _ _ _ hlost => False.elim hlost

theorem returns_of_trace {α : Type} (files : Files) {p : Sys α} {A : Set Device} {a : α} {t : Device}
    (htrace : (working g files).Trace p s A a t) : Returns (faulty g) p s a t :=
  returns_of_run htrace.run_eq

theorem run_of_wp {α : Type} {Q : α → Device → Prop} {files : Files} {p : Sys α} {a : α} {t : Device}
    (h : wp (faulty g) Q C p s) (hrun : (working g files).run p s = some (a, t)) : Q a t :=
  wp_returns h (returns_of_run hrun)

theorem wp_blkRead {Q : Int × Bytes → Device → Prop} {offset : Int} {buf : Bytes} (hC : C s)
    (herr : Q (-1, buf) s)
    (hok : 0 ≤ offset → offset + buf.length ≤ g.size → Q (0, slice s.media offset.toNat buf.length) s) :
    wp (faulty g) Q C (blkRead offset buf) s := by
  unfold blkRead
  rw [sys_bind]
  refine wp_pureCall hC (fun _ ht => ht) ?_
  rintro seek t ⟨rfl, hseek⟩
  refine ⟨rfl, ?_⟩
  cases hs : seek with
  | false => exact ⟨hC, herr⟩
  | true =>
      simp only [Bool.not_true, Bool.false_eq_true, if_false]
      rw [sys_bind]
      refine wp_pureCall hC (fun _ ht => ht) ?_
      rintro r t' ⟨rfl, hr⟩
      refine ⟨rfl, ?_⟩
      cases r with
      | none => exact ⟨hC, herr⟩
      | some data =>
          refine ⟨hC, ?_⟩
          rcases hr with hr | hr
          · cases hr
          · unfold Geometry.readAt at hr
            split_ifs at hr with hrange
            cases hr
            rw [length_slice, List.drop_length, List.append_nil]
            exact hok hrange.1 hrange.2

theorem wp_blkWrite {Q : Int → Device → Prop} {offset : Int} {buf : Bytes} (hC : C s)
    (herr : Q (-1) s)
    (htorn : 0 ≤ offset → ∀ t, TornWrite g offset buf s t → C t ∧ Q (-1) t)
    (hok : 0 ≤ offset → offset + buf.length ≤ g.size →
      C (s.write offset.toNat buf) ∧ Q (-1) (s.write offset.toNat buf) ∧ Q 0 (s.write offset.toNat buf)) :
    wp (faulty g) Q C (blkWrite offset buf) s := by
  unfold blkWrite
  rw [sys_bind]
  refine wp_pureCall hC (fun _ ht => ht) ?_
  rintro seek t ⟨rfl, hseek⟩
  refine ⟨rfl, ?_⟩
  cases hs : seek with
  | false => exact ⟨hC, herr⟩
  | true =>
      simp only [Bool.not_true, Bool.false_eq_true, if_false]
      rw [sys_bind]
      refine ⟨hC, fun t ht => (htorn (hseek hs) t ht).1, ?_⟩
      rintro r t (⟨rfl, hr⟩ | ⟨rfl, h0, hrange, rfl⟩)
      · exact htorn (hseek hs) t hr
      · obtain ⟨hCw, herrw, hokw⟩ := hok h0 hrange
        rw [sys_bind]
        refine wp_pureCall hCw (fun _ ht => ht) ?_
        rintro synced t rfl
        refine ⟨rfl, hCw, ?_⟩
        cases synced with
        | false => exact herrw
        | true => exact hokw

theorem wp_gptHeaderOffset {Q : Int → Device → Prop} {gpt : GptInstance} (hC : C s)
    (herr : ∀ offset < 0, Q offset s) (hok : Q (g.headerPos gpt) s) :
    wp (faulty g) Q C (gptHeaderOffset gpt g.blkSize) s := by
  cases gpt with
  | primaryGpt => exact ⟨hC, hok⟩
  | secondaryGpt =>
      have hroom := g.room
      unfold gptHeaderOffset
      rw [sys_bind]
      refine wp_pureCall hC (fun _ ht => ht) ?_
      rintro r t ⟨rfl, rfl | rfl⟩
      · exact ⟨rfl, hC, herr _ (by simp only [partitionCrcOffset] at hroom; omega)⟩
      · refine ⟨rfl, hC, ?_⟩
        by_cases hsize : g.blkSize ≤ g.size
        · rw [← Nat.cast_sub hsize]
          exact hok
        · exact herr _ (by omega)

/-- The calls that both header functions and `gpt2_set_boot_chain` start with. -/
theorem wp_blkSize_malloc {α : Type} {Q : α → Device → Prop} {err : Sys α} {f : Nat → Bytes → Sys α}
    (hC : C s) (herr : wp (faulty g) Q C err s)
    (hnext : ∀ buf, buf.length = g.blkSize → wp (faulty g) Q C (f g.blkSize buf) s) :
    wp (faulty g) Q C (do
      match ← sys .ioctlBlkSszGet with
      | none => err
      | some blkSize =>
      match ← sys (.malloc blkSize) with
      | none => err
      | some buf => f blkSize buf) s := by
  rw [sys_bind]
  refine wp_pureCall hC (fun _ ht => ht) ?_
  rintro r t ⟨rfl, rfl | rfl⟩
  · exact ⟨rfl, herr⟩
  · refine ⟨rfl, ?_⟩
    refine wp_pureCall hC (fun _ ht => ht) ?_
    rintro r t ⟨rfl, hr⟩
    refine ⟨rfl, ?_⟩
    cases r with
    | none => exact herr
    | some buf => exact hnext buf (hr buf rfl)

theorem wp_readGptHeader {Q : Option (Int × Bytes) → Device → Prop} {gpt : GptInstance} (hC : C s)
    (herr : Q none s)
    (hok : g.headerPos gpt + g.blkSize ≤ g.size → Q (some (g.headerPos gpt, g.header s.media gpt)) s) :
    wp (faulty g) Q C (readGptHeader gpt) s := by
  refine wp_blkSize_malloc hC ⟨hC, herr⟩ ?_
  intro buf hbuf
  refine wp_seq (wp_gptHeaderOffset (Q := fun offset t => t = s ∧ (offset < 0 ∨ offset = g.headerPos gpt))
    hC (fun _ hneg => ⟨rfl, Or.inl hneg⟩) ⟨rfl, Or.inr rfl⟩) ?_
  rintro offset t ⟨rfl, hoffset⟩
  by_cases hneg : offset < 0
  · rw [if_pos hneg]
    exact ⟨hC, herr⟩
  rw [if_neg hneg]
  obtain rfl : offset = g.headerPos gpt := hoffset.resolve_left hneg
  refine wp_seq (wp_blkRead (Q := fun x u => u = t ∧ (x.1 = -1 ∨ x = (0, g.header t.media gpt) ∧
      g.headerPos gpt + g.blkSize ≤ g.size)) hC ⟨rfl, Or.inl rfl⟩ ?_) ?_
  · intro _ hrange
    rw [hbuf] at hrange
    rw [hbuf, Int.toNat_natCast]
    exact ⟨rfl, Or.inr ⟨rfl, by exact_mod_cast hrange⟩⟩
  rintro ⟨r, gptHeader⟩ u ⟨rfl, hread⟩
  rcases hread with rfl | ⟨hread, hrange⟩
  · exact ⟨hC, herr⟩
  · obtain ⟨rfl, rfl⟩ := Prod.mk.inj hread
    exact ⟨hC, hok hrange⟩

section HeaderFunctions

variable {crc : Bytes → UInt32} {gpt : GptInstance}

theorem wp_gptGetState {Q : Int × GptState → Device → Prop} (hC : C s) (herr : Q (-1, .gptOk) s)
    (hok : ∀ state, g.headerPos gpt + g.blkSize ≤ g.size →
      headerState crc (g.header s.media gpt) = some state → Q (0, state) s) :
    wp (faulty g) Q C (gptGetState crc gpt) s := by
  refine wp_seq (wp_readGptHeader (Q := fun x t => t = s ∧ (x = none ∨
      x = some (↑(g.headerPos gpt), g.header s.media gpt) ∧ g.headerPos gpt + g.blkSize ≤ g.size))
    hC ⟨rfl, Or.inl rfl⟩ fun hrange => ⟨rfl, Or.inr ⟨rfl, hrange⟩⟩) ?_
  rintro x t ⟨rfl, rfl | ⟨rfl, hrange⟩⟩
  · exact ⟨hC, herr⟩
  · cases hstate : headerState crc (g.header t.media gpt) with
    | none =>
        simp only [hstate, Program.ofOption_none, Program.fault_bind]
        exact hC
    | some state =>
        simp only [hstate, Program.ofOption_some, Program.done_bind]
        exact ⟨hC, hok state hrange hstate⟩

/-- The header that is written is the one `setHeaderState` makes of the header on the device. -/
theorem wp_gptSetState {Q : Int → Device → Prop} {state : GptState} (hC : C s) (herr : Q (-1) s)
    (hok : ∀ gptHeader, setHeaderState crc state (g.header s.media gpt) = some (some gptHeader) →
      gptHeader.length = g.blkSize ∧ C (s.write (g.headerPos gpt) gptHeader) ∧
        Q (-1) (s.write (g.headerPos gpt) gptHeader) ∧ Q 0 (s.write (g.headerPos gpt) gptHeader)) :
    wp (faulty g) Q C (gptSetState crc gpt state) s := by
  refine wp_seq (wp_readGptHeader (Q := fun x t =>
    t = s ∧ (x = none ∨ x = some (↑(g.headerPos gpt), g.header s.media gpt))) hC
    ⟨rfl, Or.inl rfl⟩ fun _ => ⟨rfl, Or.inr rfl⟩) ?_
  rintro x t ⟨rfl, rfl | rfl⟩
  · exact ⟨hC, herr⟩
  cases hset : setHeaderState crc state (g.header t.media gpt) with
  | none =>
      simp only [hset, Program.ofOption_none, Program.fault_bind]
      exact hC
  | some written =>
      simp only [hset, Program.ofOption_some, Program.done_bind]
      cases written with
      | none => exact ⟨hC, herr⟩
      | some gptHeader =>
          obtain ⟨hlen, hCw, herrw, hokw⟩ := hok gptHeader hset
          refine wp_seq (wp_blkWrite (Q := fun r u => C u ∧ Q (if r != 0 then -1 else 0) u) hC
            ⟨hC, herr⟩ ?_ (fun _ _ => ⟨hCw, ⟨hCw, herrw⟩, ⟨hCw, hokw⟩⟩)) (fun r u h => h)
          intro _ u hu
          rcases hu.header ⟨hlen, gpt, rfl⟩ with rfl | rfl
          · exact ⟨hC, hC, herr⟩
          · exact ⟨hCw, hCw, herrw⟩

/-- The two writes at the end of `gpt2_set_boot_chain`. -/
theorem wp_chainWrites {Q : Int → Device → Prop} {start : Int} {pentries gptHeader : Bytes} (hC : C s)
    (herr : Q (-1) s) (hblk : gptHeader.length = g.blkSize)
    (hheader : C (s.write (g.headerPos .secondaryGpt) gptHeader) ∧
      Q (-1) (s.write (g.headerPos .secondaryGpt) gptHeader))
    (htorn : 0 ≤ start → ∀ t, TornWrite g start pentries (s.write (g.headerPos .secondaryGpt) gptHeader) t →
      C t ∧ Q (-1) t)
    (hdone : 0 ≤ start → start + pentries.length ≤ g.size →
      let t := (s.write (g.headerPos .secondaryGpt) gptHeader).write start.toNat pentries
      C t ∧ Q (-1) t ∧ Q 0 t) :
    wp (faulty g) Q C (do
      let r ← blkWrite (g.headerPos .secondaryGpt) gptHeader
      if r != 0 then
        return r
      blkWrite start pentries) s := by
  obtain ⟨hC1, hQ1⟩ := hheader
  refine wp_seq (wp_blkWrite (Q := fun r u => C u ∧ if r = 0 then
    u = s.write (g.headerPos .secondaryGpt) gptHeader else r = -1 ∧ Q (-1) u) hC ⟨hC, rfl, herr⟩ ?_ ?_) ?_
  · intro _ u hu
    rcases hu.header ⟨hblk, .secondaryGpt, rfl⟩ with rfl | rfl
    · exact ⟨hC, hC, rfl, herr⟩
    · exact ⟨hC1, hC1, rfl, hQ1⟩
  · exact fun _ _ => ⟨hC1, ⟨hC1, rfl, hQ1⟩, hC1, rfl⟩
  intro r u hu
  obtain ⟨hCu, hu⟩ := hu
  by_cases hr : r = 0
  · subst hr
    obtain rfl : u = _ := hu
    simp only [bne_self_eq_false, Bool.false_eq_true, if_false]
    exact wp_blkWrite hC1 hQ1 htorn hdone
  · rw [if_neg hr] at hu
    rw [if_pos (by simpa using hr), hu.1]
    exact ⟨hCu, hu.2⟩

/-- `gpt2_set_boot_chain` returns before its writes, or writes the secondary header and then the
secondary array; it gets that far only when the array CRC of the primary header is right. -/
theorem wp_gpt2SetBootChain {Q : Int → Device → Prop} {isUfs : Bool} {boot : BootChain} (hC : C s)
    (hearly : ∀ r, r < 0 ∨ r = 1 ∧ boot = .backupBoot → Q r s)
    (hwrite : ∀ pentries gptHeader : Bytes, BootChainPlan g crc isUfs boot s.media pentries →
      bootChainHeader crc (g.header s.media .secondaryGpt) (crc pentries).toNat = some gptHeader →
      let start := g.startOf (g.header s.media .secondaryGpt)
      let s₁ := s.write (g.headerPos .secondaryGpt) gptHeader
      let s₂ := s₁.write start.toNat pentries
      gptHeader.length = g.blkSize ∧ (C s₁ ∧ Q (-1) s₁) ∧
        (0 ≤ start → ∀ t, TornWrite g start pentries s₁ t → C t ∧ Q (-1) t) ∧
        (0 ≤ start → start + pentries.length ≤ g.size → C s₂ ∧ Q (-1) s₂ ∧ Q 0 s₂)) :
    wp (faulty g) Q C (gpt2SetBootChain crc isUfs boot) s := by
  have herr : Q (-1) s := hearly (-1) (Or.inl (by decide))
  refine wp_blkSize_malloc hC ⟨hC, herr⟩ ?_
  intro buf hbuf
  rw [sys_bind]
  refine wp_pureCall hC (fun _ ht => ht) ?_
  rintro (last : Int) t ⟨rfl, hlast⟩
  refine ⟨rfl, ?_⟩
  by_cases hneg : last - g.blkSize < 0
  · simp only [if_pos hneg]
    exact ⟨hC, herr⟩
  have hoffset : last - (g.blkSize : Int) = g.headerPos .secondaryGpt := by
    change last - _ = ((g.size - g.blkSize : Nat) : Int)
    rcases hlast with rfl | rfl <;> omega
  simp only [hoffset] at hneg ⊢
  rw [if_neg hneg]
  -- the primary header
  refine wp_seq (wp_blkRead (Q := fun x u => u = t ∧ (x.1 = -1 ∨ x = (0, g.header t.media .primaryGpt)))
    hC ⟨rfl, Or.inl rfl⟩ (fun _ _ => ⟨rfl, Or.inr (by rw [hbuf, Int.toNat_natCast]; rfl)⟩)) ?_
  rintro ⟨r, gptHeader⟩ u ⟨rfl, hread⟩
  rcases hread with rfl | hread
  · exact ⟨hC, herr⟩
  obtain ⟨rfl, rfl⟩ := Prod.mk.inj hread
  simp only [bne_self_eq_false, Bool.false_eq_true, if_false, pentriesStartOffset_header,
    get4Bytes_header (show pentrySizeOffset + 4 ≤ partitionCrcOffset + 4 by decide),
    get4Bytes_header (show partitionCrcOffset + 4 ≤ partitionCrcOffset + 4 by decide),
    pentriesArraySize_header, Program.ofOption_some, Program.done_bind]
  -- the primary array
  rw [sys_bind]
  refine wp_pureCall hC (fun _ ht => ht) ?_
  rintro r t ⟨rfl, rfl | rfl⟩
  · exact ⟨rfl, hC, herr⟩
  refine ⟨rfl, ?_⟩
  have harray : (g.entries t.media .primaryGpt).length = arraySizeOf (g.header t.media .primaryGpt) :=
    length_slice ..
  refine wp_seq (wp_blkRead (Q := fun x u => u = t ∧ (x.1 = -1 ∨ x = (0, g.entries t.media .primaryGpt) ∧
      0 ≤ g.startOf (g.header t.media .primaryGpt) ∧
      g.startOf (g.header t.media .primaryGpt) + arraySizeOf (g.header t.media .primaryGpt) ≤ g.size))
    hC ⟨rfl, Or.inl rfl⟩ ?_) ?_
  · intro h0 hrange
    rw [List.length_replicate] at hrange ⊢
    exact ⟨rfl, Or.inr ⟨rfl, h0, hrange⟩⟩
  rintro ⟨r, pentries⟩ u ⟨rfl, hread⟩
  rcases hread with rfl | ⟨hread, h0, hrange⟩
  · exact ⟨hC, herr⟩
  obtain ⟨rfl, rfl⟩ := Prod.mk.inj hread
  simp only [bne_self_eq_false, Bool.false_eq_true, if_false, crc32_of_length harray, Program.ofOption_some,
    Program.done_bind]
  by_cases hstored : word4 (g.header u.media .primaryGpt) partitionCrcOffset =
      (crc (g.entries u.media .primaryGpt)).toNat
  swap
  · rw [if_pos (by simpa using hstored)]
    exact ⟨hC, herr⟩
  rw [if_neg (by simpa using hstored)]
  -- the secondary header
  refine wp_seq (wp_blkRead (Q := fun x t => t = u ∧ (x.1 = -1 ∨ x = (0, g.header u.media .secondaryGpt)))
    hC ⟨rfl, Or.inl rfl⟩
    (fun _ _ => ⟨rfl, Or.inr (by rw [g.length_header, Int.toNat_natCast]; rfl)⟩)) ?_
  rintro ⟨r, gptHeader⟩ t ⟨rfl, hread⟩
  rcases hread with rfl | hread
  · exact ⟨hC, herr⟩
  obtain ⟨rfl, rfl⟩ := Prod.mk.inj hread
  simp only [bne_self_eq_false, Bool.false_eq_true, if_false, pentriesStartOffset_header,
    Program.ofOption_some, Program.done_bind]
  -- the new array and the new header
  cases hchain : bootChainArray isUfs boot (g.entries t.media .primaryGpt)
      (word4 (g.header t.media .primaryGpt) pentrySizeOffset) with
  | none => exact hC
  | some chained =>
  obtain ⟨r, pentries⟩ := chained
  obtain ⟨hlen, hr⟩ := bootChainArray_spec hchain
  simp only [Program.ofOption_some, Program.done_bind]
  rcases hr with rfl | ⟨rfl, hboot⟩
  swap
  · exact ⟨hC, hearly 1 (Or.inr ⟨rfl, hboot⟩)⟩
  simp only [bne_self_eq_false, Bool.false_eq_true, if_false, crc32_of_length (hlen.trans harray),
    Program.ofOption_some, Program.done_bind]
  cases hheader : bootChainHeader crc (g.header t.media .secondaryGpt) (crc pentries).toNat with
  | none => exact hC
  | some gptHeader =>
  obtain ⟨hblk, ⟨hC1, hQ1⟩, htorn, hdone⟩ :=
    hwrite pentries gptHeader ⟨h0, hrange, hstored, hchain⟩ hheader
  simp only [Program.ofOption_some, Program.done_bind]
  exact wp_chainWrites hC herr hblk ⟨hC1, hQ1⟩ htorn hdone

end HeaderFunctions

/-- Looking for the xbl nodes and switching the boot LUN leave the bytes of the device alone. -/
theorem wp_switchBootLun {Q : Int → Device → Prop} {isUfs : Bool} {chain : BootChain}
    (hC : ∀ t : Device, t.media = s.media → C t) (hQ : ∀ r (t : Device), t.media = s.media → Q r t) :
    wp (faulty g) Q C (switchBootLun isUfs chain) s := by
  refine wp_mono hQ hC ((only_switchBootLun isUfs chain).wp rfl ?_ ?_)
  · intro c t u hquiet ht hcut
    exact (media_of_interrupt hquiet hcut).trans ht
  · intro c t r u hquiet ht hanswer
    exact (media_of_answer hquiet hanswer).trans ht

end Faulty

end Penrose.Gpt

import Penrose.GptFaults

/-! The update stages never leave the disk without a valid GPT, unless the swap leaves the entry array. The
invariant is about the contents of the four regions: the primary array is never written, the primary header is
the original one or its corrupted form, and while it is corrupted the secondary GPT is valid. -/

namespace Penrose.Gpt

open ByteRegions CallTree

/-! ### The invariant on the contents of the regions -/

/-- The contents `v` that the update stages can leave when they started from `v₀`. -/
structure FailSafe (crc : Bytes → UInt32) (v₀ v : Contents) : Prop where
  primaryEntries : v (.entries .primaryGpt) = v₀ (.entries .primaryGpt)
  primaryHeader : v (.header .primaryGpt) = v₀ (.header .primaryGpt) ∨
    v (.header .primaryGpt) = corrupted crc (v₀ (.header .primaryGpt)) ∧ ValidGpt crc v .secondaryGpt
  secondaryFields : SameFields (v₀ (.header .secondaryGpt)) (v (.header .secondaryGpt))
  secondaryCrc : word4 (v (.header .secondaryGpt)) headerCrcOffset = headerSum crc (v (.header .secondaryGpt))

/-- The invariant, and the primary header is the original one. -/
structure PrimaryKept (crc : Bytes → UInt32) (v₀ v : Contents) : Prop extends FailSafe crc v₀ v where
  original : v (.header .primaryGpt) = v₀ (.header .primaryGpt)

section Contents

variable {crc : Bytes → UInt32} {v₀ v v' : Contents}

theorem PrimaryKept.refl (h : ValidGpt crc v₀ .secondaryGpt) : PrimaryKept crc v₀ v₀ :=
  ⟨⟨rfl, Or.inl rfl, SameFields.refl _, h.headerCrc⟩, rfl⟩

theorem FailSafe.valid (h : FailSafe crc v₀ v) (hv₀ : ValidGpt crc v₀ .primaryGpt) :
    ValidGpt crc v .primaryGpt ∨ ValidGpt crc v .secondaryGpt := by
  rcases h.primaryHeader with horiginal | ⟨-, hsecond⟩
  · exact Or.inl (hv₀.congr horiginal h.primaryEntries)
  · exact Or.inr hsecond

/-- A new secondary header with its own CRC, written while the primary header is the original one. -/
theorem PrimaryKept.setSecondary {gptHeader : Bytes} (h : PrimaryKept crc v₀ v)
    (hfields : SameFields (v (.header .secondaryGpt)) gptHeader)
    (hsum : word4 gptHeader headerCrcOffset = headerSum crc gptHeader) :
    PrimaryKept crc v₀ (Function.update v (.header .secondaryGpt) gptHeader) := by
  have hprim : Function.update v (.header .secondaryGpt) gptHeader (.header .primaryGpt) =
      v₀ (.header .primaryGpt) := by
    rw [Function.update_of_ne (by decide), h.original]
  refine ⟨⟨?_, Or.inl hprim, ?_, ?_⟩, hprim⟩
  · rw [Function.update_of_ne (by decide), h.primaryEntries]
  · rw [Function.update_self]
    exact h.secondaryFields.trans hfields
  · rw [Function.update_self]
    exact hsum

/-- Anything may happen to the secondary array while the primary header is the original one. -/
theorem PrimaryKept.secondaryEntries (h : PrimaryKept crc v₀ v)
    (hsame : ∀ r, r ≠ .entries .secondaryGpt → v' r = v r) : PrimaryKept crc v₀ v' := by
  have hheader : v' (.header .primaryGpt) = v₀ (.header .primaryGpt) := by
    rw [hsame _ (by decide), h.original]
  refine ⟨⟨?_, Or.inl hheader, ?_, ?_⟩, hheader⟩
  · rw [hsame _ (by decide), h.primaryEntries]
  · rw [hsame _ (by decide)]
    exact h.secondaryFields
  · rw [hsame _ (by decide)]
    exact h.secondaryCrc

/-- The primary header may be corrupted once the secondary GPT is valid. -/
theorem PrimaryKept.corruptPrimary (h : PrimaryKept crc v₀ v) (hsecond : ValidGpt crc v .secondaryGpt) :
    FailSafe crc v₀ (Function.update v (.header .primaryGpt) (corrupted crc (v (.header .primaryGpt)))) := by
  refine ⟨?_, Or.inr ⟨?_, ?_⟩, ?_, ?_⟩
  · rw [Function.update_of_ne (by decide), h.primaryEntries]
  · rw [Function.update_self, h.original]
  · exact hsecond.congr (Function.update_of_ne (by decide) ..) (Function.update_of_ne (by decide) ..)
  · rw [Function.update_of_ne (by decide)]
    exact h.secondaryFields
  · rw [Function.update_of_ne (by decide)]
    exact h.secondaryCrc

/-- Repairing the primary header gives the original one back. -/
theorem FailSafe.repairPrimary (h : FailSafe crc v₀ v) (hv₀ : ValidGpt crc v₀ .primaryGpt) :
    PrimaryKept crc v₀ (Function.update v (.header .primaryGpt) (repaired crc (v (.header .primaryGpt)))) := by
  have hback : repaired crc (v (.header .primaryGpt)) = v₀ (.header .primaryGpt) := by
    rcases h.primaryHeader with horiginal | ⟨hcorrupted, -⟩
    · rw [horiginal, repaired_of_ok hv₀.fits hv₀.headerState]
    · rw [hcorrupted, repaired_corrupted hv₀.fits, repaired_of_ok hv₀.fits hv₀.headerState]
  have hheader : Function.update v (.header .primaryGpt) (repaired crc (v (.header .primaryGpt)))
      (.header .primaryGpt) = v₀ (.header .primaryGpt) := by
    rw [Function.update_self, hback]
  refine ⟨⟨?_, Or.inl hheader, ?_, ?_⟩, hheader⟩
  · rw [Function.update_of_ne (by decide), h.primaryEntries]
  · rw [Function.update_of_ne (by decide)]
    exact h.secondaryFields
  · rw [Function.update_of_ne (by decide)]
    exact h.secondaryCrc

/-- While the state of the primary header is `GPT_OK` it is the original one. -/
theorem FailSafe.primaryKept (h : FailSafe crc v₀ v) (hv₀ : ValidGpt crc v₀ .primaryGpt)
    (hstate : headerState crc (v (.header .primaryGpt)) ≠ some .gptBadSignature) :
    PrimaryKept crc v₀ v := by
  rcases h.primaryHeader with horiginal | ⟨hcorrupted, -⟩
  · exact ⟨h, horiginal⟩
  · rw [hcorrupted, headerState_corrupted hv₀.fits] at hstate
    exact absurd rfl hstate

end Contents

/-! ### The stages keep the invariant -/

section Stages

variable {g : Geometry} {crc : Bytes → UInt32} {m₀ : Nat → UInt8} {s : Device} {isUfs : Bool}

/-- The invariant on a device that started from `m₀`. -/
def Geometry.KeepsGpt (g : Geometry) (crc : Bytes → UInt32) (m₀ : Nat → UInt8) (s : Device) : Prop :=
  FailSafe crc (g.view m₀ m₀) (g.view m₀ s.media)

def Geometry.KeepsPrimary (g : Geometry) (crc : Bytes → UInt32) (m₀ : Nat → UInt8) (s : Device) : Prop :=
  PrimaryKept crc (g.view m₀ m₀) (g.view m₀ s.media)

theorem Geometry.KeepsPrimary.keepsGpt (h : g.KeepsPrimary crc m₀ s) : g.KeepsGpt crc m₀ s :=
  PrimaryKept.toFailSafe h

/-- The fields of both headers are those of the disk that the run started from. -/
theorem Geometry.KeepsGpt.sameFields (hd : g.Healthy crc m₀) (h : g.KeepsGpt crc m₀ s)
    (gpt : GptInstance) : SameFields (g.header m₀ gpt) (g.header s.media gpt) := by
  cases gpt with
  | secondaryGpt => exact h.secondaryFields
  | primaryGpt =>
      rcases h.primaryHeader with horiginal | ⟨hcorrupted, -⟩
      · rw [Geometry.view_header, Geometry.view_header] at horiginal
        rw [horiginal]
        exact SameFields.refl _
      · rw [Geometry.view_header, Geometry.view_header] at hcorrupted
        rw [hcorrupted]
        exact SameFields.corrupted (hd.validGpt .primaryGpt).fits

theorem Geometry.KeepsGpt.fits (hd : g.Healthy crc m₀) (h : g.KeepsGpt crc m₀ s) (gpt : GptInstance) :
    HeaderFits (g.header s.media gpt) :=
  (h.sameFields hd gpt).fits (hd.validGpt gpt).fits

/-- Setting the state of the secondary header keeps the invariant while the primary one is kept. -/
theorem wp_setSecondary {state : GptState} (hd : g.Healthy crc m₀) (h : g.KeepsPrimary crc m₀ s) :
    wp (faulty g) (fun _ _ => True) (g.KeepsGpt crc m₀) (gptSetState crc .secondaryGpt state) s := by
  have hfits := h.keepsGpt.fits hd .secondaryGpt
  have hwrite : ∀ gptHeader, SameFields (g.header s.media .secondaryGpt) gptHeader →
      word4 gptHeader headerCrcOffset = headerSum crc gptHeader →
      g.KeepsGpt crc m₀ (s.write (g.headerPos .secondaryGpt) gptHeader) := by
    intro gptHeader hfields hsum
    rw [Geometry.KeepsGpt, view_writeHeader hd (hfields.length.trans (g.length_header ..))]
    exact (h.setSecondary hfields hsum).toFailSafe
  apply wp_gptSetState h.keepsGpt trivial
  intro gptHeader hset
  cases state with
  | gptOk =>
      rw [setHeaderState_ok hfits] at hset
      cases hset
      refine ⟨Geometry.length_repaired_header hfits, ?_, trivial, trivial⟩
      exact hwrite _ (SameFields.repaired hfits) (word4_sealed hfits.withSignature)
  | gptBadSignature =>
      rw [setHeaderState_badSignature hfits] at hset
      cases hset
      refine ⟨Geometry.length_corrupted_header hfits, ?_, trivial, trivial⟩
      exact hwrite _ (SameFields.corrupted hfits) (word4_sealed hfits.withoutSignature)
  | gptBadCrc => cases hset

/-- `gpt2_set_boot_chain` writes only the secondary GPT, and has made it valid when it returns 0. -/
theorem wp_setBootChain {boot : BootChain} (hd : g.Healthy crc m₀) (h : g.KeepsPrimary crc m₀ s) :
    wp (faulty g) (fun r t => g.KeepsPrimary crc m₀ t ∧
        (r = 0 → (g.header s.media .secondaryGpt).take 9 = gptSignature →
          ValidGpt crc (g.view m₀ t.media) .secondaryGpt))
      (g.KeepsGpt crc m₀) (gpt2SetBootChain crc isUfs boot) s := by
  have hfits := h.keepsGpt.fits hd .secondaryGpt
  apply wp_gpt2SetBootChain h.keepsGpt
  · rintro r hr
    refine ⟨h, fun hzero => ?_⟩
    subst hzero
    rcases hr with hr | ⟨hr, -⟩ <;> cases hr
  intro pentries gptHeader hplan hheader
  rw [bootChainHeader_eq hfits] at hheader
  cases hheader
  have hblk : (withArrayCrc crc (g.header s.media .secondaryGpt) (crc pentries).toNat).length = g.blkSize :=
    Geometry.length_withArrayCrc_header hfits _
  have hfields := h.keepsGpt.sameFields hd .secondaryGpt
  have harray : pentries.length = g.regionLen m₀ (.entries .secondaryGpt) := by
    rw [hplan.length, ← hd.regionLen_entries .primaryGpt .secondaryGpt]
    exact (h.keepsGpt.sameFields hd .primaryGpt).arraySizeOf
  -- the secondary header is written
  have h₁ : g.KeepsPrimary crc m₀ (s.write (g.headerPos .secondaryGpt)
      (withArrayCrc crc (g.header s.media .secondaryGpt) (crc pentries).toNat)) := by
    rw [Geometry.KeepsPrimary, view_writeHeader hd hblk]
    exact h.setSecondary (SameFields.withArrayCrc hfits _) (word4_sealed (hfits.withArrayWord _))
  refine ⟨hblk, ⟨h₁.keepsGpt, h₁, fun hzero => by cases hzero⟩, ?_, ?_⟩
  · intro _ t ht
    have ht' : g.KeepsPrimary crc m₀ t := by
      apply PrimaryKept.secondaryEntries h₁
      intro r hr
      have hout := ht.outside
      rw [harray, hfields.startOf] at hout
      exact Geometry.view_of_sameOutside hd.layout.disjoint hr hout
    exact ⟨ht'.keepsGpt, ht', fun hzero => by cases hzero⟩
  · intro _ _
    have h₂ := view_writeEntries hd (s := s.write (g.headerPos .secondaryGpt)
      (withArrayCrc crc (g.header s.media .secondaryGpt) (crc pentries).toNat)) hfields harray
    have hkept : g.KeepsPrimary crc m₀ ((s.write (g.headerPos .secondaryGpt)
        (withArrayCrc crc (g.header s.media .secondaryGpt) (crc pentries).toNat)).write
        (g.startOf (g.header s.media .secondaryGpt)).toNat pentries) := by
      apply PrimaryKept.secondaryEntries h₁
      intro r hr
      rw [h₂, Function.update_of_ne hr]
    refine ⟨hkept.keepsGpt, ⟨hkept, fun hzero => by cases hzero⟩, hkept, fun _ hsig => ?_⟩
    apply validGpt_withArrayCrc pentries hfits hsig
    · rw [h₂, view_writeHeader hd hblk, Function.update_of_ne (by decide), Function.update_self]
    · rw [h₂, Function.update_self]

/-- The boot LUN is not on the disk. -/
theorem wp_keepsGpt_switchBootLun {chain : BootChain} (h : g.KeepsGpt crc m₀ s) :
    wp (faulty g) (fun _ t => t.media = s.media) (g.KeepsGpt crc m₀) (switchBootLun isUfs chain) s := by
  refine wp_switchBootLun ?_ fun _ _ ht => ht
  intro t ht
  rw [Geometry.KeepsGpt, ht]
  exact h

theorem wp_runUpdateMain (hd : g.Healthy crc m₀) (h : g.KeepsPrimary crc m₀ s)
    (hsecond : headerState crc (g.header s.media .secondaryGpt) = some .gptOk) :
    wp (faulty g) (fun _ _ => True) (g.KeepsGpt crc m₀) (runStage crc isUfs .updateMain) s := by
  apply wp_seq (wp_keepsGpt_switchBootLun h.keepsGpt)
  intro r t ht
  have hmain : g.KeepsPrimary crc m₀ t := by
    rw [Geometry.KeepsPrimary, ht]
    exact h
  by_cases hr : r = 0
  swap
  · rw [if_pos (by simpa using hr)]
    exact ⟨hmain.keepsGpt, trivial⟩
  subst hr
  apply wp_seq (wp_setBootChain hd hmain)
  intro r u hchain
  obtain ⟨hu, hvalid⟩ := hchain
  by_cases hr : r = 0
  swap
  · rw [if_pos (by simpa using hr)]
    exact ⟨hu.keepsGpt, trivial⟩
  subst hr
  have hsig : (g.header t.media .secondaryGpt).take 9 = gptSignature := by
    rw [ht]
    exact ((headerState_eq_ok (h.keepsGpt.fits hd .secondaryGpt)).mp hsecond).2
  have hfits := hu.keepsGpt.fits hd .primaryGpt
  apply wp_gptSetState hu.keepsGpt trivial
  intro gptHeader hset
  rw [setHeaderState_badSignature hfits] at hset
  cases hset
  have hblk : (corrupted crc (g.header u.media .primaryGpt)).length = g.blkSize :=
    Geometry.length_corrupted_header hfits
  refine ⟨hblk, ?_, trivial, trivial⟩
  rw [Geometry.KeepsGpt, view_writeHeader hd hblk]
  exact PrimaryKept.corruptPrimary hu (hvalid rfl hsig)

theorem wp_runUpdateBackup (hd : g.Healthy crc m₀) (h : g.KeepsGpt crc m₀ s) :
    wp (faulty g) (fun _ _ => True) (g.KeepsGpt crc m₀) (runStage crc isUfs .updateBackup) s := by
  apply wp_seq (wp_keepsGpt_switchBootLun h)
  intro r t ht
  have hback : g.KeepsGpt crc m₀ t := by
    rw [Geometry.KeepsGpt, ht]
    exact h
  by_cases hr : r = 0
  swap
  · rw [if_pos (by simpa using hr)]
    exact ⟨hback, trivial⟩
  subst hr
  have hfits := hback.fits hd .primaryGpt
  have hset : wp (faulty g) (fun r u => if r = 0 then g.KeepsPrimary crc m₀ u else g.KeepsGpt crc m₀ u)
      (g.KeepsGpt crc m₀) (gptSetState crc .primaryGpt .gptOk) t := by
    apply wp_gptSetState hback hback
    intro gptHeader hset
    rw [setHeaderState_ok hfits] at hset
    cases hset
    have hblk : (repaired crc (g.header t.media .primaryGpt)).length = g.blkSize :=
      Geometry.length_repaired_header hfits
    have hrepaired : g.KeepsPrimary crc m₀
        (t.write (g.headerPos .primaryGpt) (repaired crc (g.header t.media .primaryGpt))) := by
      rw [Geometry.KeepsPrimary, view_writeHeader hd hblk]
      exact FailSafe.repairPrimary hback (hd.validGpt .primaryGpt)
    exact ⟨hblk, hrepaired.keepsGpt, hrepaired.keepsGpt, hrepaired⟩
  apply wp_seq hset
  intro r u hu
  by_cases hr : r = 0
  · subst hr
    exact wp_setSecondary hd hu
  · rw [if_neg hr] at hu
    rw [if_pos (by simpa using hr)]
    exact ⟨hu, trivial⟩

theorem wp_runUpdateFinalize (hd : g.Healthy crc m₀) (h : g.KeepsPrimary crc m₀ s) :
    wp (faulty g) (fun _ _ => True) (g.KeepsGpt crc m₀) (runStage crc isUfs .updateFinalize) s := by
  apply wp_seq (wp_setBootChain hd h)
  intro r t hchain
  obtain ⟨ht, -⟩ := hchain
  by_cases hr : r < 0
  · rw [if_pos hr]
    exact ⟨ht.keepsGpt, trivial⟩
  · rw [if_neg hr]
    exact wp_setSecondary hd ht

/-- The stage that the headers stand for keeps one valid GPT throughout. -/
theorem wp_runStage {stage : BootUpdateStage} (hd : g.Healthy crc m₀) (h : g.KeepsGpt crc m₀ s)
    {gptPrim gptSecond : GptState} (hprim : headerState crc (g.header s.media .primaryGpt) = some gptPrim)
    (hsecond : headerState crc (g.header s.media .secondaryGpt) = some gptSecond)
    (hstage : internalStage gptPrim gptSecond = some stage) :
    wp (faulty g) (fun _ _ => True) (g.KeepsGpt crc m₀) (runStage crc isUfs stage) s := by
  have hkept : gptPrim ≠ .gptBadSignature → g.KeepsPrimary crc m₀ s := by
    intro hne
    apply FailSafe.primaryKept h (hd.validGpt .primaryGpt)
    rw [Geometry.view_header, hprim]
    exact fun heq => hne (Option.some.inj heq)
  cases stage with
  | updateMain =>
      obtain ⟨rfl, rfl⟩ : gptPrim = .gptOk ∧ gptSecond = .gptOk := by
        revert hstage
        cases gptPrim <;> cases gptSecond <;> decide
      exact wp_runUpdateMain hd (hkept (by decide)) hsecond
  | updateBackup => exact wp_runUpdateBackup hd h
  | updateFinalize =>
      have hne : gptPrim ≠ .gptBadSignature := by
        intro heq
        subst heq
        revert hstage
        cases gptSecond <;> decide
      exact wp_runUpdateFinalize hd (hkept hne)

theorem wp_prepareOpened {stage : BootUpdateStage} (hd : g.Healthy crc m₀) (h : g.KeepsGpt crc m₀ s) :
    wp (faulty g) (fun _ _ => True) (g.KeepsGpt crc m₀) (prepareOpened crc isUfs stage) s := by
  have hget : ∀ gpt, wp (faulty g) (fun x t => t = s ∧ (x.1 = 0 →
      headerState crc (g.header s.media gpt) = some x.2)) (g.KeepsGpt crc m₀) (gptGetState crc gpt) s :=
    fun gpt => wp_gptGetState h ⟨rfl, fun hzero => by cases hzero⟩ fun state _ hstate => ⟨rfl, fun _ => hstate⟩
  apply wp_seq (hget .primaryGpt)
  rintro ⟨r, gptPrim⟩ t ⟨rfl, hprim⟩
  by_cases hr : r = 0
  swap
  · simp only
    rw [if_pos (by simpa using hr)]
    exact ⟨h, trivial⟩
  subst hr
  apply wp_seq (hget .secondaryGpt)
  rintro ⟨r, gptSecond⟩ u ⟨rfl, hsecond⟩
  by_cases hr : r = 0
  swap
  · simp only
    rw [if_pos (by simpa using hr)]
    exact ⟨h, trivial⟩
  subst hr
  simp only [bne_self_eq_false, Bool.false_eq_true, if_false]
  cases hinternal : internalStage gptPrim gptSecond with
  | none => exact ⟨h, trivial⟩
  | some internal =>
      by_cases hset : stage.toInt = internal.toInt - 1
      · simp only [if_pos hset]
        exact ⟨h, trivial⟩
      by_cases hstage : stage ≠ internal
      · simp only [if_neg hset, if_pos hstage]
        exact ⟨h, trivial⟩
      obtain rfl : stage = internal := not_not.mp hstage
      simp only [if_neg hset, if_neg hstage]
      exact wp_runStage hd h (hprim rfl) (hsecond rfl) hinternal

theorem wp_preparePartitions {stage : BootUpdateStage} {devPath : String} (hd : g.Healthy crc m₀)
    (h : g.KeepsGpt crc m₀ s) :
    wp (faulty g) (fun _ _ => True) (g.KeepsGpt crc m₀) (preparePartitions crc isUfs stage devPath) s := by
  unfold preparePartitions
  rw [sys_bind]
  refine wp_pureCall h (fun _ ht => ht) ?_
  rintro opened t rfl
  refine ⟨rfl, ?_⟩
  cases opened with
  | false => exact ⟨h, trivial⟩
  | true =>
      apply wp_seq (wp_returned (wp_prepareOpened hd h))
      rintro r t ⟨ht, -⟩
      refine wp_pureCall ht (fun _ hu => hu) ?_
      rintro synced u rfl
      exact ⟨rfl, ht, trivial⟩

/-! ### Accesses outside the entry array -/

/-- The swap leaves the array in none of its rounds, on the primary array of the disk. -/
def Geometry.SwapInBounds (g : Geometry) (isUfs : Bool) (m : Nat → UInt8) : Prop :=
  RoundsInBounds isUfs (word4 (g.header m .primaryGpt) pentrySizeOffset) (g.entries m .primaryGpt)

/-- The array that the swap reads is the one of the disk that the run started from. -/
theorem Geometry.KeepsGpt.swapInBounds_iff (hd : g.Healthy crc m₀) (h : g.KeepsGpt crc m₀ s) :
    g.SwapInBounds isUfs s.media ↔ g.SwapInBounds isUfs m₀ := by
  have hfields := h.sameFields hd .primaryGpt
  have hentries : g.entries s.media .primaryGpt = g.entries m₀ .primaryGpt := by
    rw [← Geometry.view_entries hfields]
    exact h.primaryEntries
  rw [Geometry.SwapInBounds, Geometry.SwapInBounds, hentries, hfields.pentrySize]

/-- While the invariant holds, only the swap can leave its buffer: the headers keep their sizes, and the secondary
array lies apart from them. -/
theorem Geometry.KeepsGpt.staysInBuffers (hd : g.Healthy crc m₀) (hswap : g.SwapInBounds isUfs m₀)
    (h : g.KeepsGpt crc m₀ s) (stage : BootUpdateStage) : StaysInBuffers g crc isUfs stage s.media := by
  have hheaders : ∀ gpt, g.HeaderCovered s.media gpt := fun gpt => headerFits_iff.mp (h.fits hd gpt)
  refine ⟨hheaders, fun _ boot again _ _ => ⟨fun _ => (h.swapInBounds_iff hd).mpr hswap, ?_⟩⟩
  intro written hchained _ _
  have hlen : written.length = g.regionLen m₀ (.entries .secondaryGpt) := by
    rw [(bootChainArray_spec hchained).1, Geometry.entries, length_slice,
      ← hd.regionLen_entries .primaryGpt .secondaryGpt]
    exact (h.sameFields hd .primaryGpt).arraySizeOf
  have hkept : g.header (splice s.media (g.startOf (g.header s.media .secondaryGpt)).toNat written) again =
      g.header s.media again := by
    apply slice_splice_of_apart
    rw [hlen, (h.sameFields hd .secondaryGpt).startOf]
    exact hd.layout.disjoint (.header again) (.entries .secondaryGpt) (by simp)
  rw [Geometry.HeaderCovered, hkept]
  exact hheaders again

theorem not_faults_of_keepsGpt {stage : BootUpdateStage} {devPath : String} (hd : g.Healthy crc m₀)
    (hswap : g.SwapInBounds isUfs m₀) (h : g.KeepsGpt crc m₀ s) :
    ¬ Faults (faulty g) (preparePartitions crc isUfs stage devPath) s := by
  rw [faults_preparePartitions_iff, faults_prepareOpened_iff (Geometry.two_le_blocks
    (hd.layout.onDevice (.header .primaryGpt))), not_not]
  exact h.staysInBuffers hd hswap stage

/-- On a disk with two valid GPTs `UPDATE_MAIN` makes the swap, and leaves the array if the swap does. -/
theorem faults_updateMain {devPath : String} (hd : g.Healthy crc s.media) (hswap : ¬ g.SwapInBounds isUfs s.media) :
    Faults (faulty g) (preparePartitions crc isUfs .updateMain devPath) s := by
  have hstate : ∀ gpt, stateOf crc (g.header s.media gpt) = .gptOk := by
    intro gpt
    have hvalid := hd.validGpt gpt
    have hstate : headerState crc (g.header s.media gpt) = some (stateOf crc (g.header s.media gpt)) :=
      headerState_of_covered (headerFits_iff.mp hvalid.fits)
    exact Option.some.inj (hstate.symm.trans hvalid.headerState)
  have hread : ArrayRead g crc s.media := by
    refine ⟨hd.layout.start_nonneg _, ?_, (hd.valid .primaryGpt).arrayCrc⟩
    have hstart := hd.layout.start_nonneg .primaryGpt
    have hdevice := hd.layout.onDevice (.entries .primaryGpt)
    simp only [Geometry.regionPos, Geometry.regionLen] at hdevice
    omega
  rw [faults_preparePartitions_iff, faults_prepareOpened_iff (Geometry.two_le_blocks
    (hd.layout.onDevice (.header .primaryGpt)))]
  intro hstays
  have hchain := hstays.chain (by rw [hstate, hstate]; decide) .backupBoot .primaryGpt rfl hread
  exact hswap (hchain.rounds rfl)

/-! ### Sequences of calls -/

/-- Every call of `prepare_partitions`. -/
def updateCalls (crc : Bytes → UInt32) (isUfs : Bool) : Set (Sys Int) :=
  {p | ∃ stage devPath, p = preparePartitions crc isUfs stage devPath}

theorem keepsGpt_of_reachable {t : Device} (hd : g.Healthy crc s.media) (hswap : g.SwapInBounds isUfs s.media)
    (hrun : Reachable (faulty g) (updateCalls crc isUfs) s t) : g.KeepsGpt crc s.media t := by
  apply hrun.invariant (I := g.KeepsGpt crc s.media)
  · rintro p ⟨stage, devPath, rfl⟩ u hu
    exact wp_preparePartitions hd hu
  · rintro p ⟨stage, devPath, rfl⟩ u hu
    exact not_faults_of_keepsGpt hd hswap hu
  · exact (PrimaryKept.refl (hd.validGpt .secondaryGpt)).toFailSafe

/-- A device without a valid GPT. -/
def blank : Device := ⟨fun _ => 0, 0⟩

theorem not_fullyValid_blank (gpt : GptInstance) : ¬ g.FullyValid blank.media crc gpt := by
  intro hvalid
  have hsignature := hvalid.signature
  have hzeros : g.header blank.media gpt = List.replicate g.blkSize 0 := by
    rw [Geometry.header, slice, blank, List.map_const', List.length_range]
  rw [hzeros, List.take_replicate] at hsignature
  have hhead := congrArg List.head? hsignature
  rw [Nat.min_eq_left (le_trans (by decide) g.room)] at hhead
  revert hhead
  decide

/-- Where the swap leaves its array, a call of `UPDATE_MAIN` may leave anything on the disk. -/
theorem exists_reachable_invalid (hd : g.Healthy crc s.media) (hswap : ¬ g.SwapInBounds isUfs s.media) :
    ∃ t, Reachable (faulty g) (updateCalls crc isUfs) s t ∧
      ¬ (g.FullyValid t.media crc .primaryGpt ∨ g.FullyValid t.media crc .secondaryGpt) := by
  have hcall : preparePartitions crc isUfs .updateMain "" ∈ updateCalls crc isUfs := ⟨_, _, rfl⟩
  refine ⟨blank, Reachable.of_faults hcall (faults_updateMain hd hswap) blank, ?_⟩
  exact fun hvalid => hvalid.elim (not_fullyValid_blank _) (not_fullyValid_blank _)

/-- One of the two GPTs is valid in every state reached, whatever stages are asked for, whichever operations fail and
wherever power is lost, exactly if the swap stays in the primary array that the disk starts with; for entries that do
not overlap that is said of the array as it is. -/
theorem preparePartitions_failSafe_iff (hd : g.Healthy crc s.media) :
    ((∀ t, Reachable (faulty g) (updateCalls crc isUfs) s t →
        g.FullyValid t.media crc .primaryGpt ∨ g.FullyValid t.media crc .secondaryGpt) ↔
      g.SwapInBounds isUfs s.media) ∧
    (ptnEntrySize ≤ word4 (g.header s.media .primaryGpt) pentrySizeOffset →
      (g.SwapInBounds isUfs s.media ↔ ∀ name ∈ ptnSwapList, skipsName isUfs name = false →
        RoundInBounds (word4 (g.header s.media .primaryGpt) pentrySizeOffset)
          (g.entries s.media .primaryGpt) name)) := by
  refine ⟨⟨?_, ?_⟩, roundsInBounds_iff⟩
  · intro hsafe
    by_contra hswap
    obtain ⟨t, hrun, hinvalid⟩ := exists_reachable_invalid hd hswap
    exact hinvalid (hsafe t hrun)
  · intro hswap t hrun
    have hkept := keepsGpt_of_reachable hd hswap hrun
    exact (hkept.valid (hd.validGpt .primaryGpt)).imp
      (Geometry.fullyValid_iff (hkept.sameFields hd .primaryGpt)).mpr
      (Geometry.fullyValid_iff (hkept.sameFields hd .secondaryGpt)).mpr

end Stages

/-! ### Two disks -/

theorem sample_swapInBounds (isUfs : Bool) : sampleImage.geometry.SwapInBounds isUfs sampleImage.media := by
  have hword : word4 (sampleImage.geometry.header sampleImage.media .primaryGpt) pentrySizeOffset = 128 := by
    rw [Image.header_media]
    decide +kernel
  have hentries : sampleImage.geometry.entries sampleImage.media .primaryGpt = sampleEntries :=
    Image.entries_media sample_describes .primaryGpt
  rw [Geometry.SwapInBounds, hword, hentries, roundsInBounds_iff (by decide)]
  exact fun name _ _ => roundInBounds_of_whole (by decide) ⟨2, by decide +kernel⟩ name

/-- A chain whose array was on the disk already. -/
theorem slice_of_withChain {g : Geometry} {crc : Bytes → UInt32} {s : Device} {pentries : Bytes}
    (h : (s.withChain g crc pentries).media = s.media) :
    slice s.media (g.startOf (g.header s.media .secondaryGpt)).toNat pentries.length = pentries := by
  have hstored : slice (s.withChain g crc pentries).media (g.startOf (g.header s.media .secondaryGpt)).toNat
      pentries.length = pentries := slice_splice_self ..
  rwa [h] at hstored

theorem sample_withChain_ne :
    (sampleDevice.withChain sampleImage.geometry byteSum sampleSwapped).media ≠ sampleDevice.media := by
  intro hsame
  have hstored := slice_of_withChain hsame
  have hlen : sampleSwapped.length = sampleImage.geometry.regionLen sampleImage.media (.entries .secondaryGpt) := by
    rw [Geometry.regionLen, Image.header_media]
    decide +kernel
  have hentries : sampleImage.geometry.entries sampleImage.media .secondaryGpt = sampleEntries :=
    Image.entries_media sample_describes .secondaryGpt
  rw [hlen] at hstored
  have hswapped : sampleSwapped = sampleEntries := hstored.symm.trans hentries
  revert hswapped
  decide +kernel

/-- `UPDATE_MAIN` is cut off when the secondary array has been written, and is called again. -/
theorem preparePartitions_failSafe_iff_sample :
    ∃ c t, Visits (faulty sampleImage.geometry) (preparePartitions byteSum false .updateMain "/dev/block/sda")
        sampleDevice c ∧ c.media ≠ sampleDevice.media ∧
      Returns (faulty sampleImage.geometry) (preparePartitions byteSum false .updateMain "/dev/block/sda") c 0 t ∧
      t.media ≠ c.media ∧
      (sampleImage.geometry.FullyValid t.media byteSum .primaryGpt ∨
        sampleImage.geometry.FullyValid t.media byteSum .secondaryGpt) := by
  have hmem : sampleDevice.withChain sampleImage.geometry byteSum sampleSwapped ∈
      (working sampleImage.geometry sampleFiles).cuts
        (preparePartitions byteSum false .updateMain "/dev/block/sda") sampleDevice := by
    rw [(sample_updateMain false _).mem_cuts_iff]
    simp
  have hcut := visits_of_cut hmem
  have hagain := returns_of_run (sample_retried hmem)
  refine ⟨_, _, hcut, sample_withChain_ne, hagain, ?_, ?_⟩
  · intro hsame
    have hstate := sample_afterMain_state
    rw [hsame, sample_withChain_primary, sample_state] at hstate
    cases hstate
  · have hcall : preparePartitions byteSum false .updateMain "/dev/block/sda" ∈ updateCalls byteSum false :=
      ⟨_, _, rfl⟩
    apply (preparePartitions_failSafe_iff (s := sampleDevice) sample_healthy).1.mpr (sample_swapInBounds false)
    exact (Reachable.of_visits hcall hcut).trans (Reachable.of_visits hcall hagain.visits)

/-- The swap leaves an array whose last entry is cut off, and after that nothing is known of the disk. -/
theorem not_failSafe_cut : cutImage.geometry.Healthy byteSum cutImage.media ∧
    ¬ ∀ t, Reachable (faulty cutImage.geometry) (updateCalls byteSum false) ⟨cutImage.media, 1⟩ t →
      cutImage.geometry.FullyValid t.media byteSum .primaryGpt ∨
        cutImage.geometry.FullyValid t.media byteSum .secondaryGpt := by
  have hswap : ¬ cutImage.geometry.SwapInBounds false cutImage.media := by
    have hentries : cutImage.geometry.entries cutImage.media .primaryGpt = cutEntries :=
      Image.entries_media cut_describes .primaryGpt
    rw [Geometry.SwapInBounds, cut_pentrySize, hentries, ← gptBootChainSwap_ne_none_iff fun _ => by decide,
      cut_swap]
    exact fun hsome => hsome rfl
  refine ⟨cut_healthy, fun hsafe => ?_⟩
  obtain ⟨t, hrun, hinvalid⟩ := exists_reachable_invalid (s := ⟨cutImage.media, 1⟩) cut_healthy hswap
  exact hinvalid (hsafe t hrun)

end Penrose.Gpt

import Penrose.CallLayers
import Penrose.GptFailSafe
import Penrose.GptLuns

/-! `prepare_boot_update` on a UFS device down to its system calls. Each LUN has a GPT of its own, and the boot LUN
attribute is one for all. Any operation on any LUN may fail, and power may be lost anywhere. -/

namespace Penrose.Gpt

open ByteRegions CallTree

/-- A UFS device: the bytes of the LUN at each path, and the boot LUN attribute. -/
structure UfsDevice where
  media : Bytes → Nat → UInt8
  bootLun : Nat

namespace UfsDevice

/-- The device as it looks through one LUN. -/
def lun (devPath : Bytes) (s : UfsDevice) : Device := ⟨s.media devPath, s.bootLun⟩

def setLun (s : UfsDevice) (devPath : Bytes) (d : Device) : UfsDevice :=
  ⟨Function.update s.media devPath d.media, d.bootLun⟩

@[simp] theorem lun_setLun (s : UfsDevice) (devPath : Bytes) (d : Device) : (s.setLun devPath d).lun devPath = d := by
  rw [lun, setLun]
  exact congrArg (Device.mk · d.bootLun) (Function.update_self ..)

theorem media_setLun_self (s : UfsDevice) (devPath : Bytes) (d : Device) :
    (s.setLun devPath d).media devPath = d.media :=
  Function.update_self ..

theorem media_setLun_of_ne (s : UfsDevice) {devPath other : Bytes} (hne : other ≠ devPath) (d : Device) :
    (s.setLun devPath d).media other = s.media other :=
  Function.update_of_ne hne _ _

end UfsDevice

/-- The system calls of `prepare_boot_update`: those on the links, and those of `prepare_partitions` on a LUN. -/
inductive UfsCall where
  | stat (path : Bytes)
  | readlink (path : Bytes) (bufSize : Nat)
  | onLun (devPath : Bytes) (c : Syscall)

@[reducible] def UfsCall.Reply : UfsCall → Type
  | .stat _ => Bool
  | .readlink _ _ => Option Bytes
  | .onLun _ c => c.Reply

def ufsSignature : Signature := ⟨UfsCall, UfsCall.Reply⟩

abbrev Ufs (α : Type) := Program ufsSignature α

def ufs (c : UfsCall) : Ufs c.Reply := Program.request (S := ufsSignature) c

/-- A system call of `prepare_partitions` on the LUN at a path. -/
def callOn (devPath : Bytes) (c : Syscall) : Ufs c.Reply := ufs (.onLun devPath c)

def pathString (path : Bytes) : String := String.ofList (path.map fun byte => Char.ofNat byte.toNat)

section Calls

variable (crc : Bytes → UInt32) (isUfs : Bool)

/-- The calls of `prepare_boot_update`, with `prepare_partitions` as it is. -/
def perform : (c : BootCall) → Ufs c.Reply
  | .stat path => ufs (.stat path)
  | .readlink path bufSize => ufs (.readlink path bufSize)
  | .preparePartitions stage devPath =>
      (preparePartitions crc isUfs stage (pathString devPath)).expand (callOn devPath)

/-- `prepare_boot_update` as a program of system calls. -/
def prepareBootUpdateUfs (stage : BootUpdateStage) : Ufs Int :=
  (prepareBootUpdate isUfs stage).expand (perform crc isUfs)

/-- Every call of `prepare_boot_update`. -/
def bootUpdates : Set (Ufs Int) := {p | ∃ stage, p = prepareBootUpdateUfs crc isUfs stage}

end Calls

/-- A UFS device each of whose LUNs can fail and can lose power as one device can; the links lead anywhere, and may
have changed since they were last read, but `readlink` places no more than it is given room for. -/
def faultyUfs (g : Bytes → Geometry) : World ufsSignature UfsDevice where
  answer
    | .stat _, s, _, t => t = s
    | .readlink _ bufSize, s, r, t => t = s ∧ ∀ target, r = some target → target.length ≤ bufSize
    | .onLun devPath c, s, r, t => ∃ d, (faulty (g devPath)).answer c (s.lun devPath) r d ∧ t = s.setLun devPath d
  interrupt
    | .stat _, s, t => t = s
    | .readlink _ _, s, t => t = s
    | .onLun devPath c, s, t => ∃ d, (faulty (g devPath)).interrupt c (s.lun devPath) d ∧ t = s.setLun devPath d

section FailSafe

variable {g : Bytes → Geometry} {crc : Bytes → UInt32} {isUfs : Bool} {m₀ : Bytes → Nat → UInt8} {s t : UfsDevice}
  {devPath : Bytes}

/-- The LUN at a path has kept its GPT, if it had one. -/
def KeepsLun (g : Bytes → Geometry) (crc : Bytes → UInt32) (m₀ : Bytes → Nat → UInt8) (s : UfsDevice)
    (devPath : Bytes) : Prop :=
  (g devPath).Healthy crc (m₀ devPath) → (g devPath).KeepsGpt crc (m₀ devPath) (s.lun devPath)

/-- All LUNs but one have kept their GPTs. -/
def KeepsOthers (g : Bytes → Geometry) (crc : Bytes → UInt32) (m₀ : Bytes → Nat → UInt8) (devPath : Bytes)
    (s : UfsDevice) : Prop :=
  ∀ other, other ≠ devPath → KeepsLun g crc m₀ s other

/-- What is done on one LUN does not touch the others. -/
theorem KeepsOthers.setLun (h : KeepsOthers g crc m₀ devPath s) (d : Device) :
    KeepsOthers g crc m₀ devPath (s.setLun devPath d) := by
  intro other hne hd
  have hkept := h other hne hd
  rw [Geometry.KeepsGpt, UfsDevice.lun] at hkept ⊢
  rw [s.media_setLun_of_ne hne]
  exact hkept

theorem simulates_callOn (g : Bytes → Geometry) (crc : Bytes → UInt32) (m₀ : Bytes → Nat → UInt8) (devPath : Bytes) :
    Simulates (S := sysSignature) (callOn devPath) (faultyUfs g) (faulty (g devPath)) (UfsDevice.lun devPath)
      (KeepsOthers g crc m₀ devPath) := by
  intro c t hothers
  refine ⟨⟨hothers, Or.inl rfl⟩, ?_, ?_⟩
  · intro u hcut
    obtain ⟨d, hcut, heq⟩ := hcut
    rw [heq, UfsDevice.lun_setLun]
    exact ⟨hothers.setLun d, Or.inr (Or.inr hcut)⟩
  · intro r u hanswer
    obtain ⟨d, hanswer, heq⟩ := hanswer
    have hafter : (faulty (g devPath)).answer c (t.lun devPath) r (u.lun devPath) := by
      rw [heq, UfsDevice.lun_setLun]
      exact hanswer
    have hkept : KeepsOthers g crc m₀ devPath u := heq ▸ hothers.setLun d
    exact ⟨⟨hkept, Or.inr (Or.inl ⟨r, hafter⟩)⟩, hkept, hafter⟩

theorem keepsLun_iff (devPath : Bytes) : (∀ path, KeepsLun g crc m₀ s path) ↔
    KeepsOthers g crc m₀ devPath s ∧
      ((g devPath).Healthy crc (m₀ devPath) → (g devPath).KeepsGpt crc (m₀ devPath) (s.lun devPath)) := by
  apply Iff.intro
  · intro h
    exact ⟨fun other _ => h other, h devPath⟩
  · intro h path
    by_cases heq : path = devPath
    · rw [heq]
      exact h.2
    · exact h.1 path heq

/-- `prepare_partitions` on one LUN keeps the GPTs of all. -/
theorem wp_preparePartitions_onLun {stage : BootUpdateStage} (h : ∀ path, KeepsLun g crc m₀ s path) :
    wp (faultyUfs g) (fun _ t => ∀ path, KeepsLun g crc m₀ t path) (fun t => ∀ path, KeepsLun g crc m₀ t path)
      ((preparePartitions crc isUfs stage (pathString devPath)).expand (callOn devPath)) s := by
  obtain ⟨hothers, hkept⟩ := (keepsLun_iff devPath).mp h
  have hdevice : wp (faulty (g devPath)) (fun _ _ => True)
      (fun d => (g devPath).Healthy crc (m₀ devPath) → (g devPath).KeepsGpt crc (m₀ devPath) d)
      (preparePartitions crc isUfs stage (pathString devPath)) (s.lun devPath) := by
    by_cases hd : (g devPath).Healthy crc (m₀ devPath)
    · exact wp_mono (fun _ _ _ => trivial) (fun d hd' _ => hd') (wp_preparePartitions hd (hkept hd))
    · exact wp_of_forall (fun _ _ => trivial) (fun _ hd' => absurd hd' hd) _ _
  have hlifted := wp_returned ((simulates_callOn g crc m₀ devPath).wp_expand hothers hdevice)
  exact wp_mono (fun _ t ht => (keepsLun_iff devPath).mpr ht.1) (fun t ht => (keepsLun_iff devPath).mpr ht) hlifted

/-- What the calls of `prepare_boot_update` do leaves the GPTs of all LUNs, and their replies are what they may be. -/
theorem simulates_perform (g : Bytes → Geometry) (crc : Bytes → UInt32) (isUfs : Bool) (m₀ : Bytes → Nat → UInt8) :
    Simulates (S := bootSignature) (perform crc isUfs) (faultyUfs g) anyReplies (fun _ => ())
      (fun t => ∀ path, KeepsLun g crc m₀ t path) := by
  intro c t ht
  cases c with
  | preparePartitions stage devPath =>
      exact wp_mono (fun _ _ hu => ⟨hu, trivial⟩) (fun _ hu => ⟨hu, Or.inl rfl⟩) (wp_preparePartitions_onLun ht)
  | stat path =>
      refine ⟨⟨ht, Or.inl rfl⟩, fun u hcut => ?_, fun r u hanswer => ?_⟩
      · obtain rfl : u = t := hcut
        exact ⟨ht, Or.inl rfl⟩
      · obtain rfl : u = t := hanswer
        exact ⟨⟨ht, Or.inl rfl⟩, ht, trivial⟩
  | readlink path bufSize =>
      refine ⟨⟨ht, Or.inl rfl⟩, fun u hcut => ?_, fun r u hanswer => ?_⟩
      · obtain rfl : u = t := hcut
        exact ⟨ht, Or.inl rfl⟩
      · obtain ⟨rfl, hfits⟩ := hanswer
        exact ⟨⟨ht, Or.inl rfl⟩, ht, hfits⟩

/-- Every LUN on which a header can be read has two valid GPTs, and the swap stays in its primary array. -/
def LunsInBounds (g : Bytes → Geometry) (crc : Bytes → UInt32) (isUfs : Bool) (m : Bytes → Nat → UInt8) : Prop :=
  ∀ path, 2 ≤ (g path).blocks → (g path).Healthy crc (m path) ∧ (g path).SwapInBounds isUfs (m path)

theorem not_faults_onLun {stage : BootUpdateStage} (hluns : LunsInBounds g crc isUfs m₀)
    (h : ∀ path, KeepsLun g crc m₀ s path) :
    ¬ Faults (faultyUfs g) ((preparePartitions crc isUfs stage (pathString devPath)).expand (callOn devPath)) s := by
  intro hfaults
  obtain ⟨hothers, hkept⟩ := (keepsLun_iff devPath).mp h
  have hlun := (simulates_callOn g crc m₀ devPath).faults (fun _ _ _ => not_faults_request _) hothers hfaults
  by_cases hblocks : 2 ≤ (g devPath).blocks
  · obtain ⟨hd, hswap⟩ := hluns devPath hblocks
    exact not_faults_of_keepsGpt hd hswap (hkept hd) hlun
  · exact not_faults_of_few_blocks hblocks _ hlun

theorem not_faults_prepareBootUpdateUfs {stage : BootUpdateStage} (hluns : LunsInBounds g crc isUfs m₀)
    (h : ∀ path, KeepsLun g crc m₀ s path) : ¬ Faults (faultyUfs g) (prepareBootUpdateUfs crc isUfs stage) s := by
  intro hfaults
  refine not_faults_prepareBootUpdate isUfs stage ((simulates_perform g crc isUfs m₀).faults ?_ h hfaults)
  intro c t ht
  cases c with
  | preparePartitions stage devPath => exact not_faults_onLun hluns ht
  | stat path => exact not_faults_request _
  | readlink path bufSize => exact not_faults_request _

/-- Whatever stages are asked for, wherever the links lead, whichever operations fail and wherever power is lost: each
LUN keeps one valid GPT, if all LUNs start with two and the swap stays in the array of each. -/
theorem prepareBootUpdate_failSafe (hluns : LunsInBounds g crc isUfs s.media)
    (hrun : Reachable (faultyUfs g) (bootUpdates crc isUfs) s t) (hblocks : 2 ≤ (g devPath).blocks) :
    (g devPath).FullyValid (t.media devPath) crc .primaryGpt ∨
      (g devPath).FullyValid (t.media devPath) crc .secondaryGpt := by
  have hkept : ∀ path, KeepsLun g crc s.media t path := by
    apply hrun.invariant (I := fun t => ∀ path, KeepsLun g crc s.media t path)
    · intro p hp u hu
      obtain ⟨stage, heq⟩ := hp
      rw [heq]
      have hall := (simulates_perform g crc isUfs s.media).wp_expand hu
        (wp_of_forall (fun _ _ => trivial) (fun _ => trivial) (prepareBootUpdate isUfs stage) ())
      exact wp_mono (fun _ _ _ => trivial) (fun _ hv => hv.1) hall
    · intro p hp u hu
      obtain ⟨stage, heq⟩ := hp
      rw [heq]
      exact not_faults_prepareBootUpdateUfs hluns hu
    · intro path hpath
      exact (PrimaryKept.refl (hpath.validGpt .secondaryGpt)).toFailSafe
  have hd := (hluns devPath hblocks).1
  have hlun := hkept devPath hd
  exact (hlun.valid (hd.validGpt .primaryGpt)).imp
    (Geometry.fullyValid_iff (hlun.sameFields hd .primaryGpt)).mpr
    (Geometry.fullyValid_iff (hlun.sameFields hd .secondaryGpt)).mpr

end FailSafe

/-! ### A cut update -/

section Cut

variable {g : Bytes → Geometry} {crc : Bytes → UInt32} {devPath : Bytes}

theorem UfsDevice.setLun_lun (s : UfsDevice) (devPath : Bytes) : s.setLun devPath (s.lun devPath) = s := by
  rw [UfsDevice.setLun, UfsDevice.lun, Function.update_eq_self]

theorem UfsDevice.setLun_setLun (s : UfsDevice) (devPath : Bytes) (d d' : Device) :
    (s.setLun devPath d).setLun devPath d' = s.setLun devPath d' := by
  rw [UfsDevice.setLun, UfsDevice.setLun, UfsDevice.setLun, Function.update_idem]

/-- What a program can do to one LUN it can do to the device. -/
theorem visits_onLun {α : Type} {p : Sys α} {d d' : Device} (h : Visits (faulty (g devPath)) p d d') (s : UfsDevice)
    (hlun : s.lun devPath = d) :
    Visits (faultyUfs g) (p.expand (callOn devPath)) s (s.setLun devPath d') := by
  induction h generalizing s with
  | here p d =>
      rw [← hlun, s.setLun_lun]
      exact .here _ s
  | @call c next r d₁ d₂ d₃ hanswer _ ih =>
      have hstep : (faultyUfs g).answer (.onLun devPath c) s r (s.setLun devPath d₂) :=
        ⟨d₂, by rw [hlun]; exact hanswer, rfl⟩
      have hrest := ih (s.setLun devPath d₂) (s.lun_setLun devPath d₂)
      rw [s.setLun_setLun] at hrest
      exact .call hstep hrest
  | @interrupt c next d₁ d₂ hcut => exact .interrupt ⟨d₂, by rw [hlun]; exact hcut, rfl⟩

/-- The links are what the file system says, and no LUN can be opened. -/
theorem answers_of_bootMachine (links : Links) {c : BootCall} {r : c.Reply} {s t : UfsDevice}
    (h : (bootMachine links fun _ _ s => (-1, s)).answer c s = (r, t)) :
    ((faultyUfs g).above (S := bootSignature) (perform crc true)).answer c s r t := by
  cases c with
  | stat path =>
      cases h
      exact .call rfl (.done _ _)
  | readlink path bufSize =>
      cases h
      refine .call ⟨rfl, fun target htarget => ?_⟩ (.done _ _)
      obtain ⟨whole, -, rfl⟩ := Option.map_eq_some_iff.mp htarget
      exact List.length_take_le _ _
  | preparePartitions stage devPath =>
      cases h
      refine .call (r := false) (t := s) ⟨s.lun devPath, rfl, (s.setLun_lun devPath).symm⟩ (.done _ _)

/-- Power is lost while the first LUN that the links lead to is prepared. -/
theorem visits_first_lun (links : Links) {stage : BootUpdateStage} {lun : Bytes} {luns : List Bytes} {s : UfsDevice}
    {d : Device} (hluns : links.luns ptnSwapList = lun :: luns)
    (h : Visits (faulty (g lun)) (preparePartitions crc true stage (pathString lun)) (s.lun lun) d) :
    Visits (faultyUfs g) (prepareBootUpdateUfs crc true stage) s (s.setLun lun d) := by
  apply Visits.expand
  have hroom : ([] : List Bytes).length + ptnSwapList.length < maxLuns := by decide
  obtain ⟨data, hnames, hlists⟩ := run_addNames links (fun _ _ (s : UfsDevice) => (-1, s)) (s := s)
    UpdateData.Lists.zeroed hroom
  rw [List.nil_append, ← Links.luns, hluns] at hlists
  have hfound := ((Machine.returns_iff_run _).mpr hnames).mono fun c s r t hanswer =>
    @answers_of_bootMachine g crc links c r s t hanswer
  refine hfound.bind_visits (Visits.bind ?_)
  rw [hlists.count, List.length_cons, prepareLuns, hlists.row (Nat.succ_pos _)]
  exact .interrupt (visits_onLun h s rfl)

end Cut

/-- A device with the same image on every LUN. -/
def sampleUfs : UfsDevice := ⟨fun _ => sampleImage.media, 1⟩

/-- All backup partitions lie on one LUN. -/
def sampleLinks : Links := ⟨fun _ => true, fun _ => some (cstr "/dev/block/sda13")⟩

theorem sample_lunsInBounds : LunsInBounds (fun _ => sampleImage.geometry) byteSum true sampleUfs.media :=
  fun _ _ => ⟨sample_healthy, sample_swapInBounds true⟩

/-- `UPDATE_MAIN` is cut off when the secondary array of the LUN has been written. -/
theorem prepareBootUpdate_failSafe_sample :
    ∃ t, Visits (faultyUfs fun _ => sampleImage.geometry) (prepareBootUpdateUfs byteSum true .updateMain) sampleUfs t ∧
      t.media (cstr "/dev/block/sda") ≠ sampleUfs.media (cstr "/dev/block/sda") ∧
      (sampleImage.geometry.FullyValid (t.media (cstr "/dev/block/sda")) byteSum .primaryGpt ∨
        sampleImage.geometry.FullyValid (t.media (cstr "/dev/block/sda")) byteSum .secondaryGpt) := by
  have hluns : sampleLinks.luns ptnSwapList = [cstr "/dev/block/sda"] := by decide +kernel
  have hcut := visits_of_cut (((sample_updateMain true (pathString (cstr "/dev/block/sda"))).mem_cuts_iff
    (sampleDevice.withChain sampleImage.geometry byteSum sampleSwapped)).mpr (by simp))
  have hvisit := visits_first_lun (g := fun _ => sampleImage.geometry) (s := sampleUfs) sampleLinks hluns hcut
  refine ⟨_, hvisit, ?_, ?_⟩
  · rw [UfsDevice.media_setLun_self]
    exact sample_withChain_ne
  · exact prepareBootUpdate_failSafe (g := fun _ => sampleImage.geometry) sample_lunsInBounds
      (Reachable.of_visits ⟨.updateMain, rfl⟩ hvisit) (by decide)

end Penrose.Gpt

import Penrose.GptHeader

/-! The search for a partition entry by name and the swap of the boot chain in an entry array. Entries
are `pentrySize` bytes apart; the search reads 71 bytes of name from byte 56 of each entry, and the swap
moves the first 128 bytes of an entry. Nothing in the source keeps these inside the array, so both can
fault. -/

namespace Penrose.Gpt

open ByteRegions

@[reducible] def partitionNameOffset : Nat := 56
@[reducible] def ptnEntrySize : Nat := 128

/-- The characters of a C string literal, without the terminating zero. -/
def cstr (s : String) : Bytes := s.toList.map fun c => UInt8.ofNat c.toNat

/-- The C string that starts at the head of a buffer. -/
def cString (buf : Bytes) : Bytes := buf.takeWhile (· != 0)

def bakPtnNameExt : Bytes := cstr "bak"
def ptnXbl : Bytes := cstr "xbl"
def ptnMultiimgoem : Bytes := cstr "multiimgoem"
def ptnMultiimgqti : Bytes := cstr "multiimgqti"

def ptnSwapList : List Bytes :=
  [ptnXbl, cstr "xbl_config", ptnMultiimgoem, ptnMultiimgqti, cstr "abl", cstr "aop", cstr "cmnlib",
    cstr "cmnlib64", cstr "devcfg", cstr "dsp", cstr "dtbo", cstr "featenabler", cstr "hyp",
    cstr "imagefv", cstr "keymaster", cstr "multiimgoem", cstr "qupfw", cstr "tz", cstr "uefisecapp",
    cstr "vbmeta", cstr "vbmeta_system"]

/-- `gpt_utils_is_ufs_device` for the value of `ro.boot.bootdevice`. -/
def gptUtilsIsUfsDevice (bootdevice : String) : Bool :=
  let name := cstr bootdevice
  let suffix := cstr ".ufshc"
  if name.length < suffix.length + 1 then false else name.drop (name.length - suffix.length) == suffix

/-- `name8`: every second byte of the 72 bytes of a UTF-16 name. The rest of the buffer is zero. -/
def name8 (pentries : Bytes) (pentryName : Nat) : Option Bytes :=
  (List.range 36).mapM fun i => pentries[pentryName + i * 2]?

/-- The two `strncmp`/`strcmp` tests of `gpt_pentry_seek`: the name is `ptnName`, or `ptnName`
followed by `bak`. -/
def isPtnOrBak (ptnName name : Bytes) : Bool :=
  ptnName.isPrefixOf name &&
    (cString (name.drop ptnName.length) == [] || cString (name.drop ptnName.length) == bakPtnNameExt)

/-- The loop of `gpt_pentry_seek` from the entry at `entry` on. Each round reads one entry; an entry
size of 0 would repeat one entry forever. -/
def gptPentrySeekLoop (ptnName pentries : Bytes) (pentrySize : Nat) : Nat → Nat → Option (Option Nat)
  | 0, entry => if entry + partitionNameOffset < pentries.length then none else some none
  | rounds + 1, entry =>
      if entry + partitionNameOffset < pentries.length then do
        let name ← name8 pentries (entry + partitionNameOffset)
        if isPtnOrBak ptnName name then some (some entry)
        else gptPentrySeekLoop ptnName pentries pentrySize rounds (entry + pentrySize)
      else some none

/-- `gpt_pentry_seek` from `pentriesStart` to the end of the array; `some none` is a null pointer. -/
def gptPentrySeek (ptnName pentries : Bytes) (pentriesStart pentrySize : Nat) : Option (Option Nat) :=
  gptPentrySeekLoop ptnName pentries pentrySize pentries.length pentriesStart

/-- The 128 bytes that `memcpy` reads at an entry. -/
def ptnRecord (pentries : Bytes) (entry : Nat) : Option Bytes :=
  if entry + ptnEntrySize ≤ pentries.length then some ((pentries.drop entry).take ptnEntrySize) else none

/-- The three `memcpy` that exchange two entries. -/
def swapRecords (pentries : Bytes) (ptnEntry ptnBakEntry : Nat) : Option Bytes := do
  let ptnSwap ← ptnRecord pentries ptnEntry
  let ptnBak ← ptnRecord pentries ptnBakEntry
  let pentries ← memcpy pentries ptnEntry ptnBak
  memcpy pentries ptnBakEntry ptnSwap

/-- The names that `gpt_boot_chain_swap` leaves alone. -/
def skipsName (isUfs : Bool) (name : Bytes) : Bool :=
  (isUfs && ptnXbl.isPrefixOf name) || ptnMultiimgoem.isPrefixOf name || ptnMultiimgqti.isPrefixOf name

/-- One round of `gpt_boot_chain_swap`: the swapped array, or nothing when the round is skipped. -/
def swapName (pentrySize : Nat) (name pentries : Bytes) : Option (Option Bytes) := do
  match ← gptPentrySeek name pentries 0 pentrySize with
  | none => return none
  | some ptnEntry =>
      match ← gptPentrySeek name pentries (ptnEntry + pentrySize) pentrySize with
      | none => return none
      | some ptnBakEntry => return some (← swapRecords pentries ptnEntry ptnBakEntry)

/-- The loop of `gpt_boot_chain_swap`: `backup_not_found` and the array. -/
def gptBootChainSwapLoop (isUfs : Bool) (pentrySize : Nat) :
    List Bytes → Int × Bytes → Option (Int × Bytes)
  | [], result => some result
  | name :: names, (backupNotFound, pentries) =>
      if skipsName isUfs name then
        gptBootChainSwapLoop isUfs pentrySize names (backupNotFound, pentries)
      else do
        match ← swapName pentrySize name pentries with
        | none => gptBootChainSwapLoop isUfs pentrySize names (backupNotFound, pentries)
        | some swapped => gptBootChainSwapLoop isUfs pentrySize names (0, swapped)

/-- `gpt_boot_chain_swap`: 0 and the swapped array, or 1 when no backup partitions were found. -/
def gptBootChainSwap (isUfs : Bool) (pentries : Bytes) (pentrySize : Nat) : Option (Int × Bytes) :=
  gptBootChainSwapLoop isUfs pentrySize ptnSwapList (1, pentries)

/-- The array that `gpt2_set_boot_chain` gives the secondary GPT: swapped for `BACKUP_BOOT` only. -/
def bootChainArray (isUfs : Bool) (boot : BootChain) (pentries : Bytes) (pentrySize : Nat) :
    Option (Int × Bytes) :=
  match boot with
  | .backupBoot => gptBootChainSwap isUfs pentries pentrySize
  | .normalBoot => some (0, pentries)

/-! ### Lengths and results -/

theorem length_memcpy {buf data copied : Bytes} {off : Nat} (h : memcpy buf off data = some copied) :
    copied.length = buf.length := by
  unfold memcpy at h
  split_ifs at h with hlen
  cases h
  exact length_overwrite hlen

theorem length_swapRecords {pentries swapped : Bytes} {a b : Nat}
    (h : swapRecords pentries a b = some swapped) : swapped.length = pentries.length := by
  simp only [swapRecords, Option.bind_eq_bind, Option.bind_eq_some_iff] at h
  obtain ⟨_, _, _, _, copied, hcopied, hswapped⟩ := h
  rw [length_memcpy hswapped, length_memcpy hcopied]

theorem length_swapName {pentrySize : Nat} {name pentries swapped : Bytes}
    (h : swapName pentrySize name pentries = some (some swapped)) : swapped.length = pentries.length := by
  simp only [swapName, Option.bind_eq_bind, Option.bind_eq_some_iff] at h
  obtain ⟨first, _, h⟩ := h
  cases first with
  | none => cases h
  | some ptnEntry =>
      simp only [Option.bind_eq_some_iff] at h
      obtain ⟨second, _, h⟩ := h
      cases second with
      | none => cases h
      | some ptnBakEntry =>
          simp only [Option.bind_eq_some_iff] at h
          obtain ⟨swapped', hswapped, h⟩ := h
          cases h
          exact length_swapRecords hswapped

/-- The rounds of the swap keep the length of the array, and the result stays what it was or becomes 0. -/
theorem gptBootChainSwapLoop_spec {isUfs : Bool} {pentrySize : Nat} {names : List Bytes}
    {r r' : Int} {pentries pentries' : Bytes}
    (h : gptBootChainSwapLoop isUfs pentrySize names (r, pentries) = some (r', pentries')) :
    pentries'.length = pentries.length ∧ (r' = r ∨ r' = 0) := by
  induction names generalizing r pentries with
  | nil =>
      cases h
      exact ⟨rfl, Or.inl rfl⟩
  | cons name names ih =>
      rw [gptBootChainSwapLoop] at h
      split_ifs at h with hskip
      · exact ih h
      · simp only [Option.bind_eq_bind, Option.bind_eq_some_iff] at h
        obtain ⟨swapped, hswapped, h⟩ := h
        cases swapped with
        | none => exact ih h
        | some swapped =>
            obtain ⟨hlen, hr⟩ := ih h
            refine ⟨hlen.trans (length_swapName hswapped), Or.inr ?_⟩
            rcases hr with rfl | rfl <;> rfl

theorem bootChainArray_spec {isUfs : Bool} {boot : BootChain} {pentries pentries' : Bytes}
    {pentrySize : Nat} {r : Int} (h : bootChainArray isUfs boot pentries pentrySize = some (r, pentries')) :
    pentries'.length = pentries.length ∧ (r = 0 ∨ r = 1 ∧ boot = .backupBoot) := by
  cases boot with
  | normalBoot =>
      cases h
      exact ⟨rfl, Or.inl rfl⟩
  | backupBoot =>
      obtain ⟨hlen, hr⟩ := gptBootChainSwapLoop_spec h
      exact ⟨hlen, hr.symm.imp id fun hone => ⟨hone, rfl⟩⟩

end Penrose.Gpt

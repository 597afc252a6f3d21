import Mathlib.Data.Nat.Bitwise
import Mathlib.Tactic.SplitIfs
import Mathlib.Tactic.NormNum

/-! Byte buffers and byte-addressed media: overwriting a part of a buffer, little-endian words in
it, and reading and writing regions of a medium. Two regions that do not meet do not see each
other's writes. -/

namespace ByteRegions

abbrev Bytes := List UInt8

/-- The buffer with `data` in place of its bytes from `off` on. -/
def overwrite (buf : Bytes) (off : Nat) (data : Bytes) : Bytes :=
  buf.take off ++ data ++ buf.drop (off + data.length)

@[simp] theorem length_overwrite {buf data : Bytes} {off : Nat} (h : off + data.length ≤ buf.length) :
    (overwrite buf off data).length = buf.length := by
  simp only [overwrite, List.length_append, List.length_take, List.length_drop]
  omega

theorem getElem?_overwrite {buf data : Bytes} {off : Nat} (h : off + data.length ≤ buf.length) (i : Nat) :
    (overwrite buf off data)[i]? =
      if off ≤ i ∧ i < off + data.length then data[i - off]? else buf[i]? := by
  have hlen : (buf.take off).length = off := by
    rw [List.length_take]
    omega
  simp only [overwrite, List.getElem?_append, List.length_append, hlen, List.getElem?_take,
    List.getElem?_drop]
  split_ifs with h1 h2 h3 h3 h3 <;> try omega
  · rfl
  · rfl
  · congr 1
    omega

theorem overwrite_overwrite {buf data data' : Bytes} {off : Nat} (hlen : data.length = data'.length)
    (h : off + data.length ≤ buf.length) :
    overwrite (overwrite buf off data) off data' = overwrite buf off data' := by
  apply List.ext_getElem?
  intro i
  rw [getElem?_overwrite (by rw [length_overwrite h]; omega), getElem?_overwrite h,
    getElem?_overwrite (by omega)]
  split_ifs <;> first | rfl | omega

theorem overwrite_comm {buf data data' : Bytes} {off off' : Nat}
    (h : off + data.length ≤ buf.length) (h' : off' + data'.length ≤ buf.length)
    (hapart : off + data.length ≤ off' ∨ off' + data'.length ≤ off) :
    overwrite (overwrite buf off data) off' data' = overwrite (overwrite buf off' data') off data := by
  apply List.ext_getElem?
  intro i
  rw [getElem?_overwrite (by rw [length_overwrite h]; omega), getElem?_overwrite h,
    getElem?_overwrite (by rw [length_overwrite h']; omega), getElem?_overwrite h']
  split_ifs <;> first | rfl | omega

/-- Writing what a buffer already holds changes nothing. -/
theorem overwrite_self {buf data : Bytes} {off : Nat} (h : off + data.length ≤ buf.length)
    (hsame : ∀ i, i < data.length → buf[off + i]? = data[i]?) : overwrite buf off data = buf := by
  apply List.ext_getElem?
  intro i
  rw [getElem?_overwrite h]
  split_ifs with hi
  · rw [← hsame (i - off) (by omega)]
    congr 1
    omega
  · rfl

/-! ### Little-endian words -/

/-- The byte at an index, 0 past the end. -/
def byteAt (buf : Bytes) (i : Nat) : Nat := (buf.getD i 0).toNat

theorem byteAt_lt (buf : Bytes) (i : Nat) : byteAt buf i < 256 := UInt8.toNat_lt _

theorem byteAt_congr {buf buf' : Bytes} {i j : Nat} (h : buf[i]? = buf'[j]?) :
    byteAt buf i = byteAt buf' j := by
  rw [byteAt, byteAt, List.getD_eq_getElem?_getD, List.getD_eq_getElem?_getD, h]

/-- The 32-bit word whose lowest byte is at `off`. -/
def word4 (buf : Bytes) (off : Nat) : Nat :=
  byteAt buf off ||| (byteAt buf (off + 1)) <<< 8 ||| (byteAt buf (off + 2)) <<< 16 |||
    (byteAt buf (off + 3)) <<< 24

/-- The 64-bit word whose lowest byte is at `off`. -/
def word8 (buf : Bytes) (off : Nat) : Nat :=
  byteAt buf off ||| (byteAt buf (off + 1)) <<< 8 ||| (byteAt buf (off + 2)) <<< 16 |||
    (byteAt buf (off + 3)) <<< 24 ||| (byteAt buf (off + 4)) <<< 32 |||
    (byteAt buf (off + 5)) <<< 40 ||| (byteAt buf (off + 6)) <<< 48 ||| (byteAt buf (off + 7)) <<< 56

/-- The four bytes of a 32-bit word, lowest first. -/
def bytes4 (y : Nat) : Bytes :=
  [UInt8.ofNat (y &&& 0xff), UInt8.ofNat ((y >>> 8) &&& 0xff), UInt8.ofNat ((y >>> 16) &&& 0xff),
    UInt8.ofNat ((y >>> 24) &&& 0xff)]

@[simp] theorem length_bytes4 (y : Nat) : (bytes4 y).length = 4 := rfl

/-- The last word put at an offset is the one that stays. -/
theorem overwrite_bytes4_bytes4 {buf : Bytes} {off : Nat} (x y : Nat) (h : off + 4 ≤ buf.length) :
    overwrite (overwrite buf off (bytes4 x)) off (bytes4 y) = overwrite buf off (bytes4 y) :=
  overwrite_overwrite (by rw [length_bytes4, length_bytes4]) h

theorem or_shiftLeft_eq_add {low high width : Nat} (h : low < 2 ^ width) :
    low ||| high <<< width = low + high * 2 ^ width := by
  rw [Nat.lor_comm, ← Nat.shiftLeft_add_eq_or_of_lt h, Nat.shiftLeft_eq, Nat.add_comm]

theorem word4_eq_sum (buf : Bytes) (off : Nat) :
    word4 buf off = byteAt buf off + byteAt buf (off + 1) * 2 ^ 8 + byteAt buf (off + 2) * 2 ^ 16 +
      byteAt buf (off + 3) * 2 ^ 24 := by
  have h0 := byteAt_lt buf off
  have h1 := byteAt_lt buf (off + 1)
  have h2 := byteAt_lt buf (off + 2)
  have h01 : byteAt buf off ||| byteAt buf (off + 1) <<< 8 = _ := or_shiftLeft_eq_add (by omega)
  rw [word4, h01]
  have h012 : (byteAt buf off + byteAt buf (off + 1) * 2 ^ 8) ||| byteAt buf (off + 2) <<< 16 = _ :=
    or_shiftLeft_eq_add (by omega)
  rw [h012]
  exact or_shiftLeft_eq_add (by omega)

theorem word4_congr {buf buf' : Bytes} {off : Nat} (h : ∀ i, off ≤ i → i < off + 4 → buf[i]? = buf'[i]?) :
    word4 buf off = word4 buf' off := by
  simp only [word4, byteAt_congr (h off (by omega) (by omega)),
    byteAt_congr (h (off + 1) (by omega) (by omega)), byteAt_congr (h (off + 2) (by omega) (by omega)),
    byteAt_congr (h (off + 3) (by omega) (by omega))]

theorem word8_congr {buf buf' : Bytes} {off : Nat} (h : ∀ i, off ≤ i → i < off + 8 → buf[i]? = buf'[i]?) :
    word8 buf off = word8 buf' off := by
  simp only [word8, byteAt_congr (h off (by omega) (by omega)),
    byteAt_congr (h (off + 1) (by omega) (by omega)), byteAt_congr (h (off + 2) (by omega) (by omega)),
    byteAt_congr (h (off + 3) (by omega) (by omega)), byteAt_congr (h (off + 4) (by omega) (by omega)),
    byteAt_congr (h (off + 5) (by omega) (by omega)), byteAt_congr (h (off + 6) (by omega) (by omega)),
    byteAt_congr (h (off + 7) (by omega) (by omega))]

theorem toNat_ofNat_and_255 (y : Nat) : (UInt8.ofNat (y &&& 0xff)).toNat = y % 2 ^ 8 := by
  rw [UInt8.toNat_ofNat', show (0xff : Nat) = 2 ^ 8 - 1 by rfl, Nat.and_two_pow_sub_one_eq_mod]
  omega

theorem byteAt_bytes4 {y i : Nat} (hi : i < 4) : byteAt (bytes4 y) i = y / 2 ^ (8 * i) % 2 ^ 8 := by
  have hcases : i = 0 ∨ i = 1 ∨ i = 2 ∨ i = 3 := by omega
  rcases hcases with rfl | rfl | rfl | rfl
  · simp only [byteAt, bytes4, List.getD_cons_zero, toNat_ofNat_and_255, Nat.mul_zero, pow_zero,
      Nat.div_one]
  all_goals
    simp only [byteAt, bytes4, List.getD_cons_zero, List.getD_cons_succ, toNat_ofNat_and_255,
      Nat.shiftRight_eq_div_pow]

/-- A word put into a buffer is read back. -/
theorem word4_overwrite {buf : Bytes} {off y : Nat} (h : off + 4 ≤ buf.length) (hy : y < 2 ^ 32) :
    word4 (overwrite buf off (bytes4 y)) off = y := by
  have hbyte : ∀ i, i < 4 → byteAt (overwrite buf off (bytes4 y)) (off + i) = y / 2 ^ (8 * i) % 2 ^ 8 := by
    intro i hi
    rw [← byteAt_bytes4 hi]
    apply byteAt_congr
    rw [getElem?_overwrite (by rw [length_bytes4]; omega),
      if_pos ⟨by omega, by rw [length_bytes4]; omega⟩]
    congr 1
    omega
  have hbyte0 := hbyte 0 (by omega)
  rw [Nat.add_zero] at hbyte0
  rw [word4_eq_sum, hbyte0, hbyte 1 (by omega), hbyte 2 (by omega), hbyte 3 (by omega)]
  omega

theorem word4_overwrite_of_apart {buf data : Bytes} {off off' : Nat} (h : off' + data.length ≤ buf.length)
    (hapart : off + 4 ≤ off' ∨ off' + data.length ≤ off) :
    word4 (overwrite buf off' data) off = word4 buf off := by
  apply word4_congr
  intro i h1 h2
  rw [getElem?_overwrite h, if_neg (by omega)]

theorem word8_overwrite_of_apart {buf data : Bytes} {off off' : Nat} (h : off' + data.length ≤ buf.length)
    (hapart : off + 8 ≤ off' ∨ off' + data.length ≤ off) :
    word8 (overwrite buf off' data) off = word8 buf off := by
  apply word8_congr
  intro i h1 h2
  rw [getElem?_overwrite h, if_neg (by omega)]

/-- Putting back the word a buffer holds changes nothing. -/
theorem overwrite_word4 {buf : Bytes} {off : Nat} (h : off + 4 ≤ buf.length) :
    overwrite buf off (bytes4 (word4 buf off)) = buf := by
  apply overwrite_self (by rw [length_bytes4]; omega)
  intro i hi
  rw [length_bytes4] at hi
  have hbyte : ∀ j, j < 4 → (buf.getD (off + j) 0).toNat = word4 buf off / 2 ^ (8 * j) % 2 ^ 8 := by
    intro j hj
    have h0 := byteAt_lt buf off
    have h1 := byteAt_lt buf (off + 1)
    have h2 := byteAt_lt buf (off + 2)
    have h3 := byteAt_lt buf (off + 3)
    change byteAt buf (off + j) = _
    rw [word4_eq_sum]
    have hcases : j = 0 ∨ j = 1 ∨ j = 2 ∨ j = 3 := by omega
    rcases hcases with rfl | rfl | rfl | rfl
    · rw [Nat.add_zero]
      omega
    all_goals omega
  have hleft : buf[off + i]? = some (buf.getD (off + i) 0) := by
    rw [List.getD_eq_getElem?_getD, List.getElem?_eq_getElem (by omega)]
    rfl
  have hright : (bytes4 (word4 buf off))[i]? = some ((bytes4 (word4 buf off)).getD i 0) := by
    rw [List.getD_eq_getElem?_getD, List.getElem?_eq_getElem (by rw [length_bytes4]; omega)]
    rfl
  rw [hleft, hright, Option.some.injEq]
  apply UInt8.toNat.inj
  rw [hbyte i hi, ← byteAt_bytes4 hi]
  rfl

/-! ### Regions of a medium -/

/-- The `len` bytes of the medium from `off` on. -/
def slice (m : Nat → UInt8) (off len : Nat) : Bytes := (List.range len).map fun i => m (off + i)

/-- The medium with `data` written from `off` on. -/
def splice (m : Nat → UInt8) (off : Nat) (data : Bytes) : Nat → UInt8 :=
  fun i => if off ≤ i ∧ i < off + data.length then data.getD (i - off) 0 else m i

/-- Two regions, each given by its first byte and its length, have no byte in common. -/
def Apart (off len off' len' : Nat) : Prop := off + len ≤ off' ∨ off' + len' ≤ off

theorem Apart.symm {off len off' len' : Nat} (h : Apart off len off' len') : Apart off' len' off len :=
  Or.symm h

instance (off len off' len' : Nat) : Decidable (Apart off len off' len') :=
  inferInstanceAs (Decidable (_ ∨ _))

variable {m m' : Nat → UInt8} {off len off' len' : Nat} {data data' : Bytes}

@[simp] theorem length_slice (m : Nat → UInt8) (off len : Nat) : (slice m off len).length = len := by
  simp [slice]

theorem getElem?_slice (m : Nat → UInt8) (off len i : Nat) :
    (slice m off len)[i]? = if i < len then some (m (off + i)) else none := by
  rw [slice, List.getElem?_map]
  split_ifs with h
  · rw [List.getElem?_range h]
    rfl
  · rw [List.getElem?_eq_none (by rw [List.length_range]; omega)]
    rfl

theorem slice_congr (h : ∀ i, off ≤ i → i < off + len → m i = m' i) : slice m off len = slice m' off len := by
  apply List.ext_getElem?
  intro i
  rw [getElem?_slice, getElem?_slice]
  split_ifs with hi
  · rw [h (off + i) (by omega) (by omega)]
  · rfl

theorem splice_of_outside {i : Nat} (h : i < off ∨ off + data.length ≤ i) : splice m off data i = m i :=
  if_neg (by omega)

/-- What is written is read back. -/
theorem slice_splice_self (m : Nat → UInt8) (off : Nat) (data : Bytes) :
    slice (splice m off data) off data.length = data := by
  apply List.ext_getElem?
  intro i
  rw [getElem?_slice]
  split_ifs with hi
  · rw [splice, if_pos (by omega), Nat.add_sub_cancel_left, List.getD_eq_getElem?_getD,
      List.getElem?_eq_getElem hi]
    rfl
  · rw [List.getElem?_eq_none (by omega)]

theorem slice_splice_of_length (h : data.length = len) : slice (splice m off data) off len = data := by
  rw [← h, slice_splice_self]

/-- A write does not show in a region apart from it. -/
theorem slice_splice_of_apart (h : Apart off len off' data.length) :
    slice (splice m off' data) off len = slice m off len := by
  apply slice_congr
  intro i h1 h2
  unfold Apart at h
  exact splice_of_outside (by omega)

/-- Writing what a region already holds changes nothing. -/
theorem splice_of_slice_eq (h : slice m off data.length = data) : splice m off data = m := by
  funext i
  rw [splice]
  split_ifs with hi
  · have hget := getElem?_slice m off data.length (i - off)
    rw [h, if_pos (by omega), show off + (i - off) = i by omega] at hget
    rw [List.getD_eq_getElem?_getD, hget]
    rfl
  · rfl

/-- The media differ at most inside the region. -/
def SameOutside (m m' : Nat → UInt8) (off len : Nat) : Prop :=
  ∀ i, i < off ∨ off + len ≤ i → m' i = m i

theorem SameOutside.slice_eq (h : SameOutside m m' off' len') (hapart : Apart off len off' len') :
    slice m' off len = slice m off len := by
  apply slice_congr
  intro i h1 h2
  unfold Apart at hapart
  exact h i (by omega)

theorem sameOutside_splice (m : Nat → UInt8) (off : Nat) (data : Bytes) :
    SameOutside m (splice m off data) off data.length :=
  fun _ hi => splice_of_outside hi

end ByteRegions

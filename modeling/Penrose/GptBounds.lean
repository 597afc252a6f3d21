import Penrose.GptExchange
import Penrose.Runs

/-! Which accesses of the boot chain swap lie in the entry array. The search checks only that the name of an entry
begins in the array, and the swap checks nothing, so an array that does not end with an entry can be left. A round
stays in the array it finds exactly if every entry its search comes to lies there far enough. -/

namespace Penrose.Gpt

open ByteRegions

/-- The bytes that the search reads, up to the last one of the name. -/
@[reducible] def ptnNameEnd : Nat := partitionNameOffset + 71

/-- The search of the name comes to the entry: the loops of a round have not found two entries before it. -/
def ComesTo (name pentries : Bytes) (pentrySize k : Nat) : Prop :=
  ∀ i j, i < j → j < k → IsMatch name pentries (i * pentrySize) → ¬ IsMatch name pentries (j * pentrySize)

/-- Every entry that the round comes to, its name beginning in the array, has its whole name there, and its record
too when it is the second one found. -/
def RoundInBounds (pentrySize : Nat) (pentries name : Bytes) : Prop :=
  ∀ k, ComesTo name pentries pentrySize k → k * pentrySize + partitionNameOffset < pentries.length →
    k * pentrySize + ptnNameEnd ≤ pentries.length ∧
      ∀ i < k, IsMatch name pentries (i * pentrySize) → IsMatch name pentries (k * pentrySize) →
        InArray pentries (k * pentrySize)

/-- The array after the round of a name. -/
def nextEntries (pentrySize : Nat) (pentries name : Bytes) : Bytes :=
  match swapName pentrySize name pentries with
  | some (some swapped) => swapped
  | _ => pentries

/-- Every round stays in the array it finds. -/
def RoundsInBounds (isUfs : Bool) (pentrySize : Nat) (pentries : Bytes) : Prop :=
  Run (nextEntries pentrySize) (RoundInBounds pentrySize) pentries
    (ptnSwapList.filter fun name => !skipsName isUfs name)

/-! ### The search -/

section Search

variable {name pentries : Bytes} {pentrySize : Nat}

theorem name8_isSome_iff {entry : Nat} : (∃ raw, name8 pentries (entry + partitionNameOffset) = some raw) ↔
    entry + ptnNameEnd ≤ pentries.length := by
  refine ⟨?_, ?_⟩
  · rintro ⟨raw, hraw⟩
    have hread := (name8_eq_some.mp hraw).1
    simp only [ptnNameEnd, partitionNameOffset] at hread ⊢
    omega
  · intro hend
    refine ⟨_, name8_eq_some.mpr ⟨?_, rfl⟩⟩
    simp only [ptnNameEnd, partitionNameOffset] at hend ⊢
    omega

theorem IsMatch.nameEnd_le {entry : Nat} (h : IsMatch name pentries entry) : entry + ptnNameEnd ≤ pentries.length := by
  obtain ⟨raw, hraw, -⟩ := h
  exact name8_isSome_iff.mp ⟨raw, hraw⟩

/-- The search leaves the array at an entry whose name begins but does not end there. -/
theorem gptPentrySeekLoop_eq_none_iff {rounds entry : Nat} (hpos : 0 < pentries.length → 0 < pentrySize)
    (hrounds : pentries.length ≤ entry + rounds) :
    gptPentrySeekLoop name pentries pentrySize rounds entry = none ↔
      ∃ k, entry + k * pentrySize + partitionNameOffset < pentries.length ∧
        pentries.length < entry + k * pentrySize + ptnNameEnd ∧
        ∀ l < k, ¬ IsMatch name pentries (entry + l * pentrySize) := by
  induction rounds generalizing entry with
  | zero =>
      rw [gptPentrySeekLoop, if_neg (by omega)]
      refine iff_of_false (by simp) ?_
      rintro ⟨k, hk, -⟩
      omega
  | succ rounds ih =>
      have hshift (k : Nat) : entry + pentrySize + k * pentrySize = entry + (k + 1) * pentrySize := by
        rw [Nat.add_mul, Nat.one_mul]
        omega
      rw [gptPentrySeekLoop]
      split_ifs with hlt
      swap
      · refine iff_of_false (by simp) ?_
        rintro ⟨k, hk, -⟩
        omega
      cases hname : name8 pentries (entry + partitionNameOffset) with
      | none =>
          have hcut : ¬ entry + ptnNameEnd ≤ pentries.length := by
            rw [← name8_isSome_iff, hname]
            rintro ⟨_, ⟨⟩⟩
          exact iff_of_true rfl ⟨0, by omega, by omega, fun l hl => absurd hl (Nat.not_lt_zero l)⟩
      | some raw =>
          have hend : entry + ptnNameEnd ≤ pentries.length := name8_isSome_iff.mp ⟨raw, hname⟩
          simp only [Option.bind_eq_bind, Option.bind_some]
          split_ifs with hmatch
          · refine iff_of_false (by simp) ?_
            rintro ⟨k, -, hk, hbefore⟩
            cases k with
            | zero => omega
            | succ k =>
                refine hbefore 0 (Nat.succ_pos k) ⟨raw, ?_, hmatch⟩
                rw [Nat.zero_mul, Nat.add_zero]
                exact hname
          · have hfirst : ¬ IsMatch name pentries entry := by
              rintro ⟨raw', hname', hmatch'⟩
              rw [hname] at hname'
              cases hname'
              exact hmatch hmatch'
            have hsize := hpos (by omega)
            rw [ih (by omega)]
            simp only [hshift]
            refine ⟨?_, ?_⟩
            · rintro ⟨k, hlt', hcut, hbefore⟩
              refine ⟨k + 1, hlt', hcut, fun l hl => ?_⟩
              cases l with
              | zero =>
                  rw [Nat.zero_mul, Nat.add_zero]
                  exact hfirst
              | succ l => exact hbefore l (by omega)
            · rintro ⟨k, hlt', hcut, hbefore⟩
              cases k with
              | zero => omega
              | succ k => exact ⟨k, hlt', hcut, fun l hl => hbefore (l + 1) (by omega)⟩

/-- The search from an entry on, by the numbers of the entries. -/
theorem gptPentrySeek_eq_none_iff {i : Nat} (hpos : 0 < pentries.length → 0 < pentrySize) :
    gptPentrySeek name pentries (i * pentrySize) pentrySize = none ↔
      ∃ k ≥ i, k * pentrySize + partitionNameOffset < pentries.length ∧
        pentries.length < k * pentrySize + ptnNameEnd ∧
        ∀ l, i ≤ l → l < k → ¬ IsMatch name pentries (l * pentrySize) := by
  rw [gptPentrySeek, gptPentrySeekLoop_eq_none_iff hpos (Nat.le_add_left ..)]
  simp only [← Nat.add_mul]
  refine ⟨?_, ?_⟩
  · rintro ⟨k, hlt, hcut, hbefore⟩
    refine ⟨i + k, Nat.le_add_right .., hlt, hcut, fun l hil hlk => ?_⟩
    have hmatch := hbefore (l - i) (by omega)
    rwa [Nat.add_sub_cancel' hil] at hmatch
  · rintro ⟨k, hik, hlt, hcut, hbefore⟩
    refine ⟨k - i, ?_⟩
    rw [Nat.add_sub_cancel' hik]
    exact ⟨hlt, hcut, fun l hl => hbefore (i + l) (Nat.le_add_right ..) (by omega)⟩

theorem gptPentrySeek_eq_some {i : Nat} {r : Option Nat}
    (h : gptPentrySeek name pentries (i * pentrySize) pentrySize = some r) :
    (r = none ∧ ∀ k ≥ i, ¬ IsMatch name pentries (k * pentrySize)) ∨
      ∃ k ≥ i, r = some (k * pentrySize) ∧ IsMatch name pentries (k * pentrySize) ∧
        ∀ l, i ≤ l → l < k → ¬ IsMatch name pentries (l * pentrySize) := by
  obtain ⟨hsome, hnone⟩ := gptPentrySeekLoop_spec h
  simp only [← Nat.add_mul] at hsome hnone
  cases r with
  | none =>
      refine Or.inl ⟨rfl, fun k hk => ?_⟩
      have hmatch := hnone rfl (k - i)
      rwa [Nat.add_sub_cancel' hk] at hmatch
  | some found =>
      obtain ⟨k, rfl, hmatch, hbefore⟩ := hsome found rfl
      refine Or.inr ⟨i + k, Nat.le_add_right .., rfl, hmatch, fun l hil hlk => ?_⟩
      have hnot := hbefore (l - i) (by omega)
      rwa [Nat.add_sub_cancel' hil] at hnot

end Search

/-! ### A round -/

section Round

variable {name pentries : Bytes} {pentrySize : Nat} (hpos : 0 < pentries.length → 0 < pentrySize)

include hpos

theorem swapName_ne_none (h : RoundInBounds pentrySize pentries name) :
    swapName pentrySize name pentries ≠ none := by
  -- a search that leaves the array does so at an entry that the round comes to
  have hseek (i : Nat) (hcomes : ∀ k ≥ i, (∀ l, i ≤ l → l < k → ¬ IsMatch name pentries (l * pentrySize)) →
      ComesTo name pentries pentrySize k) :
      ∃ r, gptPentrySeek name pentries (i * pentrySize) pentrySize = some r := by
    apply Option.ne_none_iff_exists'.mp
    intro hnone
    obtain ⟨k, hik, hlt, hcut, hbefore⟩ := (gptPentrySeek_eq_none_iff hpos).mp hnone
    have hend := (h k (hcomes k hik hbefore) hlt).1
    omega
  obtain ⟨first, hfirst⟩ := hseek 0 fun k _ hbefore i j hij hjk hi _ => hbefore i (Nat.zero_le i) (by omega) hi
  rw [Nat.zero_mul] at hfirst
  have hfound := gptPentrySeek_eq_some (i := 0) (by rw [Nat.zero_mul]; exact hfirst)
  rw [swapName, hfirst]
  rcases hfound with ⟨rfl, -⟩ | ⟨k, -, rfl, hk, hbefore⟩
  · exact Option.some_ne_none none
  have hafter (l : Nat) (hl : k + 1 ≤ l)
      (hnone : ∀ m, k + 1 ≤ m → m < l → ¬ IsMatch name pentries (m * pentrySize)) :
      ComesTo name pentries pentrySize l := by
    intro i j hij hjl hi hj
    by_cases hjk : j ≤ k
    · exact hbefore i (Nat.zero_le i) (by omega) hi
    · exact hnone j (by omega) hjl hj
  obtain ⟨second, hsecond⟩ := hseek (k + 1) hafter
  have hfound := gptPentrySeek_eq_some hsecond
  have hstart : k * pentrySize + pentrySize = (k + 1) * pentrySize := (Nat.succ_mul ..).symm
  simp only [Option.bind_eq_bind, Option.bind_some, hstart, hsecond]
  rcases hfound with ⟨rfl, -⟩ | ⟨l, hkl, rfl, hl, hbetween⟩
  · exact Option.some_ne_none none
  have hle : (k + 1) * pentrySize ≤ l * pentrySize := Nat.mul_le_mul_right _ hkl
  have hend := hl.nameEnd_le
  have hinL : InArray pentries (l * pentrySize) :=
    (h l (hafter l hkl hbetween) (by simp only [ptnNameEnd] at hend; omega)).2 k (by omega) hk hl
  have hinK : InArray pentries (k * pentrySize) := by
    unfold InArray at hinL ⊢
    omega
  obtain ⟨swapped, hswapped⟩ := swapRecords_isSome hinK hinL
  simp only [hswapped, Option.bind_some]
  exact Option.some_ne_none _

/-- A round stays in the array exactly if the entries it comes to lie there far enough. -/
theorem swapName_ne_none_iff :
    swapName pentrySize name pentries ≠ none ↔ RoundInBounds pentrySize pentries name := by
  refine ⟨fun h => ?_, swapName_ne_none hpos⟩
  obtain ⟨r, h⟩ := Option.ne_none_iff_exists'.mp h
  simp only [swapName, Option.bind_eq_bind, Option.bind_eq_some_iff] at h
  obtain ⟨first, hfirst, h⟩ := h
  rw [← Nat.zero_mul pentrySize] at hfirst
  have hfirstSome : gptPentrySeek name pentries (0 * pentrySize) pentrySize ≠ none := by
    rw [hfirst]
    exact Option.some_ne_none _
  rw [Ne, gptPentrySeek_eq_none_iff hpos] at hfirstSome
  intro k hcomes hlt
  rcases gptPentrySeek_eq_some hfirst with ⟨rfl, hnone⟩ | ⟨k₀, -, rfl, hk₀, hbefore⟩
  · refine ⟨?_, fun i hik hi => absurd hi (hnone i (Nat.zero_le i))⟩
    by_contra hcut
    exact hfirstSome ⟨k, Nat.zero_le k, hlt, by omega, fun l _ _ => hnone l (Nat.zero_le l)⟩
  have hend₀ := hk₀.nameEnd_le
  have hstart : k₀ * pentrySize + pentrySize = (k₀ + 1) * pentrySize := (Nat.succ_mul ..).symm
  simp only [hstart, Option.bind_eq_some_iff] at h
  obtain ⟨second, hsecond, h⟩ := h
  have hsecondSome : gptPentrySeek name pentries ((k₀ + 1) * pentrySize) pentrySize ≠ none := by
    rw [hsecond]
    exact Option.some_ne_none _
  rw [Ne, gptPentrySeek_eq_none_iff hpos] at hsecondSome
  -- nothing between the first entry found and one that the round comes to is found
  have hbetween (l : Nat) (hkl : k₀ + 1 ≤ l) (hlk : l < k) : ¬ IsMatch name pentries (l * pentrySize) :=
    hcomes k₀ l (by omega) hlk hk₀
  refine ⟨?_, ?_⟩
  · by_contra hcut
    by_cases hle : k ≤ k₀
    · have hmul : k * pentrySize ≤ k₀ * pentrySize := Nat.mul_le_mul_right _ hle
      omega
    · exact hsecondSome ⟨k, by omega, hlt, by omega, hbetween⟩
  · intro i hik hi hk
    have hk₀i : k₀ ≤ i := by
      by_contra hlt'
      exact hbefore i (Nat.zero_le i) (by omega) hi
    rcases gptPentrySeek_eq_some hsecond with ⟨rfl, hnone⟩ | ⟨k₁, hk₁ge, rfl, hk₁, hfirst₁⟩
    · exact absurd hk (hnone k (by omega))
    simp only [Option.bind_eq_some_iff] at h
    obtain ⟨swapped, hswapped, -⟩ := h
    obtain rfl : k₁ = k := by
      rcases lt_trichotomy k₁ k with hlt' | heq | hgt
      · exact absurd hk₁ (hbetween k₁ hk₁ge hlt')
      · exact heq
      · exact absurd hk (hfirst₁ k (by omega) hgt)
    exact (swapRecords_eq_some hswapped).2.1

end Round

/-! ### All rounds -/

section Rounds

variable {isUfs : Bool} {pentrySize : Nat} {pentries : Bytes}

theorem gptBootChainSwapLoop_ne_none_iff {names : List Bytes} {r : Int}
    (hpos : 0 < pentries.length → 0 < pentrySize) :
    gptBootChainSwapLoop isUfs pentrySize names (r, pentries) ≠ none ↔
      Run (nextEntries pentrySize) (RoundInBounds pentrySize) pentries
        (names.filter fun name => !skipsName isUfs name) := by
  induction names generalizing r pentries with
  | nil => exact iff_of_true (Option.some_ne_none _) trivial
  | cons name names ih =>
      rw [gptBootChainSwapLoop, List.filter_cons]
      by_cases hskip : skipsName isUfs name = true
      · rw [if_pos hskip, if_neg (by simp [hskip])]
        exact ih hpos
      rw [if_neg hskip, if_pos (by simpa using hskip), Run, ← swapName_ne_none_iff hpos, nextEntries]
      cases hround : swapName pentrySize name pentries with
      | none => exact iff_of_false (fun h => h rfl) fun h => h.1 rfl
      | some swapped =>
          have hdone : (some swapped : Option (Option Bytes)) ≠ none := Option.some_ne_none swapped
          simp only [Option.bind_eq_bind, Option.bind_some]
          cases swapped with
          | none => exact (ih hpos).trans (and_iff_right hdone).symm
          | some swapped =>
              rw [← length_swapName hround] at hpos
              exact (ih hpos).trans (and_iff_right hdone).symm

/-- The swap stays in the array exactly if every round does. -/
theorem gptBootChainSwap_ne_none_iff (hpos : 0 < pentries.length → 0 < pentrySize) :
    gptBootChainSwap isUfs pentries pentrySize ≠ none ↔ RoundsInBounds isUfs pentrySize pentries :=
  gptBootChainSwapLoop_ne_none_iff hpos

/-- A round depends on the length of the array and on the entries its name is looked for at. -/
theorem roundInBounds_congr {name pentries' : Bytes} (hlen : pentries'.length = pentries.length)
    (hmatch : ∀ k, IsMatch name pentries' (k * pentrySize) ↔ IsMatch name pentries (k * pentrySize)) :
    RoundInBounds pentrySize pentries' name ↔ RoundInBounds pentrySize pentries name := by
  simp only [RoundInBounds, ComesTo, InArray, hlen, hmatch]

/-- Entries that are at least a record long do not overlap, so no round changes which entries a later one comes
to. -/
theorem roundsInBounds_iff (hsize : ptnEntrySize ≤ pentrySize) :
    RoundsInBounds isUfs pentrySize pentries ↔
      ∀ name ∈ ptnSwapList, skipsName isUfs name = false → RoundInBounds pentrySize pentries name := by
  let Same (pentries' : Bytes) : Prop := pentries'.length = pentries.length ∧ ∀ name ∈ ptnSwapList,
    ∀ k, IsMatch name pentries' (k * pentrySize) ↔ IsMatch name pentries (k * pentrySize)
  have hround (pentries' name : Bytes) (hsame : Same pentries') (hname : name ∈ ptnSwapList) :
      RoundInBounds pentrySize pentries' name ↔ RoundInBounds pentrySize pentries name :=
    roundInBounds_congr hsame.1 (hsame.2 name hname)
  have hnext (pentries' name : Bytes) (hsame : Same pentries') (hname : name ∈ ptnSwapList) :
      Same (nextEntries pentrySize pentries' name) := by
    unfold nextEntries
    split
    · rename_i swapped hswapped
      obtain ⟨i, j, hij, hi, hj, hrecords⟩ := swapName_eq_some hswapped
      refine ⟨(length_swapName hswapped).trans hsame.1, fun other hother k => ?_⟩
      calc IsMatch other swapped (k * pentrySize) ↔ IsMatch other pentries' (k * pentrySize) :=
            isMatch_swapped hsize hrecords hij hname hother hi hj k
        _ ↔ IsMatch other pentries (k * pentrySize) := hsame.2 other hother k
    · exact hsame
  have hlisted : ∀ name ∈ ptnSwapList.filter (fun name => !skipsName isUfs name), name ∈ ptnSwapList :=
    fun _ hname => (List.mem_filter.mp hname).1
  rw [RoundsInBounds, Run.iff_of_inv hround (fun s name hsame hname _ => hnext s name hsame hname)
    ⟨rfl, fun _ _ _ => Iff.rfl⟩ (Run.forall_iff.mpr hlisted), Run.forall_iff]
  simp only [List.mem_filter, Bool.not_eq_true', and_imp]

/-- An array of whole entries is never left. -/
theorem roundInBounds_of_whole (hsize : ptnEntrySize ≤ pentrySize) (hwhole : pentrySize ∣ pentries.length)
    (name : Bytes) : RoundInBounds pentrySize pentries name := by
  intro k _ hlt
  have hin : InArray pentries (k * pentrySize) :=
    inArray_of_lt hsize hwhole (Nat.dvd_mul_left ..) (by omega)
  refine ⟨?_, fun _ _ _ _ => hin⟩
  simp only [InArray, ptnEntrySize, ptnNameEnd, partitionNameOffset] at hin ⊢
  omega

end Rounds

end Penrose.Gpt

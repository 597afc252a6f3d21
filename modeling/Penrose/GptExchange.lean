import Penrose.GptImage
import Penrose.GptPairs
import Penrose.Pairings

/-! The swap of the boot chain as an exchange of records. In an array of whole entries with different names a
round of the swap exchanges the two entries that its name pairs, or does nothing when the name pairs none. No
entry is paired by two names, so the rounds together exchange all pairs, and a second swap undoes the first. -/

namespace Penrose.Gpt

open ByteRegions Pairings

/-! ### Names and entries -/

theorem isMatch_iff {ptnName pentries : Bytes} {entry : Nat} (hnonzero : ∀ x ∈ ptnName, x ≠ 0) :
    IsMatch ptnName pentries entry ↔
      entryName pentries entry = some ptnName ∨ entryName pentries entry = some (ptnName ++ bakPtnNameExt) := by
  refine ⟨?_, ?_⟩
  · rintro ⟨raw, hraw, hmatch⟩
    rw [entryName, hraw, Option.map_some, Option.some.injEq, Option.some.injEq]
    exact (isPtnOrBak_iff hnonzero).mp hmatch
  · rintro (h | h)
    · exact HasEntry.isMatch hnonzero (Or.inl rfl) h
    · exact HasEntry.isMatch hnonzero (Or.inr rfl) h

theorem ptnSwapList_ne_bak : ∀ name ∈ ptnSwapList, ∀ other ∈ ptnSwapList, name ≠ other ++ bakPtnNameExt := by
  decide +kernel

/-- No two names of the list are looked for at the same entry. -/
theorem eq_of_isMatch {name other pentries : Bytes} {entry : Nat} (hname : name ∈ ptnSwapList)
    (hother : other ∈ ptnSwapList) (h : IsMatch name pentries entry) (h' : IsMatch other pentries entry) :
    name = other := by
  rw [isMatch_iff (ptnSwapList_nonzero name hname)] at h
  rw [isMatch_iff (ptnSwapList_nonzero other hother)] at h'
  rcases h with h | h <;> rcases h' with h' | h'
  · exact Option.some.inj (h.symm.trans h')
  · exact absurd (Option.some.inj (h.symm.trans h')) (ptnSwapList_ne_bak name hname other hother)
  · exact absurd (Option.some.inj (h'.symm.trans h)) (ptnSwapList_ne_bak other hother name hname)
  · exact List.append_cancel_right (Option.some.inj (h.symm.trans h'))

/-- The part of an entry that the swap moves. -/
def entryRecord (pentries : Bytes) (pentrySize i : Nat) : Bytes :=
  (pentries.drop (i * pentrySize)).take ptnEntrySize

theorem getElem?_entryRecord {pentries : Bytes} {pentrySize i b : Nat} (hb : b < ptnEntrySize) :
    (entryRecord pentries pentrySize i)[b]? = pentries[i * pentrySize + b]? := by
  rw [entryRecord, List.getElem?_take, if_pos hb, List.getElem?_drop]

theorem entryRecord_congr {pentries pentries' : Bytes} {pentrySize i j : Nat}
    (h : ∀ b < ptnEntrySize, pentries[i * pentrySize + b]? = pentries'[j * pentrySize + b]?) :
    entryRecord pentries pentrySize i = entryRecord pentries' pentrySize j := by
  apply List.ext_getElem?
  intro b
  by_cases hb : b < ptnEntrySize
  · rw [getElem?_entryRecord hb, getElem?_entryRecord hb]
    exact h b hb
  · rw [entryRecord, entryRecord, List.getElem?_take, List.getElem?_take, if_neg hb, if_neg hb]

/-- Entries that have a name have different ones. -/
def DistinctNames (pentries : Bytes) (pentrySize : Nat) : Prop :=
  ∀ i j name, name ≠ [] → entryName pentries (i * pentrySize) = some name →
    entryName pentries (j * pentrySize) = some name → i = j

/-! ### Swapping two entries -/

theorem swappedFrom_mul {pentrySize : Nat} (hsize : ptnEntrySize ≤ pentrySize) (i j k : Nat) :
    swappedFrom (i * pentrySize) (j * pentrySize) (k * pentrySize) = Equiv.swap i j k * pentrySize := by
  have hpos : 0 < pentrySize := lt_of_lt_of_le (by decide) hsize
  have hmul : ∀ a b : Nat, a * pentrySize = b * pentrySize ↔ a = b := fun a b => Nat.mul_left_inj hpos.ne'
  rw [swappedFrom, Equiv.swap_apply_def]
  simp only [hmul]
  split_ifs <;> rfl

section Swap

variable {pentries swapped : Bytes} {pentrySize i j : Nat} (hsize : ptnEntrySize ≤ pentrySize)
  (h : swapRecords pentries (i * pentrySize) (j * pentrySize) = some swapped)

include hsize h

/-- The bytes of an entry past its record stay. -/
theorem getElem?_swapped_between {pos : Nat} (hpos : ptnEntrySize ≤ pos % pentrySize) :
    swapped[pos]? = pentries[pos]? := by
  obtain ⟨hinI, hinJ, rfl⟩ := swapRecords_eq_some h
  unfold InArray at hinI hinJ
  have houtside (k : Nat) : ¬ (k * pentrySize ≤ pos ∧ pos < k * pentrySize + ptnEntrySize) := by
    rintro ⟨hle, hlt⟩
    have hmod : pos % pentrySize = pos - k * pentrySize := by
      rw [← Nat.mod_eq_of_lt (show pos - k * pentrySize < pentrySize by omega), Nat.mul_comm,
        Nat.sub_mul_mod (by rw [Nat.mul_comm]; exact hle)]
    omega
  have hlen (k : Nat) (hk : k * pentrySize + ptnEntrySize ≤ pentries.length) :
      ((pentries.drop (k * pentrySize)).take ptnEntrySize).length = ptnEntrySize := by
    rw [List.length_take, List.length_drop]
    omega
  have hcopy : i * pentrySize + ((pentries.drop (j * pentrySize)).take ptnEntrySize).length ≤ pentries.length := by
    rw [hlen j hinJ]
    exact hinI
  rw [getElem?_overwrite (by rw [length_overwrite hcopy, hlen i hinI]; exact hinJ), hlen i hinI,
    if_neg (houtside j), getElem?_overwrite hcopy, hlen j hinJ, if_neg (houtside i)]

variable (hij : i < j)

include hij

theorem entryName_swapped (k : Nat) :
    entryName swapped (k * pentrySize) = entryName pentries (Equiv.swap i j k * pentrySize) := by
  have hab := (apart_of_multiples hsize i j).resolve_left fun heq =>
    hij.ne (Nat.eq_of_mul_eq_mul_right (lt_of_lt_of_le (by decide) hsize) heq)
  rw [← swappedFrom_mul hsize]
  exact entryName_swapRecords h hab (apart_of_multiples hsize k i) (apart_of_multiples hsize k j)

theorem entryRecord_swapped (k : Nat) :
    entryRecord swapped pentrySize k = entryRecord pentries pentrySize (Equiv.swap i j k) := by
  have hab := (apart_of_multiples hsize i j).resolve_left fun heq =>
    hij.ne (Nat.eq_of_mul_eq_mul_right (lt_of_lt_of_le (by decide) hsize) heq)
  apply entryRecord_congr
  intro b hb
  rw [← swappedFrom_mul hsize]
  exact getElem?_swapRecords h hab (apart_of_multiples hsize k i) (apart_of_multiples hsize k j) hb

theorem distinctNames_swapped (hnames : DistinctNames pentries pentrySize) : DistinctNames swapped pentrySize := by
  intro k l name hname hk hl
  rw [entryName_swapped hsize h hij] at hk hl
  exact (Equiv.swap i j).injective (hnames _ _ name hname hk hl)

/-- Swapping two entries that one name is looked for at changes no entry that any name is looked for at. -/
theorem isMatch_swapped {name other : Bytes} (hname : name ∈ ptnSwapList) (hother : other ∈ ptnSwapList)
    (hi : IsMatch name pentries (i * pentrySize)) (hj : IsMatch name pentries (j * pentrySize)) (k : Nat) :
    IsMatch other swapped (k * pentrySize) ↔ IsMatch other pentries (k * pentrySize) := by
  have hnonzero := ptnSwapList_nonzero other hother
  have hmoved : IsMatch other swapped (k * pentrySize) ↔
      IsMatch other pentries (Equiv.swap i j k * pentrySize) := by
    rw [isMatch_iff hnonzero, isMatch_iff hnonzero, entryName_swapped hsize h hij]
  have hboth : IsMatch other pentries (i * pentrySize) ↔ IsMatch other pentries (j * pentrySize) := by
    refine ⟨?_, ?_⟩
    · intro hmatch
      obtain rfl := eq_of_isMatch hname hother hi hmatch
      exact hj
    · intro hmatch
      obtain rfl := eq_of_isMatch hname hother hj hmatch
      exact hi
  rw [hmoved, Equiv.swap_apply_def]
  split_ifs with hki hkj
  · rw [hki]
    exact hboth.symm
  · rw [hkj]
    exact hboth
  · exact Iff.rfl

end Swap

/-! ### Pairs of entries -/

/-- One of the entries is named like the partition and the other like its backup. -/
def PairOf (name pentries : Bytes) (pentrySize i j : Nat) : Prop :=
  entryName pentries (i * pentrySize) = some name ∧
      entryName pentries (j * pentrySize) = some (name ++ bakPtnNameExt) ∨
    entryName pentries (i * pentrySize) = some (name ++ bakPtnNameExt) ∧
      entryName pentries (j * pentrySize) = some name

/-- The entries are a pair of one of the names, which is not skipped. -/
def PairedBy (isUfs : Bool) (names : List Bytes) (pentries : Bytes) (pentrySize i j : Nat) : Prop :=
  ∃ name ∈ names, skipsName isUfs name = false ∧ PairOf name pentries pentrySize i j

section Pairs

variable {isUfs : Bool} {names : List Bytes} {name pentries : Bytes} {pentrySize i j : Nat}

theorem PairOf.symm (h : PairOf name pentries pentrySize i j) : PairOf name pentries pentrySize j i :=
  (Or.symm h).imp And.symm And.symm

theorem PairOf.isMatch (hname : name ∈ ptnSwapList) (h : PairOf name pentries pentrySize i j) :
    IsMatch name pentries (i * pentrySize) := by
  rw [isMatch_iff (ptnSwapList_nonzero name hname)]
  exact h.imp And.left And.left

/-- Two names of the list pair no entry both. -/
theorem PairOf.eq_of_pairOf {other : Bytes} {k : Nat} (hname : name ∈ ptnSwapList) (hother : other ∈ ptnSwapList)
    (hij : PairOf name pentries pentrySize i j) (hik : PairOf other pentries pentrySize i k) : name = other :=
  eq_of_isMatch hname hother (hij.isMatch hname) (hik.isMatch hother)

theorem ptnSwapList_ne_nil : ∀ name ∈ ptnSwapList, name ≠ [] := by decide +kernel

variable (hnames : DistinctNames pentries pentrySize)

include hnames

/-- When names differ, the pair of a name is formed by the two entries it is looked for at. -/
theorem pairOf_iff (hname : name ∈ ptnSwapList) : PairOf name pentries pentrySize i j ↔
    i ≠ j ∧ IsMatch name pentries (i * pentrySize) ∧ IsMatch name pentries (j * pentrySize) := by
  have hbak : name ++ bakPtnNameExt ≠ [] := by simp [ptnSwapList_ne_nil name hname]
  refine ⟨?_, ?_⟩
  · intro h
    refine ⟨?_, h.isMatch hname, h.symm.isMatch hname⟩
    intro heq
    subst heq
    have hsame : name = name ++ bakPtnNameExt := by
      rcases h with ⟨hi, hj⟩ | ⟨hi, hj⟩
      · exact Option.some.inj (hi.symm.trans hj)
      · exact Option.some.inj (hj.symm.trans hi)
    exact ptnSwapList_ne_bak name hname name hname hsame
  · rintro ⟨hne, hi, hj⟩
    rw [isMatch_iff (ptnSwapList_nonzero name hname)] at hi hj
    rcases hi with hi | hi <;> rcases hj with hj | hj
    · exact absurd (hnames i j _ (ptnSwapList_ne_nil name hname) hi hj) hne
    · exact Or.inl ⟨hi, hj⟩
    · exact Or.inr ⟨hi, hj⟩
    · exact absurd (hnames i j _ hbak hi hj) hne

/-- A name has at most one pair. -/
theorem PairOf.eq_or_eq {k l : Nat} (hname : name ∈ ptnSwapList) (hij : PairOf name pentries pentrySize i j)
    (hkl : PairOf name pentries pentrySize k l) : k = i ∧ l = j ∨ k = j ∧ l = i := by
  have hptn {a b : Nat} (ha : entryName pentries (a * pentrySize) = some name)
      (hb : entryName pentries (b * pentrySize) = some name) : a = b :=
    hnames a b name (ptnSwapList_ne_nil name hname) ha hb
  have hbak {a b : Nat} (ha : entryName pentries (a * pentrySize) = some (name ++ bakPtnNameExt))
      (hb : entryName pentries (b * pentrySize) = some (name ++ bakPtnNameExt)) : a = b :=
    hnames a b (name ++ bakPtnNameExt) (by simp [ptnSwapList_ne_nil name hname]) ha hb
  rcases hij with ⟨hi, hj⟩ | ⟨hi, hj⟩ <;> rcases hkl with ⟨hk, hl⟩ | ⟨hk, hl⟩
  · exact Or.inl ⟨hptn hk hi, hbak hl hj⟩
  · exact Or.inr ⟨hbak hk hj, hptn hl hi⟩
  · exact Or.inr ⟨hptn hk hj, hbak hl hi⟩
  · exact Or.inl ⟨hbak hk hi, hptn hl hj⟩

theorem pairing_pairedBy (hmem : ∀ name ∈ names, name ∈ ptnSwapList) :
    Pairing (PairedBy isUfs names pentries pentrySize) where
  symm := fun ⟨name, hname, hskip, hij⟩ => ⟨name, hname, hskip, hij.symm⟩
  unique := by
    rintro i j k ⟨name, hname, -, hij⟩ ⟨other, hother, -, hik⟩
    obtain rfl := PairOf.eq_of_pairOf (hmem name hname) (hmem other hother) hij hik
    rcases PairOf.eq_or_eq hnames (hmem name hname) hij hik with ⟨-, rfl⟩ | ⟨rfl, rfl⟩ <;> rfl

end Pairs

theorem pairedBy_congr {isUfs : Bool} {names : List Bytes} {pentries pentries' : Bytes} {pentrySize : Nat}
    (h : ∀ name ∈ names, ∀ i j, PairOf name pentries' pentrySize i j ↔ PairOf name pentries pentrySize i j) :
    PairedBy isUfs names pentries' pentrySize = PairedBy isUfs names pentries pentrySize := by
  funext i j
  refine propext (exists_congr fun name => and_congr_right fun hname => and_congr_right fun _ => h name hname i j)

theorem pairedBy_cons (isUfs : Bool) (name : Bytes) (names : List Bytes) (pentries : Bytes) (pentrySize : Nat) :
    PairedBy isUfs (name :: names) pentries pentrySize = fun i j =>
      (skipsName isUfs name = false ∧ PairOf name pentries pentrySize i j) ∨
        PairedBy isUfs names pentries pentrySize i j := by
  funext i j
  simp only [PairedBy, List.mem_cons, exists_eq_or_imp]

theorem pairedBy_cons_of_none {isUfs : Bool} {name : Bytes} {names : List Bytes} {pentries : Bytes}
    {pentrySize : Nat} (h : skipsName isUfs name = false → ∀ i j, ¬ PairOf name pentries pentrySize i j) :
    PairedBy isUfs (name :: names) pentries pentrySize = PairedBy isUfs names pentries pentrySize := by
  rw [pairedBy_cons]
  funext i j
  exact propext (or_iff_right fun ⟨hskip, hij⟩ => h hskip i j hij)

/-! ### The rounds -/

/-- The arrays have the same bytes, but for the records of the pairs, which are exchanged. -/
structure RecordsExchanged (R : Nat → Nat → Prop) (pentrySize : Nat) (pentries swapped : Bytes) : Prop where
  records : Exchanged R (entryRecord pentries pentrySize) (entryRecord swapped pentrySize)
  between : ∀ pos, ptnEntrySize ≤ pos % pentrySize → swapped[pos]? = pentries[pos]?

theorem RecordsExchanged.eq_of_records {pentrySize : Nat} {pentries pentries' : Bytes}
    (hrecords : entryRecord pentries' pentrySize = entryRecord pentries pentrySize)
    (hbetween : ∀ pos, ptnEntrySize ≤ pos % pentrySize → pentries'[pos]? = pentries[pos]?) :
    pentries' = pentries := by
  apply List.ext_getElem?
  intro pos
  by_cases hpos : ptnEntrySize ≤ pos % pentrySize
  · exact hbetween pos hpos
  · have hrecord := congrArg (·[pos % pentrySize]?) (congrFun hrecords (pos / pentrySize))
    have hdiv : pos / pentrySize * pentrySize + pos % pentrySize = pos := Nat.div_add_mod' ..
    simp only [getElem?_entryRecord (not_le.mp hpos), hdiv] at hrecord
    exact hrecord

section Rounds

variable {isUfs : Bool} {name pentries : Bytes} {pentrySize : Nat} (hsize : ptnEntrySize ≤ pentrySize)
  (hnames : DistinctNames pentries pentrySize)

include hnames

/-- A round that does nothing has no pair. -/
theorem not_pairOf_of_swapName (hname : name ∈ ptnSwapList)
    (h : swapName pentrySize name pentries = some none) (i j : Nat) :
    ¬ PairOf name pentries pentrySize i j := by
  intro hij
  obtain ⟨hne, hi, hj⟩ := (pairOf_iff hnames hname).mp hij
  exact swapName_of_isMatch hne hi hj h rfl

include hsize

/-- A round that swaps exchanges the records of its pair and keeps the pairs of all names. -/
theorem exchanged_of_swapName {swapped : Bytes} (hname : name ∈ ptnSwapList)
    (h : swapName pentrySize name pentries = some (some swapped)) :
    (∃ i j, PairOf name pentries pentrySize i j) ∧
      RecordsExchanged (PairOf name pentries pentrySize) pentrySize pentries swapped ∧
      DistinctNames swapped pentrySize ∧
      ∀ other ∈ ptnSwapList, ∀ i j, PairOf other swapped pentrySize i j ↔ PairOf other pentries pentrySize i j := by
  obtain ⟨i, j, hlt, hi, hj, hswapped⟩ := swapName_eq_some h
  have hdistinct := distinctNames_swapped hsize hswapped hlt hnames
  have hij : PairOf name pentries pentrySize i j := (pairOf_iff hnames hname).mpr ⟨hlt.ne, hi, hj⟩
  refine ⟨⟨i, j, hij⟩, ⟨⟨?_, ?_⟩, fun pos => getElem?_swapped_between hsize hswapped⟩, hdistinct, ?_⟩
  · intro k l hkl
    rw [entryRecord_swapped hsize hswapped hlt]
    rcases PairOf.eq_or_eq hnames hname hij hkl with ⟨rfl, rfl⟩ | ⟨rfl, rfl⟩
    · rw [Equiv.swap_apply_left]
    · rw [Equiv.swap_apply_right]
  · intro k hnone
    have hki : k ≠ i := fun heq => hnone j (heq ▸ hij)
    have hkj : k ≠ j := fun heq => hnone i (heq ▸ hij.symm)
    rw [entryRecord_swapped hsize hswapped hlt, Equiv.swap_apply_of_ne_of_ne hki hkj]
  · intro other hother k l
    rw [pairOf_iff hdistinct hother, pairOf_iff hnames hother,
      isMatch_swapped hsize hswapped hlt hname hother hi hj, isMatch_swapped hsize hswapped hlt hname hother hi hj]

/-- The rounds exchange the records of all pairs of their names; the result is 0 if there is a pair. -/
theorem exchanged_of_gptBootChainSwapLoop {names : List Bytes} {r r' : Int} {swapped : Bytes}
    (hmem : ∀ name ∈ names, name ∈ ptnSwapList)
    (honce : names.Pairwise fun name other => skipsName isUfs name = false → name ≠ other)
    (h : gptBootChainSwapLoop isUfs pentrySize names (r, pentries) = some (r', swapped)) :
    RecordsExchanged (PairedBy isUfs names pentries pentrySize) pentrySize pentries swapped ∧
      DistinctNames swapped pentrySize ∧
      (∀ other ∈ ptnSwapList, ∀ i j,
        PairOf other swapped pentrySize i j ↔ PairOf other pentries pentrySize i j) ∧
      ((∃ i j, PairedBy isUfs names pentries pentrySize i j) ∧ r' = 0 ∨
        (∀ i j, ¬ PairedBy isUfs names pentries pentrySize i j) ∧ r' = r ∧ swapped = pentries) := by
  induction names generalizing r pentries with
  | nil =>
      cases h
      have hnone (i j : Nat) : ¬ PairedBy isUfs [] swapped pentrySize i j := fun ⟨_, hin, _⟩ => nomatch hin
      exact ⟨⟨Exchanged.refl hnone _, fun _ _ => rfl⟩, hnames, fun _ _ _ _ => Iff.rfl, Or.inr ⟨hnone, rfl, rfl⟩⟩
  | cons name names ih =>
      obtain ⟨hfirst, honce⟩ := List.pairwise_cons.mp honce
      obtain ⟨hname, hmem⟩ := List.forall_mem_cons.mp hmem
      rw [gptBootChainSwapLoop] at h
      by_cases hskip : skipsName isUfs name = true
      · rw [if_pos hskip] at h
        have hquiet (hnot : skipsName isUfs name = false) (i j : Nat) : ¬ PairOf name pentries pentrySize i j :=
          absurd hskip (by rw [hnot]; decide)
        rw [pairedBy_cons_of_none hquiet]
        exact ih hnames hmem honce h
      rw [if_neg hskip] at h
      simp only [Option.bind_eq_bind, Option.bind_eq_some_iff] at h
      obtain ⟨found, hfound, h⟩ := h
      cases found with
      | none =>
          rw [pairedBy_cons_of_none fun _ => not_pairOf_of_swapName hnames hname hfound]
          exact ih hnames hmem honce h
      | some first =>
          obtain ⟨⟨i, j, hij⟩, hexchanged, hdistinct, hkeeps⟩ := exchanged_of_swapName hsize hnames hname hfound
          obtain ⟨hrest, hdistinct', hkeeps', hresult⟩ := ih hdistinct hmem honce h
          rw [pairedBy_congr fun other hother => hkeeps other (hmem other hother)] at hrest
          rw [Bool.not_eq_true] at hskip
          have hcons : PairedBy isUfs (name :: names) pentries pentrySize = fun i j =>
              PairOf name pentries pentrySize i j ∨ PairedBy isUfs names pentries pentrySize i j := by
            rw [pairedBy_cons]
            simp only [hskip, true_and]
          have hapart (i j k : Nat) (hij : PairOf name pentries pentrySize i j) :
              ¬ PairedBy isUfs names pentries pentrySize i k := by
            rintro ⟨other, hother, -, hik⟩
            exact hfirst other hother hskip (PairOf.eq_of_pairOf hname (hmem other hother) hij hik)
          rw [hcons]
          refine ⟨⟨?_, fun pos hpos => (hrest.between pos hpos).trans (hexchanged.between pos hpos)⟩, hdistinct',
            fun other hother k l => (hkeeps' other hother k l).trans (hkeeps other hother k l),
            Or.inl ⟨⟨i, j, Or.inl hij⟩, ?_⟩⟩
          · exact Exchanged.trans (pairing_pairedBy hnames hmem) hapart hexchanged.records hrest.records
          · rcases hresult with ⟨-, hr⟩ | ⟨-, hr, -⟩ <;> exact hr

end Rounds

/-! ### The whole swap -/

/-- The names of the list that are not skipped occur in it once. -/
theorem ptnSwapList_once (isUfs : Bool) :
    ptnSwapList.Pairwise fun name other => skipsName isUfs name = false → name ≠ other := by
  cases isUfs <;> decide +kernel

theorem lt_of_entryName {pentries name : Bytes} {pentrySize count i : Nat}
    (hwhole : pentries.length = count * pentrySize)
    (h : entryName pentries (i * pentrySize) = some name) : i < count := by
  rw [entryName, Option.map_eq_some_iff] at h
  obtain ⟨raw, hraw, -⟩ := h
  have hread := (name8_eq_some.mp hraw).1
  rw [hwhole] at hread
  exact Nat.lt_of_mul_lt_mul_right (show i * pentrySize < count * pentrySize by omega)

theorem lt_of_pairedBy {isUfs : Bool} {names : List Bytes} {pentries : Bytes} {pentrySize count i j : Nat}
    (hwhole : pentries.length = count * pentrySize) (h : PairedBy isUfs names pentries pentrySize i j) :
    j < count := by
  obtain ⟨name, -, -, ⟨-, hj⟩ | ⟨-, hj⟩⟩ := h
  · exact lt_of_entryName hwhole hj
  · exact lt_of_entryName hwhole hj

/-- What a swap does to an array of `count` entries: it permutes the records, exchanging those of every pair of a
name that is not skipped, and returns 1 if there is no pair. -/
structure SwapsPairs (isUfs : Bool) (pentrySize count : Nat) (pentries : Bytes) (r : Int) (swapped : Bytes) : Prop where
  permutes : ∃ σ : Equiv.Perm (Fin count), (∀ i, σ (σ i) = i) ∧
    (∀ i j : Fin count, i ≠ j → (σ i = j ↔ PairedBy isUfs ptnSwapList pentries pentrySize i j)) ∧
    ∀ i : Fin count, entryRecord swapped pentrySize i = entryRecord pentries pentrySize (σ i)
  between : ∀ pos, ptnEntrySize ≤ pos % pentrySize → swapped[pos]? = pentries[pos]?
  length : swapped.length = pentries.length
  result : r = 0 ∨ r = 1
  result_iff : r = 1 ↔ ∀ i j, ¬ PairedBy isUfs ptnSwapList pentries pentrySize i j
  unchanged : r = 1 → swapped = pentries

section Whole

variable {isUfs : Bool} {pentries : Bytes} {pentrySize count : Nat} (hsize : ptnEntrySize ≤ pentrySize)
  (hwhole : pentries.length = count * pentrySize) (hnames : DistinctNames pentries pentrySize)

include hsize hwhole hnames

theorem swapsPairs_of_gptBootChainSwap {r : Int} {swapped : Bytes}
    (h : gptBootChainSwap isUfs pentries pentrySize = some (r, swapped)) :
    SwapsPairs isUfs pentrySize count pentries r swapped := by
  obtain ⟨hexchanged, -, -, hresult⟩ :=
    exchanged_of_gptBootChainSwapLoop hsize hnames (fun _ hname => hname) (ptnSwapList_once isUfs) h
  have hpairing : Pairing (PairedBy isUfs ptnSwapList pentries pentrySize) :=
    pairing_pairedBy hnames fun _ hname => hname
  have hfin : Pairing fun i j : Fin count => PairedBy isUfs ptnSwapList pentries pentrySize i j :=
    ⟨hpairing.symm, fun hij hik => Fin.ext (hpairing.unique hij hik)⟩
  have hrecords : Exchanged (fun i j : Fin count => PairedBy isUfs ptnSwapList pentries pentrySize i j)
      (fun i => entryRecord pentries pentrySize i) (fun i => entryRecord swapped pentrySize i) := by
    refine ⟨fun hij => hexchanged.records.partner hij, fun {i} hnone => hexchanged.records.other fun j hij => ?_⟩
    exact hnone ⟨j, lt_of_pairedBy hwhole hij⟩ hij
  refine ⟨⟨hfin.perm, hfin.perm_perm, fun i j => hfin.perm_eq_iff, hrecords.apply_perm hfin⟩, hexchanged.between,
    (gptBootChainSwapLoop_spec h).1, ?_, ?_, ?_⟩
  · rcases hresult with ⟨-, hr⟩ | ⟨-, hr, -⟩
    · exact Or.inl hr
    · exact Or.inr hr
  · rcases hresult with ⟨⟨i, j, hij⟩, rfl⟩ | ⟨hnone, rfl, -⟩
    · exact iff_of_false (by decide) fun hnone => hnone i j hij
    · exact iff_of_true rfl hnone
  · rcases hresult with ⟨-, rfl⟩ | ⟨-, -, hsame⟩
    · exact fun hr => absurd hr (by decide)
    · exact fun _ => hsame

/-- A second swap finds the same pairs and puts everything back. -/
theorem gptBootChainSwap_undo {r : Int} {swapped : Bytes}
    (h : gptBootChainSwap isUfs pentries pentrySize = some (r, swapped)) :
    gptBootChainSwap isUfs swapped pentrySize = some (r, pentries) := by
  have hlen : swapped.length = pentries.length := (gptBootChainSwapLoop_spec h).1
  obtain ⟨hexchanged, hdistinct, hkeeps, hresult⟩ :=
    exchanged_of_gptBootChainSwapLoop hsize hnames (fun _ hname => hname) (ptnSwapList_once isUfs) h
  have hdvd : pentrySize ∣ swapped.length := ⟨count, by rw [hlen, hwhole, Nat.mul_comm]⟩
  obtain ⟨⟨r', back⟩, hback⟩ := Option.ne_none_iff_exists'.mp (@gptBootChainSwap_ne_none isUfs _ _ hsize hdvd)
  obtain ⟨hexchanged', -, -, hresult'⟩ :=
    exchanged_of_gptBootChainSwapLoop hsize hdistinct (fun _ hname => hname) (ptnSwapList_once isUfs) hback
  rw [pairedBy_congr hkeeps] at hexchanged' hresult'
  have hrecords := Exchanged.undo (pairing_pairedBy hnames fun _ hname => hname) hexchanged.records hexchanged'.records
  obtain rfl : back = pentries := RecordsExchanged.eq_of_records hrecords fun pos hpos =>
    (hexchanged'.between pos hpos).trans (hexchanged.between pos hpos)
  obtain rfl : r' = r := by
    rcases hresult with ⟨⟨i, j, hij⟩, rfl⟩ | ⟨hnone, rfl, -⟩ <;>
      rcases hresult' with ⟨⟨i', j', hij'⟩, rfl⟩ | ⟨hnone', rfl, -⟩
    · rfl
    · exact absurd hij (hnone' i j)
    · exact absurd hij' (hnone i' j')
    · rfl
  exact hback

/-- In an array of whole entries with different names the swap exchanges exactly the pairs, and is undone by
another one. -/
theorem gptBootChainSwap_exchangesPairs : ∃ r swapped,
    gptBootChainSwap isUfs pentries pentrySize = some (r, swapped) ∧
      SwapsPairs isUfs pentrySize count pentries r swapped ∧
      gptBootChainSwap isUfs swapped pentrySize = some (r, pentries) := by
  have hdvd : pentrySize ∣ pentries.length := ⟨count, by rw [hwhole, Nat.mul_comm]⟩
  obtain ⟨⟨r, swapped⟩, h⟩ := Option.ne_none_iff_exists'.mp (gptBootChainSwap_ne_none hsize hdvd)
  exact ⟨r, swapped, h, swapsPairs_of_gptBootChainSwap hsize hwhole hnames h,
    gptBootChainSwap_undo hsize hwhole hnames h⟩

end Whole

/-- A backup before its partition, and a name that another one is a prefix of. -/
def backupFirst : Bytes := sampleEntry "ablbak" ++ sampleEntry "cmnlib64" ++ sampleEntry "abl"

theorem backupFirst_distinct : DistinctNames backupFirst 128 := by
  intro i j name _ hi hj
  have hwhole : backupFirst.length = 3 * 128 := by decide +kernel
  have hdifferent : ∀ i < 3, ∀ j < 3, entryName backupFirst (i * 128) = entryName backupFirst (j * 128) → i = j := by
    decide +kernel
  exact hdifferent i (lt_of_entryName hwhole hi) j (lt_of_entryName hwhole hj) (hi.trans hj.symm)

theorem gptBootChainSwap_exchangesPairs_backupFirst : ∃ r swapped,
    gptBootChainSwap false backupFirst 128 = some (r, swapped) ∧ SwapsPairs false 128 3 backupFirst r swapped ∧
      gptBootChainSwap false swapped 128 = some (r, backupFirst) :=
  gptBootChainSwap_exchangesPairs (by decide) (by decide +kernel) backupFirst_distinct

end Penrose.Gpt

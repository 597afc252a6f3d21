import Mathlib.Data.List.Nodup
import Mathlib.Data.Set.Function

/-! Words whose bits are choices. A word that makes one choice has a single bit set; a test of a field looks at the
bits of its mask only. -/

namespace Penrose

variable {w v i : Nat} {choices mask value : BitVec w}

/-- The value makes one of the choices, and has no other bit. -/
def IsOneOf (choices value : BitVec w) : Prop := ∃ i, value = BitVec.twoPow w i ∧ choices.getLsbD i = true

instance (choices value : BitVec w) : Decidable (IsOneOf choices value) :=
  decidable_of_iff (∃ i : Fin w, value = BitVec.twoPow w i ∧ choices.getLsbD i = true)
    ⟨fun ⟨i, h⟩ => ⟨i, h⟩, fun ⟨i, h⟩ => ⟨⟨i, BitVec.lt_of_getLsbD h.2⟩, h⟩⟩

/-- The value has a single bit set. -/
def HasSingleBit (value : BitVec w) : Prop := ∃ i < w, value = BitVec.twoPow w i

theorem exists_getLsbD_of_ne_zero (h : value ≠ 0#w) : ∃ i, value.getLsbD i = true := by
  by_contra hnone
  refine h (BitVec.eq_of_getLsbD_eq fun i _ => ?_)
  rw [BitVec.getLsbD_zero]
  exact Bool.eq_false_iff.mpr fun hi => hnone ⟨i, hi⟩

/-- Counting the bits that are set tells whether there is a single one. -/
theorem countP_getLsbD_eq_one : (List.range w).countP value.getLsbD = 1 ↔ HasSingleBit value := by
  constructor
  · intro hcount
    rw [List.countP_eq_length_filter, List.length_eq_one_iff] at hcount
    obtain ⟨i, hfilter⟩ := hcount
    have hset (j : Nat) : (j < w ∧ value.getLsbD j = true) ↔ j = i := by
      have hmem : j ∈ (List.range w).filter value.getLsbD ↔ j ∈ [i] := by rw [hfilter]
      rwa [List.mem_filter, List.mem_range, List.mem_singleton] at hmem
    refine ⟨i, ((hset i).mpr rfl).1, BitVec.eq_of_getLsbD_eq fun j hj => ?_⟩
    rw [BitVec.getLsbD_twoPow, decide_eq_true ((hset i).mpr rfl).1, Bool.true_and, Bool.eq_iff_iff, decide_eq_true_iff]
    exact ⟨fun h => ((hset j).mp ⟨hj, h⟩).symm, fun h => h ▸ ((hset i).mpr rfl).2⟩
  · rintro ⟨i, hi, rfl⟩
    have hbits : (List.range w).countP (BitVec.twoPow w i).getLsbD = (List.range w).count i := by
      apply List.countP_congr
      intro j _
      rw [BitVec.getLsbD_twoPow, decide_eq_true hi, Bool.true_and, decide_eq_true_iff, beq_iff_eq]
      exact eq_comm
    rw [hbits]
    exact List.count_eq_one_of_mem List.nodup_range (List.mem_range.mpr hi)

/-- A wider word has a single bit where the word has. -/
theorem hasSingleBit_setWidth (h : w ≤ v) : HasSingleBit (value.setWidth v) ↔ HasSingleBit value := by
  constructor
  · rintro ⟨i, hi, hvalue⟩
    have hbit : value.getLsbD i = true := by
      have hwide : (value.setWidth v).getLsbD i = true := by
        rw [hvalue, BitVec.getLsbD_twoPow]
        simp [hi]
      rw [BitVec.getLsbD_setWidth, Bool.and_eq_true] at hwide
      exact hwide.2
    have hiw : i < w := BitVec.lt_of_getLsbD hbit
    refine ⟨i, hiw, BitVec.eq_of_getLsbD_eq fun j hj => ?_⟩
    have hwide := congrArg (fun word => word.getLsbD j) hvalue
    simpa [BitVec.getLsbD_setWidth, BitVec.getLsbD_twoPow, eq_comm, Nat.lt_of_lt_of_le hj h, hi, hiw] using hwide
  · rintro ⟨i, hi, rfl⟩
    have hiv : i < v := Nat.lt_of_lt_of_le hi h
    refine ⟨i, hiv, BitVec.eq_of_getLsbD_eq fun j hj => ?_⟩
    simp [BitVec.getLsbD_twoPow, hj, hi, eq_comm]

/-- Within the mask, a value makes one of the choices where it has a single bit there, which is a choice. -/
theorem isOneOf_and_iff (hchoices : choices &&& mask = choices) :
    IsOneOf choices (value &&& mask) ↔ HasSingleBit (value &&& mask) ∧ value &&& choices ≠ 0#w := by
  have hmask (i : Nat) (hi : choices.getLsbD i = true) : mask.getLsbD i = true := by
    rw [← hchoices, BitVec.getLsbD_and, Bool.and_eq_true] at hi
    exact hi.2
  constructor
  · rintro ⟨i, hvalue, hchoice⟩
    have hiw : i < w := BitVec.lt_of_getLsbD hchoice
    refine ⟨⟨i, hiw, hvalue⟩, fun hzero => ?_⟩
    have hbit : (value &&& mask).getLsbD i = true := by
      rw [hvalue, BitVec.getLsbD_twoPow]
      simp [hiw]
    have hnone := congrArg (fun word => word.getLsbD i) hzero
    simp only [BitVec.getLsbD_and, Bool.and_eq_true] at hbit
    simp [hbit.1, hchoice] at hnone
  · rintro ⟨⟨i, hi, hvalue⟩, hne⟩
    obtain ⟨j, hj⟩ := exists_getLsbD_of_ne_zero hne
    rw [BitVec.getLsbD_and, Bool.and_eq_true] at hj
    have hbit : (value &&& mask).getLsbD j = true := by
      rw [BitVec.getLsbD_and, hj.1, hmask j hj.2, Bool.and_true]
    rw [hvalue, BitVec.getLsbD_twoPow, Bool.and_eq_true, decide_eq_true_iff, decide_eq_true_iff] at hbit
    exact ⟨i, hvalue, hbit.2 ▸ hj.2⟩

/-- A value that makes one of the choices has no bit outside of the mask. -/
theorem IsOneOf.and_mask (h : IsOneOf choices value) (hchoices : choices &&& mask = choices) :
    value &&& mask = value := by
  obtain ⟨i, rfl, hchoice⟩ := h
  rw [← hchoices, BitVec.getLsbD_and, Bool.and_eq_true] at hchoice
  rw [BitVec.twoPow_and, if_pos hchoice.2]

/-- A word is read back from its signed extension. -/
theorem setWidth_signExtend (h : w ≤ v) (word : BitVec w) : (word.signExtend v).setWidth w = word := by
  apply BitVec.eq_of_getLsbD_eq
  intro i hi
  have hwide : i < v := Nat.lt_of_lt_of_le hi h
  rw [BitVec.getLsbD_setWidth, BitVec.getLsbD_signExtend, decide_eq_true hi, decide_eq_true hwide, if_pos hi]
  rfl

/-- The bits of a disjunction of words are those of the words. -/
theorem getLsbD_foldl_or (words : List (BitVec w)) (initial : BitVec w) (i : Nat) :
    (words.foldl (· ||| ·) initial).getLsbD i = (initial.getLsbD i || words.any (·.getLsbD i)) := by
  induction words generalizing initial with
  | nil => exact (Bool.or_false _).symm
  | cons word words ih => rw [List.foldl_cons, ih, BitVec.getLsbD_or, List.any_cons, Bool.or_assoc]

/-! ### Fields that stand for values -/

/-- The listed values are translated to choices of a field, different ones to different choices. -/
def Translates {α : Type} (values : List α) (choices : BitVec w) (translate : α → BitVec w) : Prop :=
  (∀ value ∈ values, IsOneOf choices (translate value)) ∧
    ∀ value ∈ values, ∀ other ∈ values, translate value = translate other → value = other

instance {α : Type} [DecidableEq α] (values : List α) (choices : BitVec w) (translate : α → BitVec w) :
    Decidable (Translates values choices translate) := by
  unfold Translates
  infer_instance

/-- A value makes one of the choices that are listed by their bits where it is one of these. -/
theorem isOneOf_iff_mem {bits : List Nat} (hbits : ∀ i ∈ bits, i < w)
    (hchoices : choices = (bits.map (BitVec.twoPow w)).foldl (· ||| ·) 0#w) :
    IsOneOf choices value ↔ value ∈ bits.map (BitVec.twoPow w) := by
  have hset (i : Nat) : choices.getLsbD i = true ↔ i < w ∧ i ∈ bits := by
    rw [hchoices, getLsbD_foldl_or, BitVec.getLsbD_zero, Bool.false_or, List.any_map, List.any_eq_true]
    simp only [Function.comp_apply, BitVec.getLsbD_twoPow, Bool.and_eq_true, decide_eq_true_iff]
    apply Iff.intro
    · intro h
      obtain ⟨j, hj, hlt, heq⟩ := h
      exact ⟨heq ▸ hlt, heq ▸ hj⟩
    · intro h
      exact ⟨i, h.2, h.1, rfl⟩
  rw [List.mem_map]
  apply Iff.intro
  · intro h
    obtain ⟨i, hvalue, hchoice⟩ := h
    exact ⟨i, ((hset i).mp hchoice).2, hvalue.symm⟩
  · intro h
    obtain ⟨i, hi, hvalue⟩ := h
    exact ⟨i, hvalue.symm, (hset i).mpr ⟨hbits i hi, hi⟩⟩

theorem IsOneOf.and_ne_zero (h : IsOneOf choices value) : value &&& choices ≠ 0#w := by
  obtain ⟨i, hvalue, hchoice⟩ := h
  rw [hvalue, BitVec.twoPow_and, if_pos hchoice]
  intro hzero
  have hbit := congrArg (fun word => word.getLsbD i) hzero
  simp [BitVec.lt_of_getLsbD hchoice] at hbit

/-- Where no two values have the same translation, the translation pairs the values with what is listed for them. -/
theorem bijOn_of_nodup_map {α β : Type} {values : List α} {translate : α → β} (h : (values.map translate).Nodup) :
    Set.BijOn translate {value | value ∈ values} {choice | choice ∈ values.map translate} := by
  refine ⟨fun _ => List.mem_map_of_mem, ?_, fun _ => List.mem_map.mp⟩
  intro value hvalue other hother heq
  exact List.inj_on_of_nodup_map h hvalue hother heq

end Penrose

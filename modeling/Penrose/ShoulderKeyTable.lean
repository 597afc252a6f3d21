import Mathlib.Data.List.Basic

/-! The slot table of `ShoulderKeyInputFiltrer`. A slot that is not free holds the touch id of a finger or
key and its coordinates. The index that inserting a pointer returns and the index that removing one takes
are both ordinals among the slots in use. -/

namespace Penrose.ShoulderKey

/-- What the filter needs of `MotionEvent.PointerCoords`. -/
class PointerCoords (C : Type) where
  ofXY : Int → Int → C
  cleared : C

@[reducible] def invalidPointerId : Int := -1
@[reducible] def maxPointerCount : Nat := 16

/-- `Pos`: one slot. -/
structure Pos (C : Type) where
  touchId : Int
  pointerCoords : C

variable {C : Type}

def Pos.isValid (slot : Pos C) : Bool := slot.touchId != invalidPointerId

def Pos.reset [PointerCoords C] (_ : Pos C) : Pos C := ⟨invalidPointerId, PointerCoords.cleared⟩

/-- The first loop of `insertTouch`, which has counted the slots in use up to `index`. -/
def insertExisting (pos : Pos C) (index : Int) : List (Pos C) → Option (List (Pos C) × Int)
  | [] => none
  | slot :: rest =>
      if slot.isValid then
        if slot.touchId = pos.touchId then some (pos :: rest, index + 1)
        else (insertExisting pos (index + 1) rest).map fun r => (slot :: r.1, r.2)
      else (insertExisting pos index rest).map fun r => (slot :: r.1, r.2)

/-- The second loop of `insertTouch`, from slot `i2` on. -/
def insertFree (pos : Pos C) (i2 : Int) : List (Pos C) → Option (List (Pos C) × Int)
  | [] => none
  | slot :: rest =>
      if slot.isValid then (insertFree pos (i2 + 1) rest).map fun r => (slot :: r.1, r.2)
      else some (pos :: rest, i2)

/-- `insertTouch`: the table and the index. -/
def insertTouch (list : List (Pos C)) (pos : Pos C) : List (Pos C) × Int :=
  match insertExisting pos invalidPointerId list with
  | some r => r
  | none => (insertFree pos 0 list).getD (list, invalidPointerId)

def removeLoop [PointerCoords C] (actionIndex : Int) : List (Pos C) → List (Pos C)
  | [] => []
  | slot :: rest =>
      if slot.isValid then
        if actionIndex = 0 then slot.reset :: rest else slot :: removeLoop (actionIndex - 1) rest
      else slot :: removeLoop actionIndex rest

/-- `removeTouch`. -/
def removeTouch [PointerCoords C] (list : List (Pos C)) (actionIndex : Int) : List (Pos C) :=
  if actionIndex < 0 ∨ (maxPointerCount : Int) ≤ actionIndex then list else removeLoop actionIndex list

/-- `resetTouch`. -/
def resetTouch [PointerCoords C] (list : List (Pos C)) : List (Pos C) :=
  list.map fun slot => if slot.isValid then slot.reset else slot

/-- The loop of `buildMotionEvent` from slot `i` on: the pointer id and the coordinates of every slot in
use. -/
def pointersFrom (i : Nat) : List (Pos C) → List (Nat × C)
  | [] => []
  | slot :: rest =>
      if slot.isValid then (i, slot.pointerCoords) :: pointersFrom (i + 1) rest else pointersFrom (i + 1) rest

/-! ### Ordinals -/

/-- How many slots before slot `j` are in use. -/
def ordinal (list : List (Pos C)) (j : Nat) : Nat := (list.take j).countP Pos.isValid

@[simp] theorem ordinal_zero (list : List (Pos C)) : ordinal list 0 = 0 := rfl

theorem ordinal_succ (slot : Pos C) (rest : List (Pos C)) (j : Nat) :
    ordinal (slot :: rest) (j + 1) = ordinal rest j + if slot.isValid then 1 else 0 := by
  rw [ordinal, List.take_succ_cons, List.countP_cons]
  rfl

theorem ordinal_le (list : List (Pos C)) (j : Nat) : ordinal list j ≤ j :=
  Nat.le_trans List.countP_le_length (List.length_take_le ..)

/-- Only which slots are in use matters for an ordinal. -/
theorem ordinal_congr {list list' : List (Pos C)} (h : list.map Pos.isValid = list'.map Pos.isValid) (j : Nat) :
    ordinal list j = ordinal list' j := by
  have hcount : ∀ l : List (Pos C), ordinal l j = ((l.map Pos.isValid).take j).countP id := by
    intro l
    rw [ordinal, ← List.map_take, List.countP_map]
    rfl
  rw [hcount, hcount, h]

@[simp] theorem ordinal_set (list : List (Pos C)) (j : Nat) (pos : Pos C) :
    ordinal (list.set j pos) j = ordinal list j := by
  rw [ordinal, ordinal, List.take_set_of_le (Nat.le_refl j)]

/-- With no free slot below it, the ordinal of a slot is its number. -/
theorem ordinal_of_used {list : List (Pos C)} {j : Nat} (hj : j ≤ list.length)
    (hused : ∀ i < j, ∀ slot, list[i]? = some slot → slot.isValid = true) : ordinal list j = j := by
  have hall : (list.take j).countP Pos.isValid = (list.take j).length := by
    rw [List.countP_eq_length]
    intro slot hslot
    obtain ⟨i, hi⟩ := List.mem_iff_getElem?.mp hslot
    rw [List.getElem?_take] at hi
    split_ifs at hi with hlt
    exact hused i hlt slot hi
  rw [ordinal, hall, List.length_take, Nat.min_eq_left hj]

/-! ### Inserting -/

section Insert

variable {list : List (Pos C)} {slot : Pos C} {j : Nat}

/-- The first slot in use with the touch id is overwritten. -/
theorem insertExisting_eq_some (pos : Pos C) (index : Int) (hslot : list[j]? = some slot) (hvalid : slot.isValid = true)
    (hid : slot.touchId = pos.touchId)
    (hfirst : ∀ i < j, ∀ s, list[i]? = some s → s.isValid = true → s.touchId ≠ pos.touchId) :
    insertExisting pos index list = some (list.set j pos, index + 1 + ordinal list j) := by
  induction list generalizing j index with
  | nil => cases hslot
  | cons head rest ih =>
      cases j with
      | zero =>
          obtain rfl : head = slot := Option.some.inj hslot
          rw [insertExisting, if_pos hvalid, if_pos hid, ordinal_zero]
          simp
      | succ j =>
          have hrest := fun index => ih (j := j) index hslot fun i hi s hs => hfirst (i + 1) (by omega) s hs
          rw [insertExisting, ordinal_succ]
          by_cases hhead : head.isValid = true
          · rw [if_pos hhead, if_neg (hfirst 0 (by omega) head rfl hhead), hrest, if_pos hhead]
            simp only [Option.map_some, List.set_cons_succ, Option.some.injEq, Prod.mk.injEq, true_and]
            push_cast
            omega
          · rw [if_neg hhead, hrest, if_neg hhead]
            simp

theorem insertExisting_eq_none (pos : Pos C) (list : List (Pos C)) (index : Int)
    (hnone : ∀ s ∈ list, s.isValid = true → s.touchId ≠ pos.touchId) :
    insertExisting pos index list = none := by
  induction list generalizing index with
  | nil => rfl
  | cons head rest ih =>
      have hrest := fun index => ih index fun s hs => hnone s (List.mem_cons_of_mem _ hs)
      rw [insertExisting]
      by_cases hhead : head.isValid = true
      · rw [if_pos hhead, if_neg (hnone head (List.mem_cons_self ..) hhead), hrest]
        rfl
      · rw [if_neg hhead, hrest]
        rfl

/-- The first free slot is taken. -/
theorem insertFree_eq_some (pos : Pos C) (i2 : Int) (hslot : list[j]? = some slot) (hfree : slot.isValid = false)
    (hused : ∀ i < j, ∀ s, list[i]? = some s → s.isValid = true) :
    insertFree pos i2 list = some (list.set j pos, i2 + j) := by
  induction list generalizing j i2 with
  | nil => cases hslot
  | cons head rest ih =>
      cases j with
      | zero =>
          obtain rfl : head = slot := Option.some.inj hslot
          rw [insertFree, if_neg (by rw [hfree]; decide)]
          simp
      | succ j =>
          rw [insertFree, if_pos (hused 0 (by omega) head rfl),
            ih (j := j) _ hslot fun i hi s hs => hused (i + 1) (by omega) s hs]
          simp only [Option.map_some, List.set_cons_succ, Option.some.injEq, Prod.mk.injEq, true_and]
          push_cast
          omega

theorem insertFree_eq_none (pos : Pos C) (i2 : Int) (hused : ∀ s ∈ list, s.isValid = true) :
    insertFree pos i2 list = none := by
  induction list generalizing i2 with
  | nil => rfl
  | cons head rest ih =>
      rw [insertFree, if_pos (hused head (List.mem_cons_self ..)),
        ih _ fun s hs => hused s (List.mem_cons_of_mem _ hs)]
      rfl

theorem exists_first_free (h : ∃ s ∈ list, s.isValid = false) :
    ∃ (j : Nat) (slot : Pos C), list[j]? = some slot ∧ slot.isValid = false ∧
      ∀ i < j, ∀ s : Pos C, list[i]? = some s → s.isValid = true := by
  induction list with
  | nil =>
      obtain ⟨s, hs, -⟩ := h
      cases hs
  | cons head rest ih =>
      by_cases hhead : head.isValid = true
      · obtain ⟨s, hs, hfree⟩ := h
        have hne : s ≠ head := by
          intro heq
          subst heq
          rw [hhead] at hfree
          cases hfree
        obtain ⟨j, slot, hslot, hslotFree, hused⟩ := ih ⟨s, List.mem_of_ne_of_mem hne hs, hfree⟩
        refine ⟨j + 1, slot, hslot, hslotFree, ?_⟩
        rintro (_ | i) hi s hs
        · obtain rfl : head = s := Option.some.inj hs
          exact hhead
        · exact hused i (by omega) s hs
      · exact ⟨0, head, rfl, by simpa using hhead, fun i hi => absurd hi (by omega)⟩

theorem insertTouch_existing (pos : Pos C) (hslot : list[j]? = some slot) (hvalid : slot.isValid = true)
    (hid : slot.touchId = pos.touchId)
    (hfirst : ∀ i < j, ∀ s, list[i]? = some s → s.isValid = true → s.touchId ≠ pos.touchId) :
    insertTouch list pos = (list.set j pos, (ordinal (list.set j pos) j : Int)) := by
  rw [insertTouch, insertExisting_eq_some pos invalidPointerId hslot hvalid hid hfirst, ordinal_set]
  simp only [invalidPointerId, Prod.mk.injEq, true_and]
  omega

/-- No slot before the first free one is free, so its number is its ordinal. -/
theorem insertTouch_free (pos : Pos C) (hnone : ∀ s ∈ list, s.isValid = true → s.touchId ≠ pos.touchId)
    (hslot : list[j]? = some slot) (hfree : slot.isValid = false)
    (hused : ∀ i < j, ∀ s, list[i]? = some s → s.isValid = true) :
    insertTouch list pos = (list.set j pos, (ordinal (list.set j pos) j : Int)) := by
  have hj : j < list.length := (List.getElem?_eq_some_iff.mp hslot).1
  rw [insertTouch, insertExisting_eq_none pos list invalidPointerId hnone, ordinal_set,
    ordinal_of_used (by omega) hused]
  simp only [insertFree_eq_some pos 0 hslot hfree hused, Option.getD_some, Int.zero_add]

theorem insertTouch_full (pos : Pos C) (hnone : ∀ s ∈ list, s.isValid = true → s.touchId ≠ pos.touchId)
    (hused : ∀ s ∈ list, s.isValid = true) : insertTouch list pos = (list, invalidPointerId) := by
  rw [insertTouch, insertExisting_eq_none pos list invalidPointerId hnone]
  simp only [insertFree_eq_none pos 0 hused, Option.getD_none]

end Insert

/-! ### Removing and listing -/

section Remove

variable [PointerCoords C] {list : List (Pos C)} {slot : Pos C} {j : Nat}

/-- Removing by the ordinal of a slot in use frees that slot. -/
theorem removeLoop_ordinal (hslot : list[j]? = some slot) (hvalid : slot.isValid = true) :
    removeLoop (ordinal list j) list = list.set j slot.reset := by
  induction list generalizing j with
  | nil => cases hslot
  | cons head rest ih =>
      cases j with
      | zero =>
          obtain rfl : head = slot := Option.some.inj hslot
          rw [removeLoop, if_pos hvalid, ordinal_zero]
          simp
      | succ j =>
          have hrest := ih (j := j) hslot
          rw [removeLoop, ordinal_succ]
          by_cases hhead : head.isValid = true
          · have hindex : ((ordinal rest j + 1 : Nat) : Int) - 1 = ordinal rest j := by
              push_cast
              omega
            rw [if_pos hhead, if_pos hhead, if_neg (by omega), hindex, hrest, List.set_cons_succ]
          · rw [if_neg hhead, if_neg hhead, Nat.add_zero, hrest, List.set_cons_succ]

theorem removeTouch_ordinal (hslot : list[j]? = some slot) (hvalid : slot.isValid = true)
    (hj : j < maxPointerCount) : removeTouch list (ordinal list j) = list.set j slot.reset := by
  have hle := ordinal_le list j
  rw [removeTouch, if_neg, removeLoop_ordinal hslot hvalid]
  simp only [maxPointerCount] at hj ⊢
  omega

theorem removeLoop_eq_self {actionIndex : Int} (h : ∀ j slot, list[j]? = some slot → slot.isValid = true →
    (ordinal list j : Int) ≠ actionIndex) : removeLoop actionIndex list = list := by
  induction list generalizing actionIndex with
  | nil => rfl
  | cons head rest ih =>
      rw [removeLoop]
      by_cases hhead : head.isValid = true
      · have hindex : actionIndex ≠ 0 := fun hzero => h 0 head rfl hhead hzero.symm
        rw [if_pos hhead, if_neg hindex, ih]
        intro j slot hslot hvalid hj
        apply h (j + 1) slot hslot hvalid
        rw [ordinal_succ, if_pos hhead]
        push_cast
        omega
      · rw [if_neg hhead, ih]
        intro j slot hslot hvalid hj
        apply h (j + 1) slot hslot hvalid
        rw [ordinal_succ, if_neg hhead, Nat.add_zero, hj]

theorem removeTouch_eq_self {actionIndex : Int} (h : ∀ j slot, list[j]? = some slot → slot.isValid = true →
    (ordinal list j : Int) ≠ actionIndex) : removeTouch list actionIndex = list := by
  rw [removeTouch]
  split_ifs
  · rfl
  · exact removeLoop_eq_self h

theorem isValid_of_mem_resetTouch {s : Pos C} (hs : s ∈ resetTouch list) : s.isValid = false := by
  rw [resetTouch, List.mem_map] at hs
  obtain ⟨slot, -, rfl⟩ := hs
  split_ifs with hvalid
  · rfl
  · simpa using hvalid

end Remove

section Pointers

variable {list : List (Pos C)} {slot : Pos C} {j : Nat}

theorem mem_pointersFrom {i p : Nat} {c : C} :
    (p, c) ∈ pointersFrom i list ↔
      ∃ j slot, p = i + j ∧ list[j]? = some slot ∧ slot.isValid = true ∧ slot.pointerCoords = c := by
  induction list generalizing i with
  | nil => simp [pointersFrom]
  | cons head rest ih =>
      have hcases : (∃ j slot, p = i + j ∧ (head :: rest)[j]? = some slot ∧ slot.isValid = true ∧
          slot.pointerCoords = c) ↔ (p = i ∧ head.isValid = true ∧ head.pointerCoords = c) ∨
            ∃ j slot, p = i + 1 + j ∧ rest[j]? = some slot ∧ slot.isValid = true ∧ slot.pointerCoords = c := by
        refine ⟨?_, ?_⟩
        · rintro ⟨_ | j, slot, hp, hslot, hvalid, hc⟩
          · obtain rfl : head = slot := Option.some.inj hslot
            exact Or.inl ⟨hp, hvalid, hc⟩
          · exact Or.inr ⟨j, slot, by omega, hslot, hvalid, hc⟩
        · rintro (⟨hp, hvalid, hc⟩ | ⟨j, slot, hp, hslot, hvalid, hc⟩)
          · exact ⟨0, head, hp, rfl, hvalid, hc⟩
          · exact ⟨j + 1, slot, by omega, hslot, hvalid, hc⟩
      rw [hcases, ← ih, pointersFrom]
      by_cases hhead : head.isValid = true
      · rw [if_pos hhead, List.mem_cons, Prod.mk.injEq]
        simp only [hhead, true_and, eq_comm (a := c)]
      · simp only [hhead, if_false, Bool.false_eq_true, false_and, and_false, false_or]

/-- The pointer of a slot in use stands at the ordinal of the slot. -/
theorem pointersFrom_ordinal (i : Nat) (hslot : list[j]? = some slot) (hvalid : slot.isValid = true) :
    (pointersFrom i list)[ordinal list j]? = some (i + j, slot.pointerCoords) := by
  induction list generalizing i j with
  | nil => cases hslot
  | cons head rest ih =>
      cases j with
      | zero =>
          obtain rfl : head = slot := Option.some.inj hslot
          rw [pointersFrom, if_pos hvalid]
          rfl
      | succ j =>
          have hrest := ih (j := j) (i + 1) hslot
          rw [pointersFrom, ordinal_succ]
          by_cases hhead : head.isValid = true
          · rw [if_pos hhead, if_pos hhead, List.getElem?_cons_succ, hrest]
            congr 2
            omega
          · rw [if_neg hhead, if_neg hhead]
            apply hrest.trans
            congr 2
            omega

theorem nodup_pointersFrom (i : Nat) : ((pointersFrom i list).map Prod.fst).Nodup := by
  induction list generalizing i with
  | nil => exact List.nodup_nil
  | cons head rest ih =>
      rw [pointersFrom]
      by_cases hhead : head.isValid = true
      · rw [if_pos hhead, List.map_cons, List.nodup_cons]
        refine ⟨?_, ih _⟩
        rw [List.mem_map]
        rintro ⟨⟨p, c⟩, hmem, rfl⟩
        obtain ⟨j, -, hp, -⟩ := mem_pointersFrom.mp hmem
        simp only at hp
        omega
      · rw [if_neg hhead]
        exact ih _

end Pointers

end Penrose.ShoulderKey

import Penrose.ShoulderKeyRuns

/-! The slot table under any sequence of calls. A slot stands for a pointer of the apps, so a touch id has one
slot, which it keeps until it is removed. -/

namespace Penrose.ShoulderKey

variable {C : Type} {list : List (Pos C)} {i j : Nat} {id : Int}

/-- Slot `j` is in use and holds the touch id. -/
def HoldsAt (list : List (Pos C)) (j : Nat) (id : Int) : Prop :=
  ∃ slot, list[j]? = some slot ∧ slot.isValid = true ∧ slot.touchId = id

theorem holdsAt_set_self (hj : j < list.length) (pos : Pos C) :
    HoldsAt (list.set j pos) j id ↔ pos.isValid = true ∧ pos.touchId = id := by
  rw [HoldsAt, List.getElem?_set_self hj]
  simp only [Option.some.injEq, exists_eq_left']

theorem holdsAt_set_ne (hij : i ≠ j) (pos : Pos C) : HoldsAt (list.set j pos) i id ↔ HoldsAt list i id := by
  rw [HoldsAt, HoldsAt, List.getElem?_set_ne hij.symm]

theorem HoldsAt.lt (h : HoldsAt list j id) : j < list.length := by
  obtain ⟨slot, hslot, -⟩ := h
  exact (List.getElem?_eq_some_iff.mp hslot).1

theorem ne_of_forall_not_holdsAt (h : ∀ i, ¬HoldsAt list i id) :
    ∀ slot ∈ list, slot.isValid = true → slot.touchId ≠ id := by
  intro slot hslot hvalid hid
  obtain ⟨i, hi⟩ := List.mem_iff_getElem?.mp hslot
  exact h i ⟨slot, hi, hvalid, hid⟩

/-- Every touch id has at most one of the slots. -/
structure Slots (list : List (Pos C)) : Prop where
  length : list.length = maxPointerCount
  distinct : ∀ i j id, HoldsAt list i id → HoldsAt list j id → i = j

namespace Slots

theorem set (h : Slots list) (hj : j < list.length) (pos : Pos C)
    (hother : pos.isValid = true → ∀ i, HoldsAt list i pos.touchId → i = j) : Slots (list.set j pos) := by
  refine ⟨(List.length_set ..).trans h.length, ?_⟩
  intro i i' id hi hi'
  by_cases hij : i = j
  · subst hij
    obtain ⟨hvalid, rfl⟩ := (holdsAt_set_self hj pos).mp hi
    by_cases hij' : i' = i
    · exact hij'.symm
    · exact (hother hvalid i' ((holdsAt_set_ne hij' pos).mp hi')).symm
  · have hheld := (holdsAt_set_ne hij pos).mp hi
    by_cases hij' : i' = j
    · subst hij'
      obtain ⟨hvalid, rfl⟩ := (holdsAt_set_self hj pos).mp hi'
      exact hother hvalid i hheld
    · exact h.distinct i i' id hheld ((holdsAt_set_ne hij' pos).mp hi')

/-- The pointer goes to the slot that holds its touch id, else to a free one, else nowhere. -/
theorem insertTouch_cases (h : Slots list) (pos : Pos C) :
    (∃ j, j < list.length ∧ insertTouch list pos = (list.set j pos, (ordinal (list.set j pos) j : Int)) ∧
      (HoldsAt list j pos.touchId ∨ (∀ i, ¬HoldsAt list i pos.touchId) ∧ ∀ id, ¬HoldsAt list j id)) ∨
    (∀ i, ¬HoldsAt list i pos.touchId) ∧ (∀ slot ∈ list, slot.isValid = true) ∧
      insertTouch list pos = (list, invalidPointerId) := by
  by_cases hheld : ∃ j, HoldsAt list j pos.touchId
  · obtain ⟨j, slot, hslot, hvalid, hid⟩ := hheld
    have hj : HoldsAt list j pos.touchId := ⟨slot, hslot, hvalid, hid⟩
    refine Or.inl ⟨j, hj.lt, insertTouch_existing pos hslot hvalid hid ?_, Or.inl hj⟩
    intro i hi s hs hsvalid hsid
    exact absurd (h.distinct i j _ ⟨s, hs, hsvalid, hsid⟩ hj) (by omega)
  · have hnone := not_exists.mp hheld
    have hother := ne_of_forall_not_holdsAt hnone
    by_cases hfull : ∀ slot ∈ list, slot.isValid = true
    · exact Or.inr ⟨hnone, hfull, insertTouch_full pos hother hfull⟩
    · push Not at hfull
      obtain ⟨j, slot, hslot, hfree, hused⟩ := exists_first_free (by simpa using hfull)
      refine Or.inl ⟨j, (List.getElem?_eq_some_iff.mp hslot).1, insertTouch_free pos hother hslot hfree hused,
        Or.inr ⟨hnone, ?_⟩⟩
      intro id hj
      obtain ⟨s, hs, hvalid, -⟩ := hj
      obtain rfl := Option.some.inj (hslot.symm.trans hs)
      rw [hfree] at hvalid
      cases hvalid

theorem insertTouch (h : Slots list) (pos : Pos C) : Slots (insertTouch list pos).1 := by
  obtain ⟨j, hj, hinsert, hslot⟩ | ⟨-, -, hinsert⟩ := h.insertTouch_cases pos
  · rw [hinsert]
    apply h.set hj pos
    intro hvalid i hi
    obtain hheld | ⟨hnone, -⟩ := hslot
    · exact h.distinct i j _ hi hheld
    · exact absurd hi (hnone i)
  · rwa [hinsert]

/-- Inserting fails for a touch id without a slot, with every slot in use. -/
theorem insertTouch_eq_invalid_iff (h : Slots list) (pos : Pos C) :
    (ShoulderKey.insertTouch list pos).2 = invalidPointerId ↔
      (∀ i, ¬HoldsAt list i pos.touchId) ∧ ∀ i < maxPointerCount, ∃ id, HoldsAt list i id := by
  obtain ⟨j, hj, hinsert, hslot⟩ | ⟨hnone, hfull, hinsert⟩ := h.insertTouch_cases pos
  · rw [hinsert]
    apply iff_of_false
    · show ((ordinal (list.set j pos) j : Nat) : Int) ≠ -1
      omega
    · intro hfull
      obtain hheld | ⟨-, hfree⟩ := hslot
      · exact hfull.1 j hheld
      · obtain ⟨id, hid⟩ := hfull.2 j (h.length ▸ hj)
        exact hfree id hid
  · rw [hinsert]
    apply iff_of_true rfl
    refine ⟨hnone, ?_⟩
    intro i hi
    have hlt : i < list.length := h.length ▸ hi
    exact ⟨list[i].touchId, list[i], List.getElem?_eq_getElem hlt, hfull _ (List.getElem_mem hlt), rfl⟩

theorem insertTouch_of_eq_invalid (h : Slots list) {pos : Pos C}
    (hfails : (ShoulderKey.insertTouch list pos).2 = invalidPointerId) :
    (ShoulderKey.insertTouch list pos).1 = list := by
  obtain ⟨j, -, hinsert, -⟩ | ⟨-, -, hinsert⟩ := h.insertTouch_cases pos
  · rw [hinsert] at hfails
    have hordinal : ((ordinal (list.set j pos) j : Nat) : Int) = -1 := hfails
    omega
  · rw [hinsert]

/-- Inserting that succeeds returns the ordinal of the slot that takes the pointer. -/
theorem insertTouch_of_ne_invalid (h : Slots list) {pos : Pos C} (hvalid : pos.isValid = true)
    (hsucceeds : (ShoulderKey.insertTouch list pos).2 ≠ invalidPointerId) :
    ∃ j, HoldsAt (list.set j pos) j pos.touchId ∧
      ShoulderKey.insertTouch list pos = (list.set j pos, (ordinal (list.set j pos) j : Int)) := by
  obtain ⟨j, hj, hinsert, -⟩ | ⟨-, -, hinsert⟩ := h.insertTouch_cases pos
  · exact ⟨j, (holdsAt_set_self hj pos).mpr ⟨hvalid, rfl⟩, hinsert⟩
  · rw [hinsert] at hsucceeds
    exact absurd rfl hsucceeds

variable [PointerCoords C]

/-- Removing frees the slot in use with the ordinal, if there is one. -/
theorem removeTouch_cases (h : Slots list) (actionIndex : Int) :
    (∃ j slot, list[j]? = some slot ∧ slot.isValid = true ∧ (ordinal list j : Int) = actionIndex ∧
      removeTouch list actionIndex = list.set j slot.reset) ∨ removeTouch list actionIndex = list := by
  by_cases hfound : ∃ j slot, list[j]? = some slot ∧ slot.isValid = true ∧ (ordinal list j : Int) = actionIndex
  · obtain ⟨j, slot, hslot, hvalid, rfl⟩ := hfound
    have hj : j < maxPointerCount := h.length ▸ (List.getElem?_eq_some_iff.mp hslot).1
    exact Or.inl ⟨j, slot, hslot, hvalid, rfl, removeTouch_ordinal hslot hvalid hj⟩
  · apply Or.inr
    apply removeTouch_eq_self
    intro j slot hslot hvalid hindex
    exact hfound ⟨j, slot, hslot, hvalid, hindex⟩

theorem removeTouch (h : Slots list) (actionIndex : Int) : Slots (removeTouch list actionIndex) := by
  obtain ⟨j, slot, hslot, -, -, hremove⟩ | hremove := h.removeTouch_cases actionIndex
  · rw [hremove]
    apply h.set (List.getElem?_eq_some_iff.mp hslot).1
    intro hvalid
    cases hvalid
  · rwa [hremove]

end Slots

section Calls

variable [PointerCoords C]

theorem not_holdsAt_resetTouch (list : List (Pos C)) (j : Nat) (id : Int) : ¬HoldsAt (resetTouch list) j id := by
  intro h
  obtain ⟨slot, hslot, hvalid, -⟩ := h
  rw [isValid_of_mem_resetTouch (List.mem_of_getElem? hslot)] at hvalid
  cases hvalid

/-- A call on the table. -/
inductive TouchCall (C : Type)
  | insert (pos : Pos C)
  | remove (actionIndex : Int)
  | reset

def TouchCall.apply (list : List (Pos C)) : TouchCall C → List (Pos C)
  | insert pos => (insertTouch list pos).1
  | remove actionIndex => removeTouch list actionIndex
  | reset => resetTouch list

/-- The call takes the touch id out of the table. -/
def TouchCall.Removes (id : Int) (list : List (Pos C)) : TouchCall C → Prop
  | insert _ => False
  | remove actionIndex => ∃ j, HoldsAt list j id ∧ (ordinal list j : Int) = actionIndex
  | reset => True

theorem slots_init : Slots (State.init : State C).touchList := by
  refine ⟨List.length_replicate, ?_⟩
  intro i j id hi
  obtain ⟨slot, hslot, hvalid, -⟩ := hi
  obtain rfl := List.eq_of_mem_replicate (List.mem_of_getElem? hslot)
  cases hvalid

theorem Slots.apply (h : Slots list) (call : TouchCall C) : Slots (call.apply list) := by
  cases call with
  | insert pos => exact h.insertTouch pos
  | remove actionIndex => exact h.removeTouch actionIndex
  | reset =>
      exact ⟨(List.length_map ..).trans h.length, fun i j id hi => absurd hi (not_holdsAt_resetTouch list i id)⟩

theorem Slots.run (h : Slots list) (calls : List (TouchCall C)) : Slots (calls.foldl TouchCall.apply list) := by
  induction calls generalizing list with
  | nil => exact h
  | cons call calls ih => exact ih (h.apply call)

/-- A call that does not remove the touch id leaves it in its slot. -/
theorem Slots.holdsAt_apply (h : Slots list) (hheld : HoldsAt list j id) {call : TouchCall C}
    (hcall : ¬call.Removes id list) : HoldsAt (call.apply list) j id := by
  cases call with
  | insert pos =>
      obtain ⟨i, hi, hinsert, hslot⟩ | ⟨-, -, hinsert⟩ := h.insertTouch_cases pos
      · show HoldsAt (ShoulderKey.insertTouch list pos).1 j id
        rw [hinsert]
        by_cases hji : j = i
        · subst hji
          obtain hpos | ⟨-, hfree⟩ := hslot
          · obtain ⟨slot, hslot, hvalid, hid⟩ := hpos
            obtain ⟨s, hs, -, hsid⟩ := hheld
            obtain rfl := Option.some.inj (hslot.symm.trans hs)
            rw [holdsAt_set_self hi]
            rw [Pos.isValid, hid] at hvalid
            exact ⟨hvalid, hid.symm.trans hsid⟩
          · exact absurd hheld (hfree id)
        · exact (holdsAt_set_ne hji pos).mpr hheld
      · show HoldsAt (ShoulderKey.insertTouch list pos).1 j id
        rwa [hinsert]
  | remove actionIndex =>
      obtain ⟨i, slot, hslot, hvalid, hindex, hremove⟩ | hremove := h.removeTouch_cases actionIndex
      · show HoldsAt (ShoulderKey.removeTouch list actionIndex) j id
        rw [hremove]
        have hji : j ≠ i := by
          intro hji
          exact hcall ⟨j, hheld, hji ▸ hindex⟩
        exact (holdsAt_set_ne hji _).mpr hheld
      · show HoldsAt (ShoulderKey.removeTouch list actionIndex) j id
        rwa [hremove]
  | reset => exact absurd trivial hcall

theorem Slots.holdsAt_run (h : Slots list) (hheld : HoldsAt list j id) {calls : List (TouchCall C)}
    (hcalls : Run TouchCall.apply (fun list call => ¬call.Removes id list) list calls) :
    HoldsAt (calls.foldl TouchCall.apply list) j id := by
  induction calls generalizing list with
  | nil => exact hheld
  | cons call calls ih => exact ih (h.apply call) (h.holdsAt_apply hheld hcalls.1) hcalls.2

/-- From the empty table on, every touch id has at most one slot, inserting returns the ordinal of the slot that
takes the pointer or fails with the table full, removing frees the slot with the ordinal alone, and a touch id
keeps its slot until it is removed. -/
theorem touchCalls_slots {calls : List (TouchCall C)}
    (hlist : calls.foldl TouchCall.apply (State.init : State C).touchList = list) :
    (∀ i j id, HoldsAt list i id → HoldsAt list j id → i = j) ∧
    (∀ pos : Pos C, pos.touchId ≠ invalidPointerId →
      ((insertTouch list pos).2 = invalidPointerId ↔
        (∀ i, ¬HoldsAt list i pos.touchId) ∧ ∀ i < maxPointerCount, ∃ id, HoldsAt list i id) ∧
      ((insertTouch list pos).2 = invalidPointerId → (insertTouch list pos).1 = list) ∧
      ((insertTouch list pos).2 ≠ invalidPointerId → ∃ j, HoldsAt (list.set j pos) j pos.touchId ∧
        insertTouch list pos = (list.set j pos, (ordinal (list.set j pos) j : Int)))) ∧
    (∀ actionIndex : Int,
      (∀ j slot, list[j]? = some slot → slot.isValid = true → (ordinal list j : Int) = actionIndex →
        removeTouch list actionIndex = list.set j slot.reset) ∧
      ((∀ j id, HoldsAt list j id → (ordinal list j : Int) ≠ actionIndex) →
        removeTouch list actionIndex = list)) ∧
    ∀ (j : Nat) (id : Int) (later : List (TouchCall C)), HoldsAt list j id →
      Run TouchCall.apply (fun table call => ¬call.Removes id table) list later →
      HoldsAt (later.foldl TouchCall.apply list) j id := by
  have hslots : Slots list := hlist ▸ slots_init.run calls
  refine ⟨hslots.distinct, ?_, ?_, fun j id later hheld hlater => hslots.holdsAt_run hheld hlater⟩
  · intro pos hpos
    have hvalid : pos.isValid = true := by simpa [Pos.isValid] using hpos
    exact ⟨hslots.insertTouch_eq_invalid_iff pos, hslots.insertTouch_of_eq_invalid,
      hslots.insertTouch_of_ne_invalid hvalid⟩
  · intro actionIndex
    refine ⟨?_, fun hnone => removeTouch_eq_self fun j slot hslot hvalid => ?_⟩
    · intro j slot hslot hvalid hindex
      subst hindex
      exact removeTouch_ordinal hslot hvalid (hslots.length ▸ (List.getElem?_eq_some_iff.mp hslot).1)
    · exact hnone j slot.touchId ⟨slot, hslot, hvalid, rfl⟩

end Calls

/-- Two fingers and the first of them lifted. -/
def fingerLifted : List (TouchCall (Int × Int)) :=
  [.insert ⟨1, (10, 20)⟩, .insert ⟨2, (30, 40)⟩, .remove 0]

def fingerLiftedTable : List (Pos (Int × Int)) := fingerLifted.foldl TouchCall.apply State.init.touchList

/-- A third finger takes the slot of the first, and the second one stays where it is. -/
theorem fingerLifted_slots :
    (∃ j, HoldsAt (fingerLiftedTable.set j ⟨3, (50, 60)⟩) j 3 ∧
      insertTouch fingerLiftedTable ⟨3, (50, 60)⟩ = (fingerLiftedTable.set j ⟨3, (50, 60)⟩,
        (ordinal (fingerLiftedTable.set j ⟨3, (50, 60)⟩) j : Int))) ∧
    removeTouch fingerLiftedTable 0 = fingerLiftedTable.set 1 ⟨invalidPointerId, (0, 0)⟩ ∧
    removeTouch fingerLiftedTable 5 = fingerLiftedTable ∧
    HoldsAt ([TouchCall.insert ⟨3, (50, 60)⟩, .insert ⟨2, (31, 41)⟩].foldl TouchCall.apply fingerLiftedTable) 1 2 := by
  have hlist : fingerLifted.foldl TouchCall.apply State.init.touchList = fingerLiftedTable := rfl
  obtain ⟨-, hinsert, hremove, hstays⟩ := touchCalls_slots hlist
  have hheld : HoldsAt fingerLiftedTable 1 2 := ⟨⟨2, (30, 40)⟩, rfl, rfl, rfl⟩
  refine ⟨(hinsert ⟨3, (50, 60)⟩ (by decide)).2.2 (by decide), (hremove 0).1 1 ⟨2, (30, 40)⟩ rfl rfl rfl,
    (hremove 5).2 ?_, hstays 1 2 _ hheld ⟨id, id, trivial⟩⟩
  intro j touchId hj hindex
  have hordinals : ∀ j < 16, ordinal fingerLiftedTable j ≠ 5 := by decide
  exact hordinals j hj.lt (by exact_mod_cast hindex)

end Penrose.ShoulderKey

import Penrose.ShoulderKeyFilter

/-! The slot table and the sources. Every slot in use belongs to one source and holds its latest
coordinates; at most twelve sources are ever down, so there is always a free slot for a new one. -/

namespace Penrose.ShoulderKey

variable {C : Type}

theorem touchId_injective : Function.Injective Source.touchId := by
  have hall : ∀ X Y : Source, X.touchId = Y.touchId → X = Y := by decide
  exact fun X Y => hall X Y

theorem touchId_ne_invalid (X : Source) : X.touchId ≠ invalidPointerId := by
  revert X
  decide

/-- The pos that a source puts into a slot. -/
def Source.pos (X : Source) (c : C) : Pos C := ⟨X.touchId, c⟩

@[simp] theorem isValid_pos (X : Source) (c : C) : (X.pos c).isValid = true :=
  bne_iff_ne.mpr (touchId_ne_invalid X)

/-- The slots in use are those of the sources that `ids` gives a pointer. -/
structure Tracks (list : List (Pos C)) (ids : Source → Option Nat) (coords : Source → Option C) : Prop where
  length : list.length = maxPointerCount
  injective : ∀ X Y p, ids X = some p → ids Y = some p → X = Y
  slot : ∀ X p, ids X = some p → ∃ c, coords X = some c ∧ list[p]? = some (X.pos c)
  used : ∀ (p : Nat) (pos : Pos C), list[p]? = some pos → pos.isValid = true → ∃ X, ids X = some p

namespace Tracks

variable {list list' : List (Pos C)} {ids : Source → Option Nat} {coords coords' : Source → Option C}

theorem lt (h : Tracks list ids coords) {X : Source} {p : Nat} (hX : ids X = some p) : p < maxPointerCount := by
  obtain ⟨c, -, hslot⟩ := h.slot X p hX
  rw [← h.length]
  exact (List.getElem?_eq_some_iff.mp hslot).1

theorem isValid_iff (h : Tracks list ids coords) {p : Nat} {pos : Pos C} (hpos : list[p]? = some pos) :
    pos.isValid = true ↔ ∃ X, ids X = some p := by
  refine ⟨?_, ?_⟩
  · exact h.used p pos hpos
  · rintro ⟨X, hX⟩
    obtain ⟨c, -, hslot⟩ := h.slot X p hX
    rw [hpos] at hslot
    obtain rfl := Option.some.inj hslot
    exact isValid_pos X c

/-- The ordinals of the slots depend on the pointers only, not on the coordinates. -/
theorem ordinal_eq (h : Tracks list ids coords) (h' : Tracks list' ids coords') (j : Nat) :
    ordinal list j = ordinal list' j := by
  apply ordinal_congr
  apply List.ext_getElem?
  intro i
  rw [List.getElem?_map, List.getElem?_map]
  rcases Nat.lt_or_ge i maxPointerCount with hi | hi
  · obtain ⟨pos, hpos⟩ : ∃ pos, list[i]? = some pos := ⟨_, List.getElem?_eq_getElem (h.length ▸ hi)⟩
    obtain ⟨pos', hpos'⟩ : ∃ pos, list'[i]? = some pos := ⟨_, List.getElem?_eq_getElem (h'.length ▸ hi)⟩
    rw [hpos, hpos', Option.map_some, Option.map_some, Option.some.injEq, Bool.eq_iff_iff, h.isValid_iff hpos,
      h'.isValid_iff hpos']
  · rw [List.getElem?_eq_none (by rw [h.length]; exact hi), List.getElem?_eq_none (by rw [h'.length]; exact hi)]

theorem mem_pointers (h : Tracks list ids coords) {p : Nat} {c : C} :
    (p, c) ∈ pointersFrom 0 list ↔ ∃ X, ids X = some p ∧ coords X = some c := by
  rw [mem_pointersFrom]
  refine ⟨?_, ?_⟩
  · rintro ⟨j, pos, hj, hpos, hvalid, hc⟩
    obtain rfl : p = j := by omega
    obtain ⟨X, hX⟩ := h.used p pos hpos hvalid
    obtain ⟨c', hcoords, hslot⟩ := h.slot X p hX
    rw [hpos] at hslot
    obtain rfl := Option.some.inj hslot
    subst hc
    exact ⟨X, hX, hcoords⟩
  · rintro ⟨X, hX, hcoords⟩
    obtain ⟨c', hcoords', hslot⟩ := h.slot X p hX
    rw [hcoords] at hcoords'
    obtain rfl := Option.some.inj hcoords'
    exact ⟨p, _, by omega, hslot, isValid_pos X c, rfl⟩

/-- Two sources with pointers make at least two pointers. -/
theorem two_le_length (h : Tracks list ids coords) {X Y : Source} (hXY : X ≠ Y) (hX : ids X ≠ none)
    (hY : ids Y ≠ none) : 2 ≤ (pointersFrom 0 list).length := by
  obtain ⟨p, hp⟩ := Option.ne_none_iff_exists'.mp hX
  obtain ⟨q, hq⟩ := Option.ne_none_iff_exists'.mp hY
  obtain ⟨c, hc, -⟩ := h.slot X p hp
  obtain ⟨d, hd, -⟩ := h.slot Y q hq
  have hne : (p, c) ≠ (q, d) := by
    intro heq
    rw [← (Prod.mk.inj heq).1] at hq
    exact hXY (h.injective X Y p hp hq)
  have hmem := h.mem_pointers.mpr ⟨X, hp, hc⟩
  have hmem' := h.mem_pointers.mpr ⟨Y, hq, hd⟩
  revert hmem hmem'
  cases pointersFrom 0 list with
  | nil => intro hmem; cases hmem
  | cons head rest =>
      cases rest with
      | nil =>
          intro hmem hmem'
          rw [List.mem_singleton] at hmem hmem'
          exact absurd (hmem.trans hmem'.symm) hne
      | cons second rest => intro _ _; simp

theorem length_pos (h : Tracks list ids coords) {X : Source} (hX : ids X ≠ none) :
    0 < (pointersFrom 0 list).length := by
  obtain ⟨p, hp⟩ := Option.ne_none_iff_exists'.mp hX
  obtain ⟨c, hc, -⟩ := h.slot X p hp
  exact List.length_pos_of_mem (h.mem_pointers.mpr ⟨X, hp, hc⟩)

/-- The pointer of a source stands at the ordinal of its slot. -/
theorem pointer_ordinal (h : Tracks list ids coords) {X : Source} {p : Nat} (hX : ids X = some p) :
    (pointersFrom 0 list)[ordinal list p]?.map Prod.fst = some p := by
  obtain ⟨c, -, hslot⟩ := h.slot X p hX
  rw [pointersFrom_ordinal 0 hslot (isValid_pos X c), Option.map_some, Nat.zero_add]

/-- Twelve sources do not fill sixteen slots. -/
theorem exists_free (h : Tracks list ids coords) : ∃ s ∈ list, s.isValid = false := by
  by_contra hfull
  push Not at hfull
  have hused : ∀ p : Fin maxPointerCount, ∃ X, ids X = some p.val := by
    intro p
    have hp : p.val < list.length := p.isLt.trans_eq h.length.symm
    refine h.used p.val list[p.val] (List.getElem?_eq_getElem hp) ?_
    simpa using hfull _ (List.getElem_mem hp)
  choose owner howner using hused
  have hinj : Function.Injective owner := by
    intro p q hpq
    have hp := howner p
    rw [hpq, howner q] at hp
    exact Fin.ext (Option.some.inj hp).symm
  have hcard := Fintype.card_le_of_injective owner hinj
  rw [Fintype.card_fin] at hcard
  exact absurd hcard (by decide)

/-- A slot is given to a source that has it already, or takes a free one. -/
theorem set (h : Tracks list ids coords) {X : Source} {j : Nat} (c : C) (hj : j < maxPointerCount)
    (hfree : ids X = some j ∨ ids X = none ∧ ∀ Y, ids Y ≠ some j) :
    Tracks (list.set j (X.pos c)) (Function.update ids X (some j)) (Function.update coords X (some c)) := by
  have hother : ∀ Y p, Y ≠ X → ids Y = some p → p ≠ j := by
    rintro Y p hne hY rfl
    rcases hfree with hX | ⟨-, hfree⟩
    · exact hne (h.injective Y X p hY hX)
    · exact hfree Y hY
  refine ⟨by rw [List.length_set, h.length], ?_, ?_, ?_⟩
  · intro Y Z p hY hZ
    by_cases hYX : Y = X
    · by_cases hZX : Z = X
      · rw [hYX, hZX]
      · rw [hYX, Function.update_self] at hY
        rw [Function.update_of_ne hZX] at hZ
        exact absurd (Option.some.inj hY).symm (hother Z p hZX hZ)
    · rw [Function.update_of_ne hYX] at hY
      by_cases hZX : Z = X
      · rw [hZX, Function.update_self] at hZ
        exact absurd (Option.some.inj hZ).symm (hother Y p hYX hY)
      · rw [Function.update_of_ne hZX] at hZ
        exact h.injective Y Z p hY hZ
  · intro Y p hY
    by_cases hYX : Y = X
    · subst hYX
      rw [Function.update_self] at hY
      obtain rfl := Option.some.inj hY
      exact ⟨c, Function.update_self .., List.getElem?_set_self (h.length ▸ hj)⟩
    · rw [Function.update_of_ne hYX] at hY ⊢
      rw [List.getElem?_set_ne (hother Y p hYX hY).symm]
      exact h.slot Y p hY
  · intro p pos hpos hvalid
    by_cases hp : p = j
    · exact ⟨X, by rw [hp, Function.update_self]⟩
    · rw [List.getElem?_set_ne (Ne.symm hp)] at hpos
      obtain ⟨Y, hY⟩ := h.used p pos hpos hvalid
      refine ⟨Y, ?_⟩
      rw [Function.update_of_ne ?_, hY]
      intro heq
      subst heq
      rcases hfree with hX | ⟨hX, -⟩
      · rw [hX] at hY
        exact hp (Option.some.inj hY).symm
      · rw [hX] at hY
        cases hY

/-- `insertTouch` finds the slot of the source or takes a free one, and returns its ordinal. -/
theorem insertTouch (h : Tracks list ids coords) (X : Source) (c : C) :
    ∃ j, ShoulderKey.insertTouch list (X.pos c) = (list.set j (X.pos c), (ordinal (list.set j (X.pos c)) j : Int)) ∧
      j < maxPointerCount ∧ (ids X = some j ∨ ids X = none ∧ ∀ Y, ids Y ≠ some j) := by
  have hslots : ∀ (i : Nat) (s : Pos C), list[i]? = some s → s.isValid = true → s.touchId = X.touchId →
      ids X = some i := by
    intro i s hs hvalid hid
    obtain ⟨Y, hY⟩ := h.used i s hs hvalid
    obtain ⟨c', -, hslot⟩ := h.slot Y i hY
    rw [hs] at hslot
    obtain rfl := Option.some.inj hslot
    rwa [touchId_injective hid] at hY
  cases hX : ids X with
  | some j =>
      obtain ⟨c', -, hslot⟩ := h.slot X j hX
      refine ⟨j, ?_, h.lt hX, Or.inl rfl⟩
      apply insertTouch_existing (X.pos c) hslot (isValid_pos X c') rfl
      intro i hi s hs hvalid hid
      have hi' := hslots i s hs hvalid hid
      rw [hX] at hi'
      exact absurd (Option.some.inj hi') (by omega)
  | none =>
      obtain ⟨j, slot, hslot, hfree, hused⟩ := exists_first_free h.exists_free
      have hj : j < list.length := (List.getElem?_eq_some_iff.mp hslot).1
      refine ⟨j, ?_, h.length ▸ hj, Or.inr ⟨rfl, ?_⟩⟩
      · apply insertTouch_free (X.pos c) _ hslot hfree hused
        intro s hs hvalid hid
        obtain ⟨i, hi⟩ := List.mem_iff_getElem?.mp hs
        have hi' := hslots i s hi hvalid hid
        rw [hX] at hi'
        cases hi'
      · intro Y hY
        have hvalid := (h.isValid_iff hslot).mpr ⟨Y, hY⟩
        rw [hfree] at hvalid
        cases hvalid

section Reset

variable [PointerCoords C]

theorem init : Tracks (State.init : State C).touchList (State.init : State C).ids
    (State.init : State C).sources.coords := by
  refine ⟨List.length_replicate, fun X Y p hX => (by cases hX), fun X p hX => (by cases hX), ?_⟩
  intro p pos hpos hvalid
  obtain rfl := List.eq_of_mem_replicate (List.mem_of_getElem? hpos)
  cases hvalid

/-- The slot of a source is freed. -/
theorem free (h : Tracks list ids coords) {X : Source} {j : Nat} (hX : ids X = some j) (slot : Pos C) :
    Tracks (list.set j slot.reset) (Function.update ids X none) coords := by
  have hother : ∀ Y p, Function.update ids X none Y = some p → Y ≠ X ∧ ids Y = some p ∧ p ≠ j := by
    intro Y p hY
    by_cases hYX : Y = X
    · rw [hYX, Function.update_self] at hY
      cases hY
    · rw [Function.update_of_ne hYX] at hY
      refine ⟨hYX, hY, ?_⟩
      intro heq
      subst heq
      exact hYX (h.injective Y X p hY hX)
  refine ⟨by rw [List.length_set, h.length], ?_, ?_, ?_⟩
  · intro Y Z p hY hZ
    exact h.injective Y Z p (hother Y p hY).2.1 (hother Z p hZ).2.1
  · intro Y p hY
    obtain ⟨-, hY, hp⟩ := hother Y p hY
    rw [List.getElem?_set_ne hp.symm]
    exact h.slot Y p hY
  · intro p pos hpos hvalid
    by_cases hp : p = j
    · subst hp
      rw [List.getElem?_set_self ((h.lt hX).trans_eq h.length.symm)] at hpos
      obtain rfl := Option.some.inj hpos
      cases hvalid
    · rw [List.getElem?_set_ne (Ne.symm hp)] at hpos
      obtain ⟨Y, hY⟩ := h.used p pos hpos hvalid
      refine ⟨Y, ?_⟩
      rw [Function.update_of_ne ?_, hY]
      intro heq
      subst heq
      rw [hX] at hY
      exact hp (Option.some.inj hY).symm

theorem resetTouch (h : Tracks list ids coords) :
    Tracks (ShoulderKey.resetTouch list) (fun _ => none) coords := by
  refine ⟨?_, fun X Y p hX => (by cases hX), fun X p hX => (by cases hX), ?_⟩
  · rw [ShoulderKey.resetTouch, List.length_map, h.length]
  · intro p pos hpos hvalid
    rw [isValid_of_mem_resetTouch (List.mem_of_getElem? hpos)] at hvalid
    cases hvalid

end Reset

/-! ### The loop over the fingers of a touchscreen event -/

theorem update_ids (ids : Source → Option Nat) {X : Source} {j : Nat} (hX : ids X = some j) :
    Function.update ids X (some j) = ids := by
  rw [← hX, Function.update_eq_self]

theorem touchLoop_cons (eventIndex i : Nat) (f : Fin 10 × C) (rest : List (Fin 10 × C)) (list : List (Pos C))
    (index : Int) : touchLoop eventIndex i (touchPointers (f :: rest)) (list, index) =
      touchLoop eventIndex (i + 1) (touchPointers rest)
        ((ShoulderKey.insertTouch list ((Source.finger f.1).pos f.2)).1,
          if i = eventIndex then (ShoulderKey.insertTouch list ((Source.finger f.1).pos f.2)).2 else index) := rfl

/-- Fingers that have slots keep them. -/
theorem touchLoop_tracked {fingers : List (Fin 10 × C)} (eventIndex i : Nat) (index : Int)
    (h : Tracks list ids coords) (hslots : ∀ f ∈ fingers, ids (.finger f.1) ≠ none) (hpast : eventIndex < i) :
    ∃ list', touchLoop eventIndex i (touchPointers fingers) (list, index) = (list', index) ∧
      Tracks list' ids (Sources.touched coords fingers) := by
  induction fingers generalizing i list coords with
  | nil => exact ⟨list, rfl, h⟩
  | cons f rest ih =>
      obtain ⟨j, hinsert, hj, hfree⟩ := h.insertTouch (.finger f.1) f.2
      have hf : ids (.finger f.1) = some j :=
        hfree.resolve_right fun hnone => hslots f (List.mem_cons_self ..) hnone.1
      have hset := h.set f.2 hj hfree
      rw [update_ids ids hf] at hset
      obtain ⟨list', hloop, htracks⟩ :=
        ih (i + 1) hset (fun g hg => hslots g (List.mem_cons_of_mem _ hg)) (by omega)
      refine ⟨list', ?_, htracks⟩
      rw [touchLoop_cons, hinsert, if_neg (by omega)]
      exact hloop

/-- The finger at place `k` keeps its slot or takes a free one, and the loop gives its ordinal. -/
theorem touchLoop_changed {fingers : List (Fin 10 × C)} {f : Fin 10 × C} (k i : Nat) (index : Int)
    (h : Tracks list ids coords) (hf : fingers[k]? = some f) (hnodup : (fingers.map Prod.fst).Nodup)
    (hslots : ∀ g ∈ fingers, g.1 ≠ f.1 → ids (.finger g.1) ≠ none) :
    ∃ j list', touchLoop (i + k) i (touchPointers fingers) (list, index) = (list', (ordinal list' j : Int)) ∧
      Tracks list' (Function.update ids (.finger f.1) (some j)) (Sources.touched coords fingers) ∧
      (ids (.finger f.1) = some j ∨ ids (.finger f.1) = none ∧ ∀ Y, ids Y ≠ some j) := by
  induction fingers generalizing k i list coords index with
  | nil => cases hf
  | cons head rest ih =>
      rw [List.map_cons, List.nodup_cons] at hnodup
      obtain ⟨j, hinsert, hj, hfree⟩ := h.insertTouch (.finger head.1) head.2
      have hset := h.set head.2 hj hfree
      cases k with
      | zero =>
          obtain rfl : head = f := Option.some.inj hf
          have hrest : ∀ g ∈ rest, Function.update ids (.finger head.1) (some j) (.finger g.1) ≠ none := by
            intro g hg
            have hne : g.1 ≠ head.1 := by
              intro heq
              exact hnodup.1 (heq ▸ List.mem_map_of_mem hg)
            rw [Function.update_of_ne (by simpa using hne)]
            exact hslots g (List.mem_cons_of_mem _ hg) hne
          obtain ⟨list', hloop, htracks⟩ := touchLoop_tracked i (i + 1)
            (ordinal (list.set j ((Source.finger head.1).pos head.2)) j : Int) hset hrest (by omega)
          refine ⟨j, list', ?_, htracks, hfree⟩
          rw [← hset.ordinal_eq htracks j]
          rw [touchLoop_cons, hinsert, if_pos (Nat.add_zero i).symm]
          exact hloop
      | succ k =>
          have hmem : f ∈ rest := List.mem_of_getElem? hf
          have hne : head.1 ≠ f.1 := by
            intro heq
            exact hnodup.1 (heq ▸ List.mem_map_of_mem hmem)
          have hhead : ids (.finger head.1) = some j :=
            hfree.resolve_right fun hnone => hslots head (List.mem_cons_self ..) hne hnone.1
          rw [update_ids ids hhead] at hset
          obtain ⟨j', list', hloop, htracks, hfree'⟩ := ih k (i + 1) index hset hf hnodup.2
            fun g hg => hslots g (List.mem_cons_of_mem _ hg)
          refine ⟨j', list', ?_, htracks, hfree'⟩
          rw [← hloop, touchLoop_cons, hinsert, if_neg (by omega), Nat.add_right_comm, Nat.add_assoc]

end Tracks

/-! ### The event that is sent -/

section Build

variable [PointerCoords C]

theorem buildMotionEvent_fst (list : List (Pos C)) (actionIndex : Int) (action : BitVec 32) :
    (buildMotionEvent list actionIndex action).1 =
      if action = actionCancel ∨ action = actionHoverExit then
        resetTouch (if action = actionUp ∨ action = actionPointerUp then removeTouch list actionIndex else list)
      else if action = actionUp ∨ action = actionPointerUp then removeTouch list actionIndex
      else list := by
  unfold buildMotionEvent
  simp only
  split_ifs <;> rfl

theorem buildMotionEvent_snd (list : List (Pos C)) (actionIndex : Int) (action : BitVec 32) :
    (buildMotionEvent list actionIndex action).2 =
      if (pointersFrom 0 list).length ≠ 0 then
        some ⟨if ¬((pointersFrom 0 list).length ≤ 1 ∨ action = actionMove ∨ action = actionCancel) then
            (if action = actionDown then actionPointerDown
              else if action = actionUp then actionPointerUp
              else action) ||| BitVec.ofInt 32 actionIndex <<< actionPointerIndexShift
          else action, pointersFrom 0 list⟩
      else none := by
  unfold buildMotionEvent
  simp only
  split_ifs <;> rfl

theorem single_action {action : BitVec 32} (h : action = actionDown ∨ action = actionUp) :
    action &&& actionMask = action ∧
      ((action &&& actionPointerIndexMask) >>> actionPointerIndexShift).toNat = 0 := by
  rcases h with rfl | rfl <;> decide

/-- The action index survives its encoding, and so does the action under it. -/
theorem encoded_action (n : Fin 16) :
    ((actionPointerDown ||| BitVec.ofInt 32 n.val <<< actionPointerIndexShift) &&& actionMask = actionPointerDown ∧
      (((actionPointerDown ||| BitVec.ofInt 32 n.val <<< actionPointerIndexShift) &&& actionPointerIndexMask) >>>
        actionPointerIndexShift).toNat = n.val) ∧
    ((actionPointerUp ||| BitVec.ofInt 32 n.val <<< actionPointerIndexShift) &&& actionMask = actionPointerUp ∧
      (((actionPointerUp ||| BitVec.ofInt 32 n.val <<< actionPointerIndexShift) &&& actionPointerIndexMask) >>>
        actionPointerIndexShift).toNat = n.val) := by
  revert n
  decide

/-- The two actions of a pointer that goes down or up: alone, and among others. -/
def IsChange (alone among : BitVec 32) : Prop :=
  alone = actionDown ∧ among = actionPointerDown ∨ alone = actionUp ∧ among = actionPointerUp

variable {list : List (Pos C)} {ids : Source → Option Nat} {coords : Source → Option C}

/-- The event of a source that goes down or up designates its pointer, and has the action of a single pointer
exactly when there is no other one. -/
theorem Tracks.buildMotionEvent_changed (h : Tracks list ids coords) {X : Source} {j : Nat}
    (hX : ids X = some j) {alone among action : BitVec 32} (hkind : IsChange alone among)
    (haction : action = alone ∨ action = among ∧ 2 ≤ (pointersFrom 0 list).length) :
    ∃ event, (buildMotionEvent list (ordinal list j) action).2 = some event ∧
      event.pointers = pointersFrom 0 list ∧ event.changedPointer = some j ∧
      event.getActionMasked = if (pointersFrom 0 list).length = 1 then alone else among := by
  have hlength := h.length_pos (X := X) (by rw [hX]; exact Option.some_ne_none j)
  have hpointer := h.pointer_ordinal hX
  have hordinal : ordinal list j < 16 := (ordinal_le list j).trans_lt (h.lt hX)
  by_cases hone : (pointersFrom 0 list).length = 1
  · obtain rfl : action = alone := haction.resolve_right fun hamong => by omega
    have hzero : ordinal list j = 0 := by
      have hlt : ordinal list j < (pointersFrom 0 list).length := by
        by_contra hge
        rw [List.getElem?_eq_none (by omega)] at hpointer
        cases hpointer
      omega
    have hsingle := single_action (hkind.imp And.left And.left)
    refine ⟨⟨action, pointersFrom 0 list⟩, ?_, rfl, ?_, ?_⟩
    · rw [buildMotionEvent_snd, if_pos (by omega), if_neg (by rw [not_not]; exact Or.inl hone.le)]
    · rw [hzero] at hpointer
      rw [MotionEvent.changedPointer, MotionEvent.getActionIndex, hsingle.2]
      exact hpointer
    · rw [if_pos hone]
      exact hsingle.1
  · have hencoded := encoded_action ⟨ordinal list j, hordinal⟩
    refine ⟨⟨among ||| BitVec.ofInt 32 (ordinal list j) <<< actionPointerIndexShift, pointersFrom 0 list⟩, ?_, rfl,
      ?_, ?_⟩
    · have hmany : ¬ (pointersFrom 0 list).length ≤ 1 := by omega
      have hnotMove : ¬ ((pointersFrom 0 list).length ≤ 1 ∨ action = actionMove ∨ action = actionCancel) := by
        rcases hkind with ⟨rfl, rfl⟩ | ⟨rfl, rfl⟩ <;> rcases haction with rfl | ⟨rfl, -⟩ <;> simp [hmany]
      rw [buildMotionEvent_snd, if_pos (by omega), if_pos hnotMove]
      rcases hkind with ⟨rfl, rfl⟩ | ⟨rfl, rfl⟩ <;> rcases haction with rfl | ⟨rfl, -⟩ <;> rfl
    · have hindex : (((among ||| BitVec.ofInt 32 (ordinal list j) <<< actionPointerIndexShift) &&&
          actionPointerIndexMask) >>> actionPointerIndexShift).toNat = ordinal list j := by
        rcases hkind with ⟨-, rfl⟩ | ⟨-, rfl⟩
        · exact hencoded.1.2
        · exact hencoded.2.2
      rw [MotionEvent.changedPointer, MotionEvent.getActionIndex, hindex]
      exact hpointer
    · rw [if_neg hone]
      rcases hkind with ⟨-, rfl⟩ | ⟨-, rfl⟩
      · exact hencoded.1.1
      · exact hencoded.2.1

/-- A move or a cancel is sent as it is. -/
theorem buildMotionEvent_unchanged (actionIndex : Int) {action : BitVec 32}
    (hlength : 0 < (pointersFrom 0 list).length) (haction : action = actionMove ∨ action = actionCancel) :
    (buildMotionEvent list actionIndex action).2 = some ⟨action, pointersFrom 0 list⟩ := by
  rw [buildMotionEvent_snd, if_pos (by omega), if_neg (by rw [not_not]; exact Or.inr haction)]

end Build

end Penrose.ShoulderKey

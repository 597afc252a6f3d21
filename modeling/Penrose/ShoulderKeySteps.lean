import Penrose.ShoulderKeyPointers

/-! What each input does: the event it sends, the table it leaves and the pointers that are then down. A
source that goes up without having a pointer is inserted and removed again in the same step. -/

namespace Penrose.ShoulderKey

variable {C : Type}

namespace Input

/-- The action of the changed source when it is the only one. -/
def alone : Input C → BitVec 32
  | touchDown _ _ | keyDown _ _ => actionDown
  | _ => actionUp

/-- The action of the changed source among others. -/
def among : Input C → BitVec 32
  | touchDown _ _ | keyDown _ _ => actionPointerDown
  | _ => actionPointerUp

/-- A key event comes with coordinates. -/
def Mapped : Input C → Prop
  | keyDown _ coordinate | keyUp _ coordinate => coordinate ≠ none
  | _ => True

theorem isChange (input : Input C) : IsChange input.alone input.among := by
  cases input <;> first | exact Or.inl ⟨rfl, rfl⟩ | exact Or.inr ⟨rfl, rfl⟩

theorem among_of_alone (input : Input C) :
    (input.alone = actionDown → input.among = actionPointerDown) ∧
      (input.alone = actionUp → input.among = actionPointerUp) := by
  cases input <;> simp [alone, among]

end Input

/-- The table holds the sources with pointers; these are the fingers that are down, and keys that are. -/
structure Inv (s : State C) : Prop where
  tracks : Tracks s.touchList s.ids s.sources.coords
  finger : ∀ id, s.ids (.finger id) ≠ none ↔ s.sources.down (.finger id) = true
  key : ∀ isLeft, s.ids (.key isLeft) ≠ none → s.sources.down (.key isLeft) = true

/-! ### Events as the filter reads them -/

section Fingers

variable {fingers : List (Fin 10 × C)} {k : Nat}

theorem length_fingers_le (hnodup : (fingers.map Prod.fst).Nodup) : fingers.length ≤ 10 := by
  have hle := hnodup.length_le_card
  rwa [List.length_map, Fintype.card_fin] at hle

/-- Among several fingers there is one besides a given one. -/
theorem exists_other {f : Fin 10 × C} (hnodup : (fingers.map Prod.fst).Nodup) (hmany : ¬ fingers.length ≤ 1) :
    ∃ g ∈ fingers, g.1 ≠ f.1 := by
  by_contra hall
  push Not at hall
  have hsame : fingers.map Prod.fst = List.replicate fingers.length f.1 := by
    rw [List.eq_replicate_iff]
    refine ⟨List.length_map .., fun id hid => ?_⟩
    obtain ⟨g, hg, rfl⟩ := List.mem_map.mp hid
    exact hall g hg
  rw [hsame, List.nodup_replicate] at hnodup
  exact hmany hnodup

theorem among_action (k : Fin 10) :
    ((actionPointerDown ||| BitVec.ofNat 32 k.val <<< actionPointerIndexShift) &&& actionMask = actionPointerDown ∧
      (((actionPointerDown ||| BitVec.ofNat 32 k.val <<< actionPointerIndexShift) &&& actionPointerIndexMask) >>>
        actionPointerIndexShift).toNat = k.val) ∧
    ((actionPointerUp ||| BitVec.ofNat 32 k.val <<< actionPointerIndexShift) &&& actionMask = actionPointerUp ∧
      (((actionPointerUp ||| BitVec.ofNat 32 k.val <<< actionPointerIndexShift) &&& actionPointerIndexMask) >>>
        actionPointerIndexShift).toNat = k.val) := by
  revert k
  decide

/-- The action and the action index that the filter reads from a touchscreen event. -/
theorem touchAction_eq {alone among : BitVec 32} (hkind : IsChange alone among) (hk : k < fingers.length)
    (hten : fingers.length ≤ 10) :
    touchAction alone among fingers k &&& actionMask = (if fingers.length ≤ 1 then alone else among) ∧
      ((touchAction alone among fingers k &&& actionPointerIndexMask) >>> actionPointerIndexShift).toNat = k := by
  unfold touchAction
  split_ifs with hone
  · have hsingle := single_action (hkind.imp And.left And.left)
    exact ⟨hsingle.1, by rw [hsingle.2]; omega⟩
  · have hencoded := among_action ⟨k, by omega⟩
    rcases hkind with ⟨-, rfl⟩ | ⟨-, rfl⟩
    · exact hencoded.1
    · exact hencoded.2

end Fingers

theorem Inv.down_of_live {s : State C} {X : Source} (h : Inv s) (hX : s.ids X ≠ none) :
    s.sources.down X = true := by
  cases X with
  | finger id => exact (h.finger id).mp hX
  | key isLeft => exact h.key isLeft hX

/-! ### The sent pointers -/

theorem nextIds_down {input : Input C} {X : Source} {event : MotionEvent C} {ids : Source → Option Nat}
    (hX : input.changed = some X)
    (haction : event.getActionMasked = actionDown ∨ event.getActionMasked = actionPointerDown) :
    nextIds ids input (some event) = Function.update ids X event.changedPointer := by
  rw [nextIds]
  simp only [if_pos haction, hX]

theorem nextIds_up {input : Input C} {event : MotionEvent C} {ids : Source → Option Nat}
    (haction : event.getActionMasked = actionUp ∨ event.getActionMasked = actionPointerUp) :
    nextIds ids input (some event) = fun Y => if ids Y = event.changedPointer then none else ids Y := by
  have hnot : ¬(event.getActionMasked = actionDown ∨ event.getActionMasked = actionPointerDown) := by
    rcases haction with haction | haction <;> rw [haction] <;> decide
  rw [nextIds]
  simp only [if_neg hnot, if_pos haction]

theorem nextIds_move {input : Input C} {ids : Source → Option Nat} (pointers : List (Nat × C)) :
    nextIds ids input (some ⟨actionMove, pointers⟩) = ids := by
  simp [nextIds, MotionEvent.getActionMasked]

theorem nextIds_cancel {input : Input C} {ids : Source → Option Nat} (pointers : List (Nat × C)) :
    nextIds ids input (some ⟨actionCancel, pointers⟩) = fun _ => none := by
  simp [nextIds, MotionEvent.getActionMasked]

section Steps

variable [PointerCoords C]

theorem State.next_touchList (s : State C) (input : Input C) :
    (s.next input).touchList = (input.process s.touchList).1 := rfl

theorem State.next_ids (s : State C) (input : Input C) :
    (s.next input).ids = nextIds s.ids input (s.sent input) := rfl

theorem Inv.init : Inv (State.init : State C) where
  tracks := Tracks.init
  finger _ := ⟨fun h => absurd rfl h, fun h => by cases h⟩
  key _ h := absurd rfl h

theorem keyPos_eq (isLeft : Bool) (coordinate : Coordinates) :
    keyPos (C := C) isLeft coordinate = (Source.key isLeft).pos (keyPos (C := C) isLeft coordinate).pointerCoords := by
  cases isLeft <;> rfl

theorem processShoulderKeyEvent_none (list : List (Pos C)) (event : KeyEvent) :
    processShoulderKeyEvent list event none = (list, none) := by
  unfold processShoulderKeyEvent
  split_ifs <;> rfl

theorem processShoulderKeyEvent_some (list : List (Pos C)) (isLeft : Bool) {action : BitVec 32}
    (haction : action = actionDown ∨ action = actionUp) (coordinate : Coordinates) :
    processShoulderKeyEvent list (shoulderKeyEvent isLeft action) (some coordinate) =
      buildMotionEvent (insertTouch list (keyPos isLeft coordinate)).1
        (insertTouch list (keyPos isLeft coordinate)).2 action := by
  have hleft : decide ((shoulderKeyEvent isLeft action).keyCode = leftKeyCode) = isLeft := by cases isLeft <;> rfl
  have hcode : (shoulderKeyEvent isLeft action).keyCode = leftKeyCode ∨
      (shoulderKeyEvent isLeft action).keyCode = rightKeyCode := by cases isLeft <;> simp [shoulderKeyEvent]
  have hsent : (shoulderKeyEvent isLeft action).action = actionDown ∨
      (shoulderKeyEvent isLeft action).action = actionUp := haction
  rw [processShoulderKeyEvent, if_neg (not_not.mpr ⟨rfl, rfl⟩), if_neg (not_not.mpr hcode), if_pos hsent]
  simp only [hleft]
  rfl

/-! ### A source that goes down or up -/

variable {s : State C} {input : Input C} {X : Source}

/-- `mid` is the table between inserting the source at slot `j` and the rest of the step. -/
structure Inserts (s : State C) (input : Input C) (X : Source) (j : Nat) (mid : List (Pos C)) : Prop where
  tracks : Tracks mid (Function.update s.ids X (some j)) (s.next input).sources.coords
  slot : s.ids X = some j ∨ s.ids X = none ∧ ∀ Y, s.ids Y ≠ some j
  process : ∃ action, input.process s.touchList = buildMotionEvent mid (ordinal mid j) action ∧
    (action = input.alone ∨ action = input.among ∧ 2 ≤ (pointersFrom 0 mid).length)

/-- The finger at place `k` of a touchscreen event. -/
theorem Inv.inserts_finger (h : Inv s) {fingers : List (Fin 10 × C)} {k : Nat} {f : Fin 10 × C}
    (hprocess : input.process s.touchList =
      processTouchScreenEvent s.touchList ⟨touchAction input.alone input.among fingers k, touchPointers fingers⟩)
    (hcoords : (s.next input).sources.coords = Sources.touched s.sources.coords fingers)
    (hnodup : (fingers.map Prod.fst).Nodup) (hf : fingers[k]? = some f)
    (hdown : ∀ g ∈ fingers, g.1 ≠ f.1 → s.sources.down (.finger g.1) = true) :
    ∃ j mid, Inserts s input (.finger f.1) j mid := by
  have hk : k < fingers.length := (List.getElem?_eq_some_iff.mp hf).1
  have haction := touchAction_eq input.isChange hk (length_fingers_le hnodup)
  have hslots : ∀ g ∈ fingers, g.1 ≠ f.1 → s.ids (.finger g.1) ≠ none :=
    fun g hg hne => (h.finger g.1).mpr (hdown g hg hne)
  obtain ⟨j, mid, hloop, htracks, hslot⟩ :=
    h.tracks.touchLoop_changed _ 0 invalidPointerId hf hnodup hslots
  rw [Nat.zero_add] at hloop
  refine ⟨j, mid, hcoords ▸ htracks, hslot, if fingers.length ≤ 1 then input.alone else input.among, ?_, ?_⟩
  · rw [hprocess, processTouchScreenEvent, MotionEvent.getActionIndex]
    simp only [haction.1, haction.2, hloop]
  · split_ifs with hone
    · exact Or.inl rfl
    · obtain ⟨g, hg, hne⟩ := exists_other (f := f) hnodup hone
      have hgf : Source.finger g.1 ≠ .finger f.1 := by simpa using hne
      refine Or.inr ⟨rfl, htracks.two_le_length hgf ?_ ?_⟩
      · rw [Function.update_of_ne hgf]
        exact hslots g hg hne
      · rw [Function.update_self]
        exact Option.some_ne_none j

theorem Inv.inserts_key (h : Inv s) {isLeft : Bool} {coordinate : Coordinates}
    (hkey : input.alone = actionDown ∨ input.alone = actionUp)
    (hprocess : input.process s.touchList =
      processShoulderKeyEvent s.touchList (shoulderKeyEvent isLeft input.alone) (some coordinate))
    (hcoords : (s.next input).sources.coords = Sources.mapped s.sources.coords isLeft (some coordinate)) :
    ∃ j mid, Inserts s input (.key isLeft) j mid := by
  obtain ⟨j, hinsert, hj, hslot⟩ :=
    h.tracks.insertTouch (.key isLeft) (keyPos (C := C) isLeft coordinate).pointerCoords
  have htracks := h.tracks.set (keyPos (C := C) isLeft coordinate).pointerCoords hj hslot
  rw [← keyPos_eq] at hinsert htracks
  have hmid : Tracks (s.touchList.set j (keyPos isLeft coordinate))
      (Function.update s.ids (.key isLeft) (some j)) (s.next input).sources.coords := by
    rw [hcoords]
    exact htracks
  refine ⟨j, _, hmid, hslot, input.alone, ?_, Or.inl rfl⟩
  rw [hprocess, processShoulderKeyEvent_some s.touchList isLeft hkey, hinsert]

/-- Every input with a source that goes down or up inserts it. -/
theorem Inv.inserts (h : Inv s) (hwf : s.sources.WellFormed input) (hmapped : input.Mapped)
    (hX : input.changed = some X) : ∃ j mid, Inserts s input X j mid := by
  cases input with
  | touchDown fingers k =>
      obtain ⟨hnodup, f, hf, -, hothers⟩ := hwf
      obtain rfl : Source.finger f.1 = X := by simpa [Input.changed, hf] using hX
      exact h.inserts_finger rfl rfl hnodup hf fun g hg hne =>
        (hothers g.1 hne).mp (List.mem_map_of_mem hg)
  | touchUp fingers k =>
      obtain ⟨⟨hnodup, hlists⟩, hk⟩ := hwf
      have hf : fingers[k]? = some fingers[k] := List.getElem?_eq_getElem hk
      obtain rfl : Source.finger fingers[k].1 = X := by simpa [Input.changed, hf] using hX
      exact h.inserts_finger rfl rfl hnodup hf fun g hg _ => (hlists g.1).mp (List.mem_map_of_mem hg)
  | keyDown isLeft coordinate =>
      obtain ⟨coordinate, rfl⟩ := Option.ne_none_iff_exists'.mp hmapped
      obtain rfl : Source.key isLeft = X := Option.some.inj hX
      exact h.inserts_key (Or.inl rfl) rfl rfl
  | keyUp isLeft coordinate =>
      obtain ⟨coordinate, rfl⟩ := Option.ne_none_iff_exists'.mp hmapped
      obtain rfl : Source.key isLeft = X := Option.some.inj hX
      exact h.inserts_key (Or.inr rfl) rfl rfl
  | touchMove fingers => cases hX
  | touchCancel fingers => cases hX

/-- What the step of a source that goes down or up does. -/
structure Changes (s : State C) (input : Input C) (X : Source) (j : Nat) (mid : List (Pos C))
    (event : MotionEvent C) : Prop where
  tracks : Tracks mid (Function.update s.ids X (some j)) (s.next input).sources.coords
  slot : s.ids X = some j ∨ s.ids X = none ∧ ∀ Y, s.ids Y ≠ some j
  sent : s.sent input = some event
  pointers : event.pointers = pointersFrom 0 mid
  changedPointer : event.changedPointer = some j
  action : event.getActionMasked = if event.pointers.length = 1 then input.alone else input.among
  down : input.alone = actionDown →
    (s.next input).touchList = mid ∧ (s.next input).ids = Function.update s.ids X (some j)
  up : input.alone = actionUp →
    (∃ slot : Pos C, (s.next input).touchList = mid.set j slot.reset) ∧
      (s.next input).ids = Function.update s.ids X none

theorem buildMotionEvent_fst_down (list : List (Pos C)) (actionIndex : Int) {action : BitVec 32}
    (haction : action = actionDown ∨ action = actionPointerDown) :
    (buildMotionEvent list actionIndex action).1 = list := by
  rw [buildMotionEvent_fst]
  rcases haction with rfl | rfl <;> rfl

theorem buildMotionEvent_fst_up (list : List (Pos C)) (actionIndex : Int) {action : BitVec 32}
    (haction : action = actionUp ∨ action = actionPointerUp) :
    (buildMotionEvent list actionIndex action).1 = removeTouch list actionIndex := by
  rw [buildMotionEvent_fst]
  rcases haction with rfl | rfl <;> rfl

theorem Inserts.changes {j : Nat} {mid : List (Pos C)} (h : Inserts s input X j mid) (hinv : Inv s)
    (hX : input.changed = some X) : ∃ event, Changes s input X j mid event := by
  obtain ⟨action, hprocess, haction⟩ := h.process
  have hself : Function.update s.ids X (some j) X = some j := Function.update_self ..
  obtain ⟨event, hsent, hpointers, hchanged, hmasked⟩ :=
    h.tracks.buildMotionEvent_changed hself input.isChange haction
  rw [← hpointers] at hmasked
  have hsent' : s.sent input = some event := by rw [State.sent, hprocess, hsent]
  refine ⟨event, h.tracks, h.slot, hsent', hpointers, hchanged, hmasked, ?_, ?_⟩
  · intro hdown
    have hamong := input.among_of_alone.1 hdown
    refine ⟨?_, ?_⟩
    · rw [State.next_touchList, hprocess]
      apply buildMotionEvent_fst_down _ _
      rcases haction with rfl | ⟨rfl, -⟩
      · exact Or.inl hdown
      · exact Or.inr hamong
    · rw [State.next_ids, hsent', ← hchanged]
      apply nextIds_down hX
      rw [hmasked, hdown, hamong]
      split_ifs <;> simp
  · intro hup
    have hamong := input.among_of_alone.2 hup
    refine ⟨?_, ?_⟩
    · obtain ⟨c, -, hslot⟩ := h.tracks.slot X j hself
      refine ⟨X.pos c, ?_⟩
      rw [State.next_touchList, hprocess]
      refine (buildMotionEvent_fst_up _ _ ?_).trans
        (removeTouch_ordinal hslot (isValid_pos X c) (h.tracks.lt hself))
      rcases haction with rfl | ⟨rfl, -⟩
      · exact Or.inl hup
      · exact Or.inr hamong
    · rw [State.next_ids, hsent']
      refine (nextIds_up ?_).trans ?_
      · rw [hmasked, hup, hamong]
        split_ifs <;> simp
      · funext Y
        rw [hchanged]
        by_cases hY : Y = X
        · subst hY
          rw [Function.update_self]
          rcases h.slot with hslot | ⟨hnone, -⟩
          · rw [if_pos hslot]
          · rw [hnone]
            rfl
        · rw [Function.update_of_ne hY, if_neg]
          intro hYj
          rcases h.slot with hslot | ⟨-, hfree⟩
          · exact hY (hinv.tracks.injective Y X j hYj hslot)
          · exact hfree Y hYj

theorem Inv.changes (h : Inv s) (hwf : s.sources.WellFormed input) (hmapped : input.Mapped)
    (hX : input.changed = some X) : ∃ j mid event, Changes s input X j mid event := by
  obtain ⟨j, mid, hinserts⟩ := h.inserts hwf hmapped hX
  obtain ⟨event, hevent⟩ := hinserts.changes h hX
  exact ⟨j, mid, event, hevent⟩

/-! ### The other inputs -/

/-- A move or a cancel lists fingers that keep their slots. -/
theorem Inv.listed (h : Inv s) {fingers : List (Fin 10 × C)} (hwf : s.sources.Lists fingers ∧ fingers ≠ [])
    {action : BitVec 32} (haction : action = actionMove ∨ action = actionCancel) :
    ∃ mid, Tracks mid s.ids (Sources.touched s.sources.coords fingers) ∧
      processTouchScreenEvent s.touchList ⟨action, touchPointers fingers⟩ =
        (if action = actionMove then mid else resetTouch mid, some ⟨action, pointersFrom 0 mid⟩) := by
  have hslots : ∀ g ∈ fingers, s.ids (.finger g.1) ≠ none :=
    fun g hg => (h.finger g.1).mpr ((hwf.1.2 g.1).mp (List.mem_map_of_mem hg))
  have hf : fingers[0]? = some (fingers.head hwf.2) := by
    rw [← List.head?_eq_getElem?, List.head?_eq_some_head hwf.2]
  have hmem := List.head_mem hwf.2
  obtain ⟨j, mid, hloop, htracks, hslot⟩ := h.tracks.touchLoop_changed _ 0 invalidPointerId hf
    hwf.1.1 fun g hg _ => hslots g hg
  have hj := hslot.resolve_right fun hnone => hslots _ hmem hnone.1
  rw [Tracks.update_ids s.ids hj] at htracks
  have hread : action &&& actionMask = action ∧
      ((action &&& actionPointerIndexMask) >>> actionPointerIndexShift).toNat = 0 := by
    rcases haction with rfl | rfl <;> decide
  have hbuild : processTouchScreenEvent s.touchList ⟨action, touchPointers fingers⟩ =
      buildMotionEvent mid (ordinal mid j) action := by
    rw [processTouchScreenEvent, MotionEvent.getActionIndex]
    simp only [hread.1, hread.2]
    simp only [Nat.add_zero] at hloop
    rw [hloop]
  refine ⟨mid, htracks, ?_⟩
  rw [hbuild]
  refine Prod.ext ?_ (buildMotionEvent_unchanged _ (htracks.length_pos (hslots _ hmem)) haction)
  rw [buildMotionEvent_fst]
  rcases haction with rfl | rfl <;> rfl

theorem Inv.moves (h : Inv s) {fingers : List (Fin 10 × C)} (hwf : s.sources.WellFormed (.touchMove fingers)) :
    ∃ mid, Tracks mid s.ids (s.next (.touchMove fingers)).sources.coords ∧
      s.sent (.touchMove fingers) = some ⟨actionMove, pointersFrom 0 mid⟩ ∧
      (s.next (.touchMove fingers)).touchList = mid ∧ (s.next (.touchMove fingers)).ids = s.ids := by
  obtain ⟨mid, htracks, hprocess⟩ := h.listed hwf (Or.inl rfl)
  have hsent : s.sent (.touchMove fingers) = some ⟨actionMove, pointersFrom 0 mid⟩ := by
    rw [State.sent, Input.process, hprocess]
  refine ⟨mid, htracks, hsent, ?_, ?_⟩
  · rw [State.next_touchList, Input.process, hprocess, if_pos rfl]
  · rw [State.next_ids, hsent, nextIds_move]

theorem Inv.cancels (h : Inv s) {fingers : List (Fin 10 × C)}
    (hwf : s.sources.WellFormed (.touchCancel fingers)) :
    ∃ mid, Tracks mid s.ids (s.next (.touchCancel fingers)).sources.coords ∧
      s.sent (.touchCancel fingers) = some ⟨actionCancel, pointersFrom 0 mid⟩ ∧
      (s.next (.touchCancel fingers)).touchList = resetTouch mid ∧
      (s.next (.touchCancel fingers)).ids = fun _ => none := by
  obtain ⟨mid, htracks, hprocess⟩ := h.listed hwf (Or.inr rfl)
  have hsent : s.sent (.touchCancel fingers) = some ⟨actionCancel, pointersFrom 0 mid⟩ := by
    rw [State.sent, Input.process, hprocess]
  refine ⟨mid, htracks, hsent, ?_, ?_⟩
  · rw [State.next_touchList, Input.process, hprocess, if_neg (by decide)]
  · rw [State.next_ids, hsent, nextIds_cancel]

/-- Without coordinates a key does nothing. -/
theorem unmapped_key (s : State C) (input : Input C) (isLeft : Bool)
    (hinput : input = .keyDown isLeft none ∨ input = .keyUp isLeft none) :
    s.sent input = none ∧ (s.next input).touchList = s.touchList ∧ (s.next input).ids = s.ids ∧
      (s.next input).sources.coords = s.sources.coords := by
  rcases hinput with rfl | rfl <;>
    simp only [State.sent, State.next, Input.process, processShoulderKeyEvent_none, nextIds, Sources.next,
      Sources.mapped, and_self]

/-! ### The invariant -/

/-- When a key goes up it has coordinates exactly if a slot holds it. -/
def KeyUpMatches (s : State C) : Input C → Prop
  | .keyUp isLeft coordinate =>
      coordinate ≠ none ↔ ∃ slot ∈ s.touchList, slot.touchId = (Source.key isLeft).touchId
  | _ => True

omit [PointerCoords C] in
theorem Inv.holds_iff (h : Inv s) (X : Source) :
    (∃ slot ∈ s.touchList, slot.touchId = X.touchId) ↔ s.ids X ≠ none := by
  refine ⟨?_, ?_⟩
  · rintro ⟨slot, hmem, hid⟩
    obtain ⟨p, hp⟩ := List.mem_iff_getElem?.mp hmem
    have hvalid : slot.isValid = true := by
      rw [Pos.isValid, hid]
      exact bne_iff_ne.mpr (touchId_ne_invalid X)
    obtain ⟨Y, hY⟩ := h.tracks.used p slot hp hvalid
    obtain ⟨c, -, hslot⟩ := h.tracks.slot Y p hY
    rw [hp] at hslot
    obtain rfl := Option.some.inj hslot
    rw [← touchId_injective hid, hY]
    exact Option.some_ne_none p
  · intro hX
    obtain ⟨p, hp⟩ := Option.ne_none_iff_exists'.mp hX
    obtain ⟨c, -, hslot⟩ := h.tracks.slot X p hp
    exact ⟨X.pos c, List.mem_of_getElem? hslot, rfl⟩

theorem next_down (hX : input.changed = some X) :
    (s.next input).sources.down = Function.update s.sources.down X (decide (input.alone = actionDown)) := by
  have hset : (s.next input).sources.down =
      Sources.set s.sources.down input.changed (decide (input.alone = actionDown)) := by
    cases input <;> first | rfl | exact absurd hX (Option.some_ne_none X).symm
  rw [hset, hX]
  rfl

/-- The source that changed has a pointer exactly if it is down; the others are as they were. -/
theorem Inv.of_update (h : Inv s) {pointer : Option Nat} (hX : input.changed = some X)
    (htracks : Tracks (s.next input).touchList (s.next input).ids (s.next input).sources.coords)
    (hids : (s.next input).ids = Function.update s.ids X pointer)
    (hpointer : pointer ≠ none ↔ input.alone = actionDown) : Inv (s.next input) := by
  have hsame : ∀ Y, Y ≠ X → (s.next input).ids Y = s.ids Y ∧
      (s.next input).sources.down Y = s.sources.down Y := by
    intro Y hY
    rw [hids, next_down hX, Function.update_of_ne hY, Function.update_of_ne hY]
    exact ⟨rfl, rfl⟩
  have hself : (s.next input).ids X ≠ none ↔ (s.next input).sources.down X = true := by
    rw [hids, next_down hX, Function.update_self, Function.update_self, hpointer, decide_eq_true_iff]
  refine ⟨htracks, ?_, ?_⟩
  · intro id
    by_cases hid : Source.finger id = X
    · exact hid ▸ hself
    · rw [(hsame _ hid).1, (hsame _ hid).2]
      exact h.finger id
  · intro isLeft
    by_cases hkey : Source.key isLeft = X
    · exact hkey ▸ hself.mp
    · rw [(hsame _ hkey).1, (hsame _ hkey).2]
      exact h.key isLeft

theorem Changes.inv {j : Nat} {mid : List (Pos C)} {event : MotionEvent C} (hc : Changes s input X j mid event)
    (h : Inv s) (hX : input.changed = some X) : Inv (s.next input) := by
  rcases input.isChange with ⟨hdown, -⟩ | ⟨hup, -⟩
  · obtain ⟨htable, hids⟩ := hc.down hdown
    refine h.of_update hX ?_ hids ⟨fun _ => hdown, fun _ => Option.some_ne_none j⟩
    rw [htable, hids]
    exact hc.tracks
  · obtain ⟨⟨slot, htable⟩, hids⟩ := hc.up hup
    refine h.of_update hX ?_ hids ⟨fun hne => absurd rfl hne, fun hdown => ?_⟩
    · rw [htable, hids]
      have hfree := hc.tracks.free (Function.update_self X (some j) s.ids) slot
      rwa [Function.update_idem] at hfree
    · rw [hup] at hdown
      cases hdown

/-- A key without coordinates leaves the invariant alone unless a pointer of it goes on. -/
theorem Inv.unmapped (h : Inv s) {isLeft : Bool} (hinput : input = .keyDown isLeft none ∨ input = .keyUp isLeft none)
    (hids : input.alone = actionUp → s.ids (.key isLeft) = none) : Inv (s.next input) := by
  obtain ⟨-, htable, hsame, hcoords⟩ := unmapped_key s input isLeft hinput
  have hX : input.changed = some (.key isLeft) := by rcases hinput with rfl | rfl <;> rfl
  have hother : ∀ Y, Y ≠ .key isLeft → (s.next input).sources.down Y = s.sources.down Y := by
    intro Y hY
    rw [next_down hX, Function.update_of_ne hY]
  refine ⟨by rw [htable, hsame, hcoords]; exact h.tracks, ?_, ?_⟩
  · intro id
    rw [hsame, hother (.finger id) (by simp)]
    exact h.finger id
  · intro isLeft'
    rw [hsame]
    by_cases hkey : Source.key isLeft' = .key isLeft
    · intro hne
      rw [hkey] at hne ⊢
      rw [next_down hX, Function.update_self, decide_eq_true_iff]
      rcases input.isChange with ⟨hdown, -⟩ | ⟨hup, -⟩
      · exact hdown
      · exact absurd (hids hup) hne
    · rw [hother _ hkey]
      exact h.key isLeft'

theorem Inv.step_cases (h : Inv s) (hwf : s.sources.WellFormed input) :
    (∃ X j mid event, input.Mapped ∧ input.changed = some X ∧ Changes s input X j mid event) ∨
      (∃ fingers, input = .touchMove fingers) ∨ (∃ fingers, input = .touchCancel fingers) ∨
        ∃ isLeft, input = .keyDown isLeft none ∨ input = .keyUp isLeft none := by
  have hmapped : input.Mapped → (∃ X, input.changed = some X) →
      ∃ X j mid event, input.Mapped ∧ input.changed = some X ∧ Changes s input X j mid event := by
    rintro hmapped ⟨X, hX⟩
    obtain ⟨j, mid, event, hchanges⟩ := h.changes hwf hmapped hX
    exact ⟨X, j, mid, event, hmapped, hX, hchanges⟩
  cases input with
  | touchDown fingers k =>
      obtain ⟨-, f, hf, -, -⟩ := hwf
      exact Or.inl (hmapped trivial ⟨.finger f.1, by rw [Input.changed, hf, Option.map_some]⟩)
  | touchUp fingers k =>
      obtain ⟨f, hf⟩ : ∃ f, fingers[k]? = some f := ⟨_, List.getElem?_eq_getElem hwf.2⟩
      exact Or.inl (hmapped trivial ⟨.finger f.1, by rw [Input.changed, hf, Option.map_some]⟩)
  | touchMove fingers => exact Or.inr (Or.inl ⟨fingers, rfl⟩)
  | touchCancel fingers => exact Or.inr (Or.inr (Or.inl ⟨fingers, rfl⟩))
  | keyDown isLeft coordinate =>
      cases coordinate with
      | none => exact Or.inr (Or.inr (Or.inr ⟨isLeft, Or.inl rfl⟩))
      | some coordinate => exact Or.inl (hmapped (Option.some_ne_none _) ⟨.key isLeft, rfl⟩)
  | keyUp isLeft coordinate =>
      cases coordinate with
      | none => exact Or.inr (Or.inr (Or.inr ⟨isLeft, Or.inr rfl⟩))
      | some coordinate => exact Or.inl (hmapped (Option.some_ne_none _) ⟨.key isLeft, rfl⟩)

theorem Inv.next (h : Inv s) (hwf : s.sources.WellFormed input) (hmatches : KeyUpMatches s input) :
    Inv (s.next input) := by
  rcases h.step_cases hwf with ⟨X, j, mid, event, -, hX, hchanges⟩ | ⟨fingers, rfl⟩ | ⟨fingers, rfl⟩ | ⟨isLeft, hinput⟩
  · exact hchanges.inv h hX
  · obtain ⟨mid, htracks, -, htable, hids⟩ := h.moves hwf
    refine ⟨by rw [htable, hids]; exact htracks, ?_, ?_⟩
    · rw [hids]
      exact h.finger
    · rw [hids]
      exact h.key
  · obtain ⟨mid, htracks, -, htable, hids⟩ := h.cancels hwf
    refine ⟨by rw [htable, hids]; exact htracks.resetTouch, ?_, ?_⟩
    · rw [hids]
      exact fun id => ⟨fun hne => absurd rfl hne, fun hdown => by cases hdown⟩
    · rw [hids]
      exact fun isLeft hne => absurd rfl hne
  · apply h.unmapped hinput
    intro hup
    rcases hinput with rfl | rfl
    · cases hup
    · by_contra hne
      exact hmatches.mpr ((h.holds_iff (.key isLeft)).mpr hne) rfl

end Steps

end Penrose.ShoulderKey

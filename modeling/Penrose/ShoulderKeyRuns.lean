import Penrose.Runs
import Penrose.ShoulderKeySteps

/-! Whole runs of the filter. With coordinates at every key event and no cancel, the sent stream is the exact
merge of fingers and keys. In general no pointer is stuck and none is invented exactly as long as a key that
goes up has coordinates if and only if its pointer is down. -/

namespace Penrose.ShoulderKey

variable {C : Type}

namespace MotionEvent

def IsDown (event : MotionEvent C) : Prop :=
  event.getActionMasked = actionDown ∨ event.getActionMasked = actionPointerDown

def IsUp (event : MotionEvent C) : Prop :=
  event.getActionMasked = actionUp ∨ event.getActionMasked = actionPointerUp

end MotionEvent

variable [PointerCoords C] {s : State C} {input : Input C} {X : Source} {j : Nat} {mid : List (Pos C)}
  {event : MotionEvent C}

/-! ### The exact merge -/

/-- The sources that the event of a step lists: those that are down, and the one that goes up. -/
def Shown (s : State C) (input : Input C) (X : Source) : Prop :=
  (s.next input).sources.down X = true ∨ input.changed = some X

/-- The pointer of a source in a step, also of the source that goes up. -/
def pointerOf (s : State C) (input : Input C) (X : Source) : Option Nat :=
  (s.next input).ids X <|> s.ids X

/-- The event lists exactly the sources shown, each under its own lasting pointer with its latest coordinates,
and its action says which of them changed. -/
structure Merged (s : State C) (input : Input C) (event : MotionEvent C) : Prop where
  shown : ∀ X, Shown s input X → ∃ p c, pointerOf s input X = some p ∧
    (s.next input).sources.coords X = some c ∧ (p, c) ∈ event.pointers
  listed : ∀ p c, (p, c) ∈ event.pointers → ∃ X, Shown s input X ∧ pointerOf s input X = some p ∧
    (s.next input).sources.coords X = some c
  nodup : (event.pointers.map Prod.fst).Nodup
  unique : ∀ X Y, Shown s input X → Shown s input Y → pointerOf s input X = pointerOf s input Y → X = Y
  constant : ∀ X, s.sources.down X = true → pointerOf s input X = s.ids X
  changed : ∀ X, input.changed = some X → event.changedPointer = pointerOf s input X ∧
    event.getActionMasked = if event.pointers.length = 1 then input.alone else input.among
  unchanged : input.changed = none → event.getActionMasked = actionMove
  released : ∀ X, (s.next input).ids X ≠ none ↔ (s.next input).sources.down X = true

/-- Every source that is down has a pointer. -/
def Held (s : State C) : Prop := ∀ X, s.sources.down X = true → s.ids X ≠ none

theorem actionDown_ne_actionUp : actionDown ≠ actionUp := by decide

omit [PointerCoords C] in
theorem down_of_changed (hwf : s.sources.WellFormed input) (hX : input.changed = some X) :
    (input.alone = actionDown → s.sources.down X = false) ∧ (input.alone = actionUp → s.sources.down X = true) := by
  cases input with
  | touchDown fingers k =>
      obtain ⟨-, f, hf, hdown, -⟩ := hwf
      obtain rfl : Source.finger f.1 = X := by simpa [Input.changed, hf] using hX
      exact ⟨fun _ => hdown, fun hup => absurd hup actionDown_ne_actionUp⟩
  | touchUp fingers k =>
      obtain ⟨f, hf⟩ : ∃ f, fingers[k]? = some f := ⟨_, List.getElem?_eq_getElem hwf.2⟩
      obtain rfl : Source.finger f.1 = X := by simpa [Input.changed, hf] using hX
      exact ⟨fun hdown => absurd hdown.symm actionDown_ne_actionUp, fun _ =>
        (hwf.1.2 f.1).mp (List.mem_map_of_mem (List.mem_of_getElem? hf))⟩
  | keyDown isLeft coordinate =>
      obtain rfl : Source.key isLeft = X := Option.some.inj hX
      exact ⟨fun _ => hwf, fun hup => absurd hup actionDown_ne_actionUp⟩
  | keyUp isLeft coordinate =>
      obtain rfl : Source.key isLeft = X := Option.some.inj hX
      exact ⟨fun hdown => absurd hdown.symm actionDown_ne_actionUp, fun _ => hwf⟩
  | touchMove fingers => cases hX
  | touchCancel fingers => cases hX

/-- What an event lists, when exactly the sources shown have pointers. -/
theorem merged_of_tracks (htracks : Tracks mid (pointerOf s input) (s.next input).sources.coords)
    (hpointers : event.pointers = pointersFrom 0 mid)
    (hshown : ∀ Y, Shown s input Y ↔ pointerOf s input Y ≠ none)
    (hconstant : ∀ Y, s.sources.down Y = true → pointerOf s input Y = s.ids Y)
    (hchanged : ∀ Y, input.changed = some Y → event.changedPointer = pointerOf s input Y ∧
      event.getActionMasked = if event.pointers.length = 1 then input.alone else input.among)
    (hunchanged : input.changed = none → event.getActionMasked = actionMove)
    (hreleased : ∀ Y, (s.next input).ids Y ≠ none ↔ (s.next input).sources.down Y = true) :
    Merged s input event := by
  refine ⟨?_, ?_, ?_, ?_, hconstant, hchanged, hunchanged, hreleased⟩
  · intro Y hY
    obtain ⟨p, hp⟩ := Option.ne_none_iff_exists'.mp ((hshown Y).mp hY)
    obtain ⟨c, hc, -⟩ := htracks.slot Y p hp
    exact ⟨p, c, hp, hc, hpointers ▸ htracks.mem_pointers.mpr ⟨Y, hp, hc⟩⟩
  · intro p c hmem
    rw [hpointers] at hmem
    obtain ⟨Y, hp, hc⟩ := htracks.mem_pointers.mp hmem
    exact ⟨Y, (hshown Y).mpr (by rw [hp]; exact Option.some_ne_none p), hp, hc⟩
  · rw [hpointers]
    exact nodup_pointersFrom 0
  · intro Y Z hY hZ heq
    obtain ⟨p, hp⟩ := Option.ne_none_iff_exists'.mp ((hshown Y).mp hY)
    exact htracks.injective Y Z p hp (heq ▸ hp)

theorem Changes.pointerOf_eq (hc : Changes s input X j mid event) (hlive : input.alone = actionUp → s.ids X = some j) :
    pointerOf s input = Function.update s.ids X (some j) := by
  funext Y
  rw [pointerOf]
  rcases input.isChange with ⟨hdown, -⟩ | ⟨hup, -⟩
  · rw [(hc.down hdown).2]
    by_cases hY : Y = X
    · rw [hY, Function.update_self]
      rfl
    · rw [Function.update_of_ne hY]
      cases s.ids Y <;> rfl
  · rw [(hc.up hup).2]
    by_cases hY : Y = X
    · rw [hY, Function.update_self, Function.update_self, hlive hup]
      rfl
    · rw [Function.update_of_ne hY, Function.update_of_ne hY]
      cases s.ids Y <;> rfl

/-- A source goes down or up among sources that all have pointers. -/
theorem Changes.merged (hc : Changes s input X j mid event) (h : Inv s) (hheld : Held s)
    (hwf : s.sources.WellFormed input) (hX : input.changed = some X) : Merged s input event := by
  have hbefore := down_of_changed hwf hX
  have hlive : input.alone = actionUp → s.ids X = some j :=
    fun hup => hc.slot.resolve_right fun hnone => hheld X (hbefore.2 hup) hnone.1
  have hpointer := hc.pointerOf_eq hlive
  have hother : ∀ Y, Y ≠ X → (s.next input).sources.down Y = s.sources.down Y ∧
      pointerOf s input Y = s.ids Y := by
    intro Y hY
    rw [next_down hX, hpointer, Function.update_of_ne hY, Function.update_of_ne hY]
    exact ⟨rfl, rfl⟩
  have hself : pointerOf s input X = some j := by rw [hpointer, Function.update_self]
  have hinv := hc.inv h hX
  apply merged_of_tracks (by rw [hpointer]; exact hc.tracks) hc.pointers
  · intro Y
    by_cases hY : Y = X
    · rw [hY, hself]
      exact ⟨fun _ => Option.some_ne_none j, fun _ => Or.inr hX⟩
    · rw [Shown, (hother Y hY).1, (hother Y hY).2, hX]
      refine ⟨?_, ?_⟩
      · rintro (hdown | hchanged)
        · exact hheld Y hdown
        · exact absurd (Option.some.inj hchanged).symm hY
      · exact fun hne => Or.inl (h.down_of_live hne)
  · intro Y hY
    by_cases hYX : Y = X
    · subst hYX
      rcases input.isChange with ⟨hdown, -⟩ | ⟨hup, -⟩
      · rw [hbefore.1 hdown] at hY
        cases hY
      · rw [hself, hlive hup]
    · exact (hother Y hYX).2
  · intro Y hY
    obtain rfl : X = Y := Option.some.inj (hX.symm.trans hY)
    exact ⟨hc.changedPointer.trans hself.symm, hc.action⟩
  · intro hnone
    rw [hX] at hnone
    cases hnone
  · intro Y
    refine ⟨hinv.down_of_live, fun hdown => ?_⟩
    by_cases hY : Y = X
    · subst hY
      rw [next_down hX, Function.update_self, decide_eq_true_iff] at hdown
      rw [(hc.down hdown).2, Function.update_self]
      exact Option.some_ne_none j
    · rw [(hother Y hY).1] at hdown
      have hids : (s.next input).ids Y = s.ids Y := by
        rcases input.isChange with ⟨hdown, -⟩ | ⟨hup, -⟩
        · rw [(hc.down hdown).2, Function.update_of_ne hY]
        · rw [(hc.up hup).2, Function.update_of_ne hY]
      rw [hids]
      exact hheld Y hdown

theorem Inv.merged_move (h : Inv s) (hheld : Held s) {fingers : List (Fin 10 × C)}
    (hwf : s.sources.WellFormed (.touchMove fingers)) :
    ∃ event, s.sent (.touchMove fingers) = some event ∧ Merged s (.touchMove fingers) event := by
  obtain ⟨mid, htracks, hsent, -, hids⟩ := h.moves hwf
  have hpointer : pointerOf s (.touchMove fingers) = s.ids := by
    funext Y
    rw [pointerOf, hids]
    cases s.ids Y <;> rfl
  have hlive : ∀ Y, s.ids Y ≠ none ↔ s.sources.down Y = true := fun Y => ⟨h.down_of_live, hheld Y⟩
  refine ⟨_, hsent, merged_of_tracks (by rw [hpointer]; exact htracks) rfl ?_ ?_ ?_ ?_ ?_⟩
  · intro Y
    rw [hpointer, hlive]
    exact or_iff_left fun hchanged => by cases hchanged
  · intro Y _
    rw [hpointer]
  · intro Y hY
    cases hY
  · intro _
    exact (by decide : actionMove &&& actionMask = actionMove)
  · rw [hids]
    exact hlive

theorem Merged.held (hmerged : Merged s input event) : Held (s.next input) :=
  fun Y hY => (hmerged.released Y).mpr hY

/-- Inputs of runs without cancels and with coordinates at every key event. -/
def Merges : Input C → Prop
  | .touchCancel _ => False
  | input => input.Mapped

theorem Inv.merged (h : Inv s) (hheld : Held s) (hwf : s.sources.WellFormed input) (hmerges : Merges input) :
    ∃ event, s.sent input = some event ∧ Merged s input event := by
  rcases h.step_cases hwf with ⟨X, j, mid, event, -, hX, hchanges⟩ | ⟨fingers, rfl⟩ | ⟨fingers, rfl⟩ | ⟨isLeft, hinput⟩
  · exact ⟨event, hchanges.sent, hchanges.merged h hheld hwf hX⟩
  · exact h.merged_move hheld hwf
  · exact hmerges.elim
  · rcases hinput with rfl | rfl <;> exact absurd rfl hmerges

omit [PointerCoords C] in
theorem keyUpMatches_of_held (h : Inv s) (hheld : Held s) (hwf : s.sources.WellFormed input)
    (hmerges : Merges input) : KeyUpMatches s input := by
  cases input with
  | keyUp isLeft coordinate => exact ⟨fun _ => (h.holds_iff _).mpr (hheld _ hwf), fun _ => hmerges⟩
  | touchDown | touchMove | touchUp | touchCancel | keyDown => exact trivial

theorem merging_next (s : State C) (input : Input C) (hinv : Inv s ∧ Held s)
    (hstep : s.sources.WellFormed input ∧ Merges input) : Inv (s.next input) ∧ Held (s.next input) := by
  obtain ⟨event, -, hmerged⟩ := hinv.1.merged hinv.2 hstep.1 hstep.2
  exact ⟨hinv.1.next hstep.1 (keyUpMatches_of_held hinv.1 hinv.2 hstep.1 hstep.2), hmerged.held⟩

/-- Every event of a run without cancels and with coordinates at every key event merges the fingers and keys
exactly. -/
theorem run_merged {inputs : List (Input C)}
    (hwf : Run State.next (fun s input => s.sources.WellFormed input) State.init inputs)
    (hmerges : ∀ input ∈ inputs, Merges input) :
    Run State.next (fun s input => ∃ event, s.sent input = some event ∧ Merged s input event) State.init inputs :=
  Run.of_inv (fun _ _ hinv hstep => hinv.1.merged hinv.2 hstep.1 hstep.2) merging_next
    ⟨Inv.init, fun _ hdown => by cases hdown⟩ (hwf.and (Run.forall_iff.mpr hmerges))

instance : PointerCoords (Int × Int) := ⟨Prod.mk, (0, 0)⟩

/-- A finger, a key pressed and released while it moves, and the finger lifted. -/
def fingerAndKey : List (Input (Int × Int)) :=
  [.touchDown [(3, (10, 20))] 0, .keyDown true (some ((100, 200), (300, 400))), .touchMove [(3, (11, 21))],
    .keyUp true (some ((100, 200), (300, 400))), .touchUp [(3, (12, 22))] 0]

theorem fingerAndKey_wellFormed :
    Run State.next (fun s input => s.sources.WellFormed input) State.init fingerAndKey := by
  refine ⟨⟨by decide, (3, (10, 20)), rfl, rfl, by decide⟩, rfl, ⟨⟨by decide, by decide⟩, by decide⟩, rfl,
    ⟨⟨by decide, by decide⟩, by decide⟩, trivial⟩

theorem run_merged_fingerAndKey :
    Run State.next (fun s input => ∃ event, s.sent input = some event ∧ Merged s input event)
      State.init fingerAndKey := by
  apply run_merged fingerAndKey_wellFormed
  simp [fingerAndKey, Merges, Input.Mapped]

/-! ### Stuck and phantom pointers -/

/-- The step sends an up only for a pointer that is down and a down only for one that is not, no pointer stays
down without its source, and once every source is released every slot is free. -/
structure Balanced (s : State C) (input : Input C) : Prop where
  up : ∀ event, s.sent input = some event → event.IsUp → ∃ X p, event.changedPointer = some p ∧ s.ids X = some p
  down : ∀ event, s.sent input = some event → event.IsDown → ∃ X p, input.changed = some X ∧
    event.changedPointer = some p ∧ s.ids X = none ∧ ∀ Y, s.ids Y ≠ some p
  ended : ∀ X, (s.next input).ids X ≠ none → (s.next input).sources.down X = true
  free : (∀ X, (s.next input).sources.down X = false) → ∀ slot ∈ (s.next input).touchList, slot.isValid = false

omit [PointerCoords C] in
theorem Inv.free (h : Inv s) (hreleased : ∀ X, s.sources.down X = false) :
    ∀ slot ∈ s.touchList, slot.isValid = false := by
  intro slot hslot
  by_contra hvalid
  obtain ⟨p, hp⟩ := List.mem_iff_getElem?.mp hslot
  obtain ⟨X, hX⟩ := h.tracks.used p slot hp (by simpa using hvalid)
  have hdown := h.down_of_live (X := X) (by rw [hX]; exact Option.some_ne_none p)
  rw [hreleased X] at hdown
  cases hdown

theorem Changes.alone_of_isDown (hc : Changes s input X j mid event) (hdown : event.IsDown) :
    input.alone = actionDown := by
  rcases input.isChange with ⟨halone, -⟩ | ⟨halone, hamong⟩
  · exact halone
  · rw [MotionEvent.IsDown, hc.action, halone, hamong] at hdown
    split_ifs at hdown <;> exact absurd hdown (by decide)

theorem Changes.alone_of_isUp (hc : Changes s input X j mid event) (hup : event.IsUp) :
    input.alone = actionUp := by
  rcases input.isChange with ⟨halone, hamong⟩ | ⟨halone, -⟩
  · rw [MotionEvent.IsUp, hc.action, halone, hamong] at hup
    split_ifs at hup <;> exact absurd hup (by decide)
  · exact halone

omit [PointerCoords C] in
theorem not_isDown_of_unchanged (pointers : List (Nat × C)) {action : BitVec 32}
    (haction : action = actionMove ∨ action = actionCancel) :
    ¬(⟨action, pointers⟩ : MotionEvent C).IsDown ∧ ¬(⟨action, pointers⟩ : MotionEvent C).IsUp := by
  have hmasked : ∀ a, a = actionMove ∨ a = actionCancel →
      ¬(a &&& actionMask = actionDown ∨ a &&& actionMask = actionPointerDown) ∧
        ¬(a &&& actionMask = actionUp ∨ a &&& actionMask = actionPointerUp) := by
    rintro a (rfl | rfl) <;> decide
  exact hmasked action haction

/-- An event with a down or an up comes from a source that changed. -/
theorem Inv.changes_of_sent (h : Inv s) (hwf : s.sources.WellFormed input) (hsent : s.sent input = some event)
    (haction : event.IsDown ∨ event.IsUp) :
    ∃ X j mid, input.Mapped ∧ input.changed = some X ∧ Changes s input X j mid event := by
  rcases h.step_cases hwf with ⟨X, j, mid, event', hmapped, hX, hc⟩ | ⟨fingers, rfl⟩ | ⟨fingers, rfl⟩ | ⟨isLeft, hinput⟩
  · obtain rfl : event' = event := Option.some.inj (hc.sent.symm.trans hsent)
    exact ⟨X, j, mid, hmapped, hX, hc⟩
  · obtain ⟨mid, -, hmove, -, -⟩ := h.moves hwf
    obtain rfl := Option.some.inj (hmove.symm.trans hsent)
    have hnot := not_isDown_of_unchanged (pointersFrom 0 mid) (Or.inl rfl)
    exact absurd haction (not_or.mpr hnot)
  · obtain ⟨mid, -, hcancel, -, -⟩ := h.cancels hwf
    obtain rfl := Option.some.inj (hcancel.symm.trans hsent)
    have hnot := not_isDown_of_unchanged (pointersFrom 0 mid) (Or.inr rfl)
    exact absurd haction (not_or.mpr hnot)
  · rw [(unmapped_key s input isLeft hinput).1] at hsent
    cases hsent

omit [PointerCoords C] in
theorem Inv.live_before_up (h : Inv s) (hwf : s.sources.WellFormed input) (hmatches : KeyUpMatches s input)
    (hmapped : input.Mapped) (hX : input.changed = some X) (hup : input.alone = actionUp) : s.ids X ≠ none := by
  have hdown := (down_of_changed hwf hX).2 hup
  cases X with
  | finger id => exact (h.finger id).mpr hdown
  | key isLeft =>
      cases input with
      | keyUp isLeft' coordinate =>
          obtain rfl : isLeft' = isLeft := Source.key.inj (Option.some.inj hX)
          exact (h.holds_iff _).mp (hmatches.mp hmapped)
      | touchUp fingers k =>
          rw [Input.changed, Option.map_eq_some_iff] at hX
          obtain ⟨f, -, hf⟩ := hX
          cases hf
      | touchDown | keyDown => exact absurd hup actionDown_ne_actionUp
      | touchMove | touchCancel => cases hX

theorem Inv.balanced (h : Inv s) (hwf : s.sources.WellFormed input) (hmatches : KeyUpMatches s input) :
    Balanced s input := by
  have hnext := h.next hwf hmatches
  refine ⟨?_, ?_, fun X hX => hnext.down_of_live hX, hnext.free⟩
  · intro event hsent hup
    obtain ⟨X, j, mid, hmapped, hX, hc⟩ := h.changes_of_sent hwf hsent (Or.inr hup)
    have hlive := h.live_before_up hwf hmatches hmapped hX (hc.alone_of_isUp hup)
    exact ⟨X, j, hc.changedPointer, hc.slot.resolve_right fun hnone => hlive hnone.1⟩
  · intro event hsent hdown
    obtain ⟨X, j, mid, hmapped, hX, hc⟩ := h.changes_of_sent hwf hsent (Or.inl hdown)
    have hbefore := (down_of_changed hwf hX).1 (hc.alone_of_isDown hdown)
    have hnone : s.ids X = none := by
      by_contra hlive
      rw [h.down_of_live hlive] at hbefore
      cases hbefore
    refine ⟨X, j, hX, hc.changedPointer, hnone, (hc.slot.resolve_left ?_).2⟩
    rw [hnone]
    exact (Option.some_ne_none j).symm

/-- A key that goes up with coordinates but no pointer sends a phantom up; without coordinates but with a
pointer it leaves the pointer stuck. -/
theorem Inv.matches_of_balanced (h : Inv s) (hwf : s.sources.WellFormed input) (hbalanced : Balanced s input) :
    KeyUpMatches s input := by
  cases input with
  | touchDown | touchMove | touchUp | touchCancel | keyDown => exact trivial
  | keyUp isLeft coordinate =>
      refine ⟨fun hmapped => ?_, fun hslot => ?_⟩
      · rw [h.holds_iff]
        intro hnone
        obtain ⟨j, mid, event, hc⟩ := h.changes hwf hmapped rfl
        have hup : event.IsUp := by
          rw [MotionEvent.IsUp, hc.action]
          split_ifs
          · exact Or.inl rfl
          · exact Or.inr rfl
        obtain ⟨X, p, hp, hX⟩ := hbalanced.up event hc.sent hup
        obtain rfl : j = p := Option.some.inj (hc.changedPointer.symm.trans hp)
        rcases hc.slot with hslot | ⟨-, hfree⟩
        · rw [hnone] at hslot
          cases hslot
        · exact hfree X hX
      · intro heq
        subst heq
        rw [h.holds_iff] at hslot
        obtain ⟨-, -, hids, -⟩ := unmapped_key s (.keyUp isLeft none) isLeft (Or.inr rfl)
        have hdown := hbalanced.ended (.key isLeft) (hids ▸ hslot)
        have hX : (Input.keyUp isLeft none : Input C).changed = some (.key isLeft) := rfl
        rw [next_down hX, Function.update_self, decide_eq_true_iff] at hdown
        exact actionDown_ne_actionUp hdown.symm

/-- A run has no stuck and no phantom pointer if and only if whenever a key goes up it has coordinates exactly
if a slot holds it. -/
theorem run_balanced_iff {inputs : List (Input C)}
    (hwf : Run State.next (fun s input => s.sources.WellFormed input) State.init inputs) :
    Run State.next Balanced State.init inputs ↔ Run State.next KeyUpMatches State.init inputs :=
  Run.iff_of_inv (fun _ _ hinv hwf => ⟨hinv.matches_of_balanced hwf, hinv.balanced hwf⟩)
    (fun _ _ hinv hwf hmatches => hinv.next hwf hmatches) Inv.init hwf

theorem run_balanced_iff_fingerAndKey :
    Run State.next Balanced State.init fingerAndKey ↔ Run State.next KeyUpMatches State.init fingerAndKey :=
  run_balanced_iff fingerAndKey_wellFormed

/-- A key pressed over an app that maps it and released over one that does not. -/
def keyAcrossApps : List (Input (Int × Int)) := [.keyDown true (some ((100, 200), (300, 400))), .keyUp true none]

/-- Its slot stays in use with every source released. -/
theorem keyAcrossApps_stuck : Run State.next (fun s input => s.sources.WellFormed input) State.init keyAcrossApps ∧
    ¬ Run State.next Balanced State.init keyAcrossApps := by
  refine ⟨⟨rfl, rfl, trivial⟩, fun hrun => ?_⟩
  obtain ⟨-, hbalanced, -⟩ := hrun
  have hreleased := hbalanced.free (by decide)
  revert hreleased
  decide

end Penrose.ShoulderKey

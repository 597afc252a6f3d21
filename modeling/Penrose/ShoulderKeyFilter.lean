import Mathlib.Data.Fintype.Sum
import Mathlib.Tactic.DeriveFintype
import Penrose.ShoulderKeyTable

/-! `ShoulderKeyInputFiltrer` as a step on its slot table, and next to it what its surroundings know: which
fingers and keys are down, with which coordinates, and which pointers are down in the stream it has sent. -/

namespace Penrose.ShoulderKey

/-! ### Motion events -/

@[reducible] def actionDown : BitVec 32 := 0
@[reducible] def actionUp : BitVec 32 := 1
@[reducible] def actionMove : BitVec 32 := 2
@[reducible] def actionCancel : BitVec 32 := 3
@[reducible] def actionPointerDown : BitVec 32 := 5
@[reducible] def actionPointerUp : BitVec 32 := 6
@[reducible] def actionHoverExit : BitVec 32 := 10
@[reducible] def actionMask : BitVec 32 := 0xff
@[reducible] def actionPointerIndexMask : BitVec 32 := 0xff00
@[reducible] def actionPointerIndexShift : Nat := 8

/-- `MotionEvent`: the action, and the id and coordinates of each pointer. -/
structure MotionEvent (C : Type) where
  action : BitVec 32
  pointers : List (Nat × C)

variable {C : Type}

namespace MotionEvent

def getActionMasked (event : MotionEvent C) : BitVec 32 := event.action &&& actionMask

def getActionIndex (event : MotionEvent C) : Nat :=
  ((event.action &&& actionPointerIndexMask) >>> actionPointerIndexShift).toNat

/-- The pointer that the action index designates. -/
def changedPointer (event : MotionEvent C) : Option Nat := event.pointers[event.getActionIndex]?.map Prod.fst

end MotionEvent

/-! ### The filter -/

section Filter

variable [PointerCoords C]

/-- `buildMotionEvent`: the table and the event, if there is one. -/
def buildMotionEvent (list : List (Pos C)) (actionIndex : Int) (action : BitVec 32) :
    List (Pos C) × Option (MotionEvent C) :=
  let pointers := pointersFrom 0 list
  let list := if action = actionUp ∨ action = actionPointerUp then removeTouch list actionIndex else list
  let list := if action = actionCancel ∨ action = actionHoverExit then resetTouch list else list
  if pointers.length ≠ 0 then
    let action :=
      if ¬(pointers.length ≤ 1 ∨ action = actionMove ∨ action = actionCancel) then
        let action :=
          if action = actionDown then actionPointerDown
          else if action = actionUp then actionPointerUp
          else action
        action ||| BitVec.ofInt 32 actionIndex <<< actionPointerIndexShift
      else action
    (list, some ⟨action, pointers⟩)
  else (list, none)

/-- What the filter reads of a `KeyEvent`. -/
structure KeyEvent where
  productId : Int
  vendorId : Int
  keyCode : Int
  action : BitVec 32

def bsShoulderkeyId : Int := 1
def leftKeyCode : Int := 131
def rightKeyCode : Int := 132
def leftTouchId : Int := 11

/-- The two rows of an `int[][]` of coordinates: left and right. -/
abbrev Coordinates := (Int × Int) × (Int × Int)

/-- The slot contents that `processShoulderKeyEvent` makes for a key. -/
def keyPos (isLeft : Bool) (coordinate : Coordinates) : Pos C :=
  if isLeft then ⟨leftTouchId, PointerCoords.ofXY coordinate.1.1 coordinate.1.2⟩
  else ⟨leftTouchId + 1, PointerCoords.ofXY coordinate.2.1 coordinate.2.2⟩

/-- `processShoulderKeyEvent`; `coordinate` is what `loadCoordinateByTaskPackage` returns. Without an event
the key event itself is passed on. -/
def processShoulderKeyEvent (list : List (Pos C)) (event : KeyEvent) (coordinate : Option Coordinates) :
    List (Pos C) × Option (MotionEvent C) :=
  if ¬(event.productId = bsShoulderkeyId ∧ event.vendorId = bsShoulderkeyId) then (list, none)
  else if ¬(event.keyCode = leftKeyCode ∨ event.keyCode = rightKeyCode) then (list, none)
  else if event.action = actionDown ∨ event.action = actionUp then
    match coordinate with
    | none => (list, none)
    | some coordinate =>
        let (list, actionIndex) := insertTouch list (keyPos (event.keyCode = leftKeyCode) coordinate)
        buildMotionEvent list actionIndex event.action
  else (list, none)

/-- The loop of `processTouchScreenEvent` from pointer `i` on. -/
def touchLoop (eventIndex : Nat) :
    Nat → List (Nat × C) → List (Pos C) × Int → List (Pos C) × Int
  | _, [], r => r
  | i, (id, coords) :: rest, (list, actionIndex) =>
      let (list, index) := insertTouch list ⟨id + 1, coords⟩
      touchLoop eventIndex (i + 1) rest (list, if i = eventIndex then index else actionIndex)

/-- `processTouchScreenEvent`. -/
def processTouchScreenEvent (list : List (Pos C)) (event : MotionEvent C) :
    List (Pos C) × Option (MotionEvent C) :=
  let (list, actionIndex) := touchLoop event.getActionIndex 0 event.pointers (list, invalidPointerId)
  buildMotionEvent list actionIndex (event.action &&& actionMask)

end Filter

/-! ### The inputs -/

/-- What can be down: a finger, by the id of its pointer, or a shoulder key. -/
inductive Source where
  | finger (id : Fin 10)
  | key (isLeft : Bool)
  deriving DecidableEq, Fintype

/-- The touch id under which the filter keeps a source. -/
def Source.touchId : Source → Int
  | .finger id => id.val + 1
  | .key isLeft => if isLeft then leftTouchId else leftTouchId + 1

/-- One input event. A touchscreen event lists every finger that is down with its coordinates, also the
one that goes up; `k` is the place of the finger that goes down or up. -/
inductive Input (C : Type) where
  | touchDown (fingers : List (Fin 10 × C)) (k : Nat)
  | touchMove (fingers : List (Fin 10 × C))
  | touchUp (fingers : List (Fin 10 × C)) (k : Nat)
  | touchCancel (fingers : List (Fin 10 × C))
  | keyDown (isLeft : Bool) (coordinate : Option Coordinates)
  | keyUp (isLeft : Bool) (coordinate : Option Coordinates)

/-- The pointers of a touchscreen event. -/
def touchPointers (fingers : List (Fin 10 × C)) : List (Nat × C) := fingers.map fun f => (f.1.val, f.2)

/-- The action of a finger that goes down or up, which is another one among other fingers. -/
def touchAction (alone among : BitVec 32) (fingers : List (Fin 10 × C)) (k : Nat) : BitVec 32 :=
  if fingers.length ≤ 1 then alone else among ||| BitVec.ofNat 32 k <<< actionPointerIndexShift

def shoulderKeyEvent (isLeft : Bool) (action : BitVec 32) : KeyEvent :=
  ⟨bsShoulderkeyId, bsShoulderkeyId, if isLeft then leftKeyCode else rightKeyCode, action⟩

namespace Input

/-- The finger or key that goes down or up. -/
def changed : Input C → Option Source
  | touchDown fingers k | touchUp fingers k => fingers[k]?.map fun f => .finger f.1
  | keyDown isLeft _ | keyUp isLeft _ => some (.key isLeft)
  | touchMove _ | touchCancel _ => none

/-- What the filter makes of an input. -/
def process [PointerCoords C] (list : List (Pos C)) : Input C → List (Pos C) × Option (MotionEvent C)
  | touchDown fingers k =>
      processTouchScreenEvent list ⟨touchAction actionDown actionPointerDown fingers k, touchPointers fingers⟩
  | touchMove fingers => processTouchScreenEvent list ⟨actionMove, touchPointers fingers⟩
  | touchUp fingers k =>
      processTouchScreenEvent list ⟨touchAction actionUp actionPointerUp fingers k, touchPointers fingers⟩
  | touchCancel fingers => processTouchScreenEvent list ⟨actionCancel, touchPointers fingers⟩
  | keyDown isLeft coordinate => processShoulderKeyEvent list (shoulderKeyEvent isLeft actionDown) coordinate
  | keyUp isLeft coordinate => processShoulderKeyEvent list (shoulderKeyEvent isLeft actionUp) coordinate

end Input

/-! ### What the surroundings know -/

/-- Which sources are down, and the latest coordinates of each one. -/
structure Sources (C : Type) where
  down : Source → Bool
  coords : Source → Option C

namespace Sources

def touched (coords : Source → Option C) (fingers : List (Fin 10 × C)) : Source → Option C :=
  fingers.foldl (fun coords f => Function.update coords (.finger f.1) (some f.2)) coords

def mapped [PointerCoords C] (coords : Source → Option C) (isLeft : Bool) (coordinate : Option Coordinates) :
    Source → Option C :=
  match coordinate with
  | none => coords
  | some coordinate =>
      let pos : Pos C := keyPos isLeft coordinate
      Function.update coords (.key isLeft) (some pos.pointerCoords)

/-- A source that goes down or up. -/
def set (down : Source → Bool) (changed : Option Source) (value : Bool) : Source → Bool :=
  match changed with
  | none => down
  | some X => Function.update down X value

def next [PointerCoords C] (s : Sources C) (input : Input C) : Sources C :=
  match input with
  | .touchDown fingers _ => ⟨set s.down input.changed true, touched s.coords fingers⟩
  | .touchMove fingers => ⟨s.down, touched s.coords fingers⟩
  | .touchUp fingers _ => ⟨set s.down input.changed false, touched s.coords fingers⟩
  | .touchCancel fingers =>
      ⟨fun X => match X with | .finger _ => false | .key isLeft => s.down (.key isLeft), touched s.coords fingers⟩
  | .keyDown isLeft coordinate => ⟨set s.down input.changed true, mapped s.coords isLeft coordinate⟩
  | .keyUp isLeft coordinate => ⟨set s.down input.changed false, mapped s.coords isLeft coordinate⟩

/-- The fingers are exactly those that are down. -/
def Lists (s : Sources C) (fingers : List (Fin 10 × C)) : Prop :=
  (fingers.map Prod.fst).Nodup ∧ ∀ id, id ∈ fingers.map Prod.fst ↔ s.down (.finger id) = true

/-- The input continues well-formed gestures and alternating keys. -/
def WellFormed (s : Sources C) : Input C → Prop
  | .touchDown fingers k =>
      (fingers.map Prod.fst).Nodup ∧ ∃ f, fingers[k]? = some f ∧ s.down (.finger f.1) = false ∧
        ∀ id, id ≠ f.1 → (id ∈ fingers.map Prod.fst ↔ s.down (.finger id) = true)
  | .touchMove fingers | .touchCancel fingers => s.Lists fingers ∧ fingers ≠ []
  | .touchUp fingers k => s.Lists fingers ∧ k < fingers.length
  | .keyDown isLeft _ => s.down (.key isLeft) = false
  | .keyUp isLeft _ => s.down (.key isLeft) = true

end Sources

/-- The pointers that are down in the stream of sent events, each under the source whose input sent its
down. -/
def nextIds (ids : Source → Option Nat) (input : Input C) (sent : Option (MotionEvent C)) : Source → Option Nat :=
  match sent with
  | none => ids
  | some event =>
      let action := event.getActionMasked
      if action = actionDown ∨ action = actionPointerDown then
        match input.changed with
        | none => ids
        | some X => Function.update ids X event.changedPointer
      else if action = actionUp ∨ action = actionPointerUp then
        fun X => if ids X = event.changedPointer then none else ids X
      else if action = actionCancel then fun _ => none
      else ids

/-! ### Runs -/

structure State (C : Type) where
  touchList : List (Pos C)
  sources : Sources C
  ids : Source → Option Nat

section Runs

variable [PointerCoords C]

def State.init : State C where
  touchList := List.replicate maxPointerCount ⟨invalidPointerId, PointerCoords.cleared⟩
  sources := ⟨fun _ => false, fun _ => none⟩
  ids _ := none

/-- The event sent for an input. -/
def State.sent (s : State C) (input : Input C) : Option (MotionEvent C) := (input.process s.touchList).2

def State.next (s : State C) (input : Input C) : State C where
  touchList := (input.process s.touchList).1
  sources := s.sources.next input
  ids := nextIds s.ids input (s.sent input)

end Runs

end Penrose.ShoulderKey

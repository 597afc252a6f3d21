import Mathlib.Data.List.Perm.Basic
import Penrose.Ledgers
import Penrose.PowerHintList
import Penrose.Runs

/-! The hints that are active, each with the lock that was acquired for it. The list owns these locks: the others have
been released. -/

namespace Penrose.Power

open scoped List

/-- What `perform_hint_action` is called for, the handle that `perf_lock_acq` returns, and where the data of the hint
and its node are allocated, if they are. -/
structure HintAction where
  hintId : BitVec 32
  lockHandle : BitVec 32
  hintData : Option Nat
  listNode : Option Nat

/-- The memory, and the locks that were acquired and released so far. -/
structure HintState where
  memory : Memory
  acquired : List (BitVec 32)
  released : List (BitVec 32)

/-- The head of the list gets the function for comparing, unless it has one. -/
def Memory.setCompare (memory : Memory) : Option Memory := do
  let head ← memory.node .activeHintListHead
  if head.compare.isNone then
    some (memory.set .activeHintListHead (.node { head with compare := some .hintCompare }))
  else some memory

namespace HintState

/-- The head of the list is a static variable. -/
def init : HintState :=
  ⟨fun a => if a = .activeHintListHead then some (.node ⟨none, none, none⟩) else none, [], []⟩

def perfLockRel (s : HintState) (lockHandle : BitVec 32) : HintState :=
  { s with released := s.released ++ [lockHandle] }

/-- `perform_hint_action` with the perf library loaded. -/
def performHintAction (s : HintState) (action : HintAction) : Option HintState :=
  if action.lockHandle = -1 then some s
  else
    let s := { s with acquired := s.acquired ++ [action.lockHandle] }
    match action.hintData with
    | none => some (s.perfLockRel action.lockHandle)
    | some newHint => do
      let memory ← s.memory.setCompare
      let memory := memory.set (.heap newHint)
        (.hint ⟨action.hintId.signExtend 64, action.lockHandle.signExtend 64⟩)
      let (memory, newNode) ← memory.addListNode .activeHintListHead (some (.heap newHint)) action.listNode
      if newNode.isNone then do
        let memory ← memory.free (.heap newHint)
        some ({ s with memory := memory }.perfLockRel action.lockHandle)
      else some { s with memory := memory }

/-- `undo_hint_action` with the perf library loaded. -/
def undoHintAction (fuel : Nat) (s : HintState) (hintId : BitVec 32) : Option HintState := do
  let tempHintData : HintData := ⟨hintId.signExtend 64, 0⟩
  match ← (s.memory.set .tempHintData (.hint tempHintData)).findNode (some .tempHintData) fuel .activeHintListHead with
  | none => some s
  | some foundNode => do
    let found ← s.memory.node foundNode
    let s ← match found.data with
      | none => some s
      | some foundHintData => do
        let hint ← s.memory.hint foundHintData
        let s := s.perfLockRel (hint.perflockHandle.setWidth 32)
        let memory ← s.memory.free foundHintData
        some { s with memory := memory }
    let (memory, _) ← s.memory.removeListNode fuel .activeHintListHead foundNode
    some { s with memory := memory }

end HintState

/-- A call for a hint. -/
inductive HintRequest where
  | perform (action : HintAction)
  | undo (hintId : BitVec 32)

namespace HintRequest

/-- The state after a call; none if memory that is not there was read or freed, or the fuel was used up. -/
def next (fuel : Nat) (s : Option HintState) : HintRequest → Option HintState
  | perform action => s.bind fun s => s.performHintAction action
  | undo hintId => s.bind fun s => s.undoHintAction fuel hintId

end HintRequest

/-! ### What the calls do to the hints -/

/-- The hint that becomes active, if the lock is acquired and everything is allocated. -/
def HintAction.added (action : HintAction) : Option ActiveHint :=
  if action.lockHandle = -1 then none
  else do
    let data ← action.hintData
    let node ← action.listNode
    some ⟨node, data, action.hintId, action.lockHandle⟩

theorem HintAction.hintId_of_added {action : HintAction} {hint : ActiveHint} (h : action.added = some hint) :
    hint.hintId = action.hintId := by
  rw [added] at h
  split at h
  · cases h
  · simp only [Option.bind_eq_bind, Option.bind_eq_some_iff, Option.some_inj] at h
    obtain ⟨data, -, node, -, rfl⟩ := h
    rfl

/-- Memory is allocated where nothing is. -/
def HintAction.Fresh (action : HintAction) (memory : Memory) : Prop :=
  (∀ data, action.hintData = some data → memory (.heap data) = none) ∧
    ∀ node, action.listNode = some node → memory (.heap node) = none ∧ action.hintData ≠ some node

namespace HintRequest

def apply (hints : List ActiveHint) : HintRequest → List ActiveHint
  | perform action => action.added.toList ++ hints
  | undo hintId => hints.eraseP fun hint => hint.hintId = hintId

def Fresh (s : Option HintState) : HintRequest → Prop
  | perform action => ∀ state, s = some state → action.Fresh state.memory
  | undo _ => True

end HintRequest

theorem Memory.Represents.setCompare_eq {memory : Memory} {hints : List ActiveHint} (h : memory.Represents hints) :
    ∃ memory' head, memory.setCompare = some memory' ∧ memory'.node .activeHintListHead = some head ∧
      head.compare = some .hintCompare ∧ memory'.Represents hints ∧ ∀ n, memory' (.heap n) = memory (.heap n) := by
  obtain ⟨head, hhead⟩ := h.exists_node List.mem_cons_self
  cases hcompare : head.compare with
  | none =>
      refine ⟨_, _, by simp [Memory.setCompare, hhead, hcompare], Memory.node_set _ _ _, rfl,
        h.set_compare hhead (some .hintCompare), ?_⟩
      intro n
      rw [Memory.set_of_ne (by simp)]
  | some compare =>
      have hset : memory.setCompare = some memory := by simp [Memory.setCompare, hhead, hcompare]
      exact ⟨memory, head, hset, hhead, hcompare, h, fun _ => rfl⟩

namespace HintState

variable {s : HintState} {hints : List ActiveHint}

/-- The lock is acquired, and the list has it or it is released. -/
theorem performHintAction_eq (h : s.memory.Represents hints) {action : HintAction} (hfresh : action.Fresh s.memory) :
    ∃ s' taken given, s.performHintAction action = some s' ∧ s'.memory.Represents (action.added.toList ++ hints) ∧
      s'.acquired = s.acquired ++ taken ∧ s'.released = s.released ++ given ∧
        taken = given ++ action.added.toList.map (·.perflockHandle) := by
  rw [performHintAction, HintAction.added]
  by_cases hfailed : action.lockHandle = -1
  · rw [if_pos hfailed, if_pos hfailed]
    exact ⟨s, [], [], rfl, h, (List.append_nil _).symm, (List.append_nil _).symm, rfl⟩
  rw [if_neg hfailed, if_neg hfailed]
  cases hdata : action.hintData with
  | none => exact ⟨_, [action.lockHandle], [action.lockHandle], rfl, h, rfl, rfl, rfl⟩
  | some newHint =>
      obtain ⟨memory, head, hset, hhead, hcompare, hrep, hheap⟩ := h.setCompare_eq
      have hdead : memory (.heap newHint) = none := (hheap newHint).trans (hfresh.1 newHint hdata)
      let hint : HintData := ⟨action.hintId.signExtend 64, action.lockHandle.signExtend 64⟩
      have hnewRep := hrep.set_dead hdead (.hint hint)
      cases hnode : action.listNode with
      | none =>
          have hfree : (memory.set (.heap newHint) (.hint hint)).free (.heap newHint) =
              some ((memory.set (.heap newHint) (.hint hint)).clear (.heap newHint)) := by
            simp [Memory.free, Memory.set]
          refine ⟨⟨(memory.set (.heap newHint) (.hint hint)).clear (.heap newHint),
            s.acquired ++ [action.lockHandle], s.released ++ [action.lockHandle]⟩, [action.lockHandle],
            [action.lockHandle], ?_, ?_, rfl, rfl, rfl⟩
          · simp [hset, Memory.addListNode, hint, hfree, perfLockRel]
          · apply hrep.frame hdead
            intro b hne
            calc ((memory.set (.heap newHint) (.hint hint)).clear (.heap newHint)) b
                = (memory.set (.heap newHint) (.hint hint)) b := Memory.clear_of_ne hne
              _ = memory b := Memory.set_of_ne hne _
      | some newNode =>
          let added : ActiveHint := ⟨newNode, newHint, action.hintId, action.lockHandle⟩
          obtain ⟨hfresh, hne⟩ := hfresh.2 newNode hnode
          have hnew (other : ActiveHint) (hother : other ∈ hints) : other.data ≠ newHint := by
            intro heq
            exact Memory.hint_ne_of_dead hdead (hrep.holds other hother).2 (congrArg Address.heap heq)
          have hfree : Address.heap newNode ≠ .heap newHint := by
            intro heq
            exact hne (hdata.trans (congrArg some (Address.heap.inj heq).symm))
          obtain ⟨memory', hadd, hrep'⟩ := @Memory.Represents.add _ _ added hnewRep _
            (by rw [Memory.node_set_of_ne (by simp), hhead]) hcompare (Memory.hint_set _ _ _) hnew
            (by rw [Memory.set_of_ne hfree, hheap, hfresh])
          refine ⟨⟨memory', s.acquired ++ [action.lockHandle], s.released⟩, [action.lockHandle], [], ?_, hrep', rfl,
            (List.append_nil _).symm, rfl⟩
          have hadd' : (memory.set (.heap newHint) (.hint ⟨action.hintId.signExtend 64,
              action.lockHandle.signExtend 64⟩)).addListNode .activeHintListHead (some (.heap newHint)) (some newNode) =
                some (memory', some (.heap newNode)) := hadd
          simp [hset, hadd']

/-- The first hint that is found is the one that is erased. -/
theorem eraseP_of_find? {p : ActiveHint → Bool} {hint : ActiveHint} (hfound : hints.find? p = some hint) :
    p hint = true ∧ ∃ before after, hints = before ++ hint :: after ∧ hints.eraseP p = before ++ after := by
  obtain ⟨hhint, before, after, rfl, hbefore⟩ := List.find?_eq_some_iff_append.mp hfound
  have hnot (other : ActiveHint) (hother : other ∈ before) : ¬ p other = true := by simpa using hbefore other hother
  refine ⟨hhint, before, after, rfl, ?_⟩
  rw [List.eraseP_append_right _ hnot, List.eraseP_cons_of_pos hhint]

/-- The first hint with the id is removed and its lock released. -/
theorem undoHintAction_eq (h : s.memory.Represents hints) {fuel : Nat} (hfuel : hints.length < fuel)
    (hintId : BitVec 32) :
    ∃ s', s.undoHintAction fuel hintId = some s' ∧
      s'.memory.Represents (hints.eraseP fun hint => hint.hintId = hintId) ∧ s'.acquired = s.acquired ∧
        s'.released = s.released ++ ((hints.find? fun hint => hint.hintId = hintId).map (·.perflockHandle)).toList ∧
          ((∀ hint ∈ hints, hint.hintId ≠ hintId) → s' = s) := by
  have hfind : (s.memory.set .tempHintData (.hint ⟨hintId.signExtend 64, 0⟩)).findNode (some .tempHintData) fuel
      .activeHintListHead =
        some ((hints.find? fun hint => hint.hintId = hintId).map fun hint => .heap hint.node) := by
    refine Memory.findNode_eq (h.chain.congr ?_) ?_ (Memory.hint_set _ _ _) hfuel
    · intro b hb
      apply Memory.link_congr
      apply Memory.node_set_of_ne
      intro heq
      rw [heq] at hb
      simp [nodeAddresses] at hb
    · intro hint hmem
      exact (h.holds hint hmem).congr (Memory.node_set_of_ne (by simp) _) (Memory.hint_set_of_ne (by simp) _)
  rw [undoHintAction]
  simp only [hfind]
  cases hfound : hints.find? fun hint => hint.hintId = hintId with
  | none =>
      have hnone := List.find?_eq_none.mp hfound
      refine ⟨s, rfl, ?_, rfl, (List.append_nil _).symm, fun _ => rfl⟩
      rw [List.eraseP_of_forall_not hnone]
      exact h
  | some hint =>
      obtain ⟨hid, before, after, rfl, herase⟩ := eraseP_of_find? hfound
      have hlen : before.length < fuel := by
        rw [List.length_append] at hfuel
        omega
      obtain ⟨⟨next, hnode⟩, hdata⟩ := h.holds hint (by simp)
      obtain ⟨memory, hremove, hrep⟩ := h.remove hlen
      have hfree : s.memory.free (.heap hint.data) = some (s.memory.clear (.heap hint.data)) := by
        rw [Memory.free, if_pos (Memory.isSome_of_hint hdata)]
      have hhandle := setWidth_signExtend (v := 64) (by decide) hint.perflockHandle
      refine ⟨⟨memory, s.acquired, s.released ++ [hint.perflockHandle]⟩, ?_, ?_, rfl, rfl, ?_⟩
      · simp [hnode, hdata, hfree, hremove, perfLockRel, hhandle]
      · rw [herase]
        exact hrep
      · intro hnone
        exact absurd (of_decide_eq_true hid) (hnone hint (by simp))

/-! ### Runs -/

/-- The memory has the hints, and the locks that are not released are theirs. -/
structure Owns (s : HintState) (hints : List ActiveHint) : Prop where
  represents : s.memory.Represents hints
  locks : s.acquired ~ s.released ++ hints.map (·.perflockHandle)

theorem init_owns : init.Owns [] := by
  refine ⟨⟨rfl, ?_, List.nodup_nil⟩, List.Perm.refl _⟩
  intro hint hmem
  cases hmem

/-- A lock that a hint loses is released. -/
theorem perm_eraseP (hints : List ActiveHint) (p : ActiveHint → Bool) :
    hints.map (·.perflockHandle) ~
      ((hints.find? p).map (·.perflockHandle)).toList ++ (hints.eraseP p).map (·.perflockHandle) := by
  cases hfound : hints.find? p with
  | none =>
      rw [List.eraseP_of_forall_not (List.find?_eq_none.mp hfound)]
      rfl
  | some hint =>
      obtain ⟨-, before, after, rfl, herase⟩ := eraseP_of_find? hfound
      rw [herase, List.map_append, List.map_cons, List.map_append]
      exact List.perm_middle

theorem Owns.perform (h : s.Owns hints) {action : HintAction} (hfresh : action.Fresh s.memory) :
    ∃ s', s.performHintAction action = some s' ∧ s'.Owns (action.added.toList ++ hints) := by
  obtain ⟨s', taken, given, hs', hrep, hacquired, hreleased, htaken⟩ := performHintAction_eq h.represents hfresh
  have hstep : Balanced taken given (hints.map (·.perflockHandle))
      ((action.added.toList ++ hints).map (·.perflockHandle)) := by
    rw [Balanced, htaken, List.append_assoc, List.map_append]
  refine ⟨s', hs', hrep, ?_⟩
  rw [hacquired, hreleased, ← Balanced.nil_iff]
  exact (Balanced.nil_iff.mpr h.locks).trans hstep

theorem Owns.undo (h : s.Owns hints) {fuel : Nat} (hfuel : hints.length < fuel) (hintId : BitVec 32) :
    ∃ s', s.undoHintAction fuel hintId = some s' ∧ s'.Owns (hints.eraseP fun hint => hint.hintId = hintId) ∧
      s'.acquired = s.acquired ∧
        s'.released = s.released ++ ((hints.find? fun hint => hint.hintId = hintId).map (·.perflockHandle)).toList ∧
          ((∀ hint ∈ hints, hint.hintId ≠ hintId) → s' = s) := by
  obtain ⟨s', hs', hrep, hacquired, hreleased, habsent⟩ := undoHintAction_eq h.represents hfuel hintId
  refine ⟨s', hs', ⟨hrep, ?_⟩, hacquired, hreleased, habsent⟩
  have hstep : Balanced [] _ (hints.map (·.perflockHandle)) _ := perm_eraseP hints fun hint => hint.hintId = hintId
  rw [hacquired, hreleased, ← Balanced.nil_iff]
  have hrun := (Balanced.nil_iff.mpr h.locks).trans hstep
  rwa [List.append_nil] at hrun

theorem Owns.next (h : s.Owns hints) {fuel : Nat} (hfuel : hints.length < fuel) {request : HintRequest}
    (hfresh : request.Fresh (some s)) :
    ∃ s', request.next fuel (some s) = some s' ∧ s'.Owns (request.apply hints) := by
  cases request with
  | perform action => exact h.perform (hfresh s rfl)
  | undo hintId =>
      obtain ⟨s', hs', howns, -⟩ := h.undo hfuel hintId
      exact ⟨s', hs', howns⟩

/-- A call makes at most one hint active. -/
theorem length_apply (hints : List ActiveHint) (request : HintRequest) :
    (request.apply hints).length ≤ hints.length + 1 := by
  cases request with
  | perform action =>
      rw [HintRequest.apply, List.length_append, Nat.add_comm]
      exact Nat.add_le_add_left (Option.length_toList_le) _
  | undo hintId => exact Nat.le_succ_of_le (List.length_eraseP_le)

theorem Owns.run (h : s.Owns hints) {fuel : Nat} {requests : List HintRequest}
    (hfuel : hints.length + requests.length < fuel)
    (hfresh : Run (HintRequest.next fuel) HintRequest.Fresh (some s) requests) :
    ∃ s', requests.foldl (HintRequest.next fuel) (some s) = some s' ∧
      s'.Owns (requests.foldl HintRequest.apply hints) ∧
        (requests.foldl HintRequest.apply hints).length ≤ hints.length + requests.length := by
  induction requests generalizing s hints with
  | nil => exact ⟨s, rfl, h, Nat.le_refl _⟩
  | cons request requests ih =>
      rw [List.length_cons] at hfuel ⊢
      have hroom : hints.length < fuel := by omega
      obtain ⟨s', hs', howns⟩ := h.next hroom hfresh.1
      have hlen := length_apply hints request
      have hrest := hfresh.2
      rw [hs'] at hrest
      obtain ⟨s'', hs'', howns', hlen'⟩ := ih howns (by omega) hrest
      refine ⟨s'', ?_, howns', ?_⟩
      · rw [List.foldl_cons, hs']
        exact hs''
      · rw [List.foldl_cons]
        omega

end HintState

/-- After any calls, the memory has the hints that they leave active, and the locks acquired are those released and
those of the hints. From there, taking back a hint releases the lock that was added last for it and removes its node
from the others; without such a hint it changes nothing; and it undoes adding one. -/
theorem activeHints_ownLocks (requests : List HintRequest) (fuel : Nat) (hfuel : requests.length + 1 < fuel)
    (hfresh : Run (HintRequest.next fuel) HintRequest.Fresh (some .init) requests) :
    let hints := requests.foldl HintRequest.apply []
    ∃ s, requests.foldl (HintRequest.next fuel) (some .init) = some s ∧ s.Owns hints ∧
      (∀ hintId, ∃ s', s.undoHintAction fuel hintId = some s' ∧
        s'.Owns (hints.eraseP fun hint => hint.hintId = hintId) ∧ s'.acquired = s.acquired ∧
          s'.released = s.released ++ ((hints.find? fun hint => hint.hintId = hintId).map (·.perflockHandle)).toList) ∧
      (∀ hintId, (∀ hint ∈ hints, hint.hintId ≠ hintId) → s.undoHintAction fuel hintId = some s) ∧
      ∀ action hint, action.Fresh s.memory → action.added = some hint →
        ∃ s' s'', s.performHintAction action = some s' ∧ s'.Owns (hint :: hints) ∧
          s'.undoHintAction fuel action.hintId = some s'' ∧ s''.Owns hints := by
  intro hints
  obtain ⟨s, hs, howns, hlen⟩ := HintState.init_owns.run (by rw [List.length_nil]; omega) hfresh
  have hlength : hints.length + 1 < fuel := by
    rw [List.length_nil, Nat.zero_add] at hlen
    exact Nat.lt_of_le_of_lt (Nat.add_le_add_right hlen 1) hfuel
  have hundo := howns.undo (Nat.lt_of_succ_lt hlength)
  refine ⟨s, hs, howns, ?_, ?_, ?_⟩
  · intro hintId
    obtain ⟨s', hs', howns', hacquired, hreleased, -⟩ := hundo hintId
    exact ⟨s', hs', howns', hacquired, hreleased⟩
  · intro hintId habsent
    obtain ⟨s', hs', -, -, -, hsame⟩ := hundo hintId
    rw [hs', hsame habsent]
  · intro action hint hfresh hadded
    obtain ⟨s', hs', howns'⟩ := howns.perform hfresh
    rw [hadded] at howns'
    obtain ⟨s'', hs'', howns'', -⟩ := howns'.undo hlength action.hintId
    have herase : (hint :: hints).eraseP (fun hint => hint.hintId = action.hintId) = hints :=
      List.eraseP_cons_of_pos (decide_eq_true (HintAction.hintId_of_added hadded))
    exact ⟨s', s'', hs', howns', hs'', herase ▸ howns''⟩

/-- Two hints are added, memory for another one is not allocated, the first is taken back behind the second, and one
that was never added. -/
def someRequests : List HintRequest :=
  [.perform ⟨5, 7, some 0, some 1⟩, .perform ⟨6, 8, some 2, some 3⟩, .perform ⟨5, 9, none, none⟩, .undo 5, .undo 9]

theorem someRequests_fresh : Run (HintRequest.next 7) HintRequest.Fresh (some .init) someRequests := by
  refine ⟨?_, ?_, ?_, trivial, trivial, trivial⟩
  · rintro state ⟨⟩
    exact ⟨fun data hdata => by cases hdata; rfl, fun node hnode => by cases hnode; exact ⟨rfl, by decide⟩⟩
  · rintro state ⟨⟩
    exact ⟨fun data hdata => by cases hdata; rfl, fun node hnode => by cases hnode; exact ⟨rfl, by decide⟩⟩
  · intro state _
    exact ⟨fun data hdata => (by cases hdata), fun node hnode => (by cases hnode)⟩

theorem someRequests_owned :
    ∃ s, someRequests.foldl (HintRequest.next 7) (some .init) = some s ∧ s.acquired ~ s.released ++ [8] := by
  obtain ⟨s, hs, howns, -⟩ := activeHints_ownLocks someRequests 7 (by decide) someRequests_fresh
  exact ⟨s, hs, howns.locks⟩

end Penrose.Power

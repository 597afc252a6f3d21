import Mathlib.Logic.Function.Basic
import Penrose.BitFields
import Penrose.LinkedLists

/-! The list of active hints as it stands in memory: nodes that point to the data of a hint, behind a head that is not
allocated. A read of memory that is not there is a fault, as is freeing it. -/

namespace Penrose.Power

/-- The addresses of the head of the list, of the data that `undo_hint_action` looks for, and of what is allocated.
A null pointer is none of them. -/
inductive Address where
  | activeHintListHead | tempHintData
  | heap (n : Nat)
  deriving DecidableEq

/-- `struct hint_data`. -/
structure HintData where
  hintId : BitVec 64
  perflockHandle : BitVec 64

/-- The functions that a node may point to for comparing. -/
inductive Compare where
  | hintCompare

/-- `struct list_node`, without the function that prints a node. -/
structure ListNode where
  next : Option Address
  data : Option Address
  compare : Option Compare

/-- What is at an address. -/
inductive Block where
  | node (node : ListNode)
  | hint (hint : HintData)

abbrev Memory := Address → Option Block

namespace Memory

def node (memory : Memory) (address : Address) : Option ListNode :=
  match memory address with
  | some (.node node) => some node
  | _ => none

def hint (memory : Memory) (address : Address) : Option HintData :=
  match memory address with
  | some (.hint hint) => some hint
  | _ => none

def set (memory : Memory) (address : Address) (block : Block) : Memory := Function.update memory address (some block)

def clear (memory : Memory) (address : Address) : Memory := Function.update memory address none

/-- `free`; only what is allocated may be freed. -/
def free (memory : Memory) : Address → Option Memory
  | .heap n => if (memory (.heap n)).isSome then some (memory.clear (.heap n)) else none
  | _ => none

/-- `hint_compare`. -/
def hintCompare (memory : Memory) (firstHint otherHint : Option Address) : Option Int :=
  if firstHint = otherHint then some 0
  else
    match firstHint, otherHint with
    | some firstHint, some otherHint => do
      let first ← memory.hint firstHint
      let other ← memory.hint otherHint
      pure (if first.hintId = other.hintId then 0 else 1)
    | _, _ => some 1

/-- `add_list_node` for a head that is not null. `listNode` is where the new node is allocated, if it is. -/
def addListNode (memory : Memory) (head : Address) (data : Option Address) (listNode : Option Nat) :
    Option (Memory × Option Address) :=
  match listNode with
  | none => some (memory, none)
  | some listNode => do
    let headNode ← memory.node head
    let memory := memory.set (.heap listNode) (.node ⟨headNode.next, data, headNode.compare⟩)
    some (memory.set head (.node { headNode with next := some (.heap listNode) }), some (.heap listNode))

/-- The loop of `remove_list_node`: the node to delete, if it is found, and the one before it. -/
def seekNode (memory : Memory) (delNode : Address) :
    Nat → Option Address → Address → Option (Option Address × Address)
  | 0, _, _ => none
  | _ + 1, none, savedNode => some (none, savedNode)
  | fuel + 1, some currentNode, savedNode =>
    if currentNode ≠ delNode then do
      let node ← memory.node currentNode
      memory.seekNode delNode fuel node.next currentNode
    else some (some currentNode, savedNode)

/-- `remove_list_node` for a head and a node that are not null, and what it returns. -/
def removeListNode (memory : Memory) (fuel : Nat) (head delNode : Address) : Option (Memory × Int) := do
  let headNode ← memory.node head
  if headNode.next = none then some (memory, -1)
  else
    let (currentNode, savedNode) ← memory.seekNode delNode fuel headNode.next head
    match currentNode with
    | none => some (memory, -1)
    | some currentNode => do
      let current ← memory.node currentNode
      let saved ← memory.node savedNode
      let memory ← (memory.set savedNode (.node { saved with next := current.next })).free delNode
      some (memory, 0)

/-- `find_node` for a head that is not null; `currentNode` starts there. -/
def findNode (memory : Memory) (comparisonData : Option Address) : Nat → Address → Option (Option Address)
  | 0, _ => none
  | fuel + 1, currentNode => do
    let node ← memory.node currentNode
    match node.next with
    | none => some none
    | some currentNode => do
      let current ← memory.node currentNode
      match current.compare with
      | some .hintCompare =>
        if (← memory.hintCompare current.data comparisonData) = 0 then some (some currentNode)
        else memory.findNode comparisonData fuel currentNode
      | none => memory.findNode comparisonData fuel currentNode

end Memory

/-- A hint that is active: where its node and its data are, its id, and the handle of its lock. -/
structure ActiveHint where
  node : Nat
  data : Nat
  hintId : BitVec 32
  perflockHandle : BitVec 32

/-- Where the nodes of the hints are. -/
def nodeAddresses (hints : List ActiveHint) : List Address := hints.map fun hint => .heap hint.node

theorem nodeAddresses_append (hints hints' : List ActiveHint) :
    nodeAddresses (hints ++ hints') = nodeAddresses hints ++ nodeAddresses hints' := List.map_append

namespace Memory

variable {memory memory' : Memory} {hints before after : List ActiveHint} {hint : ActiveHint} {a b : Address}

theorem set_of_ne (h : b ≠ a) (block : Block) : memory.set a block b = memory b := Function.update_of_ne h _ _

theorem clear_of_ne (h : b ≠ a) : memory.clear a b = memory b := Function.update_of_ne h _ _

theorem node_set (memory : Memory) (a : Address) (node : ListNode) :
    (memory.set a (.node node)).node a = some node := by
  rw [Memory.node, set, Function.update_self]

theorem hint_set (memory : Memory) (a : Address) (hint : HintData) :
    (memory.set a (.hint hint)).hint a = some hint := by
  rw [Memory.hint, set, Function.update_self]

theorem node_set_of_ne (h : b ≠ a) (block : Block) : (memory.set a block).node b = memory.node b := by
  rw [Memory.node, Memory.node, set_of_ne h]

theorem hint_set_of_ne (h : b ≠ a) (block : Block) : (memory.set a block).hint b = memory.hint b := by
  rw [Memory.hint, Memory.hint, set_of_ne h]

theorem node_clear_of_ne (h : b ≠ a) : (memory.clear a).node b = memory.node b := by
  rw [Memory.node, Memory.node, clear_of_ne h]

theorem hint_clear_of_ne (h : b ≠ a) : (memory.clear a).hint b = memory.hint b := by
  rw [Memory.hint, Memory.hint, clear_of_ne h]

/-- A node is not the data of a hint. -/
theorem ne_of_node {node : ListNode} {hint : HintData} (hnode : memory.node a = some node)
    (hhint : memory.hint b = some hint) : a ≠ b := by
  intro heq
  subst heq
  rw [Memory.node] at hnode
  rw [Memory.hint] at hhint
  split at hnode
  · next hblock => simp [hblock] at hhint
  · cases hnode

theorem isSome_set (h : (memory b).isSome) (a : Address) (block : Block) : (memory.set a block b).isSome := by
  by_cases heq : b = a
  · rw [set, heq, Function.update_self]
    rfl
  · rwa [set_of_ne heq]

theorem isSome_of_node {node : ListNode} (hnode : memory.node a = some node) : (memory a).isSome := by
  rw [Memory.node] at hnode
  split at hnode
  · next hblock => simp [hblock]
  · cases hnode

theorem isSome_of_hint {hint : HintData} (hhint : memory.hint a = some hint) : (memory a).isSome := by
  rw [Memory.hint] at hhint
  split at hhint
  · next hblock => simp [hblock]
  · cases hhint

/-- What the node at an address links to. -/
def link (memory : Memory) (address : Address) : Option (Option Address) := (memory.node address).map (·.next)

/-- The node and the data of the hint. -/
def HoldsHint (memory : Memory) (hint : ActiveHint) : Prop :=
  (∃ next, memory.node (.heap hint.node) = some ⟨next, some (.heap hint.data), some .hintCompare⟩) ∧
    memory.hint (.heap hint.data) = some ⟨hint.hintId.signExtend 64, hint.perflockHandle.signExtend 64⟩

/-- Behind the head of the list are the nodes of the hints, in this order. -/
structure Represents (memory : Memory) (hints : List ActiveHint) : Prop where
  chain : Chain memory.link .activeHintListHead (nodeAddresses hints)
  holds : ∀ hint ∈ hints, memory.HoldsHint hint
  nodup : (hints.map (·.data)).Nodup

theorem hintCompare_eq {temp : HintData} (hholds : memory.HoldsHint hint)
    (htemp : memory.hint .tempHintData = some temp) :
    memory.hintCompare (some (.heap hint.data)) (some .tempHintData) =
      some (if hint.hintId.signExtend 64 = temp.hintId then 0 else 1) := by
  have hne : some (Address.heap hint.data) ≠ some .tempHintData := by simp
  simp only [hintCompare, if_neg hne, hholds.2, htemp]
  rfl

/-- The first hint with the id that is looked for is found. -/
theorem findNode_eq {hintId : BitVec 32} {handle : BitVec 64} {fuel : Nat}
    (hchain : Chain memory.link a (nodeAddresses hints))
    (hholds : ∀ hint ∈ hints, memory.HoldsHint hint)
    (htemp : memory.hint .tempHintData = some ⟨hintId.signExtend 64, handle⟩) (hfuel : hints.length < fuel) :
    memory.findNode (some .tempHintData) fuel a =
      some ((hints.find? fun hint => hint.hintId = hintId).map fun hint => .heap hint.node) := by
  induction hints generalizing a fuel with
  | nil =>
      obtain ⟨fuel, rfl⟩ : ∃ n, fuel = n + 1 := Nat.exists_eq_succ_of_ne_zero (Nat.ne_of_gt hfuel)
      obtain ⟨node, hnode, hnext⟩ := Option.map_eq_some_iff.mp hchain
      simp [findNode, hnode, hnext]
  | cons hint hints ih =>
      obtain ⟨fuel, rfl⟩ : ∃ n, fuel = n + 1 := Nat.exists_eq_succ_of_ne_zero (Nat.ne_zero_of_lt hfuel)
      obtain ⟨hlink, hrest⟩ := hchain
      obtain ⟨node, hnode, hnext⟩ := Option.map_eq_some_iff.mp hlink
      have hcompare := hintCompare_eq (hholds hint List.mem_cons_self) htemp
      obtain ⟨next, hcurrent⟩ := (hholds hint List.mem_cons_self).1
      have hfound := ih hrest (fun other hother => hholds other (List.mem_cons_of_mem hint hother))
        (Nat.lt_of_succ_lt_succ hfuel)
      simp only [findNode, hnode, Option.bind_eq_bind, Option.bind_some, hnext, hcurrent, hcompare, hfound]
      by_cases hid : hint.hintId = hintId
      · simp [hid]
      · have hwide : hint.hintId.signExtend 64 ≠ hintId.signExtend 64 := by
          intro heq
          apply hid
          rw [← setWidth_signExtend (v := 64) (by decide) hint.hintId, heq, setWidth_signExtend (by decide)]
        simp [hid, hwide]

/-- The node is found behind the one before it. -/
theorem seekNode_eq {before after : List Address} {target : Address} {fuel : Nat}
    (hchain : Chain memory.link a (before ++ target :: after)) (hfuel : before.length < fuel) :
    ∃ node, memory.node a = some node ∧ memory.seekNode target fuel node.next a =
      some (some target, (a :: before).getLast (List.cons_ne_nil a before)) := by
  induction before generalizing a fuel with
  | nil =>
      obtain ⟨fuel, rfl⟩ : ∃ n, fuel = n + 1 := Nat.exists_eq_succ_of_ne_zero (Nat.ne_zero_of_lt hfuel)
      obtain ⟨node, hnode, hnext⟩ := Option.map_eq_some_iff.mp hchain.1
      exact ⟨node, hnode, by simp [seekNode, hnext]⟩
  | cons b before ih =>
      obtain ⟨fuel, rfl⟩ : ∃ n, fuel = n + 1 := Nat.exists_eq_succ_of_ne_zero (Nat.ne_zero_of_lt hfuel)
      obtain ⟨node, hnode, hnext⟩ := Option.map_eq_some_iff.mp hchain.1
      obtain ⟨next, hb, hseek⟩ := ih hchain.2 (Nat.lt_of_succ_lt_succ hfuel)
      have hne : b ≠ target := by
        intro heq
        have hnew := (List.nodup_cons.mp hchain.2.nodup).1
        exact hnew (List.mem_append_right before (heq ▸ List.mem_cons_self))
      refine ⟨node, hnode, ?_⟩
      rw [List.getLast_cons_cons, ← hseek]
      simp [seekNode, hnext, hne, hb]

/-- The node before the target is written to, and the target is freed. -/
theorem removeListNode_eq {before after : List Address} {target : Nat} {fuel : Nat}
    (hchain : Chain memory.link a (before ++ .heap target :: after)) (hfuel : before.length < fuel) :
    ∃ savedNode current saved, savedNode = (a :: before).getLast (List.cons_ne_nil a before) ∧
      memory.node (.heap target) = some current ∧ memory.node savedNode = some saved ∧
        memory.removeListNode fuel a (.heap target) =
          some ((memory.set savedNode (.node { saved with next := current.next })).clear (.heap target), 0) := by
  obtain ⟨node, hnode, hseek⟩ := seekNode_eq hchain hfuel
  have hnode_of_mem {b : Address} (hb : b ∈ a :: (before ++ .heap target :: after)) :
      ∃ node, memory.node b = some node := by
    obtain ⟨next, hlink⟩ := hchain.exists_link hb
    obtain ⟨node, hnode, -⟩ := Option.map_eq_some_iff.mp hlink
    exact ⟨node, hnode⟩
  obtain ⟨current, hcurrent⟩ := hnode_of_mem (b := .heap target) (by simp)
  obtain ⟨saved, hsaved⟩ := hnode_of_mem (b := (a :: before).getLast (List.cons_ne_nil a before))
    (List.mem_append_left (.heap target :: after) (List.getLast_mem _))
  have hnext : node.next ≠ none := by
    intro hnone
    obtain ⟨b, hb⟩ := hchain.exists_next (by simp)
    rw [link, hnode, Option.map_some, hnone] at hb
    cases hb
  have hfree := isSome_set (isSome_of_node hcurrent) ((a :: before).getLast (List.cons_ne_nil a before))
    (.node { saved with next := current.next })
  refine ⟨_, current, saved, rfl, hcurrent, hsaved, ?_⟩
  simp [removeListNode, hnode, hnext, hseek, hcurrent, hsaved, free, hfree]

theorem HoldsHint.congr (h : memory.HoldsHint hint)
    (hnode : memory'.node (.heap hint.node) = memory.node (.heap hint.node))
    (hhint : memory'.hint (.heap hint.data) = memory.hint (.heap hint.data)) : memory'.HoldsHint hint := by
  rw [HoldsHint, hnode, hhint]
  exact h

theorem link_congr (h : memory'.node b = memory.node b) : memory'.link b = memory.link b := by
  rw [link, link, h]

theorem Represents.exists_node (h : memory.Represents hints)
    (hb : b ∈ .activeHintListHead :: nodeAddresses hints) : ∃ node, memory.node b = some node := by
  obtain ⟨next, hlink⟩ := h.chain.exists_link hb
  obtain ⟨node, hnode, -⟩ := Option.map_eq_some_iff.mp hlink
  exact ⟨node, hnode⟩

theorem node_ne_of_dead {node : ListNode} (hdead : memory a = none) (hb : memory.node b = some node) : b ≠ a := by
  intro heq
  simp [Memory.node, heq, hdead] at hb

theorem hint_ne_of_dead {data : HintData} (hdead : memory a = none) (hb : memory.hint b = some data) : b ≠ a := by
  intro heq
  simp [Memory.hint, heq, hdead] at hb

/-- Memory that the list does not use may change. -/
theorem Represents.frame (h : memory.Represents hints) (hdead : memory a = none)
    (hsame : ∀ b, b ≠ a → memory' b = memory b) : memory'.Represents hints := by
  have hnode {b : Address} {node : ListNode} (hb : memory.node b = some node) : memory'.node b = memory.node b := by
    rw [Memory.node, Memory.node, hsame b (node_ne_of_dead hdead hb)]
  have hhint {b : Address} {hint : HintData} (hb : memory.hint b = some hint) : memory'.hint b = memory.hint b := by
    rw [Memory.hint, Memory.hint, hsame b (hint_ne_of_dead hdead hb)]
  refine ⟨h.chain.congr ?_, ?_, h.nodup⟩
  · intro b hb
    obtain ⟨node, hb⟩ := h.exists_node hb
    exact link_congr (hnode hb)
  · intro hint hmem
    obtain ⟨⟨next, hholds⟩, hdata⟩ := h.holds hint hmem
    exact (h.holds hint hmem).congr (hnode hholds) (hhint hdata)

theorem Represents.set_dead (h : memory.Represents hints) (hdead : memory a = none) (block : Block) :
    (memory.set a block).Represents hints := by
  apply h.frame hdead
  intro b hne
  exact set_of_ne hne block

/-- The head may come to point to a function for comparing. -/
theorem Represents.set_compare (h : memory.Represents hints) {head : ListNode}
    (hhead : memory.node .activeHintListHead = some head) (compare : Option Compare) :
    (memory.set .activeHintListHead (.node { head with compare := compare })).Represents hints := by
  refine ⟨h.chain.congr ?_, ?_, h.nodup⟩
  · intro b _
    by_cases heq : b = .activeHintListHead
    · rw [heq, link, link, node_set, hhead]
      rfl
    · exact link_congr (node_set_of_ne heq _)
  · intro hint hmem
    exact (h.holds hint hmem).congr (node_set_of_ne (by simp) _) (hint_set_of_ne (by simp) _)

/-- A new node is the first of the list. -/
theorem Represents.add (h : memory.Represents hints) {head : ListNode}
    (hhead : memory.node .activeHintListHead = some head) (hcompare : head.compare = some .hintCompare)
    (hdata : memory.hint (.heap hint.data) = some ⟨hint.hintId.signExtend 64, hint.perflockHandle.signExtend 64⟩)
    (hnew : ∀ other ∈ hints, other.data ≠ hint.data) (hdead : memory (.heap hint.node) = none) :
    ∃ memory', memory.addListNode .activeHintListHead (some (.heap hint.data)) (some hint.node) =
        some (memory', some (.heap hint.node)) ∧ memory'.Represents (hint :: hints) := by
  have hadd : memory.addListNode .activeHintListHead (some (.heap hint.data)) (some hint.node) =
      some ((memory.set (.heap hint.node) (.node ⟨head.next, some (.heap hint.data), head.compare⟩)).set
        .activeHintListHead (.node { head with next := some (.heap hint.node) }), some (.heap hint.node)) := by
    simp [addListNode, hhead]
  refine ⟨_, hadd, ?_, ?_, ?_⟩
  · apply h.chain.insert
    · rw [link, node_set]
      rfl
    · rw [link, node_set_of_ne (by simp), node_set, link, hhead]
      rfl
    · intro b hb
      obtain ⟨node, hnode⟩ := h.exists_node (List.mem_cons_of_mem _ hb)
      obtain ⟨other, -, rfl⟩ := List.mem_map.mp hb
      apply link_congr
      rw [node_set_of_ne (by simp), node_set_of_ne (node_ne_of_dead hdead hnode)]
  · intro other hother
    obtain rfl | hother := List.mem_cons.mp hother
    · refine ⟨⟨head.next, ?_⟩, ?_⟩
      · rw [node_set_of_ne (by simp), node_set, hcompare]
      · rw [hint_set_of_ne (by simp), hint_set_of_ne (hint_ne_of_dead hdead hdata), hdata]
    · obtain ⟨⟨next, hnode⟩, hdata⟩ := h.holds other hother
      apply (h.holds other hother).congr
      · rw [node_set_of_ne (by simp), node_set_of_ne (node_ne_of_dead hdead hnode)]
      · rw [hint_set_of_ne (by simp), hint_set_of_ne (hint_ne_of_dead hdead hdata)]
  · rw [List.map_cons, List.nodup_cons]
    refine ⟨?_, h.nodup⟩
    intro hmem
    obtain ⟨other, hother, heq⟩ := List.mem_map.mp hmem
    exact hnew other hother heq

/-- The other hints have other nodes and other data. -/
theorem Represents.apart_of_mem (h : memory.Represents (before ++ hint :: after)) {other : ActiveHint}
    (hother : other ∈ before ++ after) :
    Address.heap other.node ≠ .heap hint.node ∧ Address.heap other.data ≠ .heap hint.data := by
  constructor
  · have hnodup := h.chain.nodup
    rw [nodeAddresses_append] at hnodup
    intro heq
    apply (List.nodup_cons.mp (List.nodup_middle.mp (List.nodup_cons.mp hnodup).2)).1
    show Address.heap hint.node ∈ nodeAddresses before ++ nodeAddresses after
    rw [← heq, ← nodeAddresses_append]
    exact List.mem_map_of_mem hother
  · have hnodup := h.nodup
    rw [List.map_append, List.map_cons, List.nodup_middle, ← List.map_append] at hnodup
    intro heq
    apply (List.nodup_cons.mp hnodup).1
    rw [← Address.heap.inj heq]
    exact List.mem_map_of_mem hother

/-- The node and the data of a hint are freed. -/
theorem Represents.remove (h : memory.Represents (before ++ hint :: after)) {fuel : Nat}
    (hfuel : before.length < fuel) :
    ∃ memory', (memory.clear (.heap hint.data)).removeListNode fuel .activeHintListHead (.heap hint.node) =
        some (memory', 0) ∧ memory'.Represents (before ++ after) := by
  have hhint : hint ∈ before ++ hint :: after := by simp
  obtain ⟨⟨next, hnode⟩, hdata⟩ := h.holds hint hhint
  have hchain := h.chain
  rw [nodeAddresses_append] at hchain
  -- The data of the hint is no node, so freeing it leaves the list.
  have hclear {b : Address} {node : ListNode} (hb : memory.node b = some node) :
      (memory.clear (.heap hint.data)).node b = memory.node b := node_clear_of_ne (ne_of_node hb hdata)
  have hcleared : Chain (memory.clear (.heap hint.data)).link .activeHintListHead
      (nodeAddresses before ++ .heap hint.node :: nodeAddresses after) := by
    apply hchain.congr
    intro b hb
    obtain ⟨node, hnode⟩ := h.exists_node (b := b) (by rwa [nodeAddresses_append])
    exact link_congr (hclear hnode)
  obtain ⟨savedNode, current, saved, hlast, hcurrent, hsaved, hremove⟩ :=
    removeListNode_eq hcleared (by rwa [nodeAddresses, List.length_map])
  have htarget : .heap hint.node ∉ .activeHintListHead :: (nodeAddresses before ++ nodeAddresses after) := by
    have hnodup : (.activeHintListHead :: nodeAddresses before ++ .heap hint.node :: nodeAddresses after).Nodup :=
      hchain.nodup
    exact (List.nodup_cons.mp (List.nodup_middle.mp hnodup)).1
  have hsavedNode : savedNode ≠ .heap hint.node := by
    intro heq
    have hmem : savedNode ∈ .activeHintListHead :: nodeAddresses before := hlast ▸ List.getLast_mem _
    exact htarget (heq ▸ List.mem_append_left (nodeAddresses after) hmem)
  refine ⟨_, hremove, ?_, ?_, ?_⟩
  · rw [nodeAddresses_append]
    apply hcleared.unlink
    · rw [← hlast, link, node_clear_of_ne hsavedNode, node_set, link, hcurrent]
      rfl
    · intro b hb hne
      rw [← hlast] at hne
      apply link_congr
      rw [node_clear_of_ne, node_set_of_ne hne]
      intro heq
      exact htarget (heq ▸ hb)
  · intro other hother
    have hmem : other ∈ before ++ hint :: after := ((List.sublist_cons_self hint after).append_left before).mem hother
    obtain ⟨⟨otherNext, hotherNode⟩, hotherData⟩ := h.holds other hmem
    obtain ⟨hneNode, hneData⟩ := h.apart_of_mem hother
    have hsavedData : Address.heap other.data ≠ savedNode := by
      intro heq
      have hfree : (memory.clear (.heap hint.data)).hint savedNode = memory.hint savedNode :=
        hint_clear_of_ne (heq ▸ hneData)
      rw [← heq, hotherData] at hfree
      exact ne_of_node hsaved (heq ▸ hfree) rfl
    constructor
    · by_cases heq : .heap other.node = savedNode
      · rw [← heq, hclear hotherNode, hotherNode] at hsaved
        cases hsaved
        exact ⟨current.next, by rw [node_clear_of_ne hneNode, heq, node_set]⟩
      · exact ⟨otherNext, by rw [node_clear_of_ne hneNode, node_set_of_ne heq, hclear hotherNode, hotherNode]⟩
    · rw [hint_clear_of_ne (ne_of_node hnode hotherData).symm, hint_set_of_ne hsavedData, hint_clear_of_ne hneData,
        hotherData]
  · exact h.nodup.sublist (((List.sublist_cons_self hint after).append_left before).map _)

end Memory

end Penrose.Power

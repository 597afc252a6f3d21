import Mathlib.Data.List.Basic
import Mathlib.Data.List.Nodup

/-! Singly linked lists, given by what each node links to: nothing if there is no node at an address, otherwise an
address or the end of the list. -/

namespace Penrose

variable {Address : Type} {link link' : Address → Option (Option Address)} {a b new target : Address}
  {nodes before after : List Address}

/-- The node links to the first of the nodes, each of them to the next, and the last to none. -/
def Chain (link : Address → Option (Option Address)) : Address → List Address → Prop
  | a, [] => link a = some none
  | a, b :: nodes => link a = some (some b) ∧ Chain link b nodes

namespace Chain

/-- Only the links of the nodes matter. -/
theorem congr (h : Chain link a nodes) (hsame : ∀ b ∈ a :: nodes, link' b = link b) : Chain link' a nodes := by
  induction nodes generalizing a with
  | nil => exact (hsame a List.mem_cons_self).trans h
  | cons b nodes ih =>
      obtain ⟨hlink, hrest⟩ := h
      exact ⟨(hsame a List.mem_cons_self).trans hlink, ih hrest fun c hc => hsame c (List.mem_cons_of_mem a hc)⟩

theorem unique (h : Chain link a nodes) {nodes' : List Address} (h' : Chain link a nodes') : nodes = nodes' := by
  induction nodes generalizing a nodes' with
  | nil =>
      cases nodes' with
      | nil => rfl
      | cons b nodes' => cases h.symm.trans h'.1
  | cons b nodes ih =>
      cases nodes' with
      | nil => cases h'.symm.trans h.1
      | cons b' nodes' =>
          obtain ⟨hlink, hrest⟩ := h
          obtain ⟨hlink', hrest'⟩ := h'
          cases hlink.symm.trans hlink'
          rw [ih hrest hrest']

/-- From a node of the list on there is a shorter list. -/
theorem of_mem (h : Chain link a nodes) (hb : b ∈ nodes) :
    ∃ rest, Chain link b rest ∧ rest.length < nodes.length := by
  induction nodes generalizing a with
  | nil => cases hb
  | cons c nodes ih =>
      obtain rfl | hb := List.mem_cons.mp hb
      · exact ⟨nodes, h.2, Nat.lt_succ_self _⟩
      · obtain ⟨rest, hrest, hlen⟩ := ih h.2 hb
        exact ⟨rest, hrest, Nat.lt_succ_of_lt hlen⟩

/-- A list that ends goes through no node twice. -/
theorem nodup (h : Chain link a nodes) : (a :: nodes).Nodup := by
  have hnew {a : Address} {nodes : List Address} (h : Chain link a nodes) : a ∉ nodes := by
    intro hmem
    obtain ⟨rest, hrest, hlen⟩ := h.of_mem hmem
    rw [h.unique hrest] at hlen
    exact Nat.lt_irrefl _ hlen
  induction nodes generalizing a with
  | nil => exact List.nodup_singleton a
  | cons b nodes ih => exact List.nodup_cons.mpr ⟨hnew h, ih h.2⟩

/-- Each node of the list has a link. -/
theorem exists_link (h : Chain link a nodes) (hb : b ∈ a :: nodes) : ∃ next, link b = some next := by
  induction nodes generalizing a with
  | nil =>
      rw [List.mem_singleton] at hb
      subst hb
      exact ⟨none, h⟩
  | cons c nodes ih =>
      obtain rfl | hb := List.mem_cons.mp hb
      · exact ⟨some c, h.1⟩
      · exact ih h.2 hb

theorem exists_next (h : Chain link a nodes) (hne : nodes ≠ []) : ∃ b, link a = some (some b) := by
  cases nodes with
  | nil => exact absurd rfl hne
  | cons b nodes => exact ⟨b, h.1⟩

/-- A new node after the first one. -/
theorem insert (h : Chain link a nodes) (hfirst : link' a = some (some new)) (hnew : link' new = link a)
    (hsame : ∀ b ∈ nodes, link' b = link b) : Chain link' a (new :: nodes) := by
  refine ⟨hfirst, ?_⟩
  cases nodes with
  | nil => exact hnew.trans h
  | cons b nodes => exact ⟨hnew.trans h.1, h.2.congr hsame⟩

/-- The node before the target takes over its link. -/
theorem unlink (h : Chain link a (before ++ target :: after))
    (hsaved : link' ((a :: before).getLast (List.cons_ne_nil a before)) = link target)
    (hsame : ∀ b ∈ a :: (before ++ after), b ≠ (a :: before).getLast (List.cons_ne_nil a before) → link' b = link b) :
    Chain link' a (before ++ after) := by
  have hnew : a ∉ before ++ target :: after := (List.nodup_cons.mp h.nodup).1
  induction before generalizing a with
  | nil =>
      obtain ⟨-, htarget⟩ := h
      cases after with
      | nil => exact hsaved.trans htarget
      | cons b after =>
          apply And.intro (hsaved.trans htarget.1)
          apply htarget.2.congr
          intro c hc
          apply hsame c (List.mem_cons_of_mem a hc)
          intro heq
          have hmem : a ∈ b :: after := (show c = a from heq) ▸ hc
          exact hnew (List.mem_cons_of_mem target hmem)
  | cons b before ih =>
      rw [List.getLast_cons_cons] at hsaved hsame
      have hlast : a ≠ (b :: before).getLast (List.cons_ne_nil b before) := by
        intro heq
        have hmem : a ∈ b :: before := heq ▸ List.getLast_mem _
        exact hnew (List.mem_append_left _ hmem)
      apply And.intro ((hsame a List.mem_cons_self hlast).trans h.1)
      exact ih h.2 hsaved (fun c hc => hsame c (List.mem_cons_of_mem a hc)) (List.nodup_cons.mp h.2.nodup).1

end Chain

end Penrose

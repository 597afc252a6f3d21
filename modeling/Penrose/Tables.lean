import Mathlib.Data.Finset.Card
import Mathlib.Data.List.AList

/-! Association tables whose keys lie in a finite set: when such a table is full, and what stands under one key
whatever the order in which the table is gone through. -/

namespace Penrose.Tables

variable {K : Type} [DecidableEq K] {V : K → Type}

/-- All allowed keys are taken exactly if there are as many entries as allowed keys. -/
theorem covers_iff_length {table : AList V} {allowed : Finset K} (hallowed : ∀ key ∈ table, key ∈ allowed) :
    (∀ key ∈ allowed, key ∈ table) ↔ table.entries.length = allowed.card := by
  have hlength : table.entries.length = table.keys.toFinset.card := by
    rw [List.toFinset_card_of_nodup table.keys_nodup]
    exact (List.length_map _).symm
  have hsub : table.keys.toFinset ⊆ allowed := fun key hkey => hallowed key (List.mem_toFinset.mp hkey)
  rw [hlength]
  apply Iff.intro
  · intro hcovers
    apply congrArg Finset.card
    exact hsub.antisymm fun key hkey => List.mem_toFinset.mpr (hcovers key hkey)
  · intro hcard key hkey
    rw [← Finset.eq_of_subset_of_card_le hsub hcard.ge] at hkey
    exact List.mem_toFinset.mp hkey

theorem filter_key_eq_lookupAll (key : K) (entries : List (Sigma V)) :
    entries.filter (fun entry => entry.1 = key) = (entries.lookupAll key).map (Sigma.mk key) := by
  induction entries with
  | nil => rfl
  | cons entry rest ih =>
      obtain ⟨other, value⟩ := entry
      by_cases hkey : other = key
      · subst hkey
        rw [List.filter_cons_of_pos (by simp), List.lookupAll_cons_eq, List.map_cons, ih]
      · rw [List.filter_cons_of_neg (by simpa using hkey), List.lookupAll_cons_ne rest _ (Ne.symm hkey), ih]

/-- In every order of its entries a table has under a key what a lookup finds, once. -/
theorem filter_key_of_perm {table : AList V} {order : List (Sigma V)} (horder : order.Perm table.entries)
    (key : K) : order.filter (fun entry => entry.1 = key) = (table.lookup key).toList.map (Sigma.mk key) := by
  have hkeys : order.NodupKeys := (List.perm_nodupKeys horder).mpr table.nodupKeys
  rw [filter_key_eq_lookupAll, List.lookupAll_eq_dlookup key hkeys, AList.lookup,
    List.perm_dlookup key hkeys horder]

theorem kerase_eq_filter {entries : List (Sigma V)} (hkeys : entries.NodupKeys) (key : K) :
    entries.kerase key = entries.filter fun entry => entry.1 ≠ key := by
  induction entries with
  | nil => rfl
  | cons entry rest ih =>
      obtain ⟨hnew, hrest⟩ := List.nodupKeys_cons.mp hkeys
      by_cases hkey : key = entry.1
      · have hall : ∀ other ∈ rest, decide (other.1 ≠ key) = true := by
          intro other hother
          rw [decide_eq_true_eq, hkey]
          exact ne_of_mem_of_not_mem (List.mem_map_of_mem hother) hnew
        rw [List.kerase_cons_eq hkey, List.filter_cons_of_neg (by simp [hkey]), List.filter_eq_self.mpr hall]
      · rw [List.kerase_cons_ne hkey, List.filter_cons_of_pos (by simpa using Ne.symm hkey), ih hrest]

theorem entries_erase (table : AList V) (key : K) :
    (table.erase key).entries = table.entries.filter fun entry => entry.1 ≠ key :=
  kerase_eq_filter table.nodupKeys key

end Penrose.Tables

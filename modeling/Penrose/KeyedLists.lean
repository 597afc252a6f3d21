import Mathlib.Data.List.Nodup

/-! Lists whose entries are found by a key. With unique keys a list is a finite map, and the ways to write to it write
one value of the map. -/

namespace Penrose

variable {α κ : Type} [DecidableEq κ] {key : α → κ} {entries : List α} {k k' : κ} {a : α} {edit : α → α} {fresh : α}

/-- The first entry with the key. -/
def findKey (key : α → κ) (entries : List α) (k : κ) : Option α := entries.find? fun a => key a = k

/-- No two entries have one key. -/
def UniqueKeys (key : α → κ) (entries : List α) : Prop := (entries.map key).Nodup

/-- Edit the first entry with the key, or add a fresh one at the end. -/
def upsertKey (key : α → κ) (k : κ) (edit : α → α) (fresh : α) : List α → List α
  | [] => [fresh]
  | a :: entries => if key a = k then edit a :: entries else a :: upsertKey key k edit fresh entries

/-- Edit every entry with the key. -/
def mapKey (key : α → κ) (k : κ) (edit : α → α) (entries : List α) : List α :=
  entries.map fun a => if key a = k then edit a else a

@[simp] theorem findKey_nil : findKey key [] k = none := rfl

theorem findKey_cons : findKey key (a :: entries) k = if key a = k then some a else findKey key entries k := by
  rw [findKey, List.find?_cons]
  split_ifs with h <;> simp [h, findKey]

theorem key_of_findKey (h : findKey key entries k = some a) : key a = k := by
  simpa using List.find?_some h

theorem mem_of_findKey (h : findKey key entries k = some a) : a ∈ entries := List.mem_of_find?_eq_some h

theorem findKey_eq_none : findKey key entries k = none ↔ k ∉ entries.map key := by
  simp [findKey, List.find?_eq_none, List.mem_map]

/-- With unique keys the entries are what is found by their keys. -/
theorem findKey_eq_some (hunique : UniqueKeys key entries) :
    findKey key entries k = some a ↔ a ∈ entries ∧ key a = k := by
  constructor
  · exact fun h => ⟨mem_of_findKey h, key_of_findKey h⟩
  · rintro ⟨hmem, rfl⟩
    obtain ⟨found, hfound⟩ : ∃ found, findKey key entries (key a) = some found := by
      rw [← Option.ne_none_iff_exists', Ne, findKey_eq_none, not_not]
      exact List.mem_map_of_mem hmem
    rw [hfound, List.inj_on_of_nodup_map hunique (mem_of_findKey hfound) hmem (key_of_findKey hfound)]

/-! ### Writing one entry -/

theorem findKey_upsertKey (hedit : ∀ a, key a = k → key (edit a) = k) (hfresh : key fresh = k) :
    findKey key (upsertKey key k edit fresh entries) k' =
      if k' = k then some ((findKey key entries k).elim fresh edit) else findKey key entries k' := by
  induction entries with
  | nil =>
      rw [upsertKey, findKey_cons, hfresh]
      simp [eq_comm]
  | cons a entries ih =>
      rw [upsertKey]
      by_cases hkey : key a = k
      · rw [if_pos hkey, findKey_cons, findKey_cons, findKey_cons, hedit a hkey, hkey]
        by_cases hk : k' = k
        · simp [hk]
        · simp [hk, Ne.symm hk]
      · rw [if_neg hkey, findKey_cons, findKey_cons, findKey_cons, if_neg hkey, ih]
        by_cases hk : k' = k
        · simp [hk, hkey]
        · simp [hk]

theorem findKey_mapKey (hedit : ∀ a, key a = k → key (edit a) = k) :
    findKey key (mapKey key k edit entries) k' =
      if k' = k then (findKey key entries k).map edit else findKey key entries k' := by
  induction entries with
  | nil => simp [mapKey]
  | cons a entries ih =>
      rw [mapKey, List.map_cons, ← mapKey, findKey_cons, findKey_cons, findKey_cons, ih]
      by_cases hkey : key a = k
      · rw [if_pos hkey, hedit a hkey, if_pos hkey, hkey]
        by_cases hk : k' = k
        · simp [hk]
        · simp [hk, Ne.symm hk]
      · rw [if_neg hkey, if_neg hkey]
        by_cases hk : k' = k
        · simp [hk, hkey]
        · simp [hk]

theorem findKey_concat (hfresh : k ∉ entries.map key) (hkey : key a = k) :
    findKey key (entries ++ [a]) k' = if k' = k then some a else findKey key entries k' := by
  have hnone : findKey key entries k = none := findKey_eq_none.mpr hfresh
  rw [findKey, List.find?_append, ← findKey]
  by_cases hk : k' = k
  · rw [hk, hnone]
    simp [hkey]
  · simp [hk, hkey, Ne.symm hk]

theorem keys_upsertKey (hedit : ∀ a, key a = k → key (edit a) = k) (hfresh : key fresh = k) :
    (upsertKey key k edit fresh entries).map key =
      if k ∈ entries.map key then entries.map key else entries.map key ++ [k] := by
  induction entries with
  | nil => simp [upsertKey, hfresh]
  | cons a entries ih =>
      rw [upsertKey]
      by_cases hkey : key a = k
      · simp [hkey, hedit a hkey]
      · rw [if_neg hkey, List.map_cons, List.map_cons, ih]
        by_cases hmem : k ∈ entries.map key
        · rw [if_pos hmem, if_pos (List.mem_cons_of_mem _ hmem)]
        · have hnot : k ∉ key a :: entries.map key := fun h => (List.mem_cons.mp h).elim (Ne.symm hkey) hmem
          rw [if_neg hmem, if_neg hnot]
          rfl

theorem UniqueKeys.upsertKey (hunique : UniqueKeys key entries) (hedit : ∀ a, key a = k → key (edit a) = k)
    (hfresh : key fresh = k) : UniqueKeys key (upsertKey key k edit fresh entries) := by
  rw [UniqueKeys, keys_upsertKey hedit hfresh]
  split_ifs with hmem
  · exact hunique
  · rw [← List.concat_eq_append]
    exact List.Nodup.concat hmem hunique

/-- With unique keys one entry makes all that is made under its key. -/
theorem filter_filterMap_of_mem {β : Type} {made : β → κ} {make : α → Option β} (hunique : UniqueKeys key entries)
    (hmake : ∀ a b, make a = some b → made b = key a) (hmem : a ∈ entries) :
    (entries.filterMap make).filter (fun b => made b = key a) = (make a).toList := by
  induction entries with
  | nil => cases hmem
  | cons head tail ih =>
      obtain ⟨hfresh, htail⟩ := List.nodup_cons.mp hunique
      obtain rfl | hin := List.mem_cons.mp hmem
      · -- nothing after the entry is made under its key
        have hrest : (tail.filterMap make).filter (fun b => made b = key a) = [] := by
          rw [List.filter_eq_nil_iff]
          intro b hb heq
          obtain ⟨other, hother, hmade⟩ := List.mem_filterMap.mp hb
          rw [decide_eq_true_eq, hmake other b hmade] at heq
          exact hfresh (heq ▸ List.mem_map_of_mem hother)
        cases hmade : make a with
        | none => rw [List.filterMap_cons_none hmade, hrest, Option.toList_none]
        | some b =>
            rw [List.filterMap_cons_some hmade, List.filter_cons, if_pos (decide_eq_true (hmake a b hmade)), hrest]
            rfl
      · have hne : key head ≠ key a := fun heq => hfresh (heq ▸ List.mem_map_of_mem hin)
        cases hmade : make head with
        | none => rw [List.filterMap_cons_none hmade, ih htail hin]
        | some b =>
            have hother : ¬ decide (made b = key a) = true := by
              rw [decide_eq_true_eq, hmake head b hmade]
              exact hne
            rw [List.filterMap_cons_some hmade, List.filter_cons, if_neg hother, ih htail hin]

end Penrose

import Mathlib.Data.Finmap
import Penrose.KeyedLists
import Penrose.Separators

/-! `ParseAudioParams`: the key-value pairs that the audio framework passes to the HAL. -/

namespace Penrose.Bluetooth

/-- A `std::unordered_map` from strings to strings. -/
abbrev AudioParams := AList fun _ : List Char => List Char

/-- What a segment between two semicolons does to the map. -/
def addSegment (paramsMap : AudioParams) (segment : List Char) : AudioParams :=
  if segment.length = 0 then paramsMap
  else
    let kv := segment.splitOn '='
    if (kv.getD 0 []).isEmpty then paramsMap
    else paramsMap.insert (kv.getD 0 []) (if kv.length > 1 then kv.getD 1 [] else [])

def parseAudioParams (params : List Char) : AudioParams := (params.splitOn ';').foldl addSegment ∅

/-! ### What a text is parsed to -/

/-- The key of a segment, and its value: what is before the first equals sign, and what is between the first and the
second one. -/
def segmentKey (segment : List Char) : List Char := beforeSeparator '=' segment
def segmentValue (segment : List Char) : List Char := beforeSeparator '=' (afterSeparator '=' segment)

theorem addSegment_eq (paramsMap : AudioParams) (segment : List Char) :
    addSegment paramsMap segment =
      if segmentKey segment = [] then paramsMap
      else paramsMap.insert (segmentKey segment) (segmentValue segment) := by
  have hvalue : (if (segment.splitOn '=').length > 1 then (segment.splitOn '=').getD 1 [] else []) =
      segmentValue segment := by
    rw [segmentValue, ← getD_splitOn_one]
    split_ifs with hlen
    · rfl
    · rw [List.getD_eq_getElem?_getD, List.getElem?_eq_none (Nat.le_of_not_lt hlen)]
      rfl
  have hkey : (segment.splitOn '=').getD 0 [] = segmentKey segment := getD_splitOn_zero '=' segment
  simp only [addSegment, hvalue, hkey, List.isEmpty_iff]
  cases segment with
  | nil => rfl
  | cons a segment => rw [if_neg (by simp)]

/-- The value of a key is that of the last segment with the key. -/
theorem lookup_parseAudioParams (params k : List Char) :
    (parseAudioParams params).lookup k =
      if k = [] then none else (findKey segmentKey (params.splitOn ';').reverse k).map segmentValue := by
  rw [parseAudioParams]
  generalize params.splitOn ';' = segments
  induction segments using List.reverseRecOn with
  | nil =>
      rw [List.foldl_nil, AList.lookup_empty]
      exact (ite_self none).symm
  | append_singleton segments segment ih =>
      rw [List.foldl_append, List.foldl_cons, List.foldl_nil, addSegment_eq, List.reverse_append,
        List.reverse_singleton, List.singleton_append, findKey_cons]
      by_cases hempty : segmentKey segment = []
      · rw [if_pos hempty, ih]
        by_cases hk : k = []
        · rw [if_pos hk, if_pos hk]
        · have hne : segmentKey segment ≠ k := fun heq => hk (heq.symm.trans hempty)
          rw [if_neg hk, if_neg hk, if_neg hne]
      · rw [if_neg hempty]
        by_cases heq : segmentKey segment = k
        · rw [← heq, AList.lookup_insert, if_neg hempty, if_pos rfl]
          rfl
        · rw [AList.lookup_insert_ne (Ne.symm heq), ih, if_neg heq]

/-! ### The round trip -/

/-- The loop at the end of `out_get_parameters`, over the entries in the order that the map gives them in. -/
def encodeParams (returnParams : List (Sigma fun _ : List Char => List Char)) : List Char :=
  returnParams.foldl (fun result ptr => result ++ (ptr.1 ++ ['='] ++ ptr.2 ++ [';'])) []

/-- Keys are not empty, and nothing contains a separator. -/
def AudioParams.IsPlain (params : AudioParams) : Prop :=
  ∀ entry ∈ params.entries, entry.1 ≠ [] ∧ ';' ∉ entry.1 ∧ '=' ∉ entry.1 ∧ ';' ∉ entry.2 ∧ '=' ∉ entry.2

instance (params : AudioParams) : Decidable params.IsPlain :=
  inferInstanceAs (Decidable (∀ entry ∈ params.entries, _))

open scoped List

/-- The segment of an entry. -/
def entrySegment (entry : Sigma fun _ : List Char => List Char) : List Char := entry.1 ++ '=' :: entry.2

theorem encodeParams_eq (order : List (Sigma fun _ : List Char => List Char)) :
    encodeParams order = (order.map entrySegment).flatMap fun segment => segment ++ [';'] := by
  rw [encodeParams, List.flatMap_map, List.flatMap_eq_foldl]
  congr
  funext result ptr
  simp [entrySegment]

theorem splitOn_encodeParams {order : List (Sigma fun _ : List Char => List Char)}
    (hplain : ∀ entry ∈ order, ';' ∉ entry.1 ∧ ';' ∉ entry.2) :
    (encodeParams order).splitOn ';' = order.map entrySegment ++ [[]] := by
  rw [encodeParams_eq]
  apply splitOn_flatMap
  intro segment hsegment
  obtain ⟨entry, hmem, rfl⟩ := List.mem_map.mp hsegment
  obtain ⟨hkey, hvalue⟩ := hplain entry hmem
  simp [entrySegment, hkey, hvalue]

theorem segmentKey_entrySegment {entry : Sigma fun _ : List Char => List Char} (hkey : '=' ∉ entry.1) :
    segmentKey (entrySegment entry) = entry.1 := beforeSeparator_append hkey

theorem segmentValue_entrySegment {entry : Sigma fun _ : List Char => List Char} (hkey : '=' ∉ entry.1)
    (hvalue : '=' ∉ entry.2) : segmentValue (entrySegment entry) = entry.2 := by
  rw [segmentValue, entrySegment, afterSeparator_append hkey, beforeSeparator_of_notMem hvalue]

/-- The values of a plain map are found by its keys in the segments of its entries. -/
theorem lookup_encodeParams {params : AudioParams} (hplain : params.IsPlain)
    {order : List (Sigma fun _ : List Char => List Char)} (horder : order ~ params.entries) (k : List Char) :
    (parseAudioParams (encodeParams order)).lookup k = params.lookup k := by
  have hplain' (entry : Sigma fun _ : List Char => List Char) (hmem : entry ∈ order) :=
    hplain entry (horder.mem_iff.mp hmem)
  have hsplit : (encodeParams order).splitOn ';' = order.map entrySegment ++ [[]] := by
    apply splitOn_encodeParams
    intro entry hmem
    exact ⟨(hplain' entry hmem).2.1, (hplain' entry hmem).2.2.2.1⟩
  have hkey (entry : Sigma fun _ : List Char => List Char) (hmem : entry ∈ order) :
      segmentKey (entrySegment entry) = entry.1 :=
    segmentKey_entrySegment (hplain' entry hmem).2.2.1
  have hkeys : (order.map entrySegment).map segmentKey = order.map Sigma.fst := by
    rw [List.map_map]
    exact List.map_congr_left hkey
  have hunique : UniqueKeys segmentKey (order.map entrySegment).reverse := by
    rw [UniqueKeys, List.map_reverse, List.nodup_reverse, hkeys, (horder.map Sigma.fst).nodup_iff]
    exact params.nodupKeys
  have hempty (hne : k ≠ []) : ¬ segmentKey [] = k := Ne.symm hne
  rw [lookup_parseAudioParams, hsplit, List.reverse_append, List.reverse_singleton, List.singleton_append, findKey_cons]
  cases hlookup : params.lookup k with
  | none =>
      by_cases hk : k = []
      · rw [if_pos hk]
      · have hnone : findKey segmentKey (order.map entrySegment).reverse k = none := by
          rw [findKey_eq_none, List.map_reverse, List.mem_reverse, hkeys]
          intro hmem
          obtain ⟨entry, hentry, rfl⟩ := List.mem_map.mp hmem
          cases hlookup.symm.trans (AList.mem_lookup_iff.mpr (horder.mem_iff.mp hentry))
        rw [if_neg hk, if_neg (hempty hk), hnone, Option.map_none]
  | some value =>
      have hentry : Sigma.mk k value ∈ order := horder.mem_iff.mpr (AList.mem_lookup_iff.mp hlookup)
      obtain ⟨hk, -, hkeyPlain, -, hvaluePlain⟩ := hplain' _ hentry
      have hvalue : segmentValue (entrySegment ⟨k, value⟩) = value :=
        segmentValue_entrySegment hkeyPlain hvaluePlain
      have hfound : findKey segmentKey (order.map entrySegment).reverse k = some (entrySegment ⟨k, value⟩) := by
        rw [findKey_eq_some hunique, List.mem_reverse]
        exact ⟨List.mem_map_of_mem hentry, hkey _ hentry⟩
      rw [if_neg hk, if_neg (hempty hk), hfound, Option.map_some, hvalue]

/-- A map is parsed from its encoding in any order; and any text is parsed to the last values of its keys. -/
theorem parseAudioParams_encodeParams :
    (∀ (params : AudioParams) (order : List (Sigma fun _ : List Char => List Char)), params.IsPlain →
      order ~ params.entries → (parseAudioParams (encodeParams order)).toFinmap = params.toFinmap) ∧
    ∀ params k : List Char, (parseAudioParams params).lookup k =
      if k = [] then none else (findKey segmentKey (params.splitOn ';').reverse k).map segmentValue := by
  refine ⟨?_, lookup_parseAudioParams⟩
  intro params order hplain horder
  apply Finmap.ext_lookup
  intro k
  exact lookup_encodeParams hplain horder k

/-- Two parameters. -/
def someParams : AudioParams := (AList.insert ['a'] ['1'] ∅).insert ['b'] []

theorem someParams_parsed :
    (parseAudioParams (encodeParams someParams.entries.reverse)).toFinmap = someParams.toFinmap :=
  parseAudioParams_encodeParams.1 someParams someParams.entries.reverse (by decide) (List.reverse_perm _)

end Penrose.Bluetooth

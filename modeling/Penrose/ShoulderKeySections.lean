import Mathlib.Data.List.GetD
import Mathlib.Logic.Function.Basic
import Penrose.BinarySearch
import Penrose.Blocks

/-! The sections of the list of apps. Entries with one label next to each other make a section; its position is that of
its first entry, and the section of an entry is found among the positions. -/

namespace Penrose.ShoulderKey

/-- The code units of a string. -/
abbrev Utf16 := List (BitVec 16)

/-- What the list uses of an `AppEntry`: the package, whether it is enabled, and its label, if there is one. -/
structure AppEntry where
  packageName : String
  enabled : Bool
  label : Option Utf16

/-- The variables of the loop of `handleAppEntries`. -/
structure SectionState where
  sections : List Utf16
  positions : List Nat
  lastSectionIndex : Option Utf16
  offset : Nat

/-- What `AllPackagesAdapter` shows. -/
structure AllPackagesAdapter where
  mEntries : List AppEntry
  mSections : List Utf16
  mPositions : List Nat

section Sections

variable (toUpperCase : Utf16 → Utf16)

/-- The label of the section of an entry. -/
def AppEntry.sectionIndex (entry : AppEntry) : Utf16 :=
  if !entry.enabled then [0x2D, 0x2D]
  else
    match entry.label with
    | none => []
    | some label => if label.isEmpty then [] else toUpperCase (label.take 1)

/-- The loop body of `handleAppEntries`. -/
def SectionState.addEntry (s : SectionState) (entry : AppEntry) : SectionState :=
  let sectionIndex := entry.sectionIndex toUpperCase
  let s :=
    if s.lastSectionIndex = none ∨ s.lastSectionIndex ≠ some sectionIndex then
      { s with
        sections := s.sections ++ [sectionIndex]
        positions := s.positions ++ [s.offset]
        lastSectionIndex := some sectionIndex }
    else s
  { s with offset := s.offset + 1 }

/-- `handleAppEntries`: the adapter after `setEntries`, and the map of the entries by their packages. -/
def handleAppEntries (entries : List AppEntry) : AllPackagesAdapter × (String → Option AppEntry) :=
  let s := entries.foldl (SectionState.addEntry toUpperCase) ⟨[], [], none, 0⟩
  (⟨entries, s.sections, s.positions⟩,
    entries.foldl (fun map entry => Function.update map entry.packageName (some entry)) fun _ => none)

namespace AllPackagesAdapter

def getPositionForSection (adapter : AllPackagesAdapter) (sectionIndex : Int) : Int :=
  if sectionIndex < 0 ∨ sectionIndex ≥ adapter.mSections.length then -1
  else adapter.mPositions.getD sectionIndex.toNat 0

def getSectionForPosition (adapter : AllPackagesAdapter) (position : Int) : Int :=
  if position < 0 ∨ position ≥ adapter.mEntries.length then -1
  else
    let index := binarySearch adapter.mPositions position.toNat
    if index ≥ 0 then index else -index - 2

variable {adapter : AllPackagesAdapter} {p s q : Nat}

theorem getSectionForPosition_of_lt (hp : p < adapter.mEntries.length) :
    adapter.getSectionForPosition p =
      if binarySearch adapter.mPositions p ≥ 0 then binarySearch adapter.mPositions p
      else -binarySearch adapter.mPositions p - 2 := by
  have hrange : ¬ ((p : Int) < 0 ∨ (p : Int) ≥ adapter.mEntries.length) := by
    rw [not_or]
    exact ⟨by omega, Int.not_le.mpr (Int.ofNat_lt.mpr hp)⟩
  rw [getSectionForPosition, if_neg hrange, Int.toNat_natCast]

theorem getPositionForSection_of_getElem? (hs : s < adapter.mSections.length) (hq : adapter.mPositions[s]? = some q) :
    adapter.getPositionForSection s = q := by
  have hrange : ¬ ((s : Int) < 0 ∨ (s : Int) ≥ adapter.mSections.length) := by
    rw [not_or]
    exact ⟨by omega, by omega⟩
  rw [getPositionForSection, if_neg hrange, Int.toNat_natCast, List.getD_eq_getElem?_getD, hq]
  rfl

end AllPackagesAdapter

/-- Between the last block that starts up to a position and this position none starts. -/
theorem not_startsBlock_of_next {α : Type} [DecidableEq α] {labels : List α} {s q p i : Nat}
    (hq : (blockStarts labels)[s]? = some q) (hnext : ∀ j q', s < j → (blockStarts labels)[j]? = some q' → p < q')
    (hlt : q < i) (hip : i ≤ p) : ¬ StartsBlock labels i := by
  intro hi
  obtain ⟨j, hj⟩ := List.mem_iff_getElem?.mp (mem_blockStarts.mpr hi)
  obtain hjs | rfl | hsj := Nat.lt_trichotomy j s
  · exact Nat.lt_asymm hlt (lt_of_getElem? (blockStarts_pairwise labels) hjs hj hq)
  · cases hj.symm.trans hq
    exact Nat.lt_irrefl _ hlt
  · exact absurd (hnext j i hsj hj) (Nat.not_lt.mpr hip)

/-- The sections are the blocks of equal labels. -/
theorem foldl_addEntry (entries : List AppEntry) :
    let labels := entries.map (AppEntry.sectionIndex toUpperCase)
    entries.foldl (SectionState.addEntry toUpperCase) ⟨[], [], none, 0⟩ =
      ⟨(blockStarts labels).map fun i => labels.getD i [], blockStarts labels, labels.getLast?, labels.length⟩ := by
  induction entries using List.reverseRecOn with
  | nil => rfl
  | append_singleton entries entry ih =>
      simp only at ih
      simp only [List.foldl_append, ih, List.foldl_cons, List.foldl_nil, List.map_append, List.map_cons, List.map_nil]
      generalize entries.map (AppEntry.sectionIndex toUpperCase) = labels
      rw [SectionState.addEntry]
      generalize entry.sectionIndex toUpperCase = label
      have hsections : ((blockStarts labels).map fun i => (labels ++ [label]).getD i []) =
          (blockStarts labels).map fun i => labels.getD i [] := by
        apply List.map_congr_left
        intro i hi
        rw [List.getD_append _ _ _ _ (mem_blockStarts.mp hi).1]
      have hlast : (labels ++ [label]).getLast? = some label := List.getLast?_concat ..
      have hlen : (labels ++ [label]).length = labels.length + 1 := List.length_append
      rw [blockStarts_append_singleton, hlast, hlen]
      by_cases hsame : labels.getLast? = some label
      · have hkeep : ¬ (labels.getLast? = none ∨ labels.getLast? ≠ some label) := by simp [hsame]
        rw [if_pos hsame, hsections, if_neg hkeep, hsame]
      · have hvalue : (labels ++ [label]).getD labels.length [] = label := by simp
        rw [if_neg hsame, if_pos (Or.inr hsame), List.map_append, hsections, List.map_singleton, hvalue]

/-- Each position is in the last section that starts at it or before. This section has the label of its entry, and it
starts where the entries with this label next to it do. -/
theorem sections_indexPositions (entries : List AppEntry) (p : Nat) (hp : p < entries.length) :
    let adapter := (handleAppEntries toUpperCase entries).1
    let labels := entries.map (AppEntry.sectionIndex toUpperCase)
    adapter.mSections.length = adapter.mPositions.length ∧ adapter.mPositions[0]? = some 0 ∧
      adapter.mPositions.Pairwise (· < ·) ∧
      ∃ s q : Nat, adapter.getSectionForPosition p = s ∧ adapter.getPositionForSection s = q ∧
        adapter.mPositions[s]? = some q ∧ q ≤ p ∧ (∀ j q', adapter.mPositions[j]? = some q' → q' ≤ p → j ≤ s) ∧
        adapter.mSections[s]? = labels[p]? ∧ (∀ i, q ≤ i → i ≤ p → labels[i]? = labels[p]?) ∧
        (q = 0 ∨ labels[q - 1]? ≠ labels[q]?) := by
  intro adapter labels
  have hlen : p < labels.length := by rwa [List.length_map]
  have hpositions : adapter.mPositions = blockStarts labels :=
    congrArg (·.positions) (foldl_addEntry toUpperCase entries)
  have hsections : adapter.mSections = (blockStarts labels).map fun i => labels.getD i [] :=
    congrArg (·.sections) (foldl_addEntry toUpperCase entries)
  have hfirst : (blockStarts labels)[0]? = some 0 :=
    blockStarts_zero (List.ne_nil_of_length_pos (Nat.zero_lt_of_lt hlen))
  have hsorted := blockStarts_pairwise labels
  obtain ⟨s, q, hs, hq, hle, hnext⟩ := (isFound_binarySearch hsorted p).floor hsorted hfirst (Nat.zero_le p)
  have hstart : StartsBlock labels q := mem_blockStarts.mp (List.mem_of_getElem? hq)
  have hslen : s < (blockStarts labels).length := (List.getElem?_eq_some_iff.mp hq).1
  have hnone (i : Nat) (hlt : q < i) (hip : i ≤ p) : ¬ StartsBlock labels i :=
    not_startsBlock_of_next hq hnext hlt hip
  have hblock (i : Nat) (hqi : q ≤ i) (hip : i ≤ p) : labels[i]? = labels[p]? := by
    rw [getElem?_of_block hnone hlen hqi hip, getElem?_of_block hnone hlen hle (Nat.le_refl p)]
  have hlabel : adapter.mSections[s]? = labels[p]? := by
    rw [hsections, List.getElem?_map, hq, ← hblock q (Nat.le_refl q) hle, List.getElem?_eq_getElem hstart.1,
      Option.map_some, List.getD_eq_getElem _ _ hstart.1]
  have hcount : adapter.mSections.length = (blockStarts labels).length := by rw [hsections, List.length_map]
  refine ⟨hcount.trans (congrArg List.length hpositions).symm, hpositions ▸ hfirst, hpositions ▸ hsorted, s, q, ?_, ?_,
    hpositions ▸ hq, hle, ?_, hlabel, hblock, hstart.2⟩
  · rw [AllPackagesAdapter.getSectionForPosition_of_lt hp, hpositions]
    exact hs
  · exact AllPackagesAdapter.getPositionForSection_of_getElem? (hcount ▸ hslen) (hpositions ▸ hq)
  · intro j q' hj hq'
    rw [hpositions] at hj
    by_contra hlt
    exact absurd (hnext j q' (Nat.lt_of_not_le hlt) hj) (Nat.not_lt.mpr hq')

end Sections

/-- Two apps with a label under one letter, and one that is disabled. -/
def someEntries : List AppEntry :=
  [⟨"a", true, some [0x41, 0x42]⟩, ⟨"b", true, some [0x41]⟩, ⟨"c", false, some [0x42]⟩]

theorem someEntries_indexed :
    ∃ s : Nat, (handleAppEntries id someEntries).1.getSectionForPosition 1 = s ∧
      (handleAppEntries id someEntries).1.mSections[s]? = some [0x41] := by
  obtain ⟨-, -, -, s, q, hs, -, -, -, -, hlabel, -⟩ := sections_indexPositions id someEntries 1 (by decide)
  exact ⟨s, hs, hlabel⟩

end Penrose.ShoulderKey

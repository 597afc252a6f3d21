import Penrose.ShoulderKeyEnabled

/-! What a key press finds after saving: the mapping in memory, with the coordinates that were saved last. -/

namespace Penrose.ShoulderKey

variable {utils : ShoulderKeyUtils} {mappings : Mappings}

/-- The coordinates that were saved last for each package and rotation, since the last reset. -/
abbrev SavedCoordinates := String × Int → Option Coordinates

def StoreCall.recordSaved (saved : SavedCoordinates) : StoreCall → SavedCoordinates
  | .saveCoordinate packageName rotation left right =>
      Function.update saved (packageName, rotation) (some (left, right))
  | .resetAllAppsCoordinate => fun _ => none
  | _ => saved

def savedLast (calls : List StoreCall) : SavedCoordinates := calls.foldl StoreCall.recordSaved fun _ => none

/-- The mappings in memory have the coordinates that were saved last. -/
def Mapping.Keeps (mapping : Mapping) (saved : SavedCoordinates) : Prop :=
  ∀ k coordinate, saved k = some coordinate →
    ∃ info, mapping k = some info ∧ (info.leftCoordinate, info.rightCoordinate) = coordinate

namespace Mapping

variable {mapping : Mapping} {saved : SavedCoordinates}

/-- Setting a flag keeps the coordinates. -/
theorem Keeps.write (h : mapping.Keeps saved) (k : String × Int) (enabled : Bool) (fresh : ShoulderKeyInfo) :
    (mapping.write k (fun info => info.setEnabled enabled) fresh).Keeps saved := by
  intro k' coordinate hsaved
  obtain ⟨info, hinfo, hcoordinate⟩ := h k' coordinate hsaved
  rw [write_apply]
  by_cases hk : k' = k
  · subst hk
    exact ⟨info.setEnabled enabled, by rw [if_pos rfl, hinfo]; rfl, hcoordinate⟩
  · exact ⟨info, by rw [if_neg hk, hinfo], hcoordinate⟩

theorem Keeps.save (h : mapping.Keeps saved) (packageName : String) (rotation : Int) (left right : Int × Int) :
    (mapping.write (packageName, rotation) (fun info => info.setAllCoordinate left right)
      ⟨packageName, true, rotation, left, right⟩).Keeps
        (Function.update saved (packageName, rotation) (some (left, right))) := by
  intro k coordinate hsaved
  rw [Function.update_apply] at hsaved
  rw [write_apply]
  by_cases hk : k = (packageName, rotation)
  · rw [if_pos hk, Option.some.injEq] at hsaved
    rw [if_pos hk, ← hsaved]
    cases mapping (packageName, rotation) <;> exact ⟨_, rfl, rfl⟩
  · rw [if_neg hk] at hsaved ⊢
    exact h k coordinate hsaved

end Mapping

namespace Mappings

variable {saved : SavedCoordinates}

theorem keeps_next (h : mappings.memory.Keeps saved) (call : StoreCall) :
    (mappings.next call).memory.Keeps (call.recordSaved saved) := by
  cases call with
  | saveCoordinate packageName rotation left right => exact h.save packageName rotation left right
  | setEnabledByPackage packageName enabled => exact (h.write _ _ _).write _ _ _
  | saveAllAppsCoordinate =>
      intro k coordinate hsaved
      obtain ⟨info, hinfo, hcoordinate⟩ := h k coordinate hsaved
      exact ⟨info, by simp [next, hinfo], hcoordinate⟩
  | resetAllAppsCoordinate =>
      intro k coordinate hsaved
      cases hsaved

theorem keeps_foldl (h : mappings.memory.Keeps saved) (calls : List StoreCall) :
    (calls.foldl next mappings).memory.Keeps (calls.foldl StoreCall.recordSaved saved) := by
  induction calls generalizing mappings saved with
  | nil => exact h
  | cons call calls ih => exact ih (keeps_next h call)

end Mappings

namespace ShoulderKeyUtils

theorem Refines.loadCoordinateAt_eq (h : utils.Refines mappings) (packageName : String) (rotation : Int) :
    utils.loadCoordinateAt packageName rotation =
      (mappings.memory (packageName, rotation)).bind ShoulderKeyInfo.getAllCoordinate := by
  rw [loadCoordinateAt, getAppInfo_eq, h.memory]
  cases mappings.memory (packageName, rotation) <;> rfl

/-- Where the table is what memory is, a key press finds the mapping in memory, if the package is enabled. -/
theorem Refines.lookupCoordinate_eq (h : utils.Refines mappings) (hsaved : mappings.table = mappings.memory)
    (hagrees : mappings.memory.Agrees) (packageName : String) (rotation : Int) :
    utils.mDB.lookupCoordinate packageName rotation =
      if utils.enabledByRotations packageName [0, 1] then utils.loadCoordinateAt packageName rotation else none := by
  rw [ShoulderKeyDB.lookupCoordinate, h.table, hsaved, h.loadCoordinateAt_eq]
  cases hinfo : mappings.memory (packageName, rotation) with
  | none => simp
  | some info => rw [h.enabledByRotations_eq hagrees hinfo]; rfl

end ShoulderKeyUtils

/-- After saving, a key press finds what is in memory for an enabled package and nothing for the others, and what is
in memory has the coordinates that were saved last, unless both abscissas are zero. -/
theorem lookupCoordinate_saved (keyMappingConfig : List Int) (calls : List StoreCall)
    (hrotations : ∀ call ∈ calls, call.HasRotation) (packageName : String) (rotation : Int) :
    let saved := (stored keyMappingConfig calls).saveAllAppsCoordinate
    (saved.mDB.lookupCoordinate packageName rotation =
        if saved.enabledByRotations packageName [0, 1] then saved.loadCoordinateAt packageName rotation else none) ∧
      ∀ left right, savedLast calls (packageName, rotation) = some (left, right) → ¬(left.1 = 0 ∧ right.1 = 0) →
        saved.loadCoordinateAt packageName rotation = some (left, right) := by
  intro saved
  have hrefines := refines_saved keyMappingConfig hrotations
  have hkeeps : (calls.foldl Mappings.next .empty).memory.Keeps (savedLast calls) :=
    Mappings.keeps_foldl (fun k coordinate hnone => by cases hnone) calls
  refine ⟨hrefines.lookupCoordinate_eq rfl (consistent_stored hrotations).memory packageName rotation, ?_⟩
  intro left right hlast hset
  obtain ⟨info, hinfo, hcoordinate⟩ := hkeeps _ _ hlast
  obtain ⟨hleft, hright⟩ := Prod.mk.inj hcoordinate
  have hnotNull : ¬(info.leftCoordinate.1 = 0 ∧ info.rightCoordinate.1 = 0) := by rwa [hleft, hright]
  rw [hrefines.loadCoordinateAt_eq, hinfo, Option.bind_some, ShoulderKeyInfo.getAllCoordinate, if_neg hnotNull,
    hcoordinate]

/-- A disabled package finds nothing, with its coordinates in memory. -/
theorem lookupCoordinate_saved_disabledBetween :
    ((stored [0] disabledBetween).saveAllAppsCoordinate.mDB.lookupCoordinate "app" 1 = none) ∧
      (stored [0] disabledBetween).saveAllAppsCoordinate.loadCoordinateAt "app" 1 = some ((200, 100), (400, 300)) := by
  have hsaved := lookupCoordinate_saved [0] disabledBetween (by simp [disabledBetween, StoreCall.HasRotation]) "app" 1
  exact ⟨hsaved.1.trans (by decide), hsaved.2 _ _ (by decide) (by decide)⟩

end Penrose.ShoulderKey

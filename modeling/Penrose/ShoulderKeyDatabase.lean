import Penrose.ShoulderKeyFilter

/-! `ShoulderKeyDBHelper`: the table of key mappings and the table that holds the global mode. Saving keeps at
most one row for a package and a rotation. -/

namespace Penrose.ShoulderKey

structure ShoulderKeyInfo where
  packageName : String
  enabled : Bool
  rotation : Int
  leftCoordinate : Int × Int
  rightCoordinate : Int × Int

/-- `getAllCoordinate`: two zero abscissas stand for coordinates that were never set. -/
def ShoulderKeyInfo.getAllCoordinate (info : ShoulderKeyInfo) : Option Coordinates :=
  if info.leftCoordinate.1 = 0 ∧ info.rightCoordinate.1 = 0 then none
  else some (info.leftCoordinate, info.rightCoordinate)

def ShoulderKeyInfo.getEnabledInt (info : ShoulderKeyInfo) : Int := if info.enabled then 1 else 0

/-- A row of the table `KeyMapping`. -/
structure KeyMappingEntry where
  packageName : String
  enabled : Int
  rotation : Int
  leftKeyX : Int
  leftKeyY : Int
  rightKeyX : Int
  rightKeyY : Int
  deriving DecidableEq

namespace KeyMappingEntry

/-- What `getAppsKeyInfo` reads from a row. -/
def info (row : KeyMappingEntry) : ShoulderKeyInfo :=
  ⟨row.packageName, row.enabled == 1, row.rotation, (row.leftKeyX, row.leftKeyY), (row.rightKeyX, row.rightKeyY)⟩

/-- The columns by which rows are selected. -/
def key (row : KeyMappingEntry) : String × Int := (row.packageName, row.rotation)

end KeyMappingEntry

/-- The database: the rows of `KeyMapping` and the modes in `KeyMappingConfig`, whose `_ID` counts from 1. -/
structure ShoulderKeyDB where
  keyMapping : List KeyMappingEntry
  keyMappingConfig : List Int

namespace ShoulderKeyDB

def addAppKeyInfo (db : ShoulderKeyDB) (info : ShoulderKeyInfo) : ShoulderKeyDB :=
  { db with keyMapping := db.keyMapping ++
      [⟨info.packageName, info.getEnabledInt, info.rotation, info.leftCoordinate.1, info.leftCoordinate.2,
        info.rightCoordinate.1, info.rightCoordinate.2⟩] }

def updateAppKeyInfo (db : ShoulderKeyDB) (info : ShoulderKeyInfo) : ShoulderKeyDB :=
  { db with keyMapping := db.keyMapping.map fun row =>
      if row.key = (info.packageName, info.rotation) then
        { row with
          enabled := info.getEnabledInt
          leftKeyX := info.leftCoordinate.1
          leftKeyY := info.leftCoordinate.2
          rightKeyX := info.rightCoordinate.1
          rightKeyY := info.rightCoordinate.2 }
      else row }

def getAppsKeyInfo (db : ShoulderKeyDB) (selection : KeyMappingEntry → Bool) : List ShoulderKeyInfo :=
  (db.keyMapping.filter selection).map KeyMappingEntry.info

def getAllAppsKeyInfo (db : ShoulderKeyDB) : List ShoulderKeyInfo := db.getAppsKeyInfo fun _ => true

def getAppKeyInfo (db : ShoulderKeyDB) (packageName : String) (rotation : Int) : Option ShoulderKeyInfo :=
  (db.getAppsKeyInfo fun row => row.key = (packageName, rotation)).head?

def saveAppKeyInfo (db : ShoulderKeyDB) (info : ShoulderKeyInfo) : ShoulderKeyDB :=
  if (db.getAppKeyInfo info.packageName info.rotation).isSome then db.updateAppKeyInfo info
  else db.addAppKeyInfo info

def deleteAllAppsKeyInfo (db : ShoulderKeyDB) : ShoulderKeyDB := { db with keyMapping := [] }

/-- `getKeyMappingGlobalMode` adds a row for a mode that was never set. -/
def getKeyMappingGlobalMode (db : ShoulderKeyDB) : ShoulderKeyDB × Bool :=
  let enable := db.keyMappingConfig.head?.getD (-1)
  (if enable = -1 then { db with keyMappingConfig := db.keyMappingConfig ++ [0] } else db, enable == 1)

def setKeyMappingGlobalMode (db : ShoulderKeyDB) (enable : Bool) : ShoulderKeyDB :=
  { db with keyMappingConfig := db.keyMappingConfig.map fun _ => if enable then 1 else 0 }

/-! ### Rows -/

/-- Rows are unique per package and rotation. -/
def UniqueRows (db : ShoulderKeyDB) : Prop := (db.keyMapping.map KeyMappingEntry.key).Nodup

/-- The enabled row of a package and a rotation has the coordinates. -/
def Stores (db : ShoulderKeyDB) (packageName : String) (rotation : Int) (coordinate : Coordinates) : Prop :=
  ∃ row ∈ db.keyMapping, row.packageName = packageName ∧ row.rotation = rotation ∧ row.enabled = 1 ∧
    row.info.getAllCoordinate = some coordinate

variable {db : ShoulderKeyDB}

theorem getAppKeyInfo_eq_some (hunique : db.UniqueRows) {packageName : String} {rotation : Int}
    {info : ShoulderKeyInfo} :
    db.getAppKeyInfo packageName rotation = some info ↔
      ∃ row ∈ db.keyMapping, row.key = (packageName, rotation) ∧ row.info = info := by
  unfold UniqueRows at hunique
  rw [getAppKeyInfo, getAppsKeyInfo, List.head?_map, List.head?_filter, Option.map_eq_some_iff]
  refine ⟨?_, ?_⟩
  · rintro ⟨row, hfind, hinfo⟩
    exact ⟨row, List.mem_of_find?_eq_some hfind, by simpa using List.find?_some hfind, hinfo⟩
  · rintro ⟨row, hrow, hkey, hinfo⟩
    refine ⟨row, ?_, hinfo⟩
    obtain ⟨found, hfind⟩ : ∃ found,
        db.keyMapping.find? (fun row => row.key = (packageName, rotation)) = some found := by
      rw [← Option.isSome_iff_exists, List.find?_isSome]
      exact ⟨row, hrow, by simpa using hkey⟩
    have hfound : found.key = (packageName, rotation) := by simpa using List.find?_some hfind
    obtain rfl := List.inj_on_of_nodup_map hunique (List.mem_of_find?_eq_some hfind) hrow (hfound.trans hkey.symm)
    exact hfind

theorem getAppKeyInfo_eq_none {packageName : String} {rotation : Int} :
    db.getAppKeyInfo packageName rotation = none ↔
      (packageName, rotation) ∉ db.keyMapping.map KeyMappingEntry.key := by
  calc db.getAppKeyInfo packageName rotation = none
      ↔ db.keyMapping.find? (fun row => row.key = (packageName, rotation)) = none := by
        rw [getAppKeyInfo, getAppsKeyInfo, List.head?_map, List.head?_filter, Option.map_eq_none_iff]
    _ ↔ (packageName, rotation) ∉ db.keyMapping.map KeyMappingEntry.key := by
        rw [List.find?_eq_none, List.mem_map]
        simp

theorem UniqueRows.saveAppKeyInfo (hunique : db.UniqueRows) (info : ShoulderKeyInfo) :
    (db.saveAppKeyInfo info).UniqueRows := by
  rw [ShoulderKeyDB.saveAppKeyInfo]
  split_ifs with hrow
  · have hkeys : (db.updateAppKeyInfo info).keyMapping.map KeyMappingEntry.key =
        db.keyMapping.map KeyMappingEntry.key := by
      rw [updateAppKeyInfo, List.map_map]
      apply List.map_congr_left
      intro row _
      rw [Function.comp_apply]
      split_ifs <;> rfl
    rwa [UniqueRows, hkeys]
  · have hfresh := getAppKeyInfo_eq_none.mp (Option.not_isSome_iff_eq_none.mp hrow)
    rw [UniqueRows, addAppKeyInfo, List.map_append, List.map_singleton, List.nodup_append]
    refine ⟨hunique, List.nodup_singleton _, fun key hkey key' hkey' => ?_⟩
    rw [List.mem_singleton] at hkey'
    subst hkey'
    intro heq
    subst heq
    exact hfresh hkey

end ShoulderKeyDB

end Penrose.ShoulderKey

import Penrose.KeyedLists
import Penrose.ShoulderKeyLookup

/-! The mappings that a `ShoulderKeyUtils` holds in memory, and those of its table. Both are maps from packages and
rotations, and saving makes one of the other. -/

namespace Penrose.ShoulderKey

def ShoulderKeyInfo.key (info : ShoulderKeyInfo) : String × Int := (info.packageName, info.rotation)

/-- `setAllCoordinate`. -/
def ShoulderKeyInfo.setAllCoordinate (info : ShoulderKeyInfo) (left right : Int × Int) : ShoulderKeyInfo :=
  { info with leftCoordinate := left, rightCoordinate := right }

def ShoulderKeyInfo.setEnabled (info : ShoulderKeyInfo) (enabled : Bool) : ShoulderKeyInfo :=
  { info with enabled := enabled }

/-- What a key press looks up: `getAppKeyInfo`, then `getEnabled`, then `getAllCoordinate`. -/
def ShoulderKeyDB.lookupCoordinate (db : ShoulderKeyDB) (packageName : String) (rotation : Int) :
    Option Coordinates :=
  match db.getAppKeyInfo packageName rotation with
  | none => none
  | some info => if info.enabled then info.getAllCoordinate else none

namespace ShoulderKeyUtils

variable (utils : ShoulderKeyUtils)

def getAppInfo (packageName : String) (rotation : Int) : Option ShoulderKeyInfo :=
  utils.mInfoList.find? fun info => info.packageName = packageName ∧ info.rotation = rotation

/-- `saveCoordinate` of a package and a rotation. -/
def saveCoordinateAt (packageName : String) (rotation : Int) (left right : Int × Int) : ShoulderKeyUtils :=
  { utils with
    mInfoList := editAppInfo utils.mInfoList packageName rotation (fun info => info.setAllCoordinate left right)
      ⟨packageName, true, rotation, left, right⟩ }

/-- `loadCoordinate` of a package and a rotation. -/
def loadCoordinateAt (packageName : String) (rotation : Int) : Option Coordinates :=
  match utils.getAppInfo packageName rotation with
  | some info => info.getAllCoordinate
  | none => none

/-- `loadCoordinate` of a package; `rotation` is that of the display. -/
def loadCoordinate (packageName : String) (rotation : Int) : ShoulderKeyUtils × Option Coordinates :=
  let (utils, globalMode) := utils.getKeyMappingGlobalMode
  (utils, utils.loadCoordinateAt (if globalMode then globalModePackage else packageName) (rotationClass rotation))

/-- The loop of `getEnabledByPackage`. -/
def enabledByRotations (packageName : String) : List Int → Bool
  | [] => false
  | i :: rotations =>
      match utils.getAppInfo packageName i with
      | some info => info.enabled
      | none => enabledByRotations packageName rotations

def getEnabledByPackage (packageName : String) : ShoulderKeyUtils × Bool :=
  let (utils, globalMode) := utils.getKeyMappingGlobalMode
  (utils, if globalMode then true else utils.enabledByRotations packageName [0, 1])

/-- Saving for the package on the display is saving for that of the mode. -/
theorem saveCoordinate_eq (packageName : String) (rotation : Int) (left right : Int × Int) :
    utils.saveCoordinate packageName rotation left right =
      utils.getKeyMappingGlobalMode.1.saveCoordinateAt
        (if utils.getKeyMappingGlobalMode.2 then globalModePackage else packageName) (rotationClass rotation)
        left right := rfl

/-- The lookup of the task package is that of the database. -/
theorem loadCoordinateByTaskPackage_snd :
    utils.loadCoordinateByTaskPackage.2 =
      utils.getKeyMappingGlobalMode.1.mDB.lookupCoordinate
        (if utils.getKeyMappingGlobalMode.2 then globalModePackage else utils.mPackageName) utils.mRotation := by
  rw [loadCoordinateByTaskPackage, ShoulderKeyDB.lookupCoordinate, getKeyMappingGlobalMode]
  cases utils.mDB.getKeyMappingGlobalMode.2 with
  | true =>
      simp only [if_true]
      cases utils.mDB.getKeyMappingGlobalMode.1.getAppKeyInfo globalModePackage utils.mRotation <;> rfl
  | false =>
      simp only [Bool.false_eq_true, if_false]
      cases utils.mDB.getKeyMappingGlobalMode.1.getAppKeyInfo utils.mPackageName utils.mRotation <;> rfl

end ShoulderKeyUtils

/-- The calls that change what is held. -/
inductive StoreCall where
  | saveCoordinate (packageName : String) (rotation : Int) (left right : Int × Int)
  | setEnabledByPackage (packageName : String) (enabled : Bool)
  | saveAllAppsCoordinate
  | resetAllAppsCoordinate

namespace StoreCall

def apply (utils : ShoulderKeyUtils) : StoreCall → ShoulderKeyUtils
  | .saveCoordinate packageName rotation left right => utils.saveCoordinateAt packageName rotation left right
  | .setEnabledByPackage packageName enabled => utils.setEnabledByPackage packageName enabled
  | .saveAllAppsCoordinate => utils.saveAllAppsCoordinate
  | .resetAllAppsCoordinate => utils.resetAllAppsCoordinate

/-- The rotation is one of the two that `getRotationId` has. -/
def HasRotation : StoreCall → Prop
  | .saveCoordinate _ rotation _ _ => rotation = 0 ∨ rotation = 1
  | _ => True

end StoreCall

/-! ### Maps of mappings -/

/-- Mappings by package and rotation. -/
abbrev Mapping := String × Int → Option ShoulderKeyInfo

/-- What is in memory and what is in the table. -/
structure Mappings where
  memory : Mapping
  table : Mapping

namespace Mapping

def empty : Mapping := fun _ => none

/-- One mapping is edited, or a fresh one is written. -/
def write (mapping : Mapping) (k : String × Int) (edit : ShoulderKeyInfo → ShoulderKeyInfo) (fresh : ShoulderKeyInfo) :
    Mapping :=
  Function.update mapping k (some ((mapping k).elim fresh edit))

end Mapping

namespace Mappings

def empty : Mappings := ⟨.empty, .empty⟩

/-- What a call does to the maps; saving keeps what is in the table only. -/
def next (mappings : Mappings) : StoreCall → Mappings
  | .saveCoordinate packageName rotation left right =>
      { mappings with
        memory := mappings.memory.write (packageName, rotation) (fun info => info.setAllCoordinate left right)
          ⟨packageName, true, rotation, left, right⟩ }
  | .setEnabledByPackage packageName enabled =>
      let set (memory : Mapping) (i : Int) :=
        memory.write (packageName, i) (fun info => info.setEnabled enabled) ⟨packageName, enabled, i, (0, 0), (0, 0)⟩
      { mappings with memory := set (set mappings.memory 0) 1 }
  | .saveAllAppsCoordinate =>
      let saved (k : String × Int) := (mappings.memory k).or (mappings.table k)
      ⟨saved, saved⟩
  | .resetAllAppsCoordinate => empty

end Mappings

/-- The lists have unique keys, and are the maps. -/
structure ShoulderKeyUtils.Refines (utils : ShoulderKeyUtils) (mappings : Mappings) : Prop where
  uniqueInfos : UniqueKeys ShoulderKeyInfo.key utils.mInfoList
  uniqueRows : utils.mDB.UniqueRows
  memory : ∀ k, findKey ShoulderKeyInfo.key utils.mInfoList k = mappings.memory k
  table : ∀ packageName rotation,
    utils.mDB.getAppKeyInfo packageName rotation = mappings.table (packageName, rotation)

namespace ShoulderKeyUtils

variable {utils : ShoulderKeyUtils} {mappings : Mappings}

theorem editAppInfo_eq (infos : List ShoulderKeyInfo) (packageName : String) (rotation : Int)
    (edit : ShoulderKeyInfo → ShoulderKeyInfo) (fresh : ShoulderKeyInfo) :
    editAppInfo infos packageName rotation edit fresh =
      upsertKey ShoulderKeyInfo.key (packageName, rotation) edit fresh infos := by
  induction infos with
  | nil => rfl
  | cons info rest ih => simp only [editAppInfo, upsertKey, ih, ShoulderKeyInfo.key, Prod.mk.injEq]

theorem getAppInfo_eq (utils : ShoulderKeyUtils) (packageName : String) (rotation : Int) :
    utils.getAppInfo packageName rotation = findKey ShoulderKeyInfo.key utils.mInfoList (packageName, rotation) := by
  simp only [getAppInfo, findKey, ShoulderKeyInfo.key, Prod.mk.injEq]

end ShoulderKeyUtils

namespace ShoulderKeyDB

variable (db : ShoulderKeyDB) (packageName : String) (rotation : Int)

theorem getAppKeyInfo_eq : db.getAppKeyInfo packageName rotation =
    (findKey KeyMappingEntry.key db.keyMapping (packageName, rotation)).map KeyMappingEntry.info := by
  rw [getAppKeyInfo, getAppsKeyInfo, List.head?_map, List.head?_filter, findKey]

/-- The row that `addAppKeyInfo` inserts. -/
def entryOf (info : ShoulderKeyInfo) : KeyMappingEntry :=
  ⟨info.packageName, info.getEnabledInt, info.rotation, info.leftCoordinate.1, info.leftCoordinate.2,
    info.rightCoordinate.1, info.rightCoordinate.2⟩

@[simp] theorem key_entryOf (info : ShoulderKeyInfo) : (entryOf info).key = info.key := rfl

/-- A row reads back as what it was made of. -/
@[simp] theorem info_entryOf (info : ShoulderKeyInfo) : (entryOf info).info = info := by
  have henabled : (info.getEnabledInt == 1) = info.enabled := by
    rw [ShoulderKeyInfo.getEnabledInt]
    cases info.enabled <;> rfl
  rw [KeyMappingEntry.info, entryOf, henabled]

/-- An update makes the row that an insertion would. -/
theorem keyMapping_updateAppKeyInfo (info : ShoulderKeyInfo) :
    (db.updateAppKeyInfo info).keyMapping =
      mapKey KeyMappingEntry.key info.key (fun _ => entryOf info) db.keyMapping := by
  apply List.map_congr_left
  intro row _
  by_cases hkey : row.key = info.key
  · obtain ⟨hpackage, hrotation⟩ := Prod.mk.inj hkey
    rw [if_pos hkey, entryOf, ← hpackage, ← hrotation]
    exact if_pos rfl
  · rw [if_neg hkey]
    exact if_neg hkey

/-- What is saved is found, and what is found elsewhere stays. -/
theorem getAppKeyInfo_saveAppKeyInfo (info : ShoulderKeyInfo) :
    (db.saveAppKeyInfo info).getAppKeyInfo packageName rotation =
      if (packageName, rotation) = info.key then some info else db.getAppKeyInfo packageName rotation := by
  have hedit (row : KeyMappingEntry) (_ : row.key = info.key) : (entryOf info).key = info.key := rfl
  have hadded : (db.addAppKeyInfo info).keyMapping = db.keyMapping ++ [entryOf info] := rfl
  rw [saveAppKeyInfo]
  split_ifs with hfound hkey hkey
  · rw [getAppKeyInfo_eq, Option.isSome_map] at hfound
    obtain ⟨row, hrow⟩ := Option.isSome_iff_exists.mp hfound
    calc (db.updateAppKeyInfo info).getAppKeyInfo packageName rotation
        = ((findKey KeyMappingEntry.key db.keyMapping info.key).map fun _ => entryOf info).map
            KeyMappingEntry.info := by
          rw [getAppKeyInfo_eq, keyMapping_updateAppKeyInfo, findKey_mapKey hedit, if_pos hkey]
      _ = some (entryOf info).info := by
          rw [ShoulderKeyInfo.key, hrow]
          rfl
      _ = some info := by rw [info_entryOf]
  · rw [getAppKeyInfo_eq, keyMapping_updateAppKeyInfo, findKey_mapKey hedit, if_neg hkey, getAppKeyInfo_eq]
  · have hfresh : info.key ∉ db.keyMapping.map KeyMappingEntry.key :=
      getAppKeyInfo_eq_none.mp (Option.not_isSome_iff_eq_none.mp hfound)
    rw [getAppKeyInfo_eq, hadded, findKey_concat hfresh (key_entryOf info), if_pos hkey, Option.map_some, info_entryOf]
  · have hfresh : info.key ∉ db.keyMapping.map KeyMappingEntry.key :=
      getAppKeyInfo_eq_none.mp (Option.not_isSome_iff_eq_none.mp hfound)
    rw [getAppKeyInfo_eq, hadded, findKey_concat hfresh (key_entryOf info), if_neg hkey, getAppKeyInfo_eq]

/-- What is found after saving a list is that of the list, and then that of the table. -/
theorem getAppKeyInfo_foldl {infos : List ShoulderKeyInfo} (hunique : UniqueKeys ShoulderKeyInfo.key infos) :
    (infos.foldl saveAppKeyInfo db).getAppKeyInfo packageName rotation =
      (findKey ShoulderKeyInfo.key infos (packageName, rotation)).or (db.getAppKeyInfo packageName rotation) := by
  induction infos generalizing db with
  | nil => rfl
  | cons info rest ih =>
      obtain ⟨hfresh, hrest⟩ := List.nodup_cons.mp hunique
      rw [List.foldl_cons, ih (db.saveAppKeyInfo info) hrest, getAppKeyInfo_saveAppKeyInfo, findKey_cons]
      by_cases hkey : info.key = (packageName, rotation)
      · rw [hkey] at hfresh ⊢
        rw [findKey_eq_none.mpr hfresh]
        simp
      · simp [hkey, Ne.symm hkey]

theorem findKey_getAllAppsKeyInfo :
    findKey ShoulderKeyInfo.key db.getAllAppsKeyInfo (packageName, rotation) =
      db.getAppKeyInfo packageName rotation := by
  rw [getAppKeyInfo_eq, getAllAppsKeyInfo, getAppsKeyInfo, List.filter_true, findKey, List.find?_map]
  rfl

theorem uniqueKeys_getAllAppsKeyInfo (hunique : db.UniqueRows) :
    UniqueKeys ShoulderKeyInfo.key db.getAllAppsKeyInfo := by
  rw [UniqueKeys, getAllAppsKeyInfo, getAppsKeyInfo, List.filter_true, List.map_map]
  exact hunique

end ShoulderKeyDB

/-! ### Refinement -/

theorem Mapping.write_apply (mapping : Mapping) (k k' : String × Int) (edit : ShoulderKeyInfo → ShoulderKeyInfo)
    (fresh : ShoulderKeyInfo) :
    mapping.write k edit fresh k' = if k' = k then some ((mapping k).elim fresh edit) else mapping k' :=
  Function.update_apply ..

namespace ShoulderKeyUtils

variable {utils : ShoulderKeyUtils} {mappings : Mappings}

/-- Editing the list is writing the map. -/
theorem Refines.edit (h : utils.Refines mappings) {packageName : String} {rotation : Int}
    {edit : ShoulderKeyInfo → ShoulderKeyInfo} {fresh : ShoulderKeyInfo} (hedit : ∀ info, (edit info).key = info.key)
    (hfresh : fresh.key = (packageName, rotation)) :
    Refines { utils with mInfoList := editAppInfo utils.mInfoList packageName rotation edit fresh }
      { mappings with memory := mappings.memory.write (packageName, rotation) edit fresh } := by
  have hkeeps (info : ShoulderKeyInfo) (hkey : info.key = (packageName, rotation)) :
      (edit info).key = (packageName, rotation) := (hedit info).trans hkey
  refine ⟨?_, h.uniqueRows, fun k => ?_, h.table⟩
  · rw [editAppInfo_eq]
    exact h.uniqueInfos.upsertKey hkeeps hfresh
  · rw [editAppInfo_eq, findKey_upsertKey hkeeps hfresh, h.memory, h.memory]
    exact (Mapping.write_apply ..).symm

/-- The calls do to the maps what the abstract ones do. -/
theorem Refines.next (h : utils.Refines mappings) (call : StoreCall) :
    (call.apply utils).Refines (mappings.next call) := by
  cases call with
  | saveCoordinate packageName rotation left right => exact h.edit (fun _ => rfl) rfl
  | setEnabledByPackage packageName enabled =>
      have hset {utils : ShoulderKeyUtils} {mappings : Mappings} (h : utils.Refines mappings) (i : Int) :
          Refines
            { utils with
              mInfoList := editAppInfo utils.mInfoList packageName i (fun info => info.setEnabled enabled)
                ⟨packageName, enabled, i, (0, 0), (0, 0)⟩ }
            { mappings with
              memory := mappings.memory.write (packageName, i) (fun info => info.setEnabled enabled)
                ⟨packageName, enabled, i, (0, 0), (0, 0)⟩ } :=
        h.edit (fun _ => rfl) rfl
      exact hset (hset h 0) 1
  | saveAllAppsCoordinate =>
      have hunique := Watched.uniqueRows_foldl h.uniqueRows utils.mInfoList
      have hsaved (packageName : String) (rotation : Int) :
          (utils.mInfoList.foldl ShoulderKeyDB.saveAppKeyInfo utils.mDB).getAppKeyInfo packageName rotation =
            (mappings.memory (packageName, rotation)).or (mappings.table (packageName, rotation)) := by
        rw [ShoulderKeyDB.getAppKeyInfo_foldl _ _ _ h.uniqueInfos, h.memory, h.table]
      refine ⟨ShoulderKeyDB.uniqueKeys_getAllAppsKeyInfo _ hunique, hunique, fun k => ?_, hsaved⟩
      let saved := utils.mInfoList.foldl ShoulderKeyDB.saveAppKeyInfo utils.mDB
      calc findKey ShoulderKeyInfo.key saved.getAllAppsKeyInfo k = saved.getAppKeyInfo k.1 k.2 :=
            ShoulderKeyDB.findKey_getAllAppsKeyInfo _ k.1 k.2
        _ = (mappings.memory k).or (mappings.table k) := hsaved k.1 k.2
  | resetAllAppsCoordinate => exact ⟨List.nodup_nil, List.nodup_nil, fun _ => rfl, fun _ _ => rfl⟩

theorem Refines.create (keyMappingConfig : List Int) : (create ⟨[], keyMappingConfig⟩).Refines .empty :=
  ⟨List.nodup_nil, List.nodup_nil, fun _ => rfl, fun _ _ => rfl⟩

theorem Refines.foldl (h : utils.Refines mappings) (calls : List StoreCall) :
    (calls.foldl StoreCall.apply utils).Refines (calls.foldl Mappings.next mappings) := by
  induction calls generalizing utils mappings with
  | nil => exact h
  | cons call calls ih => exact ih (h.next call)

end ShoulderKeyUtils

end Penrose.ShoulderKey

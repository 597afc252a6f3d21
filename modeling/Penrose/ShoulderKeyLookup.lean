import Penrose.Runs
import Penrose.ShoulderKeyDatabase

/-! `ShoulderKeyUtils` with its task listener: which mapping a key lookup finds. Looking up in global mode
overwrites the foreground package, so that a lookup is right exactly as long as global mode is on, or no such
lookup has come since the task listener last reported, or both packages have the same mapping. -/

namespace Penrose.ShoulderKey

def globalModePackage : String := "global.keymapping.package"

structure ShoulderKeyUtils where
  mDB : ShoulderKeyDB
  mInfoList : List ShoulderKeyInfo
  mRotation : Int
  mPackageName : String

/-- The rotations of a `Surface` by orientation: `ROTATION_0` and `ROTATION_180`, `ROTATION_90` and
`ROTATION_270`. -/
def rotationClass (rotation : Int) : Int :=
  if rotation = 0 ∨ rotation = 2 then 0 else if rotation = 1 ∨ rotation = 3 then 1 else rotation

namespace ShoulderKeyUtils

/-- The constructor with `enableTaskListener`. -/
def create (db : ShoulderKeyDB) : ShoulderKeyUtils := ⟨db, db.getAllAppsKeyInfo, 0, ""⟩

/-- `onTaskStackChanged`; there is no package when no stack is focused or the query fails. -/
def onTaskStackChanged (utils : ShoulderKeyUtils) (packageName : Option String) : ShoulderKeyUtils :=
  match packageName with
  | none => utils
  | some packageName =>
      if utils.mPackageName ≠ packageName then { utils with mPackageName := packageName } else utils

def onRotationChanged (utils : ShoulderKeyUtils) (rotation : Int) : ShoulderKeyUtils :=
  if utils.mRotation ≠ rotationClass rotation then { utils with mRotation := rotationClass rotation } else utils

def getKeyMappingGlobalMode (utils : ShoulderKeyUtils) : ShoulderKeyUtils × Bool :=
  ({ utils with mDB := utils.mDB.getKeyMappingGlobalMode.1 }, utils.mDB.getKeyMappingGlobalMode.2)

def setKeyMappingGlobalMode (utils : ShoulderKeyUtils) (enable : Bool) : ShoulderKeyUtils :=
  { utils with mDB := utils.mDB.setKeyMappingGlobalMode enable }

/-- The list with the first entry that `getAppInfo` finds changed, or with a new one. -/
def editAppInfo (infos : List ShoulderKeyInfo) (packageName : String) (rotation : Int)
    (edit : ShoulderKeyInfo → ShoulderKeyInfo) (fresh : ShoulderKeyInfo) : List ShoulderKeyInfo :=
  match infos with
  | [] => [fresh]
  | info :: rest =>
      if info.packageName = packageName ∧ info.rotation = rotation then edit info :: rest
      else info :: editAppInfo rest packageName rotation edit fresh

/-- `saveCoordinate` of a package; `rotation` is that of the display. -/
def saveCoordinate (utils : ShoulderKeyUtils) (packageName : String) (rotation : Int) (left right : Int × Int) :
    ShoulderKeyUtils :=
  let (utils, globalMode) := utils.getKeyMappingGlobalMode
  let packageName := if globalMode then globalModePackage else packageName
  { utils with
    mInfoList := editAppInfo utils.mInfoList packageName (rotationClass rotation)
      (fun info => { info with leftCoordinate := left, rightCoordinate := right })
      ⟨packageName, true, rotationClass rotation, left, right⟩ }

def setEnabledByPackage (utils : ShoulderKeyUtils) (packageName : String) (enabled : Bool) : ShoulderKeyUtils :=
  let set (infos : List ShoulderKeyInfo) (i : Int) :=
    editAppInfo infos packageName i (fun info => { info with enabled := enabled })
      ⟨packageName, enabled, i, (0, 0), (0, 0)⟩
  { utils with mInfoList := set (set utils.mInfoList 0) 1 }

def saveAllAppsCoordinate (utils : ShoulderKeyUtils) : ShoulderKeyUtils :=
  let db := utils.mInfoList.foldl ShoulderKeyDB.saveAppKeyInfo utils.mDB
  { utils with mDB := db, mInfoList := db.getAllAppsKeyInfo }

def resetAllAppsCoordinate (utils : ShoulderKeyUtils) : ShoulderKeyUtils :=
  { utils with mDB := utils.mDB.deleteAllAppsKeyInfo, mInfoList := [] }

def loadCoordinateByTaskPackage (utils : ShoulderKeyUtils) : ShoulderKeyUtils × Option Coordinates :=
  let (utils, globalMode) := utils.getKeyMappingGlobalMode
  let utils := if globalMode then { utils with mPackageName := globalModePackage } else utils
  match utils.mDB.getAppKeyInfo utils.mPackageName utils.mRotation with
  | none => (utils, none)
  | some info => (utils, if info.enabled then info.getAllCoordinate else none)

end ShoulderKeyUtils

/-- What can happen to a `ShoulderKeyUtils` and its database. The last two are calls on another
`ShoulderKeyUtils` of the same database. -/
inductive UtilsCall where
  | onTaskStackChanged (packageName : Option String)
  | onRotationChanged (rotation : Int)
  | setKeyMappingGlobalMode (enable : Bool)
  | saveCoordinate (packageName : String) (rotation : Int) (left right : Int × Int)
  | setEnabledByPackage (packageName : String) (enabled : Bool)
  | saveAllAppsCoordinate
  | resetAllAppsCoordinate
  | loadCoordinateByTaskPackage
  | saveAppKeyInfo (info : ShoulderKeyInfo)
  | deleteAllAppsKeyInfo

open ShoulderKeyUtils in
def UtilsCall.apply (utils : ShoulderKeyUtils) : UtilsCall → ShoulderKeyUtils
  | .onTaskStackChanged packageName => utils.onTaskStackChanged packageName
  | .onRotationChanged rotation => utils.onRotationChanged rotation
  | .setKeyMappingGlobalMode enable => utils.setKeyMappingGlobalMode enable
  | .saveCoordinate packageName rotation left right => utils.saveCoordinate packageName rotation left right
  | .setEnabledByPackage packageName enabled => utils.setEnabledByPackage packageName enabled
  | .saveAllAppsCoordinate => utils.saveAllAppsCoordinate
  | .resetAllAppsCoordinate => utils.resetAllAppsCoordinate
  | .loadCoordinateByTaskPackage => utils.loadCoordinateByTaskPackage.1
  | .saveAppKeyInfo info => { utils with mDB := utils.mDB.saveAppKeyInfo info }
  | .deleteAllAppsKeyInfo => { utils with mDB := utils.mDB.deleteAllAppsKeyInfo }

/-- A `ShoulderKeyUtils` with what was reported to it: the last package and rotation class, and whether a
lookup in global mode has come since that package. -/
structure Watched where
  utils : ShoulderKeyUtils
  packageName : String
  rotation : Int
  overwritten : Bool

namespace Watched

def start (db : ShoulderKeyDB) : Watched := ⟨.create db, "", 0, false⟩

/-- Global mode is on. -/
def GlobalMode (w : Watched) : Prop := w.utils.mDB.keyMappingConfig.head? = some 1

instance (w : Watched) : Decidable w.GlobalMode := inferInstanceAs (Decidable (_ = _))

def next (w : Watched) (call : UtilsCall) : Watched :=
  let utils := call.apply w.utils
  match call with
  | .onTaskStackChanged (some packageName) => ⟨utils, packageName, w.rotation, false⟩
  | .onRotationChanged rotation => { w with utils := utils, rotation := rotationClass rotation }
  | .loadCoordinateByTaskPackage => { w with utils := utils, overwritten := w.overwritten || decide w.GlobalMode }
  | _ => { w with utils := utils }

/-- A lookup returns the coordinates of the enabled row for the package in question, or null. -/
def FollowsForeground (w : Watched) : UtilsCall → Prop
  | .loadCoordinateByTaskPackage => ∀ coordinate, w.utils.loadCoordinateByTaskPackage.2 = some coordinate ↔
      w.utils.mDB.Stores (if w.GlobalMode then globalModePackage else w.packageName) w.rotation coordinate
  | _ => True

/-- A lookup outside global mode comes with no lookup in global mode since the last report, or finds the same
mapping for both packages. -/
def Unmixed (w : Watched) : UtilsCall → Prop
  | .loadCoordinateByTaskPackage => w.GlobalMode ∨ w.overwritten = false ∨
      ∀ coordinate, w.utils.mDB.Stores globalModePackage w.rotation coordinate ↔
        w.utils.mDB.Stores w.packageName w.rotation coordinate
  | _ => True

/-- The package looked up is the reported one or the one of global mode. -/
structure Inv (w : Watched) : Prop where
  unique : w.utils.mDB.UniqueRows
  rotation : w.utils.mRotation = w.rotation
  packageName : w.utils.mPackageName = if w.overwritten then globalModePackage else w.packageName

theorem Inv.start {db : ShoulderKeyDB} (hunique : db.UniqueRows) : (start db).Inv := ⟨hunique, rfl, rfl⟩

end Watched

/-! ### One lookup -/

theorem ShoulderKeyDB.getKeyMappingGlobalMode_snd (db : ShoulderKeyDB) :
    db.getKeyMappingGlobalMode.2 = true ↔ db.keyMappingConfig.head? = some 1 := by
  rw [getKeyMappingGlobalMode]
  cases db.keyMappingConfig.head? <;> simp

theorem ShoulderKeyDB.keyMapping_getKeyMappingGlobalMode (db : ShoulderKeyDB) :
    db.getKeyMappingGlobalMode.1.keyMapping = db.keyMapping := by
  rw [getKeyMappingGlobalMode]
  split_ifs <;> rfl

theorem ShoulderKeyDB.stores_iff {db : ShoulderKeyDB} (hunique : db.UniqueRows) {packageName : String}
    {rotation : Int} {coordinate : Coordinates} :
    db.Stores packageName rotation coordinate ↔ ∃ info, db.getAppKeyInfo packageName rotation = some info ∧
      info.enabled = true ∧ info.getAllCoordinate = some coordinate := by
  simp only [getAppKeyInfo_eq_some hunique]
  refine ⟨?_, ?_⟩
  · rintro ⟨row, hrow, hpackage, hrotation, henabled, hcoordinate⟩
    exact ⟨row.info, ⟨row, hrow, Prod.ext hpackage hrotation, rfl⟩, beq_iff_eq.mpr henabled, hcoordinate⟩
  · rintro ⟨info, ⟨row, hrow, hkey, rfl⟩, henabled, hcoordinate⟩
    exact ⟨row, hrow, (Prod.mk.inj hkey).1, (Prod.mk.inj hkey).2, beq_iff_eq.mp henabled, hcoordinate⟩

namespace ShoulderKeyUtils

variable (utils : ShoulderKeyUtils)

theorem onTaskStackChanged_some (packageName : String) :
    utils.onTaskStackChanged (some packageName) = { utils with mPackageName := packageName } := by
  rw [onTaskStackChanged]
  split_ifs with hne
  · rfl
  · rw [← not_not.mp hne]

theorem onRotationChanged_eq (rotation : Int) :
    utils.onRotationChanged rotation = { utils with mRotation := rotationClass rotation } := by
  rw [onRotationChanged]
  split_ifs with hne
  · rfl
  · rw [← not_not.mp hne]

theorem loadCoordinateByTaskPackage_fst :
    utils.loadCoordinateByTaskPackage.1 = { utils with
      mDB := utils.mDB.getKeyMappingGlobalMode.1
      mPackageName := if utils.mDB.getKeyMappingGlobalMode.2 then globalModePackage else utils.mPackageName } := by
  rw [loadCoordinateByTaskPackage, getKeyMappingGlobalMode]
  cases utils.mDB.getKeyMappingGlobalMode.2 <;> simp only <;> split <;> rfl

/-- A lookup returns the coordinates of the enabled row for the package it looks up. -/
theorem loadCoordinateByTaskPackage_eq_some (hunique : utils.mDB.UniqueRows) (coordinate : Coordinates) :
    utils.loadCoordinateByTaskPackage.2 = some coordinate ↔
      utils.mDB.Stores (if utils.mDB.getKeyMappingGlobalMode.2 then globalModePackage else utils.mPackageName)
        utils.mRotation coordinate := by
  have hinfo : ∀ packageName, utils.mDB.getKeyMappingGlobalMode.1.getAppKeyInfo packageName utils.mRotation =
      utils.mDB.getAppKeyInfo packageName utils.mRotation := by
    intro packageName
    rw [ShoulderKeyDB.getAppKeyInfo, ShoulderKeyDB.getAppsKeyInfo,
      ShoulderKeyDB.keyMapping_getKeyMappingGlobalMode]
    rfl
  have hresult : ∀ packageName, (match utils.mDB.getAppKeyInfo packageName utils.mRotation with
      | none => none
      | some info => if info.enabled then info.getAllCoordinate else none) = some coordinate ↔
        utils.mDB.Stores packageName utils.mRotation coordinate := by
    intro packageName
    rw [ShoulderKeyDB.stores_iff hunique]
    cases utils.mDB.getAppKeyInfo packageName utils.mRotation <;> simp
  rw [loadCoordinateByTaskPackage, getKeyMappingGlobalMode, ← hresult]
  cases utils.mDB.getKeyMappingGlobalMode.2
  · simp only [Bool.false_eq_true, if_false, hinfo]
    cases utils.mDB.getAppKeyInfo utils.mPackageName utils.mRotation <;> rfl
  · simp only [if_true, hinfo]
    cases utils.mDB.getAppKeyInfo globalModePackage utils.mRotation <;> rfl

end ShoulderKeyUtils

namespace Watched

variable {w : Watched}

theorem Inv.load_eq_some (h : w.Inv) (coordinate : Coordinates) :
    w.utils.loadCoordinateByTaskPackage.2 = some coordinate ↔
      w.utils.mDB.Stores (if w.GlobalMode then globalModePackage else
        if w.overwritten then globalModePackage else w.packageName) w.rotation coordinate := by
  rw [w.utils.loadCoordinateByTaskPackage_eq_some h.unique, h.rotation, h.packageName]
  by_cases hmode : w.GlobalMode
  · rw [if_pos ((ShoulderKeyDB.getKeyMappingGlobalMode_snd _).mpr hmode), if_pos hmode]
  · rw [if_neg (mt (ShoulderKeyDB.getKeyMappingGlobalMode_snd _).mp hmode), if_neg hmode]

theorem Inv.followsForeground_iff (h : w.Inv) (call : UtilsCall) : w.FollowsForeground call ↔ w.Unmixed call := by
  cases call with
  | loadCoordinateByTaskPackage =>
      simp only [FollowsForeground, Unmixed, h.load_eq_some]
      by_cases hmode : w.GlobalMode
      · simp [hmode]
      · cases w.overwritten <;> simp [hmode]
  | _ => exact Iff.rfl

theorem uniqueRows_foldl {db : ShoulderKeyDB} (hunique : db.UniqueRows) (infos : List ShoulderKeyInfo) :
    (infos.foldl ShoulderKeyDB.saveAppKeyInfo db).UniqueRows := by
  induction infos generalizing db with
  | nil => exact hunique
  | cons info rest ih => exact ih (hunique.saveAppKeyInfo info)

/-- The rows stay unique, whatever is called. -/
theorem uniqueRows_apply {utils : ShoulderKeyUtils} (hunique : utils.mDB.UniqueRows) (call : UtilsCall) :
    (call.apply utils).mDB.UniqueRows := by
  have hmode : utils.mDB.getKeyMappingGlobalMode.1.UniqueRows := by
    rw [ShoulderKeyDB.UniqueRows, ShoulderKeyDB.keyMapping_getKeyMappingGlobalMode]
    exact hunique
  cases call with
  | onTaskStackChanged packageName =>
      cases packageName with
      | none => exact hunique
      | some packageName =>
          rw [UtilsCall.apply, ShoulderKeyUtils.onTaskStackChanged]
          split_ifs <;> exact hunique
  | onRotationChanged rotation =>
      rw [UtilsCall.apply, ShoulderKeyUtils.onRotationChanged]
      split_ifs <;> exact hunique
  | setKeyMappingGlobalMode enable => exact hunique
  | saveCoordinate packageName rotation left right => exact hmode
  | setEnabledByPackage packageName enabled => exact hunique
  | saveAllAppsCoordinate => exact uniqueRows_foldl hunique _
  | resetAllAppsCoordinate => exact List.nodup_nil
  | loadCoordinateByTaskPackage =>
      rw [UtilsCall.apply, ShoulderKeyUtils.loadCoordinateByTaskPackage_fst]
      exact hmode
  | saveAppKeyInfo info => exact hunique.saveAppKeyInfo info
  | deleteAllAppsKeyInfo => exact List.nodup_nil

theorem Inv.next (h : w.Inv) (call : UtilsCall) : (w.next call).Inv := by
  have hunique := uniqueRows_apply h.unique call
  cases call with
  | onTaskStackChanged packageName =>
      cases packageName with
      | none => exact ⟨hunique, h.rotation, h.packageName⟩
      | some packageName =>
          have hreport : UtilsCall.apply w.utils (.onTaskStackChanged (some packageName)) = _ :=
            w.utils.onTaskStackChanged_some packageName
          refine ⟨hunique, ?_, ?_⟩
          · simp only [Watched.next, hreport, h.rotation]
          · simp only [Watched.next, hreport, Bool.false_eq_true, if_false]
  | onRotationChanged rotation =>
      have hreport : UtilsCall.apply w.utils (.onRotationChanged rotation) = _ :=
        w.utils.onRotationChanged_eq rotation
      refine ⟨hunique, ?_, ?_⟩
      · simp only [Watched.next, hreport]
      · simp only [Watched.next, hreport, h.packageName]
  | loadCoordinateByTaskPackage =>
      have hload : UtilsCall.apply w.utils .loadCoordinateByTaskPackage = _ :=
        w.utils.loadCoordinateByTaskPackage_fst
      refine ⟨hunique, ?_, ?_⟩
      · simp only [Watched.next, hload, h.rotation]
      · simp only [Watched.next, hload, h.packageName]
        by_cases hmode : w.GlobalMode
        · rw [if_pos ((ShoulderKeyDB.getKeyMappingGlobalMode_snd _).mpr hmode)]
          simp [hmode]
        · rw [if_neg (mt (ShoulderKeyDB.getKeyMappingGlobalMode_snd _).mp hmode)]
          simp [hmode]
  | setKeyMappingGlobalMode | saveCoordinate | setEnabledByPackage | saveAllAppsCoordinate
  | resetAllAppsCoordinate | saveAppKeyInfo | deleteAllAppsKeyInfo => exact ⟨hunique, h.rotation, h.packageName⟩

end Watched

/-- In a run every lookup follows the foreground app if and only if none outside global mode finds the package
that an earlier one in global mode left behind, with another mapping than the foreground app has. -/
theorem lookups_followForeground_iff {db : ShoulderKeyDB} (hunique : db.UniqueRows) (calls : List UtilsCall) :
    Run Watched.next Watched.FollowsForeground (.start db) calls ↔
      Run Watched.next Watched.Unmixed (.start db) calls :=
  Run.iff_of_inv (fun _ call (hinv : Watched.Inv _) _ => hinv.followsForeground_iff call)
    (fun _ call hinv _ _ => hinv.next call) (.start hunique) (Run.forall_iff.mpr fun _ _ => trivial)

/-! ### Leaving global mode -/

/-- A mapping of one app, and another one for global mode. -/
def twoMappings : ShoulderKeyDB :=
  ⟨[⟨"app", 1, 0, 100, 200, 300, 400⟩, ⟨globalModePackage, 1, 0, 10, 20, 30, 40⟩], [0]⟩

theorem twoMappings_uniqueRows : twoMappings.UniqueRows := by
  rw [ShoulderKeyDB.UniqueRows]
  decide

/-- The app comes to the foreground, and a key is pressed with global mode on and again with it off. -/
def leavesGlobalMode : List UtilsCall :=
  [.onTaskStackChanged (some "app"), .setKeyMappingGlobalMode true, .loadCoordinateByTaskPackage,
    .setKeyMappingGlobalMode false, .loadCoordinateByTaskPackage]

theorem lookups_followForeground_iff_leavesGlobalMode :
    Run Watched.next Watched.FollowsForeground (.start twoMappings) leavesGlobalMode ↔
      Run Watched.next Watched.Unmixed (.start twoMappings) leavesGlobalMode :=
  lookups_followForeground_iff twoMappings_uniqueRows leavesGlobalMode

/-- The second lookup returns the mapping of global mode. -/
theorem leavesGlobalMode_mixes : twoMappings.UniqueRows ∧
    ¬ Run Watched.next Watched.FollowsForeground (.start twoMappings) leavesGlobalMode := by
  refine ⟨twoMappings_uniqueRows, fun hrun => ?_⟩
  obtain ⟨-, -, -, -, hlookup, -⟩ := hrun
  have happ := (hlookup ((100, 200), (300, 400))).mpr
    ⟨⟨"app", 1, 0, 100, 200, 300, 400⟩, by decide, by decide, by decide, by decide, by decide⟩
  revert happ
  decide

end Penrose.ShoulderKey

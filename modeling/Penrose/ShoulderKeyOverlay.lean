import Penrose.ShoulderKeyStore

/-! The mapping overlay of `ShoulderKeyService`, which saves the place of a dragged button for the package that it
is shown for. A configuration change takes the overlay down and shows it anew for the top app. -/

namespace Penrose.ShoulderKey

/-- The service without what only its views read, and what it asks the system for: the package of the top activity
and the rotation of the display. `mRelativeLayout` is whether the views exist, and `mParams` where `updateLocation`
puts the buttons, if there is a coordinate. -/
structure ShoulderKeyService where
  mUtils : ShoulderKeyUtils
  mRelativeLayout : Bool
  mRotation : Int
  mGlobal : Bool
  mShowing : Bool
  mPackageName : String
  mParams : Option Coordinates
  topPackageName : String
  displayRotation : Int

namespace ShoulderKeyService

variable (s : ShoulderKeyService)

def removeKeyMappingViews : ShoulderKeyService :=
  { s with mRelativeLayout := false, mShowing := false, mUtils := s.mUtils.saveAllAppsCoordinate }

def updateLocation : ShoulderKeyService :=
  let (utils, coordinate) := s.mUtils.loadCoordinate s.mPackageName s.displayRotation
  { s with mUtils := utils, mParams := coordinate }

/-- `showKeyMappingViews`; on a visible overlay it takes the views down. -/
def showKeyMappingViews (packageName : String) (rotation : Int) (global : Bool) : ShoulderKeyService :=
  if s.mRelativeLayout then s.removeKeyMappingViews
  else
    let (utils, enabled) := s.mUtils.getEnabledByPackage packageName
    let s := { s with mUtils := utils, mPackageName := packageName, mRotation := rotation, mGlobal := global }
    if enabled then
      let s := { s with mRelativeLayout := true, mParams := none }
      { s.updateLocation with mShowing := true }
    else s

def onConfigurationChanged : ShoulderKeyService :=
  if s.mShowing then
    let s := s.removeKeyMappingViews
    s.showKeyMappingViews s.topPackageName 0 true
  else s

/-- `saveCoordinate`, with the centres of the buttons on the screen. -/
def saveCoordinate (left right : Int × Int) : ShoulderKeyService :=
  { s with mUtils := s.mUtils.saveCoordinate s.mPackageName s.displayRotation left right }

end ShoulderKeyService

/-- What can happen while the overlay is visible. A drag is the `ACTION_UP` of a button, with where the two are then. -/
inductive OverlayEvent where
  | topAppChanged (packageName : String)
  | displayRotated (rotation : Int)
  | onConfigurationChanged
  | drag (left right : Int × Int)

/-- The info that `saveCoordinate` sets the coordinates of, or adds. -/
def ShoulderKeyUtils.savedInfo (utils : ShoulderKeyUtils) (packageName : String) (rotation : Int)
    (left right : Int × Int) : ShoulderKeyInfo :=
  match utils.getAppInfo packageName rotation with
  | some info => info.setAllCoordinate left right
  | none => ⟨packageName, true, rotation, left, right⟩

namespace ShoulderKeyService

def next (s : ShoulderKeyService) : OverlayEvent → ShoulderKeyService
  | .topAppChanged packageName => { s with topPackageName := packageName }
  | .displayRotated rotation => { s with displayRotation := rotation }
  | .onConfigurationChanged => s.onConfigurationChanged
  | .drag left right => s.saveCoordinate left right

/-- The info that a drag saves. -/
def savedInfo (s : ShoulderKeyService) (left right : Int × Int) : ShoulderKeyInfo :=
  s.mUtils.savedInfo (if s.mUtils.getKeyMappingGlobalMode.2 then globalModePackage else s.mPackageName)
    (rotationClass s.displayRotation) left right

/-- The coordinates of a drag are saved, in an info of the package. -/
def SavesFor (packageName : String) (s : ShoulderKeyService) : OverlayEvent → Prop
  | .drag left right => (s.savedInfo left right).packageName = packageName ∧
      (s.savedInfo left right).leftCoordinate = left ∧ (s.savedInfo left right).rightCoordinate = right ∧
      (s.next (.drag left right)).mUtils.getAppInfo packageName (s.savedInfo left right).rotation =
        some (s.savedInfo left right)
  | _ => True

end ShoulderKeyService

/-- The top app after the events. -/
def topPackageAfter (packageName : String) (events : List OverlayEvent) : String :=
  events.foldl (fun top event => match event with
    | .topAppChanged packageName => packageName
    | _ => top) packageName

/-- At the last configuration change before each drag, if there is one, the package is that of the top app. -/
def RebuiltFor (packageName top : String) (events : List OverlayEvent) : Prop :=
  ∀ earlier between after left right, .onConfigurationChanged ∉ between →
    events = earlier ++ .onConfigurationChanged :: (between ++ .drag left right :: after) →
    topPackageAfter top earlier = packageName

/-! ### Global mode -/

theorem ShoulderKeyDB.keyMappingConfig_foldl_saveAppKeyInfo (infos : List ShoulderKeyInfo) (db : ShoulderKeyDB) :
    (infos.foldl ShoulderKeyDB.saveAppKeyInfo db).keyMappingConfig = db.keyMappingConfig := by
  induction infos generalizing db with
  | nil => rfl
  | cons info infos ih =>
      rw [List.foldl_cons, ih, saveAppKeyInfo]
      split_ifs <;> rfl

namespace ShoulderKeyUtils

variable (utils : ShoulderKeyUtils)

/-- The row that reading adds for a mode that was never set is read as before. -/
@[simp] theorem getKeyMappingGlobalMode_fst_snd :
    utils.getKeyMappingGlobalMode.1.getKeyMappingGlobalMode.2 = utils.getKeyMappingGlobalMode.2 := by
  simp only [getKeyMappingGlobalMode, ShoulderKeyDB.getKeyMappingGlobalMode]
  split_ifs
  · show ((utils.mDB.keyMappingConfig ++ [0]).head?.getD (-1) == 1) = (utils.mDB.keyMappingConfig.head?.getD (-1) == 1)
    cases utils.mDB.keyMappingConfig <;> rfl
  · rfl

@[simp] theorem getKeyMappingGlobalMode_saveAllAppsCoordinate :
    utils.saveAllAppsCoordinate.getKeyMappingGlobalMode.2 = utils.getKeyMappingGlobalMode.2 := by
  simp only [getKeyMappingGlobalMode, ShoulderKeyDB.getKeyMappingGlobalMode, saveAllAppsCoordinate,
    ShoulderKeyDB.keyMappingConfig_foldl_saveAppKeyInfo]

/-- What is saved for a package and a rotation is found there. -/
theorem getAppInfo_saveCoordinateAt (packageName : String) (rotation : Int) (left right : Int × Int) :
    (utils.saveCoordinateAt packageName rotation left right).getAppInfo packageName rotation =
      some (utils.savedInfo packageName rotation left right) := by
  have hedit (info : ShoulderKeyInfo) (hkey : info.key = (packageName, rotation)) :
      (info.setAllCoordinate left right).key = (packageName, rotation) := hkey
  rw [getAppInfo_eq, saveCoordinateAt, editAppInfo_eq, findKey_upsertKey hedit rfl, if_pos rfl, savedInfo,
    getAppInfo_eq]
  cases findKey ShoulderKeyInfo.key utils.mInfoList (packageName, rotation) <;> rfl

theorem savedInfo_key (packageName : String) (rotation : Int) (left right : Int × Int) :
    (utils.savedInfo packageName rotation left right).key = (packageName, rotation) := by
  rw [savedInfo, getAppInfo_eq]
  cases hfind : findKey ShoulderKeyInfo.key utils.mInfoList (packageName, rotation) with
  | none => rfl
  | some info =>
      show info.key = (packageName, rotation)
      exact key_of_findKey hfind

theorem savedInfo_coordinates (packageName : String) (rotation : Int) (left right : Int × Int) :
    (utils.savedInfo packageName rotation left right).leftCoordinate = left ∧
      (utils.savedInfo packageName rotation left right).rightCoordinate = right := by
  rw [savedInfo]
  cases utils.getAppInfo packageName rotation <;> exact ⟨rfl, rfl⟩

end ShoulderKeyUtils

/-! ### Steps -/

namespace ShoulderKeyService

variable {s : ShoulderKeyService} {packageName : String} {rotation : Int} {global : Bool}

/-- The call makes the overlay visible. -/
def Opens (s : ShoulderKeyService) (packageName : String) (rotation : Int) (global : Bool) : Prop :=
  (s.showKeyMappingViews packageName rotation global).mShowing = true

theorem showKeyMappingViews_topPackageName (s : ShoulderKeyService) (packageName : String) (rotation : Int)
    (global : Bool) : (s.showKeyMappingViews packageName rotation global).topPackageName = s.topPackageName := by
  rw [showKeyMappingViews]
  split_ifs
  · rfl
  · simp only
    split_ifs <;> rfl

theorem showKeyMappingViews_mPackageName (hviews : s.mRelativeLayout = false) :
    (s.showKeyMappingViews packageName rotation global).mPackageName = packageName := by
  rw [showKeyMappingViews, if_neg (by rw [hviews]; exact Bool.false_ne_true)]
  simp only
  split_ifs <;> rfl

theorem showKeyMappingViews_globalMode (s : ShoulderKeyService) (packageName : String) (rotation : Int)
    (global : Bool) : (s.showKeyMappingViews packageName rotation global).mUtils.getKeyMappingGlobalMode.2 =
      s.mUtils.getKeyMappingGlobalMode.2 := by
  rw [showKeyMappingViews]
  split_ifs
  · exact s.mUtils.getKeyMappingGlobalMode_saveAllAppsCoordinate
  · simp only
    split_ifs
    · show s.mUtils.getKeyMappingGlobalMode.1.getKeyMappingGlobalMode.1.getKeyMappingGlobalMode.2 = _
      simp
    · exact s.mUtils.getKeyMappingGlobalMode_fst_snd

theorem Opens.mRelativeLayout_eq (h : s.Opens packageName rotation global) : s.mRelativeLayout = false := by
  rw [Opens, showKeyMappingViews] at h
  split_ifs at h with hviews
  · cases h
  · exact Bool.eq_false_iff.mpr hviews

theorem next_globalMode (s : ShoulderKeyService) (event : OverlayEvent) :
    (s.next event).mUtils.getKeyMappingGlobalMode.2 = s.mUtils.getKeyMappingGlobalMode.2 := by
  cases event with
  | topAppChanged | displayRotated => rfl
  | drag left right =>
      exact s.mUtils.getKeyMappingGlobalMode_fst_snd
  | onConfigurationChanged =>
      rw [next, onConfigurationChanged]
      split_ifs
      · rw [showKeyMappingViews_globalMode]
        exact s.mUtils.getKeyMappingGlobalMode_saveAllAppsCoordinate
      · rfl

theorem next_mPackageName {event : OverlayEvent} (hevent : event ≠ .onConfigurationChanged) :
    (s.next event).mPackageName = s.mPackageName := by
  cases event with
  | onConfigurationChanged => exact absurd rfl hevent
  | topAppChanged | displayRotated | drag => rfl

/-- The rebuilt overlay is for the top app. -/
theorem next_onConfigurationChanged_mPackageName (hshowing : s.mShowing = true) :
    (s.next .onConfigurationChanged).mPackageName = s.topPackageName := by
  rw [next, onConfigurationChanged, if_pos hshowing]
  exact showKeyMappingViews_mPackageName rfl

/-- Outside global mode a drag saves for the package of the overlay. -/
theorem savesFor_drag_iff (hmode : s.mUtils.getKeyMappingGlobalMode.2 = false) (left right : Int × Int) :
    s.SavesFor packageName (.drag left right) ↔ s.mPackageName = packageName := by
  have hsaved : s.savedInfo left right =
      s.mUtils.savedInfo s.mPackageName (rotationClass s.displayRotation) left right := by
    rw [savedInfo, hmode]
    rfl
  have hkey := s.mUtils.savedInfo_key s.mPackageName (rotationClass s.displayRotation) left right
  have hcoordinates := s.mUtils.savedInfo_coordinates s.mPackageName (rotationClass s.displayRotation) left right
  have hpackage := congrArg Prod.fst hkey
  have hrotation := congrArg Prod.snd hkey
  simp only [ShoulderKeyInfo.key] at hpackage hrotation
  rw [SavesFor, hsaved, hpackage, hrotation]
  refine ⟨?_, ?_⟩
  · exact And.left
  · intro htarget
    subst htarget
    refine ⟨rfl, hcoordinates.1, hcoordinates.2, ?_⟩
    rw [next, saveCoordinate, ShoulderKeyUtils.saveCoordinate_eq, hmode]
    exact s.mUtils.getKeyMappingGlobalMode.1.getAppInfo_saveCoordinateAt ..

/-! ### Runs -/

theorem foldl_globalMode (s : ShoulderKeyService) (events : List OverlayEvent) :
    (events.foldl next s).mUtils.getKeyMappingGlobalMode.2 = s.mUtils.getKeyMappingGlobalMode.2 := by
  induction events generalizing s with
  | nil => rfl
  | cons event events ih =>
      calc ((event :: events).foldl next s).mUtils.getKeyMappingGlobalMode.2
          = (s.next event).mUtils.getKeyMappingGlobalMode.2 := ih (s.next event)
        _ = s.mUtils.getKeyMappingGlobalMode.2 := s.next_globalMode event

theorem next_topPackageName (s : ShoulderKeyService) (event : OverlayEvent) :
    (s.next event).topPackageName = topPackageAfter s.topPackageName [event] := by
  cases event with
  | topAppChanged | displayRotated | drag => rfl
  | onConfigurationChanged =>
      rw [next, onConfigurationChanged]
      split_ifs
      · exact showKeyMappingViews_topPackageName ..
      · rfl

theorem foldl_topPackageName (s : ShoulderKeyService) (events : List OverlayEvent) :
    (events.foldl next s).topPackageName = topPackageAfter s.topPackageName events := by
  induction events generalizing s with
  | nil => rfl
  | cons event events ih =>
      calc ((event :: events).foldl next s).topPackageName
          = topPackageAfter (s.next event).topPackageName events := ih (s.next event)
        _ = topPackageAfter s.topPackageName (event :: events) := by
          rw [next_topPackageName]
          rfl

theorem foldl_mPackageName (s : ShoulderKeyService) {events : List OverlayEvent}
    (hevents : .onConfigurationChanged ∉ events) : (events.foldl next s).mPackageName = s.mPackageName := by
  induction events generalizing s with
  | nil => rfl
  | cons event events ih =>
      rw [List.mem_cons, not_or] at hevents
      calc ((event :: events).foldl next s).mPackageName
          = (s.next event).mPackageName := ih (s.next event) hevents.2
        _ = s.mPackageName := next_mPackageName (Ne.symm hevents.1)

/-- After a configuration change on a visible overlay it is for the app on top then. -/
theorem foldl_rebuilt (s : ShoulderKeyService) {earlier between : List OverlayEvent}
    (hshowing : (earlier.foldl next s).mShowing = true) (hbetween : .onConfigurationChanged ∉ between) :
    ((earlier ++ .onConfigurationChanged :: between).foldl next s).mPackageName =
      topPackageAfter s.topPackageName earlier := by
  rw [List.foldl_append, List.foldl_cons, foldl_mPackageName _ hbetween,
    next_onConfigurationChanged_mPackageName hshowing, foldl_topPackageName]

end ShoulderKeyService

/-- A list without configuration changes, or one split at the last of them. -/
theorem exists_last_change (events : List OverlayEvent) :
    .onConfigurationChanged ∉ events ∨ ∃ earlier between,
      events = earlier ++ OverlayEvent.onConfigurationChanged :: between ∧ .onConfigurationChanged ∉ between := by
  by_cases hmem : .onConfigurationChanged ∈ events
  · obtain ⟨between, earlier, hsplit, hbetween⟩ := List.eq_append_cons_of_mem (List.mem_reverse.mpr hmem)
    refine Or.inr ⟨earlier.reverse, between.reverse, ?_, mt List.mem_reverse.mp hbetween⟩
    have hevents := congrArg List.reverse hsplit
    simpa using hevents
  · exact Or.inl hmem

/-- While the overlay is visible, every drag saves for the package that it was opened for if and only if at the last
configuration change before the drag that package was on top. -/
theorem overlay_savesFor_iff {s : ShoulderKeyService} {packageName : String} {rotation : Int} {global : Bool}
    (hmode : s.mUtils.getKeyMappingGlobalMode.2 = false) (hopens : s.Opens packageName rotation global)
    {events : List OverlayEvent} (hshowing : Run ShoulderKeyService.next (fun s _ => s.mShowing = true)
      (s.showKeyMappingViews packageName rotation global) events) :
    Run ShoulderKeyService.next (ShoulderKeyService.SavesFor packageName)
        (s.showKeyMappingViews packageName rotation global) events ↔
      RebuiltFor packageName s.topPackageName events := by
  have htarget : (s.showKeyMappingViews packageName rotation global).mPackageName = packageName :=
    ShoulderKeyService.showKeyMappingViews_mPackageName hopens.mRelativeLayout_eq
  have htop := s.showKeyMappingViews_topPackageName packageName rotation global
  have hmodeAfter (before : List OverlayEvent) :
      (before.foldl ShoulderKeyService.next
        (s.showKeyMappingViews packageName rotation global)).mUtils.getKeyMappingGlobalMode.2 = false :=
    calc _ = (s.showKeyMappingViews packageName rotation global).mUtils.getKeyMappingGlobalMode.2 :=
          ShoulderKeyService.foldl_globalMode ..
      _ = s.mUtils.getKeyMappingGlobalMode.2 := s.showKeyMappingViews_globalMode packageName rotation global
      _ = false := hmode
  rw [Run.iff_prefix] at hshowing ⊢
  refine ⟨?_, ?_⟩
  · intro hsaves earlier between after left right hbetween hsplit
    have hvisible := hshowing earlier .onConfigurationChanged _ hsplit
    have hsplit' : events = (earlier ++ .onConfigurationChanged :: between) ++ .drag left right :: after := by
      rw [hsplit, List.append_assoc, List.cons_append]
    have hdrag := (ShoulderKeyService.savesFor_drag_iff (hmodeAfter _) left right).mp (hsaves _ _ after hsplit')
    rw [ShoulderKeyService.foldl_rebuilt _ hvisible hbetween, htop] at hdrag
    exact hdrag
  · intro hrebuilt before event after hsplit
    cases event with
    | topAppChanged | displayRotated | onConfigurationChanged => trivial
    | drag left right =>
        rw [ShoulderKeyService.savesFor_drag_iff (hmodeAfter before)]
        obtain hnone | ⟨earlier, between, rfl, hbetween⟩ := exists_last_change before
        · rw [ShoulderKeyService.foldl_mPackageName _ hnone, htarget]
        · have hsplit' : events = earlier ++ .onConfigurationChanged :: (between ++ .drag left right :: after) := by
            rw [hsplit, List.append_assoc, List.cons_append]
          have hvisible := hshowing earlier .onConfigurationChanged _ hsplit'
          rw [ShoulderKeyService.foldl_rebuilt _ hvisible hbetween, htop]
          exact hrebuilt earlier between after left right hbetween hsplit'

/-! ### A changed top app -/

/-- The service with a mapping of a game and of another app, and the game on top. -/
def overGame : ShoulderKeyService where
  mUtils := .create ⟨[⟨"game", 1, 1, 100, 200, 300, 400⟩, ⟨"other", 1, 1, 10, 20, 30, 40⟩], [0]⟩
  mRelativeLayout := false
  mRotation := 0
  mGlobal := true
  mShowing := false
  mPackageName := ""
  mParams := none
  topPackageName := "game"
  displayRotation := 1

/-- A button is dragged, another app comes to the top with a display of the other orientation, and a button is dragged
again. -/
def otherOnTop : List OverlayEvent :=
  [.drag (110, 210) (310, 410), .topAppChanged "other", .displayRotated 0, .onConfigurationChanged,
    .drag (50, 60) (70, 80)]

theorem otherOnTop_showing : Run ShoulderKeyService.next (fun s _ => s.mShowing = true)
    (overGame.showKeyMappingViews "game" 0 true) otherOnTop := by
  refine ⟨?_, ?_, ?_, ?_, ?_, trivial⟩ <;> decide

theorem overGame_opens : overGame.Opens "game" 0 true := by
  rw [ShoulderKeyService.Opens]
  decide

theorem overlay_savesFor_iff_otherOnTop :
    Run ShoulderKeyService.next (ShoulderKeyService.SavesFor "game")
        (overGame.showKeyMappingViews "game" 0 true) otherOnTop ↔
      RebuiltFor "game" "game" otherOnTop :=
  overlay_savesFor_iff (by decide) overGame_opens otherOnTop_showing

/-- The overlay was opened for the game, and the second drag saves for the other app. -/
theorem otherOnTop_saved : overGame.mUtils.getKeyMappingGlobalMode.2 = false ∧ overGame.Opens "game" 0 true ∧
    Run ShoulderKeyService.next (fun s _ => s.mShowing = true)
      (overGame.showKeyMappingViews "game" 0 true) otherOnTop ∧
    ¬Run ShoulderKeyService.next (ShoulderKeyService.SavesFor "game")
      (overGame.showKeyMappingViews "game" 0 true) otherOnTop := by
  refine ⟨by decide, overGame_opens, otherOnTop_showing, ?_⟩
  intro hsaves
  obtain ⟨-, -, -, -, hdrag, -⟩ := hsaves
  have hpackage := hdrag.1
  revert hpackage
  decide

end Penrose.ShoulderKey

import Penrose.ShoulderKeyOverlay
import Penrose.ShoulderKeySaved

/-! The service under its two editors, the list of apps and the overlay. What they set stays in memory until one of
them is closed, however it is closed. Key presses look the table up, and see what is set as soon as no editor is open;
when the process is killed, what was set since an editor was closed last is gone. -/

namespace Penrose.ShoulderKey

/-- What can happen in the process of the service. The first four events are those of `ShoulderKeyAppFragment`, and
`modeRead` is a read of the global mode, by a key press or by the list. -/
inductive SettingsEvent where
  | listCreated
  | listDestroyed
  | setEnabledByPackage (packageName : String) (enabled : Bool)
  | resetAllAppsCoordinate
  | showKeyMappingViews (packageName : String) (rotation : Int) (global : Bool)
  | removeKeyMappingViews
  | screenOff
  | overlay (event : OverlayEvent)
  | setKeyMappingGlobalMode (enable : Bool)
  | modeRead
  | restarted

namespace ShoulderKeyService

/-- `onCreate`, for the package of the top activity and the rotation of the display at the time. -/
def onCreate (db : ShoulderKeyDB) (topPackageName : String) (displayRotation : Int) : ShoulderKeyService where
  mUtils := .create db
  mRelativeLayout := false
  mRotation := 0
  mGlobal := true
  mShowing := false
  mPackageName := ""
  mParams := none
  topPackageName := topPackageName
  displayRotation := displayRotation

/-- `mScreenStateReceiver`. -/
def onScreenOff (s : ShoulderKeyService) : ShoulderKeyService :=
  if s.mRelativeLayout then s.removeKeyMappingViews else s

def handle (s : ShoulderKeyService) : SettingsEvent → ShoulderKeyService
  | .listCreated => s
  | .listDestroyed => { s with mUtils := s.mUtils.saveAllAppsCoordinate }
  | .setEnabledByPackage packageName enabled =>
      { s with mUtils := s.mUtils.setEnabledByPackage packageName enabled }
  | .resetAllAppsCoordinate => { s with mUtils := s.mUtils.resetAllAppsCoordinate }
  | .showKeyMappingViews packageName rotation global => s.showKeyMappingViews packageName rotation global
  | .removeKeyMappingViews => s.removeKeyMappingViews
  | .screenOff => s.onScreenOff
  | .overlay event => s.next event
  | .setKeyMappingGlobalMode enable => { s with mUtils := s.mUtils.setKeyMappingGlobalMode enable }
  | .modeRead => { s with mUtils := s.mUtils.getKeyMappingGlobalMode.1 }
  | .restarted => .onCreate s.mUtils.mDB s.topPackageName s.displayRotation

/-- Whether the event closes an editor. -/
def closes (s : ShoulderKeyService) : SettingsEvent → Bool
  | .listDestroyed | .removeKeyMappingViews => true
  | .showKeyMappingViews _ _ _ | .screenOff => s.mRelativeLayout
  | .overlay .onConfigurationChanged => s.mShowing
  | _ => false

end ShoulderKeyService

/-- The service, the lists of apps that are open, what is set, and what was set when an editor was closed last. -/
structure ShoulderKeySettings where
  service : ShoulderKeyService
  openLists : Nat
  live : Mapping
  kept : Mapping

namespace ShoulderKeySettings

def create (keyMappingConfig : List Int) (topPackageName : String) (displayRotation : Int) : ShoulderKeySettings :=
  ⟨.onCreate ⟨[], keyMappingConfig⟩ topPackageName displayRotation, 0, .empty, .empty⟩

def listsAfter (openLists : Nat) : SettingsEvent → Nat
  | .listCreated => openLists + 1
  | .listDestroyed => openLists - 1
  | .restarted => 0
  | _ => openLists

/-- The package that a drag is saved for. -/
def draggedPackage (s : ShoulderKeySettings) : String :=
  if s.service.mUtils.getKeyMappingGlobalMode.2 then globalModePackage else s.service.mPackageName

/-- What is set after an event; a process that is killed starts with what was kept. -/
def setAfter (s : ShoulderKeySettings) : SettingsEvent → Mapping
  | .setEnabledByPackage packageName enabled =>
      (s.live.write (packageName, 0) (fun info => info.setEnabled enabled)
        ⟨packageName, enabled, 0, (0, 0), (0, 0)⟩).write (packageName, 1) (fun info => info.setEnabled enabled)
        ⟨packageName, enabled, 1, (0, 0), (0, 0)⟩
  | .overlay (.drag left right) =>
      s.live.write (s.draggedPackage, rotationClass s.service.displayRotation)
        (fun info => info.setAllCoordinate left right)
        ⟨s.draggedPackage, true, rotationClass s.service.displayRotation, left, right⟩
  | .resetAllAppsCoordinate => .empty
  | .restarted => s.kept
  | _ => s.live

/-- What is kept after an event. -/
def keptAfter (s : ShoulderKeySettings) (event : SettingsEvent) : Mapping :=
  if s.service.closes event then s.live
  else
    match event with
    | .resetAllAppsCoordinate => .empty
    | _ => s.kept

def next (s : ShoulderKeySettings) (event : SettingsEvent) : ShoulderKeySettings :=
  ⟨s.service.handle event, listsAfter s.openLists event, s.setAfter event, s.keptAfter event⟩

/-- What the user can do where the editor for it is open, and the rotations that a display has. -/
def Possible (s : ShoulderKeySettings) : SettingsEvent → Prop
  | .listDestroyed | .setEnabledByPackage _ _ | .resetAllAppsCoordinate => 0 < s.openLists
  | .removeKeyMappingViews | .overlay (.drag _ _) => s.service.mRelativeLayout = true
  | .overlay (.displayRotated rotation) => rotationClass rotation = 0 ∨ rotationClass rotation = 1
  | _ => True

/-- No editor is open. -/
def Closed (s : ShoulderKeySettings) : Prop := s.openLists = 0 ∧ s.service.mRelativeLayout = false

end ShoulderKeySettings

/-- What a key press finds among the mappings. -/
def Mapping.visible (mapping : Mapping) (k : String × Int) : Option Coordinates :=
  (mapping k).bind fun info => if info.enabled then info.getAllCoordinate else none

/-! ### The lists and the maps -/

namespace ShoulderKeyUtils

variable {utils : ShoulderKeyUtils} {mappings : Mappings}

/-- Reading or setting the mode leaves the mappings alone. -/
theorem Refines.of_config (h : utils.Refines mappings) (keyMappingConfig : List Int) :
    Refines { utils with mDB := { utils.mDB with keyMappingConfig := keyMappingConfig } } mappings :=
  ⟨h.uniqueInfos, h.uniqueRows, h.memory, h.table⟩

theorem Refines.getKeyMappingGlobalMode (h : utils.Refines mappings) :
    utils.getKeyMappingGlobalMode.1.Refines mappings := by
  rw [ShoulderKeyUtils.getKeyMappingGlobalMode, ShoulderKeyDB.getKeyMappingGlobalMode]
  dsimp only
  split_ifs
  · exact h.of_config _
  · exact h

/-- A `ShoulderKeyUtils` that is made anew has what is in the table. -/
theorem Refines.recreated (h : utils.Refines mappings) :
    (ShoulderKeyUtils.create utils.mDB).Refines ⟨mappings.table, mappings.table⟩ := by
  refine ⟨ShoulderKeyDB.uniqueKeys_getAllAppsKeyInfo _ h.uniqueRows, h.uniqueRows, fun k => ?_, h.table⟩
  exact (ShoulderKeyDB.findKey_getAllAppsKeyInfo utils.mDB k.1 k.2).trans (h.table k.1 k.2)

theorem Refines.saved (h : utils.Refines mappings) (hconsistent : mappings.Consistent) :
    utils.saveAllAppsCoordinate.Refines ⟨mappings.memory, mappings.memory⟩ := by
  rw [← hconsistent.next_saveAllAppsCoordinate]
  exact h.next .saveAllAppsCoordinate

theorem Refines.lookupCoordinate_visible (h : utils.Refines mappings) (packageName : String) (rotation : Int) :
    utils.mDB.lookupCoordinate packageName rotation = mappings.table.visible (packageName, rotation) := by
  rw [ShoulderKeyDB.lookupCoordinate, h.table, Mapping.visible]
  cases mappings.table (packageName, rotation) <;> rfl

/-- A key press finds what is in the table, also one that reads it through another `ShoulderKeyUtils`. -/
theorem Refines.loadCoordinateByTaskPackage_visible (h : utils.Refines mappings) {pressed : ShoulderKeyUtils}
    (hsame : pressed.mDB = utils.mDB) :
    pressed.loadCoordinateByTaskPackage.2 = mappings.table.visible
      (if pressed.mDB.getKeyMappingGlobalMode.2 then globalModePackage else pressed.mPackageName,
        pressed.mRotation) := by
  have hread : pressed.getKeyMappingGlobalMode.1.mDB = utils.getKeyMappingGlobalMode.1.mDB := by
    rw [ShoulderKeyUtils.getKeyMappingGlobalMode, ShoulderKeyUtils.getKeyMappingGlobalMode, hsame]
  rw [loadCoordinateByTaskPackage_snd, hread, h.getKeyMappingGlobalMode.lookupCoordinate_visible]
  rfl

end ShoulderKeyUtils

theorem Mappings.Consistent.saved {mappings : Mappings} (h : mappings.Consistent) :
    (⟨mappings.memory, mappings.memory⟩ : Mappings).Consistent :=
  ⟨h.memory, h.memory, fun _ hnone => hnone⟩

/-! ### Steps -/

namespace ShoulderKeyService

variable {s : ShoulderKeyService} {mappings : Mappings}

/-- Showing the overlay takes a visible one down, and leaves the mappings alone otherwise. -/
theorem refines_showKeyMappingViews (h : s.mUtils.Refines mappings) (hconsistent : mappings.Consistent)
    (packageName : String) (rotation : Int) (global : Bool) :
    (s.showKeyMappingViews packageName rotation global).mUtils.Refines
      (if s.mRelativeLayout then ⟨mappings.memory, mappings.memory⟩ else mappings) := by
  rw [showKeyMappingViews]
  split
  · exact h.saved hconsistent
  · dsimp only
    split
    · exact h.getKeyMappingGlobalMode.getKeyMappingGlobalMode
    · exact h.getKeyMappingGlobalMode

theorem showKeyMappingViews_displayRotation (s : ShoulderKeyService) (packageName : String) (rotation : Int)
    (global : Bool) : (s.showKeyMappingViews packageName rotation global).displayRotation = s.displayRotation := by
  rw [showKeyMappingViews]
  split
  · rfl
  · dsimp only
    split <;> rfl

end ShoulderKeyService

namespace ShoulderKeySettings

variable {s : ShoulderKeySettings}

/-- What is set is in memory and what is kept in the table, and the two are the same while no editor is open. -/
structure Inv (s : ShoulderKeySettings) : Prop where
  refines : s.service.mUtils.Refines ⟨s.live, s.kept⟩
  consistent : Mappings.Consistent ⟨s.live, s.kept⟩
  rotation : rotationClass s.service.displayRotation = 0 ∨ rotationClass s.service.displayRotation = 1
  closed : s.Closed → s.kept = s.live

theorem create_inv (keyMappingConfig : List Int) (topPackageName : String) {displayRotation : Int}
    (hrotation : rotationClass displayRotation = 0 ∨ rotationClass displayRotation = 1) :
    (create keyMappingConfig topPackageName displayRotation).Inv where
  refines := ShoulderKeyUtils.Refines.create keyMappingConfig
  consistent := ⟨Mapping.agrees_empty, Mapping.agrees_empty, fun _ _ => rfl⟩
  rotation := hrotation
  closed := fun _ => rfl

/-- After an event that closes an editor, what is set is what is kept. -/
theorem Inv.next_of_closes (h : s.Inv) {event : SettingsEvent} (hcloses : s.service.closes event = true)
    (hlive : s.setAfter event = s.live) (hrefines : (s.service.handle event).mUtils.Refines ⟨s.live, s.live⟩)
    (hrotation : (s.service.handle event).displayRotation = s.service.displayRotation) : (s.next event).Inv := by
  have hkept : s.keptAfter event = s.live := if_pos hcloses
  refine ⟨?_, ?_, ?_, fun _ => hkept.trans hlive.symm⟩
  · rw [next, hkept, hlive]
    exact hrefines
  · rw [next, hkept, hlive]
    exact h.consistent.saved
  · rw [next, hrotation]
    exact h.rotation

theorem Inv.next (h : s.Inv) {event : SettingsEvent} (hpossible : s.Possible event) : (s.next event).Inv := by
  cases event with
  | listCreated => exact ⟨h.refines, h.consistent, h.rotation, fun hclosed => absurd hclosed.1 (Nat.succ_ne_zero _)⟩
  | listDestroyed => exact h.next_of_closes rfl rfl (h.refines.saved h.consistent) rfl
  | setEnabledByPackage packageName enabled =>
      have hcall : (StoreCall.setEnabledByPackage packageName enabled).HasRotation := trivial
      exact ⟨h.refines.next (.setEnabledByPackage packageName enabled), h.consistent.next hcall, h.rotation,
        fun hclosed => absurd hclosed.1 (Nat.pos_iff_ne_zero.mp hpossible)⟩
  | resetAllAppsCoordinate =>
      have hcall : StoreCall.resetAllAppsCoordinate.HasRotation := trivial
      exact ⟨h.refines.next .resetAllAppsCoordinate, h.consistent.next hcall, h.rotation, fun _ => rfl⟩
  | showKeyMappingViews packageName rotation global =>
      have hrefines := ShoulderKeyService.refines_showKeyMappingViews h.refines h.consistent packageName rotation global
      have hrotation := s.service.showKeyMappingViews_displayRotation packageName rotation global
      by_cases hviews : s.service.mRelativeLayout = true
      · rw [if_pos hviews] at hrefines
        exact h.next_of_closes hviews rfl hrefines hrotation
      · rw [if_neg hviews] at hrefines
        have hkept : s.keptAfter (.showKeyMappingViews packageName rotation global) = s.kept := if_neg hviews
        refine ⟨by rw [ShoulderKeySettings.next, hkept]; exact hrefines,
          by rw [ShoulderKeySettings.next, hkept]; exact h.consistent,
          by rw [ShoulderKeySettings.next, ShoulderKeyService.handle, hrotation]; exact h.rotation, fun hclosed => ?_⟩
        exact hkept.trans (h.closed ⟨hclosed.1, Bool.eq_false_iff.mpr hviews⟩)
  | removeKeyMappingViews => exact h.next_of_closes rfl rfl (h.refines.saved h.consistent) rfl
  | screenOff =>
      by_cases hviews : s.service.mRelativeLayout = true
      · have hhandle : s.service.handle .screenOff = s.service.removeKeyMappingViews := if_pos hviews
        refine h.next_of_closes hviews rfl ?_ ?_
        · rw [hhandle]
          exact h.refines.saved h.consistent
        · rw [hhandle]
          rfl
      · have hhandle : s.service.handle .screenOff = s.service := if_neg hviews
        have hkept : s.keptAfter .screenOff = s.kept := if_neg hviews
        rw [ShoulderKeySettings.next, hhandle, hkept]
        exact ⟨h.refines, h.consistent, h.rotation, h.closed⟩
  | overlay event =>
      cases event with
      | topAppChanged packageName => exact ⟨h.refines, h.consistent, h.rotation, h.closed⟩
      | displayRotated rotation => exact ⟨h.refines, h.consistent, hpossible, h.closed⟩
      | onConfigurationChanged =>
          by_cases hshowing : s.service.mShowing = true
          · have hhandle : s.service.handle (.overlay .onConfigurationChanged) =
                s.service.removeKeyMappingViews.showKeyMappingViews s.service.topPackageName 0 true := if_pos hshowing
            have hrefines : s.service.removeKeyMappingViews.mUtils.Refines ⟨s.live, s.live⟩ :=
              h.refines.saved h.consistent
            refine h.next_of_closes hshowing rfl ?_ ?_
            · rw [hhandle]
              exact ShoulderKeyService.refines_showKeyMappingViews hrefines h.consistent.saved s.service.topPackageName
                0 true
            · rw [hhandle, ShoulderKeyService.showKeyMappingViews_displayRotation]
              rfl
          · have hhandle : s.service.handle (.overlay .onConfigurationChanged) = s.service := if_neg hshowing
            have hkept : s.keptAfter (.overlay .onConfigurationChanged) = s.kept := if_neg hshowing
            rw [ShoulderKeySettings.next, hhandle, hkept]
            exact ⟨h.refines, h.consistent, h.rotation, h.closed⟩
      | drag left right =>
          have hcall : (StoreCall.saveCoordinate s.draggedPackage (rotationClass s.service.displayRotation) left
            right).HasRotation := h.rotation
          refine ⟨h.refines.getKeyMappingGlobalMode.next (.saveCoordinate s.draggedPackage
            (rotationClass s.service.displayRotation) left right), h.consistent.next hcall, h.rotation,
            fun hclosed => ?_⟩
          exact absurd hpossible (Bool.eq_false_iff.mp hclosed.2)
  | setKeyMappingGlobalMode enable => exact ⟨h.refines.of_config _, h.consistent, h.rotation, h.closed⟩
  | modeRead => exact ⟨h.refines.getKeyMappingGlobalMode, h.consistent, h.rotation, h.closed⟩
  | restarted =>
      exact ⟨h.refines.recreated, ⟨h.consistent.table, h.consistent.table, fun _ hnone => hnone⟩, h.rotation,
        fun _ => rfl⟩

/-- The keys are put in place and the overlay is closed; then the app is disabled and the process killed. -/
def disabledBeforeKill : List SettingsEvent :=
  [.listCreated, .setEnabledByPackage "game" true, .showKeyMappingViews "game" 0 false,
    .overlay (.drag (200, 100) (400, 300)), .removeKeyMappingViews, .setEnabledByPackage "game" false, .restarted]

theorem disabledBeforeKill_possible : Run next Possible (create [0] "launcher" 0) disabledBeforeKill :=
  ⟨trivial, Nat.one_pos, trivial, rfl, rfl, Nat.one_pos, trivial, trivial⟩

end ShoulderKeySettings

end Penrose.ShoulderKey

import Mathlib.Data.Bool.Basic
import Penrose.DozePickup
import Penrose.DozeProximity

/-! The doze service. The settings start and stop it, the display turns its sensors on and off, and the executors of the
sensors register and unregister the listeners. All of these only pass a request on, which another thread handles
later. A service is told of the display only when it changes. -/

namespace Penrose.Doze

/-! ### The settings -/

/-- The secure settings and the preferences that `DozeUtils` reads. -/
structure Settings where
  dozeEnabled : Option Int
  alwaysOn : Option Int
  pickUp : Bool
  handWave : Bool
  pocket : Bool

/-- The switches of the settings' screen. -/
inductive PreferenceKey where
  | alwaysOnDisplay
  | gesturePickUp
  | gestureHandWave
  | gesturePocket

namespace Settings

def isDozeEnabled (s : Settings) : Bool := s.dozeEnabled.getD 1 != 0

/-- `isAlwaysOnEnabled`, on a device whose default is given. -/
def isAlwaysOnEnabled (enabledByDefault : Bool) (s : Settings) : Bool :=
  s.alwaysOn.getD (if enabledByDefault then 1 else 0) != 0

def enableDoze (enable : Bool) (s : Settings) : Settings := { s with dozeEnabled := some (if enable then 1 else 0) }

def enableAlwaysOn (enable : Bool) (s : Settings) : Settings := { s with alwaysOn := some (if enable then 1 else 0) }

/-- A gesture of the proximity sensor is enabled. -/
def proximity (s : Settings) : Bool := s.handWave || s.pocket

def sensorsEnabled (s : Settings) : Bool := s.pickUp || s.handWave || s.pocket

/-- When `checkDozeService` starts the service. -/
def wantsService (enabledByDefault : Bool) (s : Settings) : Bool :=
  s.isDozeEnabled && !s.isAlwaysOnEnabled enabledByDefault && s.sensorsEnabled

/-- What `onPreferenceChange` sets, or the preference of the switch itself once it returned. -/
def change (key : PreferenceKey) (newValue : Bool) (s : Settings) : Settings :=
  match key with
  | .alwaysOnDisplay => s.enableAlwaysOn newValue
  | .gesturePickUp => { s with pickUp := newValue }
  | .gestureHandWave => { s with handWave := newValue }
  | .gesturePocket => { s with pocket := newValue }

end Settings

/-! ### The sensors of the service -/

structure ProximityListener where
  listening : Bool
  sensor : ProximitySensor

namespace ProximityListener

def init : ProximityListener := ⟨false, .init⟩

def perform (task : SensorTask) (s : ProximityListener) : ProximityListener :=
  { s with listening := task.listens s.listening }

theorem perform_listening (task : SensorTask) (s : ProximityListener) :
    (s.perform task).listening = task.listens s.listening := rfl

def enable : List SensorTask := [.registerListener]

def disable : List SensorTask := [.unregisterListener]

end ProximityListener

/-- The sensors with their executors, and how far the main thread is with a change of the pickup sensor. -/
structure DozeService (Value : Type) where
  proximitySensor : Executor SensorTask ProximityListener
  pickupSensor : Executor SensorTask PickupSensor
  pickupHandler : PickupHandler Value

/-- What the threads of the sensors do, and what the sensors report. -/
inductive SensorStep (Value : Type) where
  | runProximity
  | runPickup (now : Int)
  | proximityChanged (value : Value) (timestamp : BitVec 64)
  | pickupChanged (first : Int) (value : Value)
  | handlePickup (now : Int)

variable {Value : Type}

namespace DozeService

/-- `onCreate`. -/
def create : DozeService Value := ⟨⟨[], .init⟩, ⟨[], .init⟩, .idle⟩

/-- `onDestroy`. -/
def destroy (service : DozeService Value) : DozeService Value :=
  { service with
    proximitySensor := service.proximitySensor.submit ProximityListener.disable
    pickupSensor := service.pickupSensor.submit PickupSensor.disable }

def onDisplayOn (settings : Settings) (service : DozeService Value) : DozeService Value :=
  { service with
    proximitySensor :=
      if settings.proximity then service.proximitySensor.submit ProximityListener.disable else service.proximitySensor
    pickupSensor := if settings.pickUp then service.pickupSensor.submit PickupSensor.disable else service.pickupSensor }

def onDisplayOff (settings : Settings) (service : DozeService Value) : DozeService Value :=
  { service with
    proximitySensor :=
      if settings.proximity then service.proximitySensor.submit ProximityListener.enable else service.proximitySensor
    pickupSensor := if settings.pickUp then service.pickupSensor.submit PickupSensor.enable else service.pickupSensor }

/-- A registered listener is told of a change. -/
def sensorStep [LT Value] [DecidableLT Value] (maximumRange : Value) (settings : Settings)
    (service : DozeService Value) : SensorStep Value → DozeService Value
  | .runProximity => { service with proximitySensor := service.proximitySensor.runNext ProximityListener.perform }
  | .runPickup now => { service with pickupSensor := service.pickupSensor.runNext (PickupSensor.perform now) }
  | .proximityChanged value timestamp =>
      let listener := service.proximitySensor.state
      if listener.listening then
        let event := ⟨value, timestamp, settings.handWave, settings.pocket⟩
        let changed := listener.sensor.onSensorChanged maximumRange event
        { service with
          proximitySensor := { service.proximitySensor with state := { listener with sensor := changed.1 } } }
      else service
  | .pickupChanged first value =>
      match service.pickupHandler with
      | .idle =>
          if service.pickupSensor.state.listening then { service with pickupHandler := .compareEntry first value }
          else service
      | _ => service
  | .handlePickup now =>
      let handled := service.pickupSensor.state.handle now service.pickupHandler
      { service with pickupSensor := { service.pickupSensor with state := handled.2 }, pickupHandler := handled.1 }

/-- Whether the listeners of the proximity and the pickup sensor are registered once the executors are done. -/
def settled (service : DozeService Value) : Bool × Bool :=
  (service.proximitySensor.settled SensorTask.listens ProximityListener.listening,
    service.pickupSensor.settled SensorTask.listens PickupSensor.listening)

theorem settled_destroy (service : DozeService Value) : service.destroy.settled = (false, false) := by
  simp only [settled, destroy, Executor.settled_submit]
  rfl

/-- The sensors of the enabled gestures are turned off, and the others stay as they are. -/
theorem settled_onDisplayOn (settings : Settings) (service : DozeService Value) :
    (service.onDisplayOn settings).settled =
      (service.settled.1 && !settings.proximity, service.settled.2 && !settings.pickUp) := by
  simp only [settled, onDisplayOn]
  refine Prod.ext ?_ ?_
  · cases settings.proximity with
    | true => exact (Executor.settled_submit _ _).trans (Bool.and_false _).symm
    | false => exact (Bool.and_true _).symm
  · cases settings.pickUp with
    | true => exact (Executor.settled_submit _ _).trans (Bool.and_false _).symm
    | false => exact (Bool.and_true _).symm

/-- The sensors of the enabled gestures are turned on, and the others stay as they are. -/
theorem settled_onDisplayOff (settings : Settings) (service : DozeService Value) :
    (service.onDisplayOff settings).settled =
      (service.settled.1 || settings.proximity, service.settled.2 || settings.pickUp) := by
  simp only [settled, onDisplayOff]
  refine Prod.ext ?_ ?_
  · cases settings.proximity with
    | true => exact (Executor.settled_submit _ _).trans (Bool.or_true _).symm
    | false => exact (Bool.or_false _).symm
  · cases settings.pickUp with
    | true => exact (Executor.settled_submit _ _).trans (Bool.or_true _).symm
    | false => exact (Bool.or_false _).symm

/-- What the sensors and their threads do changes nothing of what will be registered. -/
theorem settled_sensorStep [LT Value] [DecidableLT Value] (maximumRange : Value) (settings : Settings)
    (service : DozeService Value) (step : SensorStep Value) :
    (service.sensorStep maximumRange settings step).settled = service.settled := by
  cases step with
  | runProximity =>
      refine Prod.ext ?_ rfl
      exact Executor.settled_runNext ProximityListener.perform_listening service.proximitySensor
  | runPickup now =>
      refine Prod.ext rfl ?_
      exact Executor.settled_runNext (PickupSensor.perform_listening now) service.pickupSensor
  | proximityChanged value timestamp =>
      rw [sensorStep]
      split_ifs
      · refine Prod.ext ?_ rfl
        exact Executor.settled_state service.proximitySensor rfl
      · rfl
  | pickupChanged first value =>
      obtain ⟨proximitySensor, pickupSensor, handler⟩ := service
      cases handler with
      | idle =>
          simp only [sensorStep]
          split_ifs <;> rfl
      | compareEntry first' value' => rfl
      | readClock value' => rfl
      | storeEntry now value' => rfl
  | handlePickup now =>
      refine Prod.ext rfl ?_
      exact Executor.settled_state service.pickupSensor
        (PickupSensor.handle_listening now service.pickupHandler service.pickupSensor.state)

/-- The executors of the sensors have nothing left to do. -/
def Idle (service : DozeService Value) : Prop :=
  service.proximitySensor.tasks = [] ∧ service.pickupSensor.tasks = []

/-- Whether the listeners of the proximity and the pickup sensor are registered. -/
def listening (service : DozeService Value) : Bool × Bool :=
  (service.proximitySensor.state.listening, service.pickupSensor.state.listening)

theorem settled_of_idle {service : DozeService Value} (h : service.Idle) : service.settled = service.listening := by
  rw [settled, Executor.settled_of_idle h.1, Executor.settled_of_idle h.2]
  rfl

end DozeService

/-! ### The service and its settings -/

inductive ServiceRequest where
  | startService
  | stopService
  deriving DecidableEq

/-- The settings, the checks that the handler has yet to run, the requests that the system has yet to handle, the
service that runs, if any, whether the display is off, and the services that were destroyed. -/
structure DozeSystem (Value : Type) where
  settings : Settings
  posted : Nat
  requests : List ServiceRequest
  service : Option (DozeService Value)
  displayOff : Bool
  retired : List (DozeService Value)

inductive DozeInput (Value : Type) where
  | preferenceChanged (key : PreferenceKey) (newValue : Bool)
  | switchChanged (isChecked : Bool)
  | runPosted
  | handleRequest
  | screenOn
  | screenOff
  | sensors (step : SensorStep Value)
  | retiredSensors (index : Nat) (step : SensorStep Value)

namespace DozeSystem

variable (enabledByDefault : Bool)

def checkDozeService (s : DozeSystem Value) : DozeSystem Value :=
  { s with
    requests := s.requests ++ [if s.settings.wantsService enabledByDefault then .startService else .stopService] }

/-- The state after the boot, when the receiver has checked the settings. -/
def boot (settings : Settings) (displayOff : Bool) : DozeSystem Value :=
  checkDozeService enabledByDefault ⟨settings, 0, [], none, displayOff, []⟩

def handle (s : DozeSystem Value) : ServiceRequest → DozeSystem Value
  | .startService => { s with service := some (s.service.getD .create) }
  | .stopService =>
      match s.service with
      | none => s
      | some service => { s with service := none, retired := service.destroy :: s.retired }

section Next

variable [LT Value] [DecidableLT Value] (maximumRange : Value)

/-- The receiver of the service that runs is told when the display is turned on or off. -/
def next (s : DozeSystem Value) : DozeInput Value → DozeSystem Value
  | .preferenceChanged key newValue =>
      { s with settings := s.settings.change key newValue, posted := s.posted + 1 }
  | .switchChanged isChecked =>
      let checked := checkDozeService enabledByDefault { s with settings := s.settings.enableDoze isChecked }
      if isChecked then checked else { checked with settings := checked.settings.enableAlwaysOn false }
  | .runPosted =>
      match s.posted with
      | 0 => s
      | posted + 1 => checkDozeService enabledByDefault { s with posted := posted }
  | .handleRequest =>
      match s.requests with
      | [] => s
      | request :: requests => handle { s with requests := requests } request
  | .screenOn => { s with service := s.service.map (DozeService.onDisplayOn s.settings), displayOff := false }
  | .screenOff => { s with service := s.service.map (DozeService.onDisplayOff s.settings), displayOff := true }
  | .sensors step => { s with service := s.service.map fun service => service.sensorStep maximumRange s.settings step }
  | .retiredSensors index step =>
      { s with retired := s.retired.modify index fun service => service.sensorStep maximumRange s.settings step }

end Next

/-- Whether the service runs once the requests are handled. -/
def runs (s : DozeSystem Value) : Bool :=
  s.requests.foldl (fun _ request => decide (request = .startService)) s.service.isSome

/-- Whether the proximity and the pickup sensor should have listeners. -/
def wanted (s : DozeSystem Value) : Bool × Bool :=
  (s.displayOff && s.settings.proximity, s.displayOff && s.settings.pickUp)

/-- When all that is passed on is done, the service runs if the settings want it, it listens to the sensors of the
enabled gestures while the display is off, and no service that was destroyed listens. -/
structure Consistent (s : DozeSystem Value) : Prop where
  runs_eq : s.posted = 0 → s.runs = s.settings.wantsService enabledByDefault
  settled_eq : ∀ service, s.service = some service → service.settled = s.wanted
  retired_eq : ∀ service ∈ s.retired, service.settled = (false, false)

/-- No check is posted, no request is left, and the threads of all sensors have nothing to do. -/
structure Idle (s : DozeSystem Value) : Prop where
  posted : s.posted = 0
  requests : s.requests = []
  service : ∀ service, s.service = some service → service.Idle
  retired : ∀ service ∈ s.retired, service.Idle

/-- The service runs exactly if the settings want it, the listeners of the enabled gestures are registered exactly while
the display is off, and none of a service that was destroyed. -/
structure AsAsked (s : DozeSystem Value) : Prop where
  runs_iff : s.service.isSome = s.settings.wantsService enabledByDefault
  listening_eq : ∀ service, s.service = some service → service.listening = s.wanted
  retired_eq : ∀ service ∈ s.retired, service.listening = (false, false)

/-- A change of one entry that keeps a property of the entries. -/
theorem forall_mem_modify {α : Type} {P : α → Prop} {f : α → α} {l : List α} (h : ∀ a ∈ l, P a)
    (hf : ∀ a, P a → P (f a)) (index : Nat) : ∀ a ∈ l.modify index f, P a := by
  induction l generalizing index with
  | nil =>
      rw [List.modify_nil]
      exact h
  | cons head tail ih =>
      obtain ⟨hhead, htail⟩ := List.forall_mem_cons.mp h
      cases index with
      | zero => exact List.forall_mem_cons.mpr ⟨hf head hhead, htail⟩
      | succ index => exact List.forall_mem_cons.mpr ⟨hhead, ih htail index⟩

/-- While the display is off, no gesture is enabled or disabled under a service, and no service is created for a gesture
that is enabled. -/
def ToldInTime [LT Value] [DecidableLT Value] (maximumRange : Value) (s : DozeSystem Value) (input : DozeInput Value) :
    Prop :=
  s.displayOff = true →
    (s.service.isSome = true →
      (next enabledByDefault maximumRange s input).settings.proximity = s.settings.proximity ∧
        (next enabledByDefault maximumRange s input).settings.pickUp = s.settings.pickUp) ∧
    (s.service.isSome = false → (next enabledByDefault maximumRange s input).service.isSome = true →
      s.settings.proximity = false ∧ s.settings.pickUp = false)

variable {enabledByDefault} {s : DozeSystem Value}

theorem Consistent.asAsked (h : Consistent enabledByDefault s) (hidle : s.Idle) :
    AsAsked enabledByDefault s where
  runs_iff := by
    have hruns := h.runs_eq hidle.posted
    rw [runs, hidle.requests] at hruns
    exact hruns
  listening_eq service hservice := by
    rw [← DozeService.settled_of_idle (hidle.service service hservice)]
    exact h.settled_eq service hservice
  retired_eq service hservice := by
    rw [← DozeService.settled_of_idle (hidle.retired service hservice)]
    exact h.retired_eq service hservice

theorem runs_check (s : DozeSystem Value) :
    (checkDozeService enabledByDefault s).runs = s.settings.wantsService enabledByDefault := by
  rw [runs, checkDozeService, List.foldl_append]
  cases s.settings.wantsService enabledByDefault <;> rfl

theorem runs_handle (s : DozeSystem Value) (request : ServiceRequest) (requests : List ServiceRequest)
    (h : s.requests = request :: requests) : (handle { s with requests := requests } request).runs = s.runs := by
  have hruns : s.runs = requests.foldl (fun _ request => decide (request = .startService))
      (decide (request = .startService)) := by rw [runs, h, List.foldl_cons]
  rw [hruns]
  cases request with
  | startService => rfl
  | stopService => cases s.service <;> simp [handle, runs]

theorem boot_consistent (settings : Settings) (displayOff : Bool) :
    Consistent enabledByDefault (boot enabledByDefault settings displayOff : DozeSystem Value) where
  runs_eq := fun _ => runs_check _
  settled_eq := fun service h => (by cases h)
  retired_eq := fun service h => (by cases h)

theorem settings_handle (s : DozeSystem Value) (request : ServiceRequest) :
    (handle s request).settings = s.settings := by
  cases request with
  | startService => rfl
  | stopService =>
      rw [handle]
      cases s.service <;> rfl

theorem posted_handle (s : DozeSystem Value) (request : ServiceRequest) : (handle s request).posted = s.posted := by
  cases request with
  | startService => rfl
  | stopService =>
      rw [handle]
      cases s.service <;> rfl

/-- A service that is left alone does what it should exactly if its gestures are. -/
theorem Consistent.iff_of_service (h : Consistent enabledByDefault s) {s' : DozeSystem Value}
    (hservice : s'.service = s.service) (hdisplay : s'.displayOff = s.displayOff) (hretired : s'.retired = s.retired)
    (hruns : s'.posted = 0 → s'.runs = s'.settings.wantsService enabledByDefault) :
    Consistent enabledByDefault s' ↔ (s.displayOff = true → s.service.isSome = true →
      s'.settings.proximity = s.settings.proximity ∧ s'.settings.pickUp = s.settings.pickUp) := by
  apply Iff.intro
  · intro hconsistent hoff hsome
    obtain ⟨service, hsome⟩ := Option.isSome_iff_exists.mp hsome
    have hnew := hconsistent.settled_eq service (hservice.trans hsome)
    rw [h.settled_eq service hsome, wanted, wanted, hdisplay, hoff] at hnew
    obtain ⟨hproximity, hpickUp⟩ := Prod.mk.inj hnew
    exact ⟨hproximity.symm, hpickUp.symm⟩
  · intro hkeeps
    refine ⟨hruns, ?_, ?_⟩
    · intro service hsome
      rw [hservice] at hsome
      rw [h.settled_eq service hsome, wanted, wanted, hdisplay]
      cases hoff : s.displayOff with
      | false => rfl
      | true =>
          obtain ⟨hproximity, hpickUp⟩ := hkeeps hoff (by rw [hsome]; rfl)
          rw [hproximity, hpickUp]
    · rw [hretired]
      exact h.retired_eq

/-- The request that the system handles. A service that it creates has not been told that the display is off. -/
theorem Consistent.handle_iff (h : Consistent enabledByDefault s) {request : ServiceRequest}
    {requests : List ServiceRequest} (hrequests : s.requests = request :: requests) :
    Consistent enabledByDefault (handle { s with requests := requests } request) ↔
      (s.displayOff = true → s.service.isSome = false →
        (handle { s with requests := requests } request).service.isSome = true →
          s.settings.proximity = false ∧ s.settings.pickUp = false) := by
  have hruns := runs_handle s request requests hrequests
  have hrun : (handle { s with requests := requests } request).posted = 0 →
      (handle { s with requests := requests } request).runs =
        (handle { s with requests := requests } request).settings.wantsService enabledByDefault := by
    rw [posted_handle, hruns, settings_handle]
    exact h.runs_eq
  obtain ⟨settings, posted, pending, service, displayOff, retired⟩ := s
  cases request with
  | startService =>
      cases service with
      | some old =>
          refine iff_of_true ⟨hrun, ?_, h.retired_eq⟩ fun _ hnone => (by cases hnone)
          intro service hsome
          cases hsome
          exact h.settled_eq old rfl
      | none =>
          apply Iff.intro
          · intro hconsistent hoff _ _
            have hsettled := hconsistent.settled_eq .create rfl
            obtain rfl : displayOff = true := hoff
            obtain ⟨hproximity, hpickUp⟩ := Prod.mk.inj hsettled
            exact ⟨hproximity.symm, hpickUp.symm⟩
          · intro hgestures
            refine ⟨hrun, ?_, h.retired_eq⟩
            intro service hsome
            cases hsome
            cases displayOff with
            | false => rfl
            | true =>
                obtain ⟨hproximity, hpickUp⟩ := hgestures rfl rfl rfl
                exact Prod.ext hproximity.symm hpickUp.symm
  | stopService =>
      cases service with
      | none =>
          exact iff_of_true ⟨hrun, fun service hsome => (by cases hsome), h.retired_eq⟩
            fun _ _ hsome => (by cases hsome)
      | some old =>
          refine iff_of_true ⟨hrun, fun service hsome => (by cases hsome), ?_⟩ fun _ hnone => (by cases hnone)
          exact List.forall_mem_cons.mpr ⟨old.settled_destroy, h.retired_eq⟩

/-- The service that runs, if any, is changed, and what it listens to with it. -/
theorem Consistent.map (h : Consistent enabledByDefault s) {f : DozeService Value → DozeService Value}
    {displayOff : Bool} (hsettled : ∀ service, s.service = some service → (f service).settled =
      (displayOff && s.settings.proximity, displayOff && s.settings.pickUp)) :
    Consistent enabledByDefault { s with service := s.service.map f, displayOff := displayOff } := by
  refine ⟨?_, ?_, h.retired_eq⟩
  · intro hposted
    rw [← h.runs_eq hposted, runs, runs, Option.isSome_map]
  · intro service hsome
    obtain ⟨old, hold, rfl⟩ := Option.map_eq_some_iff.mp hsome
    exact hsettled old hold

variable [LT Value] [DecidableLT Value] {maximumRange : Value}

/-- An input that leaves the service alone. -/
theorem toldInTime_iff_of_service {input : DozeInput Value}
    (hservice : (next enabledByDefault maximumRange s input).service = s.service) :
    ToldInTime enabledByDefault maximumRange s input ↔ (s.displayOff = true → s.service.isSome = true →
      (next enabledByDefault maximumRange s input).settings.proximity = s.settings.proximity ∧
        (next enabledByDefault maximumRange s input).settings.pickUp = s.settings.pickUp) := by
  apply forall_congr'
  intro hoff
  apply and_iff_left
  intro hnone hsome
  rw [hservice, hnone] at hsome
  cases hsome

/-- An input that leaves the settings alone and creates no service. -/
theorem toldInTime_of_settings {input : DozeInput Value}
    (hsettings : (next enabledByDefault maximumRange s input).settings = s.settings)
    (hservice : (next enabledByDefault maximumRange s input).service.isSome = s.service.isSome) :
    ToldInTime enabledByDefault maximumRange s input := by
  refine fun _ => ⟨fun _ => ?_, fun hnone hsome => ?_⟩
  · rw [hsettings]
    exact ⟨rfl, rfl⟩
  · rw [hservice, hnone] at hsome
    cases hsome

/-- What one step keeps. -/
theorem Consistent.next_iff (h : Consistent enabledByDefault s) (input : DozeInput Value) :
    Consistent enabledByDefault (next enabledByDefault maximumRange s input) ↔
      ToldInTime enabledByDefault maximumRange s input := by
  cases input with
  | preferenceChanged key newValue =>
      rw [toldInTime_iff_of_service rfl]
      exact h.iff_of_service rfl rfl rfl fun hposted => (by cases hposted)
  | switchChanged isChecked =>
      cases isChecked with
      | true =>
          rw [toldInTime_iff_of_service rfl]
          exact h.iff_of_service rfl rfl rfl fun _ => runs_check _
      | false =>
          rw [toldInTime_iff_of_service rfl]
          refine h.iff_of_service rfl rfl rfl fun _ => ?_
          exact runs_check { s with settings := s.settings.enableDoze false }
  | runPosted =>
      obtain ⟨settings, posted, requests, service, displayOff, retired⟩ := s
      cases posted with
      | zero => exact iff_of_true h (toldInTime_of_settings rfl rfl)
      | succ posted =>
          rw [toldInTime_iff_of_service rfl]
          exact h.iff_of_service rfl rfl rfl fun _ => runs_check _
  | handleRequest =>
      cases hrequests : s.requests with
      | nil =>
          have hnext : next enabledByDefault maximumRange s .handleRequest = s := by rw [next, hrequests]
          rw [hnext]
          exact iff_of_true h (toldInTime_of_settings (by rw [hnext]) (by rw [hnext]))
      | cons request requests =>
          have hnext : next enabledByDefault maximumRange s .handleRequest =
              handle { s with requests := requests } request := by rw [next, hrequests]
          rw [ToldInTime, hnext, h.handle_iff hrequests, settings_handle]
          apply forall_congr'
          intro _
          exact (and_iff_right fun _ => ⟨rfl, rfl⟩).symm
  | screenOn =>
      refine iff_of_true (h.map ?_) (toldInTime_of_settings rfl (Option.isSome_map ..))
      intro service hsome
      rw [DozeService.settled_onDisplayOn, h.settled_eq service hsome, wanted]
      cases s.displayOff <;> simp
  | screenOff =>
      refine iff_of_true (h.map ?_) (toldInTime_of_settings rfl (Option.isSome_map ..))
      intro service hsome
      rw [DozeService.settled_onDisplayOff, h.settled_eq service hsome, wanted]
      cases s.displayOff <;> simp
  | sensors step =>
      refine iff_of_true (h.map ?_) (toldInTime_of_settings rfl (Option.isSome_map ..))
      intro service hsome
      rw [DozeService.settled_sensorStep]
      exact h.settled_eq service hsome
  | retiredSensors index step =>
      refine iff_of_true ⟨h.runs_eq, h.settled_eq, ?_⟩ (toldInTime_of_settings rfl rfl)
      refine forall_mem_modify h.retired_eq ?_ index
      intro service hservice
      rw [DozeService.settled_sensorStep, hservice]

end DozeSystem

end Penrose.Doze

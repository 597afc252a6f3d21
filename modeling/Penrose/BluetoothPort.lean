import Penrose.BluetoothProvider

/-! `BluetoothAudioPortAidl`, the port of an audio stream on a session. The port asks the stack to start or to
suspend and then waits for a report. A report does not say which request it answers, and a request that is refused
or answered by nothing leaves the port waiting. -/

namespace Penrose.Bluetooth

inductive BluetoothStreamState where
  | disabled | standby | starting | started | suspending | unknown
  deriving DecidableEq

structure BluetoothAudioPortAidl where
  cookie : Nat
  state : BluetoothStreamState
  sessionType : SessionType
  isStereoToMono : Bool

variable {ι P O : Type}

/-- What the stack does with a request: the callbacks that arrive before it says whether it accepts the request, and
those that arrive while the port waits. -/
structure Answer (O : Type) where
  early : List (Callback O)
  accepted : Bool
  late : List (Callback O)

namespace BluetoothAudioPortAidl

def create : BluetoothAudioPortAidl := ⟨kObserversCookieUndefined, .disabled, .unknown, false⟩

def inUse (port : BluetoothAudioPortAidl) : Bool := port.cookie != kObserversCookieUndefined

def isA2dp (port : BluetoothAudioPortAidl) : Bool :=
  port.sessionType == .a2dpSoftwareEncodingDatapath || port.sessionType == .a2dpHardwareOffloadEncodingDatapath

def setState (port : BluetoothAudioPortAidl) (state : BluetoothStreamState) : BluetoothAudioPortAidl :=
  { port with state := state }

/-- The state after a report, as `ControlResultHandler` has it. -/
def stateAfterReport (previousState : BluetoothStreamState) (status : BluetoothAudioStatus) : BluetoothStreamState :=
  match previousState with
  | .started => if status = .reconfiguration ∨ status = .success then .standby else .started
  | .starting => if status = .success then .started else .standby
  | .suspending => if status = .success then .standby else .disabled
  | previousState => previousState

def controlResultHandler (port : BluetoothAudioPortAidl) (status : BluetoothAudioStatus) : BluetoothAudioPortAidl :=
  if !port.inUse then port else port.setState (stateAfterReport port.state status)

def sessionChangedHandler (port : BluetoothAudioPortAidl) : BluetoothAudioPortAidl :=
  if !port.inUse then port else port.setState .disabled

/-- `control_result_cb`; it does not look at `startResp`. -/
def controlResultCb (port : BluetoothAudioPortAidl) (cookie : Nat) (_startResp : Bool) (status : BluetoothAudioStatus) :
    BluetoothAudioPortAidl :=
  if !port.inUse then port else if port.cookie ≠ cookie then port else port.controlResultHandler status

def sessionChangedCb (port : BluetoothAudioPortAidl) (cookie : Nat) : BluetoothAudioPortAidl :=
  if !port.inUse then port else if port.cookie ≠ cookie then port else port.sessionChangedHandler

/-- The callbacks that `SetUp` registers; there is none for configurations. -/
def receive (port : BluetoothAudioPortAidl) : Callback O → BluetoothAudioPortAidl
  | .controlResultCb _ cookie startResp status => port.controlResultCb cookie startResp status
  | .sessionChangedCb _ cookie => port.sessionChangedCb cookie
  | .audioConfigurationChangedCb _ _ => port

/-- `CondwaitState`: the port after the wait, and whether it came to the state that was waited for. A wait during
which nothing arrives ends in a timeout. -/
def condwaitState (port : BluetoothAudioPortAidl) (state : BluetoothStreamState) (arriving : List (Callback O)) :
    BluetoothAudioPortAidl × Bool :=
  match state with
  | .starting =>
      let port := arriving.foldl receive port
      (port, decide (port.state ≠ .starting) && decide (port.state = .started))
  | .suspending =>
      let port := arriving.foldl receive port
      (port, decide (port.state ≠ .suspending) && decide (port.state = .standby))
  | _ => (port, false)

/-- `Start` and `Suspend` up to the request to the stack, which is made in state `entry` and awaited in state
`waiting`. -/
def ask (entry waiting : BluetoothStreamState) (port : BluetoothAudioPortAidl) : BluetoothAudioPortAidl × Bool :=
  if !port.inUse then (port, false)
  else if port.state = entry then (port.setState waiting, true)
  else (port, false)

def request (entry waiting : BluetoothStreamState) (port : BluetoothAudioPortAidl) (answer : Answer O) :
    BluetoothAudioPortAidl × Bool :=
  let (port, asked) := port.ask entry waiting
  if !asked then (port, false)
  else
    let port := answer.early.foldl receive port
    if answer.accepted then port.condwaitState waiting answer.late else (port, false)

def start (port : BluetoothAudioPortAidl) (answer : Answer O) : BluetoothAudioPortAidl × Bool :=
  port.request .standby .starting answer

def suspend (port : BluetoothAudioPortAidl) (answer : Answer O) : BluetoothAudioPortAidl × Bool :=
  port.request .started .suspending answer

def stop (port : BluetoothAudioPortAidl) : BluetoothAudioPortAidl :=
  if !port.inUse then port else port.setState .disabled

/-- `SetUp`, for a device of the type of the session. -/
def setUp (port : BluetoothAudioPortAidl) (session : BluetoothAudioSession P O) (owner : O) :
    BluetoothAudioPortAidl × BluetoothAudioSession P O × Bool :=
  let port := { port with sessionType := session.sessionType }
  if !session.isSessionReady then (port, session, false)
  else
    let (session, cookie) := session.registerStatusCback ⟨owner, false⟩
    ({ port with state := .standby, cookie := cookie }, session, cookie != kObserversCookieUndefined)

def tearDown (port : BluetoothAudioPortAidl) (session : BluetoothAudioSession P O) :
    BluetoothAudioPortAidl × BluetoothAudioSession P O :=
  if !port.inUse then (port, session)
  else ({ port with cookie := kObserversCookieUndefined }, session.unregisterStatusCback port.cookie)

/-! ### What callbacks do to a port -/

/-- The callback is one of the port, which is in use. -/
def Reaches (callback : Callback O) (port : BluetoothAudioPortAidl) : Prop :=
  port.inUse = true ∧
    match callback with
    | .controlResultCb _ cookie _ _ | .sessionChangedCb _ cookie => port.cookie = cookie
    | .audioConfigurationChangedCb _ _ => False

instance (callback : Callback O) (port : BluetoothAudioPortAidl) : Decidable (Reaches callback port) :=
  match callback with
  | .controlResultCb .. | .sessionChangedCb .. => inferInstanceAs (Decidable (_ ∧ _ = _))
  | .audioConfigurationChangedCb .. => inferInstanceAs (Decidable (_ ∧ False))

/-- The state that a callback that reaches the port leads to. -/
def stateAfter (state : BluetoothStreamState) : Callback O → BluetoothStreamState
  | .controlResultCb _ _ _ status => stateAfterReport state status
  | .sessionChangedCb _ _ => .disabled
  | .audioConfigurationChangedCb _ _ => state

theorem receive_eq (port : BluetoothAudioPortAidl) (callback : Callback O) :
    port.receive callback =
      if Reaches callback port then port.setState (stateAfter port.state callback) else port := by
  cases hinUse : port.inUse <;> cases callback <;>
    simp [receive, controlResultCb, sessionChangedCb, controlResultHandler, sessionChangedHandler, Reaches,
      stateAfter, hinUse, eq_comm]

@[simp] theorem cookie_receive (port : BluetoothAudioPortAidl) (callback : Callback O) :
    (port.receive callback).cookie = port.cookie := by
  rw [receive_eq]
  split_ifs <;> rfl

@[simp] theorem cookie_foldl_receive (callbacks : List (Callback O)) (port : BluetoothAudioPortAidl) :
    (callbacks.foldl receive port).cookie = port.cookie := by
  induction callbacks generalizing port with
  | nil => rfl
  | cons callback callbacks ih => rw [List.foldl_cons, ih, cookie_receive]

/-- Callbacks that do not reach the port leave it as it is. -/
theorem foldl_receive_of_not_reaches {callbacks : List (Callback O)} {port : BluetoothAudioPortAidl}
    (h : ∀ callback ∈ callbacks, ¬ Reaches callback port) : callbacks.foldl receive port = port := by
  induction callbacks with
  | nil => rfl
  | cons callback callbacks ih =>
      rw [List.foldl_cons, receive_eq, if_neg (h callback (List.mem_cons_self ..))]
      exact ih fun later hlater => h later (List.mem_cons_of_mem _ hlater)

end BluetoothAudioPortAidl

end Penrose.Bluetooth

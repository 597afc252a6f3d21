import Penrose.BluetoothStream
import Penrose.Runs

/-! How a request of a port ends. Only a callback takes a port out of the states in which it waits: a request that is
refused, or whose wait times out, leaves the port there, and the stream above it is busy from then on. -/

namespace Penrose.Bluetooth

variable {O : Type}

/-- The states in which a port waits. -/
def BluetoothStreamState.IsTransient (state : BluetoothStreamState) : Prop :=
  state = .starting ∨ state = .suspending

/-- The callbacks that arrive until the request returns. -/
def Answer.arriving (answer : Answer O) : List (Callback O) :=
  answer.early ++ if answer.accepted then answer.late else []

/-! ### What a request leaves -/

namespace BluetoothAudioPortAidl

variable {port : BluetoothAudioPortAidl} {entry waiting : BluetoothStreamState}

theorem reaches_congr {port' : BluetoothAudioPortAidl} (hcookie : port'.cookie = port.cookie)
    (callback : Callback O) : Reaches callback port' ↔ Reaches callback port := by
  simp only [Reaches, inUse, hcookie]

/-- A callback that reaches a port ends its waiting. -/
theorem not_isTransient_stateAfter (state : BluetoothStreamState) {callback : Callback O}
    (hreaches : Reaches callback port) : ¬ (stateAfter state callback).IsTransient := by
  cases callback with
  | controlResultCb owner cookie startResp status =>
      cases state <;> cases status <;> simp [stateAfter, stateAfterReport, BluetoothStreamState.IsTransient]
  | sessionChangedCb owner cookie => simp [stateAfter, BluetoothStreamState.IsTransient]
  | audioConfigurationChangedCb owner cookie => exact absurd hreaches.2 not_false

theorem isTransient_foldl_receive_iff (callbacks : List (Callback O)) (port : BluetoothAudioPortAidl) :
    (callbacks.foldl receive port).state.IsTransient ↔
      port.state.IsTransient ∧ ∀ callback ∈ callbacks, ¬ Reaches callback port := by
  induction callbacks generalizing port with
  | nil => simp
  | cons callback callbacks ih =>
      rw [List.foldl_cons, ih, List.forall_mem_cons]
      simp only [reaches_congr (cookie_receive port callback)]
      rw [receive_eq]
      by_cases hreaches : Reaches callback port
      · rw [if_pos hreaches]
        have hends := not_isTransient_stateAfter port.state hreaches
        exact iff_of_false (fun h => hends h.1) fun h => h.2.1 hreaches
      · rw [if_neg hreaches]
        tauto

/-- A request that is made leaves the port to the callbacks that arrive. -/
theorem request_of_asked (hinUse : port.inUse = true) (hentry : port.state = entry)
    (hwaiting : waiting.IsTransient) (answer : Answer O) :
    (port.request entry waiting answer).1 = answer.arriving.foldl receive (port.setState waiting) := by
  rw [request, ask, hinUse, Answer.arriving, List.foldl_append]
  simp only [hentry, Bool.not_true, Bool.false_eq_true, if_false, if_true]
  cases answer.accepted with
  | false => rfl
  | true => rcases hwaiting with rfl | rfl <;> rfl

theorem request_of_not_asked (hnot : ¬ (port.inUse = true ∧ port.state = entry)) (answer : Answer O) :
    port.request entry waiting answer = (port, false) := by
  have hask : port.ask entry waiting = (port, false) := by
    rw [ask]
    cases hinUse : port.inUse with
    | false => rfl
    | true =>
        have hstate : port.state ≠ entry := fun heq => hnot ⟨hinUse, heq⟩
        simp [hstate]
  rw [request, hask]
  rfl

end BluetoothAudioPortAidl

/-! ### The streams above -/

/-- The calls of the audio framework that ask a port for something. -/
inductive StreamCall (O : Type) where
  | outResume (answer : Answer O)
  | outPause (answer : Answer O)
  | outStandby (answer : Answer O)

def StreamCall.apply (out : AidlStreamOut) : StreamCall O → AidlStreamOut × Int
  | .outResume answer => out.outResume answer
  | .outPause answer => out.outPause answer
  | .outStandby answer => out.outStandby answer

/-- Whatever is called, and however the stack answers, the stream is busy. -/
def BluetoothStreamOut.StaysBusy (O : Type) (out : AidlStreamOut) : Prop :=
  ∀ calls : List (StreamCall O),
    Run (fun out call => (StreamCall.apply out call).1) (fun out call => (call.apply out).2 = -ebusy) out calls

theorem BluetoothStreamOut.apply_of_isTransient {out : AidlStreamOut} (h : out.state.IsTransient)
    (call : StreamCall O) : call.apply out = (out, -ebusy) := by
  cases call <;> rcases h with h | h <;>
    simp [StreamCall.apply, outResume, outPause, outStandby, suspendOutput, h]

theorem BluetoothStreamOut.staysBusy_iff (out : AidlStreamOut) : out.StaysBusy O ↔ out.state.IsTransient := by
  refine ⟨?_, ?_⟩
  · intro hbusy
    have hresume : (out.outResume (⟨[], false, []⟩ : Answer O)).2 = -ebusy :=
      (hbusy [.outResume ⟨[], false, []⟩]).1
    rw [outResume] at hresume
    cases hstate : out.state <;> rw [hstate] at hresume <;> simp only at hresume
    case starting => exact Or.inl rfl
    case suspending => exact Or.inr rfl
    case standby => split_ifs at hresume <;> cases hresume
    all_goals cases hresume
  · intro h calls
    induction calls with
    | nil => trivial
    | cons call calls ih =>
        have hcall := apply_of_isTransient h call
        rw [Run, hcall]
        exact ⟨rfl, ih⟩

/-- What a port asks the stack for. -/
inductive Request where
  | start | suspend

namespace Request

def entry : Request → BluetoothStreamState
  | start => .standby
  | suspend => .started

def waiting : Request → BluetoothStreamState
  | start => .starting
  | suspend => .suspending

def done : Request → BluetoothStreamState
  | start => .started
  | suspend => .standby

def run (request : Request) (port : BluetoothAudioPortAidl) (answer : Answer O) : BluetoothAudioPortAidl × Bool :=
  match request with
  | start => port.start answer
  | suspend => port.suspend answer

/-- A request settles: the port no longer waits for it, it succeeds only with the state that it is for, and when it
fails the stream is not busy for good. -/
def Settles (request : Request) (out : AidlStreamOut) (answer : Answer O) : Prop :=
  let after := request.run out.bluetoothOutput answer
  after.1.state ≠ request.waiting ∧
    (out.state = request.entry → after.2 = true → after.1.state = request.done) ∧
      (out.state = request.entry → after.2 = false →
        ¬ BluetoothStreamOut.StaysBusy O { out with bluetoothOutput := after.1 })

/-- A request that is made is answered by a callback; where none is made the port does not wait for one. -/
def IsAnswered (request : Request) (port : BluetoothAudioPortAidl) (answer : Answer O) : Prop :=
  if port.inUse = true ∧ port.state = request.entry then
    ∃ callback ∈ answer.arriving, BluetoothAudioPortAidl.Reaches callback port
  else port.state ≠ request.waiting

theorem run_eq (request : Request) (port : BluetoothAudioPortAidl) (answer : Answer O) :
    request.run port answer = port.request request.entry request.waiting answer := by
  cases request <;> rfl

theorem isTransient_waiting (request : Request) : request.waiting.IsTransient := by
  cases request
  · exact Or.inl rfl
  · exact Or.inr rfl

theorem not_isTransient_entry (request : Request) : ¬ request.entry.IsTransient := by
  cases request <;> simp [entry, BluetoothStreamState.IsTransient]

theorem state_of_condwaitState (request : Request) {port : BluetoothAudioPortAidl} {arriving : List (Callback O)}
    (h : (port.condwaitState request.waiting arriving).2 = true) :
    (port.condwaitState request.waiting arriving).1.state = request.done := by
  cases request
  · exact of_decide_eq_true (Bool.and_eq_true_iff.mp h).2
  · exact of_decide_eq_true (Bool.and_eq_true_iff.mp h).2

/-- A request succeeds only with the state that it is for. -/
theorem state_of_run (request : Request) {port : BluetoothAudioPortAidl} {answer : Answer O}
    (h : (request.run port answer).2 = true) : (request.run port answer).1.state = request.done := by
  rw [run_eq, BluetoothAudioPortAidl.request] at h ⊢
  obtain ⟨asking, asked, hask⟩ : ∃ asking asked, port.ask request.entry request.waiting = (asking, asked) :=
    ⟨_, _, rfl⟩
  rw [hask] at h ⊢
  cases asked with
  | false => cases h
  | true =>
      cases haccepted : answer.accepted with
      | false =>
          rw [haccepted] at h
          cases h
      | true =>
          rw [haccepted] at h
          exact request.state_of_condwaitState h

/-- A request settles if and only if a callback answers it. -/
theorem settles_iff (request : Request) (out : AidlStreamOut) (answer : Answer O) :
    request.Settles out answer ↔ request.IsAnswered out.bluetoothOutput answer := by
  rw [Settles, IsAnswered]
  simp only [BluetoothStreamOut.staysBusy_iff, BluetoothStreamOut.state]
  split_ifs with hasked
  · -- the port waits until something reaches it
    have hafter := BluetoothAudioPortAidl.request_of_asked hasked.1 hasked.2 request.isTransient_waiting answer
    have hbusy : (request.run out.bluetoothOutput answer).1.state.IsTransient ↔
        ∀ callback ∈ answer.arriving, ¬ BluetoothAudioPortAidl.Reaches callback out.bluetoothOutput := by
      rw [run_eq, hafter, BluetoothAudioPortAidl.isTransient_foldl_receive_iff]
      exact ⟨fun h => h.2, fun h => ⟨request.isTransient_waiting, h⟩⟩
    refine ⟨?_, ?_⟩
    · rintro ⟨hwaiting, -, -⟩
      by_contra! hnone
      have hunchanged : answer.arriving.foldl BluetoothAudioPortAidl.receive
          (out.bluetoothOutput.setState request.waiting) = out.bluetoothOutput.setState request.waiting :=
        BluetoothAudioPortAidl.foldl_receive_of_not_reaches hnone
      apply hwaiting
      rw [run_eq, hafter, hunchanged]
      rfl
    · rintro ⟨callback, hmem, hreaches⟩
      have hsettled : ¬ (request.run out.bluetoothOutput answer).1.state.IsTransient :=
        fun h => hbusy.mp h callback hmem hreaches
      exact ⟨fun heq => hsettled (heq ▸ request.isTransient_waiting), fun _ => request.state_of_run,
        fun _ _ => hsettled⟩
  · have hsame : request.run out.bluetoothOutput answer = (out.bluetoothOutput, false) := by
      rw [run_eq]
      exact BluetoothAudioPortAidl.request_of_not_asked hasked answer
    rw [hsame]
    refine ⟨fun h => h.1, fun h => ⟨h, fun _ htrue => Bool.noConfusion htrue, fun hentry _ hbusy => ?_⟩⟩
    rw [hentry] at hbusy
    exact request.not_isTransient_entry hbusy

/-- A stream that stands by. -/
def standingBy : AidlStreamOut :=
  ⟨⟨0x100, .standby, .a2dpSoftwareEncodingDatapath, false⟩, 0, 44100, .outStereo, .pcm16Bit, 10000, 441, 0, 0⟩

/-- The stack refuses to start the stream. -/
theorem standingBy_refused : ¬ start.Settles standingBy (⟨[], false, []⟩ : Answer Unit) :=
  fun hsettles => hsettles.1 (by decide)

end Request

end Penrose.Bluetooth

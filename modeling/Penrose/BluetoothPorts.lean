import Penrose.BluetoothPort

/-! The ports on one session. A report of a provider goes to all of them, whatever each of them asked for. -/

namespace Penrose.Bluetooth

variable {ι P : Type}

/-- A session and the ports, which register on it under their own names. -/
structure SessionPorts (ι P : Type) where
  session : BluetoothAudioSession P ι
  ports : ι → BluetoothAudioPortAidl

/-- What a port does, or a provider of the session or the stack. -/
inductive PortEvent (ι P : Type) where
  | setUp (port : ι)
  | tearDown (port : ι)
  | start (port : ι)
  | suspend (port : ι)
  | stop (port : ι)
  | waitTimeout (port : ι)
  | sessionCall (call : SessionCall P ι)
  | streamStarted (provider : BluetoothAudioProvider P) (status : BluetoothAudioStatus)
  | streamSuspended (provider : BluetoothAudioProvider P) (status : BluetoothAudioStatus)

def Callback.owner {O : Type} : Callback O → O
  | .controlResultCb owner _ _ _ | .sessionChangedCb owner _ | .audioConfigurationChangedCb owner _ => owner

namespace SessionPorts

variable [DecidableEq ι]

/-- No port is open, and the session has not been started. -/
def create (sessionType : SessionType) : SessionPorts ι P := ⟨.create sessionType, fun _ => .create⟩

/-- Every port receives its callbacks in their order. -/
def deliver (s : SessionPorts ι P) (callbacks : List (Callback ι)) : SessionPorts ι P :=
  { s with
    ports := fun i =>
      (callbacks.filter fun callback => callback.owner = i).foldl BluetoothAudioPortAidl.receive (s.ports i) }

def setPort (s : SessionPorts ι P) (i : ι) (port : BluetoothAudioPortAidl) : SessionPorts ι P :=
  { s with ports := Function.update s.ports i port }

def next (s : SessionPorts ι P) : PortEvent ι P → SessionPorts ι P
  | .setUp i =>
      let (port, session, _) := (s.ports i).setUp s.session i
      { s.setPort i port with session := session }
  | .tearDown i =>
      let (port, session) := (s.ports i).tearDown s.session
      { s.setPort i port with session := session }
  | .start i => s.setPort i ((s.ports i).ask .standby .starting).1
  | .suspend i => s.setPort i ((s.ports i).ask .started .suspending).1
  | .stop i => s.setPort i (s.ports i).stop
  | .waitTimeout _ => s
  | .sessionCall call =>
      let (session, callbacks) := call.apply s.session
      { s with session := session }.deliver callbacks
  | .streamStarted provider status => s.deliver (provider.streamStarted s.session status)
  | .streamSuspended provider status => s.deliver (provider.streamSuspended s.session status)

/-- Acknowledgements act on the requests they answer only: that of a start leaves no port that is started, and that
of a suspend starts none. -/
def ActsOnRequest (s : SessionPorts ι P) (event : PortEvent ι P) : Prop :=
  match event with
  | .streamStarted _ .success =>
      ∀ i, (s.ports i).state = .started → ((s.next event).ports i).state = .started
  | .streamSuspended _ _ =>
      ∀ i, (s.ports i).state ≠ .started → ((s.next event).ports i).state ≠ .started
  | _ => True

/-- The port is registered with its cookie among the observers. -/
def ListensTo (observers : List (Nat × PortStatusCallbacks ι)) (i : ι) (port : BluetoothAudioPortAidl) : Prop :=
  port.inUse = true ∧ (port.cookie, i) ∈ observers.map fun observer => (observer.1, observer.2.owner)

instance (observers : List (Nat × PortStatusCallbacks ι)) (i : ι) (port : BluetoothAudioPortAidl) :
    Decidable (ListensTo observers i port) := inferInstanceAs (Decidable (_ ∧ _))

def Listens (s : SessionPorts ι P) (i : ι) : Prop := ListensTo s.session.observers i (s.ports i)

instance (s : SessionPorts ι P) (i : ι) : Decidable (s.Listens i) := inferInstanceAs (Decidable (ListensTo _ _ _))

/-- No acknowledgement reaches a port that is in the state of the opposite request. -/
def Undisturbed (s : SessionPorts ι P) : PortEvent ι P → Prop
  | .streamStarted provider .success =>
      provider.stackIface = none ∨ ∀ i, s.Listens i → (s.ports i).state ≠ .started
  | .streamSuspended provider status =>
      provider.stackIface = none ∨ status ≠ .success ∨ ∀ i, s.Listens i → (s.ports i).state ≠ .starting
  | _ => True

variable {s : SessionPorts ι P}

open BluetoothAudioPortAidl in
theorem foldl_receive_report {observers : List (Nat × PortStatusCallbacks ι)}
    (hunique : (observers.map Prod.fst).Nodup) (startResp : Bool) (status : BluetoothAudioStatus) (i : ι)
    (port : BluetoothAudioPortAidl) :
    ((observers.filter fun observer => observer.2.owner = i).foldl
          (fun port observer => port.receive (.controlResultCb observer.2.owner observer.1 startResp status))
          port).state =
      if ListensTo observers i port then stateAfterReport port.state status else port.state := by
  induction observers generalizing port with
  | nil => simp [ListensTo]
  | cons observer rest ih =>
      obtain ⟨hfresh, hrest⟩ := List.nodup_cons.mp hunique
      by_cases howner : observer.2.owner = i
      · rw [List.filter_cons_of_pos (by simpa using howner), List.foldl_cons, ih hrest, receive_eq]
        by_cases hreaches :
            Reaches (.controlResultCb observer.2.owner observer.1 startResp status) port
        · -- the cookie is that of no other observer
          have hnot (state : BluetoothStreamState) : ¬ ListensTo rest i (port.setState state) := by
            rintro ⟨-, hmem⟩
            obtain ⟨later, hlater, heq⟩ := List.mem_map.mp hmem
            refine hfresh (List.mem_map.mpr ⟨later, hlater, ?_⟩)
            rw [(Prod.mk.inj heq).1, ← hreaches.2]
            rfl
          rw [if_pos hreaches, if_neg (hnot _),
            if_pos ⟨hreaches.1, by simp [hreaches.2, howner]⟩]
          rfl
        · have hiff : ListensTo (observer :: rest) i port ↔ ListensTo rest i port := by
            simp only [Reaches] at hreaches
            simp only [ListensTo, List.map_cons, List.mem_cons, Prod.mk.injEq]
            tauto
          rw [if_neg hreaches, if_congr hiff rfl rfl]
      · have hiff : ListensTo (observer :: rest) i port ↔ ListensTo rest i port := by
          simp only [ListensTo, List.map_cons, List.mem_cons, Prod.mk.injEq, eq_comm (a := i), howner, and_false,
            false_or]
        rw [List.filter_cons_of_neg (by simpa using howner), ih hrest, if_congr hiff rfl rfl]

/-- A report changes the ports that listen, each of them once. -/
theorem state_deliver_report (hunique : s.session.UniqueCookies) (startResp : Bool) (status : BluetoothAudioStatus)
    (i : ι) : ((s.deliver (s.session.reportControlStatus startResp status)).ports i).state =
      if s.Listens i then BluetoothAudioPortAidl.stateAfterReport (s.ports i).state status
      else (s.ports i).state := by
  rw [deliver, BluetoothAudioSession.reportControlStatus]
  simp only [List.filter_map, List.foldl_map]
  exact foldl_receive_report hunique startResp status i (s.ports i)

/-- Both acknowledgements reach the ports that listen, if the provider has a session. -/
theorem state_next_acknowledgement (hunique : s.session.UniqueCookies) {provider : BluetoothAudioProvider P}
    {status : BluetoothAudioStatus} {event : PortEvent ι P}
    (hevent : event = .streamStarted provider status ∨ event = .streamSuspended provider status) (i : ι) :
    ((s.next event).ports i).state =
      if provider.stackIface ≠ none ∧ s.Listens i then
        BluetoothAudioPortAidl.stateAfterReport (s.ports i).state status
      else (s.ports i).state := by
  obtain ⟨startResp, hnext⟩ : ∃ startResp, s.next event = s.deliver
      (if provider.stackIface.isSome then s.session.reportControlStatus startResp status else []) := by
    rcases hevent with rfl | rfl
    · exact ⟨true, rfl⟩
    · exact ⟨false, rfl⟩
  rw [hnext]
  cases provider.stackIface with
  | none => simp [deliver]
  | some host => simp [state_deliver_report hunique]

theorem stateAfterReport_eq_started_iff (state : BluetoothStreamState) (status : BluetoothAudioStatus) :
    BluetoothAudioPortAidl.stateAfterReport state status = .started ↔
      state = .started ∧ status ≠ .reconfiguration ∧ status ≠ .success ∨
        state = .starting ∧ status = .success := by
  cases state <;> cases status <;> simp [BluetoothAudioPortAidl.stateAfterReport]

/-- In every state an acknowledgement acts only on requests of its kind exactly if it disturbs no other. -/
theorem actsOnRequest_iff (hunique : s.session.UniqueCookies) (event : PortEvent ι P) :
    s.ActsOnRequest event ↔ s.Undisturbed event := by
  cases event with
  | streamStarted provider status =>
      cases status with
      | success =>
          simp only [ActsOnRequest, Undisturbed, state_next_acknowledgement hunique (.inl rfl)]
          refine ⟨fun hacts => ?_, fun hundisturbed i hstarted => ?_⟩
          · by_contra! hdisturbed
            obtain ⟨hiface, i, hlistens, hstarted⟩ := hdisturbed
            have hafter := hacts i hstarted
            rw [if_pos ⟨hiface, hlistens⟩, stateAfterReport_eq_started_iff, hstarted] at hafter
            simp at hafter
          · rw [if_neg, hstarted]
            rintro ⟨hiface, hlistens⟩
            rcases hundisturbed with hnone | hnotStarted
            · exact hiface hnone
            · exact hnotStarted i hlistens hstarted
      | _ => exact Iff.rfl
  | streamSuspended provider status =>
      simp only [ActsOnRequest, Undisturbed, state_next_acknowledgement hunique (.inr rfl)]
      refine ⟨fun hacts => ?_, fun hundisturbed i hnotStarted => ?_⟩
      · by_contra! hdisturbed
        obtain ⟨hiface, rfl, i, hlistens, hstarting⟩ := hdisturbed
        have hafter := hacts i (by rw [hstarting]; decide)
        rw [if_pos ⟨hiface, hlistens⟩, ne_eq, stateAfterReport_eq_started_iff, hstarting] at hafter
        simp at hafter
      · split_ifs with hreached
        · rw [ne_eq, stateAfterReport_eq_started_iff]
          rcases hundisturbed with hnone | hstatus | hnotStarting
          · exact absurd hnone hreached.1
          · tauto
          · have := hnotStarting i hreached.2
            tauto
        · exact hnotStarted
  | _ => exact Iff.rfl

theorem uniqueCookies_next (hunique : s.session.UniqueCookies) (event : PortEvent ι P) :
    (s.next event).session.UniqueCookies := by
  cases event with
  | setUp i =>
      rw [next, BluetoothAudioPortAidl.setUp]
      split_ifs
      · exact hunique
      · exact hunique.registerStatusCback _
  | tearDown i =>
      rw [next, BluetoothAudioPortAidl.tearDown]
      split_ifs
      · exact hunique
      · exact hunique.unregisterStatusCback _
  | sessionCall call => exact hunique.next call
  | start | suspend | stop | waitTimeout | streamStarted | streamSuspended => exact hunique

/-- In a run acknowledgements act only on the requests they answer if and only if none of them disturbs a port. -/
theorem run_actsOnRequest_iff (sessionType : SessionType) (events : List (PortEvent ι P)) :
    Run next ActsOnRequest (create sessionType) events ↔ Run next Undisturbed (create sessionType) events := by
  have hiff (s : SessionPorts ι P) (event : PortEvent ι P) (hunique : s.session.UniqueCookies) (_ : True) :=
    actsOnRequest_iff hunique event
  exact Run.iff_of_inv hiff (fun s event hunique _ _ => uniqueCookies_next hunique event) List.nodup_nil
    (Run.forall_iff.mpr fun _ _ => trivial)

/-- One port is started; another asks to be started and is told so. -/
def startsTwoPorts : List (PortEvent Bool Nat) :=
  let provider : BluetoothAudioProvider Nat := { softwareProvider with stackIface := some 7 }
  [.sessionCall (.onSessionStarted (some 7) (some ⟨true⟩) (.pcmConfig ⟨48000, .stereo, 16, 10000⟩) []),
    .setUp false, .setUp true, .start false, .streamStarted provider .success, .start true,
    .streamStarted provider .success]

/-- The second acknowledgement takes the first port out of its state. -/
theorem startsTwoPorts_disturbed :
    ¬ Run next ActsOnRequest (create .a2dpSoftwareEncodingDatapath) startsTwoPorts := by
  rintro ⟨-, -, -, -, -, -, hacts, -⟩
  exact absurd (hacts false (by decide)) (by decide)

end SessionPorts

end Penrose.Bluetooth

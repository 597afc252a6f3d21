import Penrose.BluetoothCodecs
import Penrose.Runs

/-! `BluetoothAudioSession`: the session that the Bluetooth stack starts and ends, and whose observers are told
when it becomes ready or stops being so. They are told of every such change except two: a ready session started
anew with an invalid queue, and a configuration that arrives after that. -/

namespace Penrose.Bluetooth

inductive LatencyMode where
  | unknown | lowLatency | free

inductive BluetoothAudioStatus where
  | unknown | success | unsupportedCodecConfiguration | failure | reconfiguration
  deriving DecidableEq

/-- `DataMQDesc`, as far as a session looks at it. -/
structure DataMQDesc where
  valid : Bool

/-- `DataMQ`: a queue made from a descriptor. -/
structure DataMQ where
  desc : DataMQDesc

def DataMQ.isValid (dataMq : DataMQ) : Bool := dataMq.desc.valid

/-- `PortStatusCallbacks` of an observer; every callback but the one for configurations is always there. -/
structure PortStatusCallbacks (O : Type) where
  owner : O
  hasAudioConfigurationChangedCb : Bool

/-- One invocation of a callback. -/
inductive Callback (O : Type) where
  | controlResultCb (owner : O) (cookie : Nat) (startResp : Bool) (status : BluetoothAudioStatus)
  | sessionChangedCb (owner : O) (cookie : Nat)
  | audioConfigurationChangedCb (owner : O) (cookie : Nat)
  deriving DecidableEq

/-- `BluetoothAudioSession`, with `P` the ports of the stack. The observers are keyed by their cookies. -/
structure BluetoothAudioSession (P O : Type) where
  sessionType : SessionType
  stackIface : Option P
  dataMq : Option DataMQ
  audioConfig : Option AudioConfiguration
  latencyModes : List LatencyMode
  observers : List (Nat × PortStatusCallbacks O)

/-- The sessions whose data does not go through a queue. -/
def SessionType.isOffload : SessionType → Bool
  | .a2dpHardwareOffloadEncodingDatapath | .leAudioHardwareOffloadEncodingDatapath
  | .leAudioHardwareOffloadDecodingDatapath | .leAudioBroadcastHardwareOffloadEncodingDatapath
  | .a2dpHardwareOffloadDecodingDatapath => true
  | _ => false

def SessionType.isSoftware : SessionType → Bool
  | .a2dpSoftwareEncodingDatapath | .hearingAidSoftwareEncodingDatapath | .leAudioSoftwareDecodingDatapath
  | .leAudioSoftwareEncodingDatapath | .leAudioBroadcastSoftwareEncodingDatapath
  | .a2dpSoftwareDecodingDatapath => true
  | _ => false

def SessionType.isOffloadA2dp : SessionType → Bool
  | .a2dpHardwareOffloadEncodingDatapath | .a2dpHardwareOffloadDecodingDatapath => true
  | _ => false

def SessionType.isOffloadLeAudio : SessionType → Bool
  | .leAudioHardwareOffloadEncodingDatapath | .leAudioHardwareOffloadDecodingDatapath => true
  | _ => false

/-- The backing values. -/
def SessionType.value : SessionType → Nat
  | .unknown => 0
  | .a2dpSoftwareEncodingDatapath => 1
  | .a2dpHardwareOffloadEncodingDatapath => 2
  | .hearingAidSoftwareEncodingDatapath => 3
  | .leAudioSoftwareEncodingDatapath => 4
  | .leAudioSoftwareDecodingDatapath => 5
  | .leAudioHardwareOffloadEncodingDatapath => 6
  | .leAudioHardwareOffloadDecodingDatapath => 7
  | .leAudioBroadcastSoftwareEncodingDatapath => 8
  | .leAudioBroadcastHardwareOffloadEncodingDatapath => 9
  | .a2dpSoftwareDecodingDatapath => 10
  | .a2dpHardwareOffloadDecodingDatapath => 11

def kObserversCookieSize : Nat := 0x0010

def observersCookieGetInitValue (sessionType : SessionType) : Nat := sessionType.value <<< 8 &&& 0xff00

def observersCookieGetUpperBound (sessionType : SessionType) : Nat :=
  (sessionType.value <<< 8 &&& 0xff00) + kObserversCookieSize

def kObserversCookieUndefined : Nat := SessionType.unknown.value <<< 8 &&& 0xff00

variable {P O : Type}

namespace BluetoothAudioSession

def create (sessionType : SessionType) : BluetoothAudioSession P O := ⟨sessionType, none, none, none, [], []⟩

def isSessionReady (session : BluetoothAudioSession P O) : Bool :=
  let isMqValid := session.sessionType.isOffload || session.dataMq.any DataMQ.isValid
  session.stackIface.isSome && isMqValid && session.audioConfig.isSome

/-- `UpdateDataPath`; without a descriptor the queue is reset. -/
def updateDataPath (session : BluetoothAudioSession P O) (mqDesc : Option DataMQDesc) :
    BluetoothAudioSession P O × Bool :=
  match mqDesc with
  | none => ({ session with dataMq := none }, true)
  | some mqDesc =>
      let tempMq : DataMQ := ⟨mqDesc⟩
      if !tempMq.isValid then ({ session with dataMq := none }, false)
      else ({ session with dataMq := some tempMq }, true)

/-- The test of `UpdateAudioConfig`. -/
def takesAudioConfig (sessionType : SessionType) (audioConfig : AudioConfiguration) : Bool :=
  let isSoftwareAudioConfig := sessionType.isSoftware && audioConfig.getTag == .pcmConfig
  let isA2dpOffloadAudioConfig := sessionType.isOffloadA2dp && audioConfig.getTag == .a2dpConfig
  let isLeAudioOffloadAudioConfig := sessionType.isOffloadLeAudio && audioConfig.getTag == .leAudioConfig
  isSoftwareAudioConfig || isA2dpOffloadAudioConfig || isLeAudioOffloadAudioConfig

def updateAudioConfig (session : BluetoothAudioSession P O) (audioConfig : AudioConfiguration) :
    BluetoothAudioSession P O × Bool :=
  if !takesAudioConfig session.sessionType audioConfig then (session, false)
  else ({ session with audioConfig := some audioConfig }, true)

def reportSessionStatus (session : BluetoothAudioSession P O) : List (Callback O) :=
  session.observers.map fun observer => .sessionChangedCb observer.2.owner observer.1

def onSessionStarted (session : BluetoothAudioSession P O) (stackIface : Option P) (mqDesc : Option DataMQDesc)
    (audioConfig : AudioConfiguration) (latencyModes : List LatencyMode) :
    BluetoothAudioSession P O × List (Callback O) :=
  match stackIface with
  | none => (session, [])
  | some stackIface =>
      let (session, configured) := session.updateAudioConfig audioConfig
      if !configured then (session, [])
      else
        let (session, connected) := session.updateDataPath mqDesc
        if !connected then ({ session with audioConfig := none }, [])
        else
          let session := { session with stackIface := some stackIface, latencyModes := latencyModes }
          (session, session.reportSessionStatus)

def onSessionEnded (session : BluetoothAudioSession P O) : BluetoothAudioSession P O × List (Callback O) :=
  let toggled := session.isSessionReady
  let session := { session with audioConfig := none, stackIface := none }
  let session := (session.updateDataPath none).1
  (session, if toggled then session.reportSessionStatus else [])

def reportAudioConfigChanged (session : BluetoothAudioSession P O) (audioConfig : AudioConfiguration) :
    BluetoothAudioSession P O × List (Callback O) :=
  if session.sessionType ≠ .leAudioHardwareOffloadEncodingDatapath ∧
      session.sessionType ≠ .leAudioHardwareOffloadDecodingDatapath then (session, [])
  else
    ({ session with audioConfig := some audioConfig },
      (session.observers.filter fun observer => observer.2.hasAudioConfigurationChangedCb).map fun observer =>
        .audioConfigurationChangedCb observer.2.owner observer.1)

def reportControlStatus (session : BluetoothAudioSession P O) (startResp : Bool) (status : BluetoothAudioStatus) :
    List (Callback O) :=
  session.observers.map fun observer => .controlResultCb observer.2.owner observer.1 startResp status

/-- The loop of `RegisterStatusCback`: the first cookie without an observer among the next ones. -/
def freeCookie (observers : List (Nat × PortStatusCallbacks O)) : Nat → Nat → Nat
  | 0, cookie => cookie
  | count + 1, cookie =>
      if cookie ∈ observers.map Prod.fst then freeCookie observers count (cookie + 1) else cookie

def registerStatusCback (session : BluetoothAudioSession P O) (callbacks : PortStatusCallbacks O) :
    BluetoothAudioSession P O × Nat :=
  let cookie := freeCookie session.observers kObserversCookieSize (observersCookieGetInitValue session.sessionType)
  if observersCookieGetUpperBound session.sessionType ≤ cookie then (session, kObserversCookieUndefined)
  else ({ session with observers := session.observers ++ [(cookie, callbacks)] }, cookie)

def unregisterStatusCback (session : BluetoothAudioSession P O) (cookie : Nat) : BluetoothAudioSession P O :=
  { session with observers := session.observers.filter fun observer => observer.1 ≠ cookie }

end BluetoothAudioSession

/-- What is called on a session. -/
inductive SessionCall (P O : Type) where
  | onSessionStarted (stackIface : Option P) (mqDesc : Option DataMQDesc) (audioConfig : AudioConfiguration)
      (latencyModes : List LatencyMode)
  | onSessionEnded
  | reportAudioConfigChanged (audioConfig : AudioConfiguration)
  | registerStatusCback (callbacks : PortStatusCallbacks O)
  | unregisterStatusCback (cookie : Nat)

/-- The session after a call, and the callbacks that the call invokes. -/
def SessionCall.apply (session : BluetoothAudioSession P O) :
    SessionCall P O → BluetoothAudioSession P O × List (Callback O)
  | .onSessionStarted stackIface mqDesc audioConfig latencyModes =>
      session.onSessionStarted stackIface mqDesc audioConfig latencyModes
  | .onSessionEnded => session.onSessionEnded
  | .reportAudioConfigChanged audioConfig => session.reportAudioConfigChanged audioConfig
  | .registerStatusCback callbacks => ((session.registerStatusCback callbacks).1, [])
  | .unregisterStatusCback cookie => (session.unregisterStatusCback cookie, [])

def BluetoothAudioSession.next (session : BluetoothAudioSession P O) (call : SessionCall P O) :
    BluetoothAudioSession P O :=
  (call.apply session).1

/-! ### The cookies -/

namespace BluetoothAudioSession

/-- No two observers have one cookie. -/
def UniqueCookies (session : BluetoothAudioSession P O) : Prop := (session.observers.map Prod.fst).Nodup

theorem freeCookie_not_mem (observers : List (Nat × PortStatusCallbacks O)) (count cookie : Nat) :
    freeCookie observers count cookie ∉ observers.map Prod.fst ∨
      freeCookie observers count cookie = cookie + count := by
  induction count generalizing cookie with
  | zero => exact Or.inr rfl
  | succ count ih =>
      rw [freeCookie]
      split_ifs with hmem
      · rcases ih (cookie + 1) with hfree | hlast
        · exact Or.inl hfree
        · exact Or.inr (by omega)
      · exact Or.inl hmem

theorem UniqueCookies.registerStatusCback {session : BluetoothAudioSession P O} (hunique : session.UniqueCookies)
    (callbacks : PortStatusCallbacks O) : (session.registerStatusCback callbacks).1.UniqueCookies := by
  rw [BluetoothAudioSession.registerStatusCback]
  split_ifs with hfull
  · exact hunique
  · have hfresh := (freeCookie_not_mem session.observers kObserversCookieSize
      (observersCookieGetInitValue session.sessionType)).resolve_right (by
        rw [observersCookieGetUpperBound] at hfull
        rw [observersCookieGetInitValue] at hfull ⊢
        omega)
    rw [UniqueCookies, List.map_append, List.nodup_append]
    refine ⟨hunique, List.pairwise_singleton .., fun cookie hcookie later hlater => ?_⟩
    rw [List.map_cons, List.map_nil, List.mem_singleton] at hlater
    rw [hlater]
    exact ne_of_mem_of_not_mem hcookie hfresh

theorem UniqueCookies.unregisterStatusCback {session : BluetoothAudioSession P O}
    (hunique : session.UniqueCookies) (cookie : Nat) : (session.unregisterStatusCback cookie).UniqueCookies :=
  hunique.sublist (List.filter_sublist.map Prod.fst)

/-- A start changes neither the type nor the observers. -/
theorem facts_onSessionStarted (session : BluetoothAudioSession P O) (stackIface : Option P)
    (mqDesc : Option DataMQDesc) (audioConfig : AudioConfiguration) (latencyModes : List LatencyMode) :
    (session.onSessionStarted stackIface mqDesc audioConfig latencyModes).1.sessionType = session.sessionType ∧
      (session.onSessionStarted stackIface mqDesc audioConfig latencyModes).1.observers = session.observers := by
  rw [onSessionStarted.eq_def]
  cases stackIface <;> cases mqDesc <;> simp only [updateAudioConfig, updateDataPath] <;> grind

theorem sessionType_next (session : BluetoothAudioSession P O) (call : SessionCall P O) :
    (session.next call).sessionType = session.sessionType := by
  cases call with
  | onSessionStarted stackIface mqDesc audioConfig latencyModes =>
      exact (session.facts_onSessionStarted stackIface mqDesc audioConfig latencyModes).1
  | onSessionEnded => rfl
  | reportAudioConfigChanged audioConfig =>
      rw [next, SessionCall.apply, reportAudioConfigChanged]
      split_ifs <;> rfl
  | registerStatusCback callbacks =>
      rw [next, SessionCall.apply, registerStatusCback]
      split_ifs <;> rfl
  | unregisterStatusCback cookie => rfl

theorem UniqueCookies.next {session : BluetoothAudioSession P O} (hunique : session.UniqueCookies)
    (call : SessionCall P O) : (session.next call).UniqueCookies := by
  cases call with
  | onSessionStarted stackIface mqDesc audioConfig latencyModes =>
      rw [UniqueCookies, BluetoothAudioSession.next, SessionCall.apply,
        (session.facts_onSessionStarted stackIface mqDesc audioConfig latencyModes).2]
      exact hunique
  | onSessionEnded => exact hunique
  | reportAudioConfigChanged audioConfig =>
      rw [BluetoothAudioSession.next, SessionCall.apply, reportAudioConfigChanged]
      split_ifs <;> exact hunique
  | registerStatusCback callbacks => exact hunique.registerStatusCback callbacks
  | unregisterStatusCback cookie => exact hunique.unregisterStatusCback cookie

end BluetoothAudioSession

/-! ### Being told -/

/-- The observers whose `session_changed_cb_` is invoked, with the cookies they get. -/
def sessionChanges (callbacks : List (Callback O)) : List (O × Nat) :=
  callbacks.filterMap fun callback =>
    match callback with
    | .sessionChangedCb owner cookie => some (owner, cookie)
    | _ => none

/-- A call that changes whether the session is ready invokes `session_changed_cb_` of every observer once, with
its own cookie. -/
def ObserversLearn (session : BluetoothAudioSession P O) (call : SessionCall P O) : Prop :=
  (session.next call).isSessionReady ≠ session.isSessionReady →
    (sessionChanges (call.apply session).2).Perm
      (session.observers.map fun observer => (observer.2.owner, observer.1))

/-- With observers, a ready session is not started with a configuration it takes and an invalid queue, and a
session with a stack but no configuration is not given one. -/
def NotSilent (session : BluetoothAudioSession P O) : SessionCall P O → Prop
  | .onSessionStarted stackIface mqDesc audioConfig _ =>
      session.observers = [] ∨ session.isSessionReady = false ∨ stackIface = none ∨
        BluetoothAudioSession.takesAudioConfig session.sessionType audioConfig = false ∨
          ∀ desc, mqDesc = some desc → desc.valid = true
  | .reportAudioConfigChanged _ =>
      session.observers = [] ∨ session.sessionType.isOffloadLeAudio = false ∨ session.stackIface = none ∨
        session.audioConfig ≠ none
  | _ => True

namespace BluetoothAudioSession

variable (session : BluetoothAudioSession P O)

theorem sessionChanges_reportSessionStatus : sessionChanges session.reportSessionStatus =
    session.observers.map fun observer => (observer.2.owner, observer.1) := by
  rw [sessionChanges, reportSessionStatus]
  induction session.observers with
  | nil => rfl
  | cons observer rest ih =>
      rw [List.map_cons, List.filterMap_cons, ih]
      rfl

/-- What a start with a configuration that the session takes does: it ends in a report or without readiness. -/
theorem onSessionStarted_of_takes (stackIface : P) (mqDesc : Option DataMQDesc) {audioConfig : AudioConfiguration}
    (latencyModes : List LatencyMode) (htakes : takesAudioConfig session.sessionType audioConfig = true) :
    ((∀ desc, mqDesc = some desc → desc.valid = true) →
      (session.onSessionStarted (some stackIface) mqDesc audioConfig latencyModes).2 =
        session.reportSessionStatus) ∧
    ((∃ desc, mqDesc = some desc ∧ desc.valid = false) →
      (session.onSessionStarted (some stackIface) mqDesc audioConfig latencyModes).2 = [] ∧
      (session.onSessionStarted (some stackIface) mqDesc audioConfig latencyModes).1.isSessionReady = false) := by
  refine ⟨?_, ?_⟩
  · intro hvalid
    cases mqDesc with
    | none => simp [onSessionStarted, updateAudioConfig, htakes, updateDataPath, reportSessionStatus]
    | some desc =>
        simp [onSessionStarted, updateAudioConfig, htakes, updateDataPath, reportSessionStatus, DataMQ.isValid,
          hvalid desc rfl]
  · rintro ⟨desc, rfl, hinvalid⟩
    simp [onSessionStarted, updateAudioConfig, htakes, updateDataPath, DataMQ.isValid, hinvalid, isSessionReady]

theorem onSessionStarted_of_not_takes (stackIface : P) (mqDesc : Option DataMQDesc)
    {audioConfig : AudioConfiguration} (latencyModes : List LatencyMode)
    (htakes : takesAudioConfig session.sessionType audioConfig = false) :
    session.onSessionStarted (some stackIface) mqDesc audioConfig latencyModes = (session, []) := by
  simp [onSessionStarted, updateAudioConfig, htakes]

/-- A start is enough for readiness: with a configuration that the session takes, and a valid queue where the
data goes through one. -/
theorem isSessionReady_onSessionStarted (stackIface : P) {mqDesc : Option DataMQDesc}
    {audioConfig : AudioConfiguration} (latencyModes : List LatencyMode)
    (htakes : takesAudioConfig session.sessionType audioConfig = true)
    (hvalid : ∀ desc, mqDesc = some desc → desc.valid = true)
    (hpath : session.sessionType.isOffload = true ∨ mqDesc ≠ none) :
    (session.onSessionStarted (some stackIface) mqDesc audioConfig latencyModes).1.isSessionReady = true ∧
      (session.onSessionStarted (some stackIface) mqDesc audioConfig latencyModes).1.stackIface =
        some stackIface := by
  cases mqDesc with
  | none =>
      have hoffload := hpath.resolve_right fun hne => hne rfl
      simp [onSessionStarted, updateAudioConfig, htakes, updateDataPath, isSessionReady, hoffload]
  | some desc =>
      simp [onSessionStarted, updateAudioConfig, htakes, updateDataPath, isSessionReady, DataMQ.isValid,
        hvalid desc rfl]

theorem isSessionReady_onSessionEnded : session.onSessionEnded.1.isSessionReady = false := by
  simp [onSessionEnded, updateDataPath, isSessionReady]

/-- A configuration that arrives makes a session with a stack ready, whatever it had. -/
theorem isSessionReady_reportAudioConfigChanged (audioConfig : AudioConfiguration)
    (htype : session.sessionType.isOffloadLeAudio = true) :
    (session.reportAudioConfigChanged audioConfig).1.isSessionReady = session.stackIface.isSome ∧
      session.isSessionReady = (session.stackIface.isSome && session.audioConfig.isSome) ∧
      sessionChanges (session.reportAudioConfigChanged audioConfig).2 = [] := by
  have hkind : session.sessionType = .leAudioHardwareOffloadEncodingDatapath ∨
      session.sessionType = .leAudioHardwareOffloadDecodingDatapath := by
    revert htype
    cases session.sessionType <;> simp [SessionType.isOffloadLeAudio]
  have hno : ∀ observers : List (Nat × PortStatusCallbacks O), sessionChanges (observers.map fun observer =>
      .audioConfigurationChangedCb observer.2.owner observer.1) = [] := by
    intro observers
    rw [sessionChanges, List.filterMap_map]
    exact List.filterMap_eq_nil_iff.mpr fun _ _ => rfl
  rw [reportAudioConfigChanged, if_neg (by tauto)]
  refine ⟨?_, ?_, hno _⟩
  · rcases hkind with hkind | hkind <;> simp [isSessionReady, hkind, SessionType.isOffload]
  · rcases hkind with hkind | hkind <;> simp [isSessionReady, hkind, SessionType.isOffload]

end BluetoothAudioSession

section Learn

open BluetoothAudioSession

variable (session : BluetoothAudioSession P O)

theorem observersLearn_of_unchanged {call : SessionCall P O}
    (h : (session.next call).isSessionReady = session.isSessionReady) : ObserversLearn session call :=
  fun hne => absurd h hne

theorem observersLearn_of_report {call : SessionCall P O}
    (h : (call.apply session).2 = session.reportSessionStatus) : ObserversLearn session call := by
  intro _
  rw [h, sessionChanges_reportSessionStatus]

/-- A change without a report is learnt only if there is nobody to learn it. -/
theorem observersLearn_iff_of_silent (call : SessionCall P O) (h : sessionChanges (call.apply session).2 = []) :
    ObserversLearn session call ↔
      session.observers = [] ∨ (session.next call).isSessionReady = session.isSessionReady := by
  rw [ObserversLearn, h, List.nil_perm, List.map_eq_nil_iff]
  tauto

theorem observersLearn_onSessionStarted_iff (stackIface : Option P) (mqDesc : Option DataMQDesc)
    (audioConfig : AudioConfiguration) (latencyModes : List LatencyMode) :
    ObserversLearn session (.onSessionStarted stackIface mqDesc audioConfig latencyModes) ↔
      NotSilent session (.onSessionStarted stackIface mqDesc audioConfig latencyModes) := by
  rw [NotSilent]
  cases stackIface with
  | none => exact iff_of_true (observersLearn_of_unchanged session rfl) (by simp)
  | some stackIface =>
      cases htakes : takesAudioConfig session.sessionType audioConfig with
      | false =>
          have hstart := session.onSessionStarted_of_not_takes stackIface mqDesc latencyModes htakes
          refine iff_of_true (observersLearn_of_unchanged session ?_) (by simp)
          rw [BluetoothAudioSession.next, SessionCall.apply, hstart]
      | true =>
          obtain ⟨hreport, hsilent⟩ := session.onSessionStarted_of_takes stackIface mqDesc latencyModes htakes
          by_cases hvalid : ∀ desc, mqDesc = some desc → desc.valid = true
          · exact iff_of_true (observersLearn_of_report session (hreport hvalid))
              (Or.inr (Or.inr (Or.inr (Or.inr hvalid))))
          · push Not at hvalid
            obtain ⟨desc, hdesc, hinvalid⟩ := hvalid
            have hinvalid' : desc.valid = false := by simpa using hinvalid
            obtain ⟨hcalls, hready⟩ := hsilent ⟨desc, hdesc, hinvalid'⟩
            have hquiet : sessionChanges (SessionCall.apply session
                (.onSessionStarted (some stackIface) mqDesc audioConfig latencyModes)).2 = [] := by
              rw [SessionCall.apply, hcalls]
              rfl
            rw [observersLearn_iff_of_silent session _ hquiet, BluetoothAudioSession.next, SessionCall.apply, hready]
            refine ⟨?_, ?_⟩
            · rintro (hnobody | hbefore)
              · exact Or.inl hnobody
              · exact Or.inr (Or.inl hbefore.symm)
            · rintro (hnobody | hbefore | hnone | htakes' | hvalid)
              · exact Or.inl hnobody
              · exact Or.inr hbefore.symm
              · cases hnone
              · cases htakes'
              · exact absurd (hvalid desc hdesc) hinvalid

theorem observersLearn_iff (call : SessionCall P O) : ObserversLearn session call ↔ NotSilent session call := by
  cases call with
  | onSessionStarted stackIface mqDesc audioConfig latencyModes =>
      exact observersLearn_onSessionStarted_iff session stackIface mqDesc audioConfig latencyModes
  | onSessionEnded =>
      refine iff_of_true ?_ trivial
      cases hready : session.isSessionReady with
      | false =>
          apply observersLearn_of_unchanged session
          rw [BluetoothAudioSession.next, SessionCall.apply, isSessionReady_onSessionEnded, hready]
      | true =>
          apply observersLearn_of_report session
          rw [SessionCall.apply, onSessionEnded, hready]
          rfl
  | reportAudioConfigChanged audioConfig =>
      rw [NotSilent]
      cases htype : session.sessionType.isOffloadLeAudio with
      | false =>
          have hsame : session.reportAudioConfigChanged audioConfig = (session, []) := by
            rw [reportAudioConfigChanged, if_pos]
            constructor <;> rintro heq <;> rw [heq] at htype <;> cases htype
          refine iff_of_true (observersLearn_of_unchanged session ?_) (by simp)
          rw [BluetoothAudioSession.next, SessionCall.apply, hsame]
      | true =>
          obtain ⟨hafter, hbefore, hquiet⟩ := session.isSessionReady_reportAudioConfigChanged audioConfig htype
          rw [observersLearn_iff_of_silent session (.reportAudioConfigChanged audioConfig) hquiet,
            BluetoothAudioSession.next, SessionCall.apply, hafter, hbefore]
          cases session.stackIface <;> cases session.audioConfig <;> simp
  | registerStatusCback callbacks =>
      refine iff_of_true (observersLearn_of_unchanged session ?_) trivial
      rw [BluetoothAudioSession.next, SessionCall.apply, registerStatusCback]
      split_ifs <;> rfl
  | unregisterStatusCback cookie => exact iff_of_true (observersLearn_of_unchanged session rfl) trivial

end Learn

/-- In a run observers learn of every change of readiness if and only if no call of the run is silent. -/
theorem run_observersLearn_iff (session : BluetoothAudioSession P O) (calls : List (SessionCall P O)) :
    Run BluetoothAudioSession.next ObserversLearn session calls ↔
      Run BluetoothAudioSession.next NotSilent session calls :=
  Run.iff_of_inv (fun session call (_ : True) (_ : True) => observersLearn_iff session call)
    (fun _ _ _ _ _ => trivial) trivial (Run.forall_iff.mpr fun _ _ => trivial)

/-- A session with one observer is started, and started again with an invalid queue. -/
def restartsWithInvalidQueue : List (SessionCall Unit Unit) :=
  [.registerStatusCback ⟨(), false⟩,
    .onSessionStarted (some ()) (some ⟨true⟩) (.pcmConfig ⟨44100, .stereo, 16, 20000⟩) [],
    .onSessionStarted (some ()) (some ⟨false⟩) (.pcmConfig ⟨44100, .stereo, 16, 20000⟩) []]

/-- The observer is not told that the session is no longer ready. -/
theorem restartsWithInvalidQueue_silent :
    ¬ Run BluetoothAudioSession.next ObserversLearn (.create .a2dpSoftwareEncodingDatapath)
      restartsWithInvalidQueue := by
  rintro ⟨-, -, hlearn, -⟩
  have hperm := hlearn (by decide)
  exact absurd hperm.length_eq (by decide)

end Penrose.Bluetooth

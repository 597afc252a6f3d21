import Penrose.BluetoothProvider

/-! Providers of one session type. Each is opened on its own and all of them share the session; a provider that
ends does not look whose session it ends. -/

namespace Penrose.Bluetooth

variable {ι P O : Type}

/-- The session of a type and its providers. In `heldBy` stand the provider whose start made the session ready
and the interface it did so with, until that provider ends or dies or another start is ok. -/
structure SessionProviders (ι P O : Type) where
  session : BluetoothAudioSession P O
  providers : ι → BluetoothAudioProvider P
  heldBy : Option (ι × P)

/-- What happens to a provider. -/
inductive ProviderEvent (ι P : Type) where
  | startSession (provider : ι) (hostIf : Option P) (audioConfig : AudioConfiguration)
      (latencyModes : List LatencyMode)
  | endSession (provider : ι)
  | binderDied (provider : ι)

namespace SessionProviders

variable [DecidableEq ι]

/-- The state after a provider ended in some way. -/
def afterEnd (s : SessionProviders ι P O) (i : ι) (outcome : BluetoothAudioProvider.Outcome P O) :
    SessionProviders ι P O where
  session := outcome.session
  providers := Function.update s.providers i outcome.provider
  heldBy := s.heldBy.filter fun holder => holder.1 ≠ i

def next (newMq : Nat → DataMQ) (s : SessionProviders ι P O) : ProviderEvent ι P → SessionProviders ι P O
  | .startSession i hostIf audioConfig latencyModes =>
      let outcome := (s.providers i).startSession newMq s.session hostIf audioConfig latencyModes
      { session := outcome.session
        providers := Function.update s.providers i outcome.provider
        heldBy :=
          if !outcome.isOk then s.heldBy
          else if outcome.session.isSessionReady then hostIf.map fun host => (i, host)
          else none }
  | .endSession i => s.afterEnd i ((s.providers i).endSession s.session)
  | .binderDied i => s.afterEnd i ((s.providers i).binderDied s.session)

/-- A session that is held is ready with the interface of its holder. -/
def KeepsSession (s : SessionProviders ι P O) : Prop :=
  ∀ i host, s.heldBy = some (i, host) → s.session.isSessionReady = true ∧ s.session.stackIface = some host

/-- A provider that ends or dies has no interface, or nobody else holds the session. -/
def NotStale (s : SessionProviders ι P O) : ProviderEvent ι P → Prop
  | .startSession .. => True
  | .endSession i | .binderDied i =>
      (s.providers i).stackIface = none ∨ ∀ j host, s.heldBy = some (j, host) → j = i

/-- What runs from providers opened for the session type keep. -/
structure Opened (newMq : Nat → DataMQ) (sessionType : SessionType) (s : SessionProviders ι P O) : Prop where
  providers : ∀ i, (s.providers i).OpenedFor newMq sessionType
  session : s.session.Reached sessionType

variable {newMq : Nat → DataMQ} {sessionType : SessionType} {s : SessionProviders ι P O}

/-- An end keeps the session for its holder exactly if it is not stale. -/
theorem keepsSession_afterEnd_iff (hkeeps : s.KeepsSession) (i : ι)
    {outcome : BluetoothAudioProvider.Outcome P O}
    (houtcome : ((s.providers i).stackIface = none → outcome.session = s.session) ∧
      ((s.providers i).stackIface ≠ none → outcome.session.isSessionReady = false)) :
    (s.afterEnd i outcome).KeepsSession ↔
      (s.providers i).stackIface = none ∨ ∀ j host, s.heldBy = some (j, host) → j = i := by
  have hholder (j : ι) (host : P) : (s.afterEnd i outcome).heldBy = some (j, host) ↔
      s.heldBy = some (j, host) ∧ j ≠ i := by
    simp [afterEnd, Option.filter_eq_some_iff]
  refine ⟨?_, ?_⟩
  · intro hafter
    by_contra! hstale
    obtain ⟨hiface, j, host, hheld, hne⟩ := hstale
    have hready := (hafter j host ((hholder j host).mpr ⟨hheld, hne⟩)).1
    rw [show (s.afterEnd i outcome).session = outcome.session from rfl, houtcome.2 hiface] at hready
    cases hready
  · rintro hnotStale j host hafter
    obtain ⟨hheld, hne⟩ := (hholder j host).mp hafter
    rcases hnotStale with hnone | howner
    · rw [show (s.afterEnd i outcome).session = outcome.session from rfl, houtcome.1 hnone]
      exact hkeeps j host hheld
    · exact absurd (howner j host hheld) hne

theorem keepsSession_startSession (hopened : s.Opened newMq sessionType) (hkeeps : s.KeepsSession) (i : ι)
    (hostIf : Option P) (audioConfig : AudioConfiguration) (latencyModes : List LatencyMode) :
    (s.next newMq (.startSession i hostIf audioConfig latencyModes)).KeepsSession := by
  intro j host hheld
  rw [next] at hheld ⊢
  simp only at hheld ⊢
  cases hok : ((s.providers i).startSession newMq s.session hostIf audioConfig latencyModes).isOk with
  | false =>
      rw [hok] at hheld
      rw [BluetoothAudioProvider.startSession_not_ok hok]
      exact hkeeps j host hheld
  | true =>
      have hstart := BluetoothAudioProvider.isSessionReady_startSession (hopened.providers i) hopened.session hok
      rw [hok, Bool.not_true, if_neg Bool.false_ne_true] at hheld
      split_ifs at hheld with hready
      have hheldBy : ∃ host', hostIf = some host' ∧ (i, host') = (j, host) := Option.map_eq_some_iff.mp hheld
      obtain ⟨host', rfl, hsame⟩ := hheldBy
      obtain ⟨rfl, rfl⟩ := Prod.mk.inj hsame
      refine ⟨hready, ?_⟩
      split_ifs at hstart with hbroadcast
      · rw [hready] at hstart
        cases hstart
      · exact hstart.2

theorem keepsSession_next_iff (hopened : s.Opened newMq sessionType) (hkeeps : s.KeepsSession)
    (event : ProviderEvent ι P) : (s.next newMq event).KeepsSession ↔ s.NotStale event := by
  cases event with
  | startSession i hostIf audioConfig latencyModes =>
      exact iff_of_true (keepsSession_startSession hopened hkeeps i hostIf audioConfig latencyModes) trivial
  | endSession i => exact keepsSession_afterEnd_iff hkeeps i BluetoothAudioProvider.endSession_session
  | binderDied i =>
      let dead : BluetoothAudioProvider P := { s.providers i with isBinderDied := true }
      have hsession := @BluetoothAudioProvider.endSession_session P O dead s.session
      exact keepsSession_afterEnd_iff hkeeps i hsession

theorem opened_next (hopened : s.Opened newMq sessionType) (event : ProviderEvent ι P) :
    (s.next newMq event).Opened newMq sessionType := by
  have hupdate (i : ι) {provider : BluetoothAudioProvider P} (hprovider : provider.OpenedFor newMq sessionType)
      (j : ι) : (Function.update s.providers i provider j).OpenedFor newMq sessionType := by
    rw [Function.update_apply]
    split_ifs
    · exact hprovider
    · exact hopened.providers j
  cases event with
  | startSession i hostIf audioConfig latencyModes =>
      exact ⟨hupdate i (hopened.providers i).startSession,
        BluetoothAudioProvider.reached_startSession hopened.session⟩
  | endSession i =>
      exact ⟨hupdate i (hopened.providers i).endSession, BluetoothAudioProvider.reached_endSession hopened.session⟩
  | binderDied i =>
      exact ⟨hupdate i (hopened.providers i).binderDied, BluetoothAudioProvider.reached_endSession hopened.session⟩

/-- In a run of providers opened for a session type the session is kept for its holder if and only if no end or
death in the run is that of a stale provider. -/
theorem run_keepsSession_iff {providers : ι → BluetoothAudioProvider P} {session : BluetoothAudioSession P O}
    (hproviders : ∀ i, (providers i).OpenedFor newMq sessionType) (hsession : session.Reached sessionType)
    (events : List (ProviderEvent ι P)) :
    Run (next newMq) (fun s event => (s.next newMq event).KeepsSession) ⟨session, providers, none⟩ events ↔
      Run (next newMq) NotStale ⟨session, providers, none⟩ events := by
  have hstart : (⟨session, providers, none⟩ : SessionProviders ι P O).Opened newMq sessionType ∧
      (⟨session, providers, none⟩ : SessionProviders ι P O).KeepsSession :=
    ⟨⟨hproviders, hsession⟩, fun _ _ hnone => nomatch hnone⟩
  have hiff (s : SessionProviders ι P O) (event : ProviderEvent ι P)
      (hinv : s.Opened newMq sessionType ∧ s.KeepsSession) (_ : True) :=
    keepsSession_next_iff hinv.1 hinv.2 event
  refine Run.iff_of_inv hiff (fun s event hinv _ hnotStale => ?_) hstart (Run.forall_iff.mpr fun _ _ => trivial)
  exact ⟨opened_next hinv.1 event, (keepsSession_next_iff hinv.1 hinv.2 event).mpr hnotStale⟩

/-- Two providers of one type, as after a restart of the stack: the older one is started first. -/
def twoProviders : SessionProviders Bool Nat Unit :=
  ⟨.create .a2dpSoftwareEncodingDatapath, fun _ => softwareProvider, none⟩

def startsAnew (last : ProviderEvent Bool Nat) : List (ProviderEvent Bool Nat) :=
  [.startSession false (some 1) (.pcmConfig ⟨48000, .stereo, 16, 10000⟩) [],
    .startSession true (some 2) (.pcmConfig ⟨48000, .stereo, 16, 10000⟩) [], last]

theorem run_keepsSession_iff_startsAnew :
    Run (next validMq) (fun s event => (s.next validMq event).KeepsSession) twoProviders
      (startsAnew (.endSession true)) :=
  (run_keepsSession_iff (fun _ => softwareProvider_openedFor) ⟨[], rfl⟩ _).mpr
    ⟨trivial, trivial, Or.inr (by rintro j host hheld; cases hheld; rfl), trivial⟩

/-- The death of the older stack ends the session of the newer one. -/
theorem startsAnew_ended :
    ¬ Run (next validMq) (fun s event => (s.next validMq event).KeepsSession) twoProviders
      (startsAnew (.binderDied false)) := by
  rintro ⟨-, -, hkeeps, -⟩
  exact absurd (hkeeps true 2 rfl).1 (by decide)

end SessionProviders

end Penrose.Bluetooth

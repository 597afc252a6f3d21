import Mathlib.Data.List.Induction
import Penrose.BluetoothSession

/-! `BluetoothAudioProvider` and its subclasses. A provider checks a configuration before it passes it to the
session of its type, which checks it again; the two disagree about broadcast offloading. -/

namespace Penrose.Bluetooth

/-- The subclasses of `BluetoothAudioProvider`. -/
inductive ProviderKind where
  | a2dpSoftware | a2dpOffload | hearingAid | leAudioSoftware | leAudioOffload
  deriving DecidableEq

/-- A provider; the offloading ones have no queue. -/
structure BluetoothAudioProvider (P : Type) where
  kind : ProviderKind
  sessionType : SessionType
  stackIface : Option P
  audioConfig : Option AudioConfiguration
  latencyModes : List LatencyMode
  isBinderDied : Bool
  dataMq : Option DataMQ

variable {P O : Type}

namespace BluetoothAudioProvider

/-- `kDataMqSize` of `A2dpSoftwareAudioProvider`. -/
def a2dpDataMqSize : Nat := 4 * 96 * 10 * 2

/-- `kDataMqSize` of `HearingAidAudioProvider`. -/
def hearingAidDataMqSize : Nat := 4 * 128 * 7 * 1

/-- The constructors. `newMq` allocates a queue. -/
def create (newMq : Nat → DataMQ) (kind : ProviderKind) (sessionType : SessionType) : BluetoothAudioProvider P :=
  let allocate (size : Nat) : Option DataMQ := if (newMq size).isValid then some (newMq size) else none
  let dataMq :=
    match kind with
    | .a2dpSoftware => allocate a2dpDataMqSize
    | .hearingAid => allocate hearingAidDataMqSize
    | .a2dpOffload | .leAudioSoftware | .leAudioOffload => none
  -- a hearing aid provider without a queue is left without a session type
  let sessionType := if kind = .hearingAid ∧ dataMq.isNone then .unknown else sessionType
  ⟨kind, sessionType, none, none, [], false, dataMq⟩

def isValid (provider : BluetoothAudioProvider P) (sessionType : SessionType) : Bool :=
  match provider.kind with
  | .a2dpSoftware | .hearingAid =>
      decide (sessionType = provider.sessionType) && provider.dataMq.any DataMQ.isValid
  | .a2dpOffload | .leAudioSoftware | .leAudioOffload => decide (sessionType = provider.sessionType)

def channelModeToChannelCount : ChannelMode → Int
  | .mono => 1
  | .stereo => 2
  | _ => 0

/-- The size of the queue for an LE audio configuration. The source multiplies floating-point numbers; that can
move the size by one, but not to zero. A negative product, which has no unsigned value, is taken for no size. -/
def leAudioDataMqSize (sessionType : SessionType) (pcmConfig : PcmConfiguration) : Int :=
  let bufferModifier : Int :=
    match sessionType with
    | .leAudioSoftwareEncodingDatapath | .leAudioBroadcastSoftwareEncodingDatapath => 2
    | .leAudioSoftwareDecodingDatapath => 2
    | _ => 0
  let bytesPerSample := if pcmConfig.bitsPerSample = 24 then 4 else pcmConfig.bitsPerSample / 8
  pcmConfig.sampleRateHz * channelModeToChannelCount pcmConfig.channelMode * bytesPerSample *
    (pcmConfig.dataIntervalUs.tdiv 1000) * bufferModifier / 1000

/-- What `onSessionReady` reports to the session; its own status is not looked at. -/
def onSessionReady (provider : BluetoothAudioProvider P) (session : BluetoothAudioSession P O) :
    BluetoothAudioSession P O × List (Callback O) :=
  match provider.audioConfig with
  | none => (session, [])
  | some audioConfig =>
      match provider.kind with
      | .a2dpOffload | .leAudioOffload =>
          session.onSessionStarted provider.stackIface none audioConfig provider.latencyModes
      | .a2dpSoftware | .hearingAid | .leAudioSoftware =>
          match provider.dataMq with
          | none => (session, [])
          | some dataMq =>
              if !dataMq.isValid then (session, [])
              else session.onSessionStarted provider.stackIface (some dataMq.desc) audioConfig provider.latencyModes

/-- What a provider made of a call: itself, the session, and whether the call returned ok. -/
structure Outcome (P O : Type) where
  provider : BluetoothAudioProvider P
  session : BluetoothAudioSession P O
  isOk : Bool

/-- `BluetoothAudioProvider::startSession`. -/
def startBaseSession (provider : BluetoothAudioProvider P) (session : BluetoothAudioSession P O) (hostIf : Option P)
    (audioConfig : AudioConfiguration) (latencyModes : List LatencyMode) : Outcome P O :=
  match hostIf with
  | none => ⟨provider, session, false⟩
  | some hostIf =>
      let provider := { provider with
        latencyModes := latencyModes
        audioConfig := some audioConfig
        stackIface := some hostIf
        isBinderDied := false }
      ⟨provider, (provider.onSessionReady session).1, true⟩

/-- The checks of the subclasses: the provider that starts the session, if the configuration passes. -/
def accept (newMq : Nat → DataMQ) (provider : BluetoothAudioProvider P) (audioConfig : AudioConfiguration) :
    Option (BluetoothAudioProvider P) :=
  match provider.kind, audioConfig with
  | .a2dpOffload, .a2dpConfig codecConfig =>
      if !isOffloadCodecConfigurationValid provider.sessionType codecConfig then none else some provider
  | .leAudioOffload, .leAudioConfig leAudioConfig =>
      if !isOffloadLeAudioConfigurationValid provider.sessionType leAudioConfig then none else some provider
  | .a2dpSoftware, .pcmConfig pcmConfig | .hearingAid, .pcmConfig pcmConfig =>
      if !isSoftwarePcmConfigurationValid pcmConfig then none else some provider
  | .leAudioSoftware, .pcmConfig pcmConfig =>
      if !isSoftwarePcmConfigurationValid pcmConfig then none
      else
        let dataMqSize := leAudioDataMqSize provider.sessionType pcmConfig
        if dataMqSize ≤ 0 then none
        else
          let tempDataMq := newMq dataMqSize.toNat
          if !tempDataMq.isValid then none else some { provider with dataMq := some tempDataMq }
  | _, _ => none

/-- `startSession` of the subclasses. -/
def startSession (newMq : Nat → DataMQ) (provider : BluetoothAudioProvider P) (session : BluetoothAudioSession P O)
    (hostIf : Option P) (audioConfig : AudioConfiguration) (latencyModes : List LatencyMode) : Outcome P O :=
  match provider.accept newMq audioConfig with
  | none => ⟨provider, session, false⟩
  | some provider => provider.startBaseSession session hostIf audioConfig latencyModes

def endSession (provider : BluetoothAudioProvider P) (session : BluetoothAudioSession P O) : Outcome P O :=
  let session := if provider.stackIface.isSome then session.onSessionEnded.1 else session
  ⟨{ provider with stackIface := none, audioConfig := none }, session, true⟩

/-- `binderDiedCallbackAidl`. -/
def binderDied (provider : BluetoothAudioProvider P) (session : BluetoothAudioSession P O) : Outcome P O :=
  { provider with isBinderDied := true }.endSession session

def streamStarted (provider : BluetoothAudioProvider P) (session : BluetoothAudioSession P O)
    (status : BluetoothAudioStatus) : List (Callback O) :=
  if provider.stackIface.isSome then session.reportControlStatus true status else []

def streamSuspended (provider : BluetoothAudioProvider P) (session : BluetoothAudioSession P O)
    (status : BluetoothAudioStatus) : List (Callback O) :=
  if provider.stackIface.isSome then session.reportControlStatus false status else []

end BluetoothAudioProvider

/-- The subclass that `openProvider` makes for a session type. -/
def providerKind : SessionType → Option ProviderKind
  | .a2dpSoftwareEncodingDatapath => some .a2dpSoftware
  | .a2dpHardwareOffloadEncodingDatapath => some .a2dpOffload
  | .hearingAidSoftwareEncodingDatapath => some .hearingAid
  | .leAudioSoftwareEncodingDatapath => some .leAudioSoftware
  | .leAudioHardwareOffloadEncodingDatapath => some .leAudioOffload
  | .leAudioSoftwareDecodingDatapath => some .leAudioSoftware
  | .leAudioHardwareOffloadDecodingDatapath => some .leAudioOffload
  | .leAudioBroadcastSoftwareEncodingDatapath => some .leAudioSoftware
  | .leAudioBroadcastHardwareOffloadEncodingDatapath => some .leAudioOffload
  | .a2dpSoftwareDecodingDatapath => some .a2dpSoftware
  | .a2dpHardwareOffloadDecodingDatapath => some .a2dpOffload
  | .unknown => none

/-- `BluetoothAudioProviderFactory::openProvider`. -/
def openProvider (newMq : Nat → DataMQ) (sessionType : SessionType) : Option (BluetoothAudioProvider P) := do
  let kind ← providerKind sessionType
  let provider := BluetoothAudioProvider.create newMq kind sessionType
  if !provider.isValid sessionType then none else some provider

/-! ### Starting a session -/

/-- A session whose type takes no configuration has none. -/
theorem BluetoothAudioSession.audioConfig_next {session : BluetoothAudioSession P O} (call : SessionCall P O)
    (htype : session.sessionType = .leAudioBroadcastHardwareOffloadEncodingDatapath)
    (hnone : session.audioConfig = none) : (session.next call).audioConfig = none := by
  cases call with
  | onSessionStarted stackIface mqDesc audioConfig latencyModes =>
      rw [next, SessionCall.apply]
      cases stackIface with
      | none => exact hnone
      | some stackIface =>
          rw [session.onSessionStarted_of_not_takes stackIface mqDesc latencyModes (by rw [htype]; rfl)]
          exact hnone
  | onSessionEnded => rfl
  | reportAudioConfigChanged audioConfig =>
      rw [next, SessionCall.apply, reportAudioConfigChanged, if_pos (by rw [htype]; decide)]
      exact hnone
  | registerStatusCback callbacks =>
      rw [next, SessionCall.apply, registerStatusCback]
      split_ifs <;> exact hnone
  | unregisterStatusCback cookie => exact hnone

/-- The session of a type after some calls. -/
def BluetoothAudioSession.Reached (sessionType : SessionType) (session : BluetoothAudioSession P O) : Prop :=
  ∃ calls : List (SessionCall P O), session = calls.foldl next (create sessionType)

theorem BluetoothAudioSession.Reached.next {sessionType : SessionType} {session : BluetoothAudioSession P O}
    (h : session.Reached sessionType) (call : SessionCall P O) : (session.next call).Reached sessionType := by
  obtain ⟨calls, rfl⟩ := h
  exact ⟨calls ++ [call], by rw [List.foldl_append, List.foldl_cons, List.foldl_nil]⟩

theorem BluetoothAudioSession.Reached.facts {sessionType : SessionType} {session : BluetoothAudioSession P O}
    (h : session.Reached sessionType) : session.sessionType = sessionType ∧
      (sessionType = .leAudioBroadcastHardwareOffloadEncodingDatapath → session.audioConfig = none) := by
  obtain ⟨calls, rfl⟩ := h
  induction calls using List.reverseRecOn with
  | nil => exact ⟨rfl, fun _ => rfl⟩
  | append_singleton calls call ih =>
      rw [List.foldl_append, List.foldl_cons, List.foldl_nil, sessionType_next]
      exact ⟨ih.1, fun htype => audioConfig_next call (ih.1.trans htype) (ih.2 htype)⟩

/-- A provider that was opened for the session type and may have been used since. -/
structure BluetoothAudioProvider.OpenedFor (newMq : Nat → DataMQ) (sessionType : SessionType)
    (provider : BluetoothAudioProvider P) : Prop where
  opened : ∃ opened : BluetoothAudioProvider P, openProvider newMq sessionType = some opened ∧
    provider.kind = opened.kind ∧ provider.sessionType = opened.sessionType ∧
      (provider.kind ≠ .leAudioSoftware → provider.dataMq = opened.dataMq)

namespace BluetoothAudioProvider

variable {newMq : Nat → DataMQ} {sessionType : SessionType} {provider : BluetoothAudioProvider P}
  {session : BluetoothAudioSession P O} {hostIf : Option P} {audioConfig : AudioConfiguration}
  {latencyModes : List LatencyMode}

theorem OpenedFor.facts (h : provider.OpenedFor newMq sessionType) :
    providerKind sessionType = some provider.kind ∧ provider.sessionType = sessionType ∧
      (provider.kind = .a2dpSoftware ∨ provider.kind = .hearingAid →
        ∃ dataMq, provider.dataMq = some dataMq ∧ dataMq.isValid = true) := by
  obtain ⟨opened, hopen, hkind, htype, hmq⟩ := h.opened
  rw [openProvider, Option.bind_eq_bind, Option.bind_eq_some_iff] at hopen
  obtain ⟨kind, hfor, hopened⟩ := hopen
  rw [Option.ite_none_left_eq_some, Bool.not_eq_true', Bool.not_eq_false] at hopened
  obtain ⟨hvalid, hopened⟩ := hopened
  have hopenedKind : opened.kind = kind := by rw [← Option.some.inj hopened]; rfl
  rw [Option.some.inj hopened] at hvalid
  have hvalid' : opened.sessionType = sessionType ∧ (kind = .a2dpSoftware ∨ kind = .hearingAid →
      ∃ dataMq, opened.dataMq = some dataMq ∧ dataMq.isValid = true) := by
    rw [isValid, hopenedKind] at hvalid
    cases kind <;> simp_all [Option.any_eq_true]
  refine ⟨by rw [hfor, hkind, hopenedKind], htype.trans hvalid'.1, fun hsoftware => ?_⟩
  rw [hmq (by rcases hsoftware with hsoftware | hsoftware <;> rw [hsoftware] <;> decide)]
  rw [hkind, hopenedKind] at hsoftware
  exact hvalid'.2 hsoftware

/-- A start that returns ok is reported by the provider that it makes. -/
theorem startBaseSession_ok (h : (provider.startBaseSession session hostIf audioConfig latencyModes).isOk = true) :
    ∃ host, ∃ ready : BluetoothAudioProvider P, hostIf = some host ∧ ready.kind = provider.kind ∧
      ready.dataMq = provider.dataMq ∧ ready.audioConfig = some audioConfig ∧ ready.stackIface = some host ∧
        ready.latencyModes = latencyModes ∧
          (provider.startBaseSession session hostIf audioConfig latencyModes).session =
            (ready.onSessionReady session).1 := by
  cases hostIf with
  | none => cases h
  | some host =>
      exact ⟨host,
        { provider with
          latencyModes := latencyModes
          audioConfig := some audioConfig
          stackIface := some host
          isBinderDied := false }, rfl, rfl, rfl, rfl, rfl, rfl, rfl⟩

/-- The configurations that a provider of the kind takes at most. -/
def kindTag : ProviderKind → AudioConfiguration.Tag
  | .a2dpSoftware | .hearingAid | .leAudioSoftware => .pcmConfig
  | .a2dpOffload => .a2dpConfig
  | .leAudioOffload => .leAudioConfig

/-- What a provider is after it took a configuration: the same, or with a queue made for it. -/
theorem accept_some {started : BluetoothAudioProvider P} (h : provider.accept newMq audioConfig = some started) :
    audioConfig.getTag = kindTag provider.kind ∧
      (started = provider ∧ provider.kind ≠ .leAudioSoftware ∨
        provider.kind = .leAudioSoftware ∧
          ∃ dataMq : DataMQ, dataMq.isValid = true ∧ started = { provider with dataMq := some dataMq }) := by
  unfold accept at h
  split at h
  case h_5 hkind =>
    simp only [Option.ite_none_left_eq_some] at h
    obtain ⟨-, -, hvalid, h⟩ := h
    exact ⟨by rw [hkind]; rfl, Or.inr ⟨hkind, _, by simpa using hvalid, (Option.some.inj h).symm⟩⟩
  case h_6 => cases h
  all_goals
    rename_i hkind
    rw [Option.ite_none_left_eq_some] at h
    exact ⟨by rw [hkind]; rfl, Or.inl ⟨(Option.some.inj h.2).symm, by rw [hkind]; decide⟩⟩

theorem onSessionReady_software (started : BluetoothAudioProvider P) {dataMq : DataMQ}
    (hkind : started.kind ≠ .a2dpOffload ∧ started.kind ≠ .leAudioOffload)
    (hmq : started.dataMq = some dataMq) (hvalid : dataMq.isValid = true)
    (hconfig : started.audioConfig = some audioConfig) :
    started.onSessionReady session =
      session.onSessionStarted started.stackIface (some dataMq.desc) audioConfig started.latencyModes := by
  rw [onSessionReady, hconfig, hmq]
  cases hkinds : started.kind <;> simp_all

theorem onSessionReady_offload (started : BluetoothAudioProvider P)
    (hkind : started.kind = .a2dpOffload ∨ started.kind = .leAudioOffload)
    (hconfig : started.audioConfig = some audioConfig) :
    started.onSessionReady session =
      session.onSessionStarted started.stackIface none audioConfig started.latencyModes := by
  rw [onSessionReady, hconfig]
  rcases hkind with hkind | hkind <;> simp [hkind]

/-- The queue that a provider reports: none when it offloads, a valid one otherwise. -/
def Reports (kind : ProviderKind) (mqDesc : Option DataMQDesc) : Prop :=
  (∀ desc, mqDesc = some desc → desc.valid = true) ∧
    (kind = .a2dpOffload ∨ kind = .leAudioOffload ∨ mqDesc ≠ none)

/-- A start that returns ok starts the session with a configuration of the kind's tag and a queue of the right
sort. -/
theorem startSession_ok (hfrom : provider.OpenedFor newMq sessionType)
    (hok : (provider.startSession newMq session hostIf audioConfig latencyModes).isOk = true) :
    ∃ host mqDesc, hostIf = some host ∧ audioConfig.getTag = kindTag provider.kind ∧
      Reports provider.kind mqDesc ∧
      (provider.startSession newMq session hostIf audioConfig latencyModes).session =
        (session.onSessionStarted (some host) mqDesc audioConfig latencyModes).1 := by
  obtain ⟨-, -, hsoftware⟩ := hfrom.facts
  rw [startSession] at hok ⊢
  cases haccept : provider.accept newMq audioConfig with
  | none =>
      rw [haccept] at hok
      cases hok
  | some started =>
      rw [haccept] at hok
      simp only at hok ⊢
      obtain ⟨host, ready, rfl, hreadyKind, hreadyMq, hconfig, hiface, hmodes, hsession⟩ := startBaseSession_ok hok
      obtain ⟨htag, hstarted⟩ := accept_some haccept
      have hkind : started.kind = provider.kind := by
        rcases hstarted with ⟨rfl, -⟩ | ⟨-, dataMq, -, rfl⟩ <;> rfl
      rw [hkind] at hreadyKind
      rw [hsession, ← hmodes]
      by_cases hoffload : provider.kind = .a2dpOffload ∨ provider.kind = .leAudioOffload
      · refine ⟨host, none, rfl, htag, ⟨fun _ h => (by cases h), by tauto⟩, ?_⟩
        rw [onSessionReady_offload ready (by rwa [hreadyKind]) hconfig, hiface]
      · have hvalidMq : ∃ dataMq, started.dataMq = some dataMq ∧ dataMq.isValid = true := by
          rcases hstarted with ⟨rfl, hsame⟩ | ⟨-, dataMq, hvalid, rfl⟩
          · apply hsoftware
            cases hkinds : started.kind <;> simp_all
          · exact ⟨dataMq, rfl, hvalid⟩
        obtain ⟨dataMq, hmq, hvalid⟩ := hvalidMq
        rw [not_or, ← hreadyKind] at hoffload
        rw [← hreadyMq] at hmq
        refine ⟨host, some dataMq.desc, rfl, htag, ⟨fun desc h => ?_, by simp⟩, ?_⟩
        · rw [← Option.some.inj h]
          exact hvalid
        · rw [onSessionReady_software ready hoffload hmq hvalid hconfig, hiface]

theorem takesAudioConfig_of_kind {kind : ProviderKind} (hkind : providerKind sessionType = some kind)
    (htag : audioConfig.getTag = kindTag kind) :
    BluetoothAudioSession.takesAudioConfig sessionType audioConfig =
      !decide (sessionType = .leAudioBroadcastHardwareOffloadEncodingDatapath) := by
  rw [BluetoothAudioSession.takesAudioConfig, htag]
  revert hkind
  cases sessionType <;> simp only [providerKind, Option.some.injEq, reduceCtorEq, false_imp_iff] <;> rintro rfl <;> rfl

theorem isOffload_of_kind {kind : ProviderKind} (hkind : providerKind sessionType = some kind)
    (hoffload : kind = .a2dpOffload ∨ kind = .leAudioOffload) : sessionType.isOffload = true := by
  revert hkind
  rcases hoffload with rfl | rfl <;> cases sessionType <;> simp [providerKind, SessionType.isOffload]

/-- A start that returns ok makes the session ready with the given interface, except where data of a broadcast is
offloaded: that session is never ready. -/
theorem isSessionReady_startSession (hfrom : provider.OpenedFor newMq sessionType)
    (hreached : session.Reached sessionType)
    (hok : (provider.startSession newMq session hostIf audioConfig latencyModes).isOk = true) :
    if sessionType = .leAudioBroadcastHardwareOffloadEncodingDatapath then
      (provider.startSession newMq session hostIf audioConfig latencyModes).session.isSessionReady = false
    else
      (provider.startSession newMq session hostIf audioConfig latencyModes).session.isSessionReady = true ∧
        (provider.startSession newMq session hostIf audioConfig latencyModes).session.stackIface = hostIf := by
  obtain ⟨hkind, -, -⟩ := hfrom.facts
  obtain ⟨hsession, hnone⟩ := hreached.facts
  obtain ⟨host, mqDesc, rfl, htag, ⟨hvalid, hpath⟩, hstart⟩ := startSession_ok hfrom hok
  have htakes := takesAudioConfig_of_kind hkind htag
  rw [hstart]
  split_ifs with hbroadcast
  · rw [session.onSessionStarted_of_not_takes host mqDesc latencyModes (by rw [hsession, htakes, hbroadcast]; rfl),
      BluetoothAudioSession.isSessionReady, hnone hbroadcast]
    simp
  · refine session.isSessionReady_onSessionStarted host latencyModes ?_ hvalid ?_
    · rw [hsession, htakes, decide_eq_false hbroadcast]
      rfl
    · rw [hsession]
      rcases hpath with hoffload | hoffload | hmq
      · exact Or.inl (isOffload_of_kind hkind (Or.inl hoffload))
      · exact Or.inl (isOffload_of_kind hkind (Or.inr hoffload))
      · exact Or.inr hmq

/-- A start does not change what a provider was opened for. -/
theorem OpenedFor.startSession (h : provider.OpenedFor newMq sessionType) :
    (provider.startSession newMq session hostIf audioConfig latencyModes).provider.OpenedFor newMq sessionType := by
  rw [BluetoothAudioProvider.startSession]
  cases haccept : provider.accept newMq audioConfig with
  | none => exact h
  | some started =>
      obtain ⟨-, hstarted⟩ := accept_some haccept
      have hopened : started.OpenedFor newMq sessionType := by
        obtain ⟨opened, hopen, hkind, htype, hmq⟩ := h.opened
        rcases hstarted with ⟨rfl, -⟩ | ⟨hsame, dataMq, -, rfl⟩
        · exact h
        · exact ⟨opened, hopen, hkind, htype, fun hne => absurd hsame hne⟩
      cases hostIf with
      | none => exact hopened
      | some host => exact ⟨hopened.opened⟩

/-- A start acts on the session as a call of it, or not at all. -/
theorem reached_startSession (hreached : session.Reached sessionType) :
    (provider.startSession newMq session hostIf audioConfig latencyModes).session.Reached sessionType := by
  have hready (started : BluetoothAudioProvider P) : (started.onSessionReady session).1.Reached sessionType := by
    have hcall (stackIface : Option P) (mqDesc : Option DataMQDesc) (audioConfig : AudioConfiguration)
        (latencyModes : List LatencyMode) :=
      hreached.next (.onSessionStarted stackIface mqDesc audioConfig latencyModes)
    rw [onSessionReady]
    repeat' split
    all_goals first | exact hreached | exact hcall ..
  rw [startSession]
  cases provider.accept newMq audioConfig with
  | none => exact hreached
  | some started =>
      cases hostIf with
      | none => exact hreached
      | some host => exact hready _

theorem startSession_not_ok
    (hok : (provider.startSession newMq session hostIf audioConfig latencyModes).isOk = false) :
    (provider.startSession newMq session hostIf audioConfig latencyModes).session = session := by
  rw [startSession] at hok ⊢
  cases haccept : provider.accept newMq audioConfig with
  | none => rfl
  | some started =>
      cases hostIf with
      | none => rfl
      | some host =>
          rw [haccept] at hok
          cases hok

/-- A provider without an interface leaves the session alone when it ends, any other leaves it not ready. -/
theorem endSession_session :
    (provider.stackIface = none → (provider.endSession session).session = session) ∧
      (provider.stackIface ≠ none → (provider.endSession session).session.isSessionReady = false) := by
  refine ⟨?_, ?_⟩
  · intro hnone
    simp [endSession, hnone]
  · intro hiface
    rw [endSession, if_pos (Option.isSome_iff_ne_none.mpr hiface)]
    exact session.isSessionReady_onSessionEnded

theorem reached_endSession (hreached : session.Reached sessionType) :
    (provider.endSession session).session.Reached sessionType := by
  rw [endSession]
  split_ifs
  · exact hreached.next .onSessionEnded
  · exact hreached

theorem OpenedFor.endSession (h : provider.OpenedFor newMq sessionType) :
    (provider.endSession session).provider.OpenedFor newMq sessionType := ⟨h.opened⟩

theorem OpenedFor.binderDied (h : provider.OpenedFor newMq sessionType) :
    (provider.binderDied session).provider.OpenedFor newMq sessionType := ⟨h.opened⟩

/-- A configuration that a provider opened for the session type takes. -/
def takenConfig : ProviderKind → AudioConfiguration
  | .a2dpSoftware | .hearingAid | .leAudioSoftware => .pcmConfig ⟨48000, .stereo, 16, 10000⟩
  | .a2dpOffload => .a2dpConfig ⟨.sbc, .sbcConfig ⟨44100, .jointStereo, 16, 8, .allocMdL, 16, 2, 53⟩⟩
  | .leAudioOffload => .leAudioConfig .unknown

theorem accept_takenConfig (hnew : ∀ size, (newMq size).isValid = true)
    (hfrom : provider.OpenedFor newMq sessionType) :
    (provider.accept newMq (takenConfig provider.kind)).isSome = true := by
  obtain ⟨hkind, htype, -⟩ := hfrom.facts
  revert hkind
  cases hkinds : provider.kind <;> cases sessionType <;>
    simp only [providerKind, Option.some.injEq, reduceCtorEq, false_imp_iff, forall_const] <;>
    simp [accept, hkinds, takenConfig, htype, isSoftwarePcmConfigurationValid, hnew, leAudioDataMqSize,
      channelModeToChannelCount, isOffloadCodecConfigurationValid, isOffloadSbcConfigurationValid,
      isOffloadLeAudioConfigurationValid]

end BluetoothAudioProvider

/-- A start that returns ok leaves the session ready exactly where it is not that of a broadcast provider that
offloads; and every provider can be started. -/
theorem isSessionReady_startSession_iff {newMq : Nat → DataMQ} (hnew : ∀ size, (newMq size).isValid = true)
    {sessionType : SessionType} {provider : BluetoothAudioProvider P} (hfrom : provider.OpenedFor newMq sessionType)
    (calls : List (SessionCall P O)) :
    let session := calls.foldl BluetoothAudioSession.next (.create sessionType)
    (∀ hostIf audioConfig latencyModes,
      ((provider.startSession newMq session hostIf audioConfig latencyModes).isOk = true →
        (provider.startSession newMq session hostIf audioConfig latencyModes).session.isSessionReady = true) ↔
      (sessionType ≠ .leAudioBroadcastHardwareOffloadEncodingDatapath ∨ hostIf = none ∨
        audioConfig.getTag ≠ .leAudioConfig)) ∧
    ∃ audioConfig, ∀ host latencyModes,
      (provider.startSession newMq session (some host) audioConfig latencyModes).isOk = true := by
  intro session
  have hreached : session.Reached sessionType := ⟨calls, rfl⟩
  obtain ⟨hkind, hprovider, -⟩ := hfrom.facts
  refine ⟨?_, ?_⟩
  · intro hostIf audioConfig latencyModes
    refine ⟨?_, ?_⟩
    · intro hready
      by_contra! hbroadcast
      obtain ⟨rfl, hhost, htag⟩ := hbroadcast
      obtain ⟨host, rfl⟩ := Option.ne_none_iff_exists'.mp hhost
      have hoffload : ProviderKind.leAudioOffload = provider.kind := Option.some.inj hkind
      have hok : (provider.startSession newMq session (some host) audioConfig latencyModes).isOk = true := by
        cases audioConfig with
        | leAudioConfig config =>
            rw [BluetoothAudioProvider.startSession, BluetoothAudioProvider.accept.eq_def, ← hoffload, hprovider]
            rfl
        | _ => cases htag
      have hstart := BluetoothAudioProvider.isSessionReady_startSession hfrom hreached hok
      rw [if_pos rfl, hready hok] at hstart
      cases hstart
    · intro hcondition hok
      have hstart := BluetoothAudioProvider.isSessionReady_startSession hfrom hreached hok
      obtain ⟨host, -, hhost, htag, -⟩ := BluetoothAudioProvider.startSession_ok hfrom hok
      by_cases hbroadcast : sessionType = .leAudioBroadcastHardwareOffloadEncodingDatapath
      · obtain rfl := hbroadcast
        have hoffload : ProviderKind.leAudioOffload = provider.kind := Option.some.inj hkind
        rw [← hoffload] at htag
        rcases hcondition with hne | hnone | hother
        · exact absurd rfl hne
        · rw [hhost] at hnone
          cases hnone
        · exact absurd htag hother
      · rw [if_neg hbroadcast] at hstart
        exact hstart.1
  · have htaken := BluetoothAudioProvider.accept_takenConfig hnew hfrom
    obtain ⟨started, hstarted⟩ := Option.isSome_iff_exists.mp htaken
    refine ⟨BluetoothAudioProvider.takenConfig provider.kind, fun host latencyModes => ?_⟩
    rw [BluetoothAudioProvider.startSession, hstarted]
    rfl

/-- Queues that can all be allocated. -/
def validMq (_ : Nat) : DataMQ := ⟨⟨true⟩⟩

def softwareProvider : BluetoothAudioProvider Nat := .create validMq .a2dpSoftware .a2dpSoftwareEncodingDatapath

def broadcastProvider : BluetoothAudioProvider Nat :=
  .create validMq .leAudioOffload .leAudioBroadcastHardwareOffloadEncodingDatapath

theorem softwareProvider_openedFor : softwareProvider.OpenedFor validMq .a2dpSoftwareEncodingDatapath :=
  ⟨softwareProvider, rfl, rfl, rfl, fun _ => rfl⟩

theorem isSessionReady_startSession_iff_softwareProvider :
    (softwareProvider.startSession validMq (O := Unit) (.create .a2dpSoftwareEncodingDatapath) (some 7)
      (.pcmConfig ⟨48000, .stereo, 16, 10000⟩) []).session.isSessionReady = true :=
  ((isSessionReady_startSession_iff (fun _ => rfl) softwareProvider_openedFor []).1 _ _ _).mpr
    (Or.inl (by decide)) rfl

/-- The broadcast provider that offloads starts a session, and the session is not ready. -/
theorem broadcastProvider_notReady :
    openProvider validMq .leAudioBroadcastHardwareOffloadEncodingDatapath = some broadcastProvider ∧
      ¬ ((broadcastProvider.startSession validMq (O := Unit)
            (.create .leAudioBroadcastHardwareOffloadEncodingDatapath) (some 7)
              (.leAudioConfig .unknown) []).isOk = true →
          (broadcastProvider.startSession validMq (O := Unit)
            (.create .leAudioBroadcastHardwareOffloadEncodingDatapath) (some 7)
              (.leAudioConfig .unknown) []).session.isSessionReady = true) :=
  ⟨rfl, by decide⟩

end Penrose.Bluetooth

import Penrose.BluetoothConfigs
import Penrose.BluetoothLegacy
import Penrose.BluetoothPorts
import Penrose.BluetoothSuspension

/-! The streams that are opened and closed on one AIDL session. The session keeps callbacks with a pointer to the port
of a stream, the device pointers to its output streams. A stream may fail to open in two places, the second of them
with its callbacks already registered. -/

namespace Penrose.Bluetooth

variable {ι P : Type}

/-- A stream that exists, as far as its port goes. -/
structure HalStream where
  isInput : Bool
  port : BluetoothAudioPortAidl

/-- A session, the streams that exist, and `opened_stream_outs_` of the device. -/
structure SessionStreams (ι P : Type) where
  session : BluetoothAudioSession P ι
  streams : ι → Option HalStream
  openedStreamOuts : List ι

/-- What the framework, a provider or the stack does. Opening takes two steps, up to the end of `SetUp` and from there
on. -/
inductive StreamStep (ι P : Type) where
  | setUp (stream : ι) (isInput : Bool)
  | finishOpening (stream : ι)
  | close (stream : ι)
  | start (stream : ι)
  | suspend (stream : ι)
  | stop (stream : ι)
  | onSessionStarted (stackIface : Option P) (mqDesc : Option DataMQDesc) (audioConfig : AudioConfiguration)
      (latencyModes : List LatencyMode)
  | onSessionEnded
  | reportAudioConfigChanged (audioConfig : AudioConfiguration)
  | streamStarted (provider : BluetoothAudioProvider P) (status : BluetoothAudioStatus)
  | streamSuspended (provider : BluetoothAudioProvider P) (status : BluetoothAudioStatus)

/-- Whether `BluetoothAudioPortAidlIn::LoadAudioConfig` loads a configuration. -/
def BluetoothAudioPortAidl.inLoadsAudioConfig {O : Type} (port : BluetoothAudioPortAidl)
    (session : BluetoothAudioSession P O) : Bool :=
  if !port.inUse then false
  else
    match session.getAudioConfig with
    | .pcmConfig pcmCfg => decide (pcmCfg.channelMode ≠ .unknown)
    | _ => false

namespace SessionStreams

/-- No stream exists, and the session has not been started. -/
def create (sessionType : SessionType) : SessionStreams ι P := ⟨.create sessionType, fun _ => none, []⟩

section Steps

variable [DecidableEq ι]

/-- A stream is deleted. The destructor of its port does what `TearDown` does, unless that was called. -/
def delete (s : SessionStreams ι P) (i : ι) (port : BluetoothAudioPortAidl) : SessionStreams ι P :=
  { s with session := (port.tearDown s.session).2, streams := Function.update s.streams i none }

def onPort (s : SessionStreams ι P) (i : ι) (change : BluetoothAudioPortAidl → BluetoothAudioPortAidl) :
    SessionStreams ι P :=
  { s with streams := Function.update s.streams i ((s.streams i).map fun stream =>
      { stream with port := change stream.port }) }

/-- Every stream receives its callbacks in their order. -/
def deliver (s : SessionStreams ι P) (callbacks : List (Callback ι)) : SessionStreams ι P :=
  { s with streams := fun i => (s.streams i).map fun stream =>
      { stream with port := (callbacks.filter fun callback => callback.owner = i).foldl .receive stream.port } }

def sessionCall (s : SessionStreams ι P) (call : SessionCall P ι) : SessionStreams ι P :=
  { s with session := (call.apply s.session).1 }.deliver (call.apply s.session).2

/-- A new stream and its port; the stream is gone if `SetUp` fails. -/
def setUp (s : SessionStreams ι P) (i : ι) (isInput : Bool) : SessionStreams ι P :=
  match s.streams i with
  | some _ => s
  | none =>
      let (port, session, isSetUp) := BluetoothAudioPortAidl.create.setUp s.session i
      if isSetUp then { s with session := session, streams := Function.update s.streams i (some ⟨isInput, port⟩) }
      else { s with session := session }

/-- What `adev_open_output_stream` and `adev_open_input_stream` do after `SetUp`. An output stream without a
configuration is opened all the same. -/
def finishOpening (s : SessionStreams ι P) (i : ι) : SessionStreams ι P :=
  match s.streams i with
  | none => s
  | some stream =>
      if stream.isInput then
        if stream.port.inLoadsAudioConfig s.session then s else s.delete i stream.port
      else if i ∈ s.openedStreamOuts then s
      else { s with openedStreamOuts := s.openedStreamOuts ++ [i] }

/-- `adev_close_output_stream` and `adev_close_input_stream`. -/
def close (s : SessionStreams ι P) (i : ι) : SessionStreams ι P :=
  match s.streams i with
  | none => s
  | some stream =>
      let s := if stream.isInput then s
        else { s with openedStreamOuts := s.openedStreamOuts.filter fun opened => opened ≠ i }
      s.delete i (if stream.port.state ≠ .disabled then stream.port.stop else stream.port)

def next (s : SessionStreams ι P) : StreamStep ι P → SessionStreams ι P
  | .setUp i isInput => s.setUp i isInput
  | .finishOpening i => s.finishOpening i
  | .close i => s.close i
  | .start i => s.onPort i fun port => (port.ask .standby .starting).1
  | .suspend i => s.onPort i fun port => (port.ask .started .suspending).1
  | .stop i => s.onPort i .stop
  | .onSessionStarted stackIface mqDesc audioConfig latencyModes =>
      s.sessionCall (.onSessionStarted stackIface mqDesc audioConfig latencyModes)
  | .onSessionEnded => s.sessionCall .onSessionEnded
  | .reportAudioConfigChanged audioConfig => s.sessionCall (.reportAudioConfigChanged audioConfig)
  | .streamStarted provider status => s.deliver (provider.streamStarted s.session status)
  | .streamSuspended provider status => s.deliver (provider.streamSuspended s.session status)

end Steps

/-- The cookie of a stream that exists. -/
def cookieOf (s : SessionStreams ι P) (i : ι) : Option Nat := (s.streams i).map fun stream => stream.port.cookie

/-- The observers of the session are the ports of the streams that exist, and the output streams of the device exist. -/
structure Inv (s : SessionStreams ι P) : Prop where
  unique : s.session.UniqueCookies
  known : s.session.sessionType ≠ .unknown
  registered : ∀ observer, observer ∈ s.session.observers ↔
    s.cookieOf observer.2.owner = some observer.1 ∧ observer.2.hasAudioConfigurationChangedCb = false
  defined : ∀ i, s.cookieOf i ≠ some kObserversCookieUndefined
  distinct : s.openedStreamOuts.Nodup
  exist : ∀ i ∈ s.openedStreamOuts, ∃ stream, s.streams i = some stream ∧ stream.isInput = false

variable {s : SessionStreams ι P} {sessionType : SessionType}

theorem create_inv (hknown : sessionType ≠ .unknown) : (create sessionType : SessionStreams ι P).Inv where
  unique := List.nodup_nil
  known := hknown
  registered := fun _ => ⟨fun h => absurd h List.not_mem_nil, fun h => by cases h.1⟩
  defined := fun _ h => by cases h
  distinct := List.nodup_nil
  exist := fun _ h => absurd h List.not_mem_nil

/-- What changes neither the observers nor which streams there are under which cookies keeps what is said of them. -/
theorem Inv.of_eq (h : s.Inv) {later : SessionStreams ι P} (hobservers : later.session.observers = s.session.observers)
    (htype : later.session.sessionType = s.session.sessionType) (hcookies : ∀ i, later.cookieOf i = s.cookieOf i)
    (hkinds : ∀ i, (later.streams i).map HalStream.isInput = (s.streams i).map HalStream.isInput)
    (hopened : later.openedStreamOuts = s.openedStreamOuts) : later.Inv where
  unique := by
    rw [BluetoothAudioSession.UniqueCookies, hobservers]
    exact h.unique
  known := htype ▸ h.known
  registered := by
    intro observer
    rw [hobservers, hcookies]
    exact h.registered observer
  defined := by
    intro i
    rw [hcookies]
    exact h.defined i
  distinct := hopened ▸ h.distinct
  exist := by
    intro i hi
    obtain ⟨stream, hstream, hinput⟩ := h.exist i (hopened ▸ hi)
    have hkind := hkinds i
    rw [hstream, Option.map_some, hinput] at hkind
    exact Option.map_eq_some_iff.mp hkind

theorem Inv.inUse (h : s.Inv) {i : ι} {stream : HalStream} (hstream : s.streams i = some stream) :
    stream.port.inUse = true := by
  have hdefined := h.defined i
  rw [cookieOf, hstream, Option.map_some, ne_eq, Option.some.injEq] at hdefined
  rw [BluetoothAudioPortAidl.inUse, bne_iff_ne]
  exact hdefined

/-- Two streams that exist have different cookies. -/
theorem Inv.cookieOf_injective (h : s.Inv) {i j : ι} {cookie : Nat} (hi : s.cookieOf i = some cookie)
    (hj : s.cookieOf j = some cookie) : i = j := by
  have hmemI : (cookie, (⟨i, false⟩ : PortStatusCallbacks ι)) ∈ s.session.observers := (h.registered _).mpr ⟨hi, rfl⟩
  have hmemJ : (cookie, (⟨j, false⟩ : PortStatusCallbacks ι)) ∈ s.session.observers := (h.registered _).mpr ⟨hj, rfl⟩
  have hsame := List.inj_on_of_nodup_map h.unique hmemI hmemJ rfl
  injection hsame with _ hcallbacks
  injection hcallbacks

/-- No stream has two observers. -/
theorem Inv.uniqueOwners (h : s.Inv) :
    UniqueKeys (fun observer : Nat × PortStatusCallbacks ι => observer.2.owner) s.session.observers := by
  refine List.Nodup.map_on ?_ (List.Nodup.of_map _ h.unique)
  intro left hleft right hright howner
  have hcookie := ((h.registered left).mp hleft).1
  rw [howner, ((h.registered right).mp hright).1, Option.some.injEq] at hcookie
  exact List.inj_on_of_nodup_map h.unique hleft hright hcookie.symm

section Steps

variable [DecidableEq ι]

theorem Inv.deliver (h : s.Inv) (callbacks : List (Callback ι)) : (s.deliver callbacks).Inv := by
  refine h.of_eq rfl rfl ?_ ?_ rfl
  · intro i
    simp [cookieOf, SessionStreams.deliver, Function.comp_def]
  · intro i
    simp [SessionStreams.deliver, Function.comp_def]

theorem Inv.onPort (h : s.Inv) (i : ι) {change : BluetoothAudioPortAidl → BluetoothAudioPortAidl}
    (hchange : ∀ port, (change port).cookie = port.cookie) : (s.onPort i change).Inv := by
  refine h.of_eq rfl rfl ?_ ?_ rfl
  all_goals
    intro j
    by_cases heq : j = i
    · subst heq
      simp [cookieOf, SessionStreams.onPort, Function.comp_def, hchange]
    · simp [cookieOf, SessionStreams.onPort, heq]

theorem Inv.sessionCall (h : s.Inv) {call : SessionCall P ι}
    (hregister : ∀ callbacks, call ≠ .registerStatusCback callbacks)
    (hunregister : ∀ cookie, call ≠ .unregisterStatusCback cookie) : (s.sessionCall call).Inv := by
  have hsame : ({ s with session := (call.apply s.session).1 } : SessionStreams ι P).Inv :=
    h.of_eq (Middleware.observers_next_of_report hregister hunregister) (s.session.sessionType_next call)
      (fun _ => rfl) (fun _ => rfl) rfl
  exact hsame.deliver _

theorem cookieOf_update (i j : ι) (stream : Option HalStream) (session : BluetoothAudioSession P ι) (opened : List ι) :
    cookieOf ⟨session, Function.update s.streams i stream, opened⟩ j =
      if j = i then stream.map (fun stream => stream.port.cookie) else s.cookieOf j := by
  simp only [cookieOf, Function.update_apply]
  split_ifs <;> rfl

theorem Inv.delete (h : s.Inv) {i : ι} {stream : HalStream} (hstream : s.streams i = some stream)
    {port : BluetoothAudioPortAidl} (hport : port.cookie = stream.port.cookie) (hclosed : i ∉ s.openedStreamOuts) :
    (s.delete i port).Inv := by
  have hinUse : port.inUse = true := by
    rw [BluetoothAudioPortAidl.inUse, hport]
    exact h.inUse hstream
  have hcookie : s.cookieOf i = some port.cookie := by
    rw [cookieOf, hstream, hport, Option.map_some]
  have hdelete : s.delete i port =
      ⟨s.session.unregisterStatusCback port.cookie, Function.update s.streams i none, s.openedStreamOuts⟩ := by
    rw [SessionStreams.delete, BluetoothAudioPortAidl.tearDown, hinUse]
    rfl
  rw [hdelete]
  refine ⟨h.unique.unregisterStatusCback _, h.known, ?_, ?_, h.distinct, ?_⟩
  · intro observer
    rw [cookieOf_update, BluetoothAudioSession.unregisterStatusCback, List.mem_filter, h.registered, decide_eq_true_iff]
    split_ifs with howner
    · rw [howner, hcookie, Option.some.injEq, Option.map_none]
      simp only [reduceCtorEq, false_and, iff_false, not_and, not_not, and_imp]
      exact fun heq _ => heq.symm
    · refine ⟨And.left, fun hother => ⟨hother, ?_⟩⟩
      intro heq
      exact howner (h.cookieOf_injective hother.1 (heq ▸ hcookie))
  · intro j
    rw [cookieOf_update]
    split_ifs
    · simp
    · exact h.defined j
  · intro j hj
    obtain ⟨other, hother, hinput⟩ := h.exist j hj
    have hne : j ≠ i := fun heq => hclosed (heq ▸ hj)
    exact ⟨other, (Function.update_of_ne hne ..).trans hother, hinput⟩

theorem Inv.setUp (h : s.Inv) (i : ι) (isInput : Bool) : (s.setUp i isInput).Inv := by
  rw [SessionStreams.setUp]
  cases hstream : s.streams i with
  | some stream => exact h
  | none =>
      rw [BluetoothAudioPortAidl.setUp]
      cases hready : s.session.isSessionReady with
      | false => exact h.of_eq rfl rfl (fun _ => rfl) (fun _ => rfl) rfl
      | true =>
          obtain hrefused | ⟨cookie, hne, hadded⟩ := Middleware.registerStatusCback_cases h.known ⟨i, false⟩
          · simp only [hrefused, Bool.not_true, Bool.false_eq_true, if_false, bne_self_eq_false]
            exact h
          · have hunique := h.unique.registerStatusCback ⟨i, false⟩
            rw [hadded] at hunique
            simp only [hadded, Bool.not_true, Bool.false_eq_true, if_false, bne_iff_ne.mpr hne, if_true]
            have hfree : s.cookieOf i = none := by rw [cookieOf, hstream, Option.map_none]
            refine ⟨hunique, h.known, ?_, ?_, h.distinct, ?_⟩
            · intro observer
              obtain ⟨registered, owner, hasConfig⟩ := observer
              rw [cookieOf_update, List.mem_append, h.registered, List.mem_singleton]
              split_ifs with howner
              · have howner : owner = i := howner
                have hnone : ¬(s.cookieOf owner = some registered ∧ hasConfig = false) := by
                  rw [howner, hfree]
                  exact fun hsome => by cases hsome.1
                rw [or_iff_right hnone, Prod.mk.injEq, PortStatusCallbacks.mk.injEq, Option.map_some, Option.some.injEq,
                  eq_comm (a := cookie)]
                exact and_congr_right fun _ => and_iff_right howner
              · have hother : (registered, (⟨owner, hasConfig⟩ : PortStatusCallbacks ι)) ≠ (cookie, ⟨i, false⟩) := by
                  intro heq
                  injection heq with _ hcallbacks
                  injection hcallbacks with hsame
                  exact howner hsame
                rw [or_iff_left hother]
            · intro j
              rw [cookieOf_update]
              split_ifs
              · simpa using hne
              · exact h.defined j
            · intro j hj
              obtain ⟨other, hother, hinput⟩ := h.exist j hj
              have hneq : j ≠ i := by
                intro heq
                rw [heq, hstream] at hother
                cases hother
              exact ⟨other, (Function.update_of_ne hneq ..).trans hother, hinput⟩

theorem Inv.finishOpening (h : s.Inv) (i : ι) : (s.finishOpening i).Inv := by
  rw [SessionStreams.finishOpening]
  cases hstream : s.streams i with
  | none => exact h
  | some stream =>
      dsimp only
      cases hinput : stream.isInput with
      | true =>
          have hclosed : i ∉ s.openedStreamOuts := by
            intro hi
            obtain ⟨other, hother, houtput⟩ := h.exist i hi
            rw [hstream] at hother
            rw [← Option.some.inj hother, hinput] at houtput
            cases houtput
          simp only [if_true]
          split_ifs
          · exact h
          · exact h.delete hstream rfl hclosed
      | false =>
          simp only [Bool.false_eq_true, if_false]
          split_ifs with hopened
          · exact h
          · refine ⟨h.unique, h.known, h.registered, h.defined, ?_, ?_⟩
            · rw [← List.concat_eq_append]
              exact List.Nodup.concat hopened h.distinct
            · intro j hj
              obtain hold | hnew := List.mem_append.mp hj
              · exact h.exist j hold
              · rw [List.mem_singleton.mp hnew]
                exact ⟨stream, hstream, hinput⟩

theorem cookie_ask (entry waiting : BluetoothStreamState) (port : BluetoothAudioPortAidl) :
    (port.ask entry waiting).1.cookie = port.cookie := by
  rw [BluetoothAudioPortAidl.ask]
  split_ifs <;> rfl

theorem Inv.close (h : s.Inv) (i : ι) : (s.close i).Inv := by
  rw [SessionStreams.close]
  cases hstream : s.streams i with
  | none => exact h
  | some stream =>
      have hport : (if stream.port.state ≠ .disabled then stream.port.stop else stream.port).cookie =
          stream.port.cookie := by
        split_ifs
        · exact BluetoothAudioPortAidl.cookie_stop stream.port
        · rfl
      dsimp only
      cases hinput : stream.isInput with
      | true =>
          refine Inv.delete h hstream hport ?_
          intro hi
          obtain ⟨other, hother, houtput⟩ := h.exist i hi
          rw [hstream] at hother
          rw [← Option.some.inj hother, hinput] at houtput
          cases houtput
      | false =>
          have hremoved : Inv { s with openedStreamOuts := s.openedStreamOuts.filter fun opened => opened ≠ i } :=
            ⟨h.unique, h.known, h.registered, h.defined, h.distinct.filter _,
              fun j hj => h.exist j (List.mem_of_mem_filter hj)⟩
          refine Inv.delete hremoved hstream hport ?_
          intro hi
          exact of_decide_eq_true (List.mem_filter.mp hi).2 rfl

theorem Inv.next (h : s.Inv) (step : StreamStep ι P) : (s.next step).Inv := by
  cases step with
  | setUp i isInput => exact h.setUp i isInput
  | finishOpening i => exact h.finishOpening i
  | close i => exact h.close i
  | start i => exact h.onPort i fun port => cookie_ask _ _ port
  | suspend i => exact h.onPort i fun port => cookie_ask _ _ port
  | stop i => exact h.onPort i BluetoothAudioPortAidl.cookie_stop
  | onSessionStarted stackIface mqDesc audioConfig latencyModes => exact h.sessionCall (by simp) (by simp)
  | onSessionEnded => exact h.sessionCall (by simp) (by simp)
  | reportAudioConfigChanged audioConfig => exact h.sessionCall (by simp) (by simp)
  | streamStarted provider status => exact h.deliver _
  | streamSuspended provider status => exact h.deliver _

/-! ### Who is called back -/

/-- A report, which invokes a callback of every observer, invokes one of each stream that exists, and no other. -/
theorem Inv.filter_report (h : s.Inv) (report : ι → Nat → Callback ι)
    (howner : ∀ owner cookie, (report owner cookie).owner = owner) (i : ι) :
    (s.session.observers.map fun observer => report observer.2.owner observer.1).filter
        (fun callback => callback.owner = i) =
      ((s.streams i).map fun stream => report i stream.port.cookie).toList := by
  cases hstream : s.streams i with
  | none =>
      rw [Option.map_none, Option.toList_none, List.filter_eq_nil_iff]
      intro callback hcallback hsame
      obtain ⟨observer, hobserver, hreport⟩ := List.mem_map.mp hcallback
      have hcookie := ((h.registered observer).mp hobserver).1
      rw [← hreport, howner, decide_eq_true_eq] at hsame
      rw [hsame, cookieOf, hstream] at hcookie
      cases hcookie
  | some stream =>
      have hmem : (stream.port.cookie, (⟨i, false⟩ : PortStatusCallbacks ι)) ∈ s.session.observers := by
        refine (h.registered _).mpr ⟨?_, rfl⟩
        rw [cookieOf, hstream, Option.map_some]
      have hmake : ∀ (observer : Nat × PortStatusCallbacks ι) callback,
          (some ∘ fun observer => report observer.2.owner observer.1) observer = some callback →
            callback.owner = observer.2.owner := by
        intro observer callback hmade
        rw [← Option.some.inj hmade]
        exact howner ..
      rw [← List.filterMap_eq_map, filter_filterMap_of_mem h.uniqueOwners hmake hmem]
      rfl


/-- Whatever streams are opened, with success or without, and closed, and whatever the stack and the providers do: a
report of the session calls each stream that exists back once, under its cookie, and no stream that does not; and the
output streams that the device goes through exist, each of them once. -/
theorem run_calledBack (hknown : sessionType ≠ .unknown) (steps : List (StreamStep ι P)) (i : ι) :
    let s := steps.foldl SessionStreams.next (create sessionType)
    (∀ startResp status, (s.session.reportControlStatus startResp status).filter (fun callback => callback.owner = i) =
      ((s.streams i).map fun stream => .controlResultCb i stream.port.cookie startResp status).toList) ∧
    (s.session.reportSessionStatus.filter fun callback => callback.owner = i) =
      ((s.streams i).map fun stream => .sessionChangedCb i stream.port.cookie).toList ∧
    s.openedStreamOuts.Nodup ∧ ∀ opened ∈ s.openedStreamOuts, ∃ stream, s.streams opened = some stream := by
  intro s
  have hnext : ∀ (s : SessionStreams ι P) step, Inv s → True → Inv (s.next step) := fun s step h _ => h.next step
  have hinv : Inv s := Run.inv_foldl hnext (create_inv hknown) (Run.forall_iff.mpr fun _ _ => trivial)
  refine ⟨fun startResp status => ?_, ?_, hinv.distinct, ?_⟩
  · exact hinv.filter_report (fun owner cookie => .controlResultCb owner cookie startResp status) (fun _ _ => rfl) i
  · exact hinv.filter_report .sessionChangedCb (fun _ _ => rfl) i
  · intro opened hopened
    obtain ⟨stream, hstream, -⟩ := hinv.exist opened hopened
    exact ⟨stream, hstream⟩

end Steps

/-- An input stream is opened; another one is not, as the session has been started anew without channels. -/
def opensOneOfTwo : List (StreamStep Nat Nat) :=
  [.onSessionStarted (some 7) (some ⟨true⟩) (.pcmConfig ⟨16000, .mono, 16, 10000⟩) [], .setUp 0 true, .finishOpening 0,
    .onSessionEnded, .onSessionStarted (some 7) (some ⟨true⟩) (.pcmConfig ⟨16000, .unknown, 16, 10000⟩) [],
    .setUp 1 true, .finishOpening 1]

theorem opensOneOfTwo_calledBack :
    let s := opensOneOfTwo.foldl SessionStreams.next (create .leAudioSoftwareDecodingDatapath)
    (s.session.reportSessionStatus.filter fun callback => callback.owner = 0) = [.sessionChangedCb 0 0x0500] ∧
      (s.session.reportSessionStatus.filter fun callback => callback.owner = 1) = [] :=
  ⟨(run_calledBack (by decide) opensOneOfTwo 0).2.1, (run_calledBack (by decide) opensOneOfTwo 1).2.1⟩

end SessionStreams

end Penrose.Bluetooth

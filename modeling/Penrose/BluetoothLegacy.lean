import Mathlib.Data.List.Nodup
import Mathlib.Logic.Function.Basic
import Penrose.BluetoothObservers
import Penrose.KeyedLists
import Penrose.Runs

/-! The HIDL clients of an AIDL session. The middleware registers a callback of its own with the session for each of
them, and keeps the client's in a table under the cookie that the session gave. Both a registration and its end take two
steps, one on the session and one on the table, and other threads may go in between: a client that ends late can take
the callback of the next one with the same cookie out of the table. -/

namespace Penrose.Bluetooth.Middleware

/-- Whose a callback of the session is: an AIDL client's, or the middleware's own. The latter looks the client up in the
table; that it was registered for this client is said here for the sake of the statements. -/
inductive Owner (A C : Type) where
  | aidl (client : A)
  | legacy (client : C)

/-- `HidlStatus`. -/
inductive HidlStatus where
  | success | unsupportedCodecConfiguration | failure
  deriving DecidableEq

def toHidlStatus : BluetoothAudioStatus → HidlStatus
  | .success => .success
  | .unsupportedCodecConfiguration => .unsupportedCodecConfiguration
  | _ => .failure

/-- A callback of a HIDL client. -/
inductive HidlCallback (C : Type) where
  | controlResultCb (owner : C) (cookie : Nat) (startResp : Bool) (status : HidlStatus)
  | sessionChangedCb (owner : C) (cookie : Nat)

def HidlCallback.cookie {C : Type} : HidlCallback C → Nat
  | .controlResultCb _ cookie _ _ => cookie
  | .sessionChangedCb _ cookie => cookie

variable {P A C : Type}

/-- The callbacks that `RegisterControlResultCback` of the middleware passes to the session. -/
def legacyCallbacks (client : C) : PortStatusCallbacks (Owner A C) := ⟨.legacy client, false⟩

/-- What a callback of the session comes to at a HIDL client. -/
def deliver (table : Nat → Option C) : Callback (Owner A C) → Option (HidlCallback C)
  | .controlResultCb (.legacy _) cookie startResp status =>
      (table cookie).map fun client => .controlResultCb client cookie startResp (toHidlStatus status)
  | .sessionChangedCb (.legacy _) cookie => (table cookie).map fun client => .sessionChangedCb client cookie
  | _ => none

theorem cookie_deliver {table : Nat → Option C} {callback : Callback (Owner A C)} {heard : HidlCallback C}
    (h : deliver table callback = some heard) : heard.cookie = callback.cookie := by
  cases callback with
  | controlResultCb owner cookie startResp status =>
      cases owner with
      | aidl client => cases h
      | legacy client =>
          obtain ⟨found, -, rfl⟩ := Option.map_eq_some_iff.mp h
          rfl
  | sessionChangedCb owner cookie =>
      cases owner with
      | aidl client => cases h
      | legacy client =>
          obtain ⟨found, -, rfl⟩ := Option.map_eq_some_iff.mp h
          rfl
  | audioConfigurationChangedCb owner cookie => cases h

/-- The session of a type, the entry of `legacy_callback_table` for that type, the registrations whose callback is yet
to go into the table, and the cookies whose callback is yet to go out of it. -/
structure LegacySession (P A C : Type) where
  session : BluetoothAudioSession P (Owner A C)
  table : Nat → Option C
  inserting : List (Nat × C)
  erasing : List Nat

/-- A call on the session that does not come from the middleware, or one of the two steps of
`RegisterControlResultCback` and of `UnregisterControlResultCback`. -/
inductive LegacyStep (P A C : Type) where
  | sessionCall (call : SessionCall P (Owner A C))
  | register (client : C)
  | insert (cookie : Nat) (client : C)
  | unregister (cookie : Nat)
  | erase (cookie : Nat)

namespace LegacySession

def create (sessionType : SessionType) : LegacySession P A C := ⟨.create sessionType, fun _ => none, [], []⟩

variable [DecidableEq C]

def next (s : LegacySession P A C) : LegacyStep P A C → LegacySession P A C
  | .sessionCall call => { s with session := s.session.next call }
  | .register client =>
      let registered := s.session.registerStatusCback (legacyCallbacks client)
      { s with session := registered.1, inserting := (registered.2, client) :: s.inserting }
  | .insert cookie client =>
      if (cookie, client) ∈ s.inserting then
        { s with
          table := Function.update s.table cookie (some client)
          inserting := s.inserting.erase (cookie, client) }
      else s
  | .unregister cookie =>
      { s with session := s.session.unregisterStatusCback cookie, erasing := cookie :: s.erasing }
  | .erase cookie =>
      if cookie ∈ s.erasing then
        { s with table := Function.update s.table cookie none, erasing := s.erasing.erase cookie }
      else s

/-- The client is registered with the session under the cookie. -/
def Registered (s : LegacySession P A C) (cookie : Nat) (client : C) : Prop :=
  (cookie, legacyCallbacks client) ∈ s.session.observers

/-- Callers outside of the middleware register callbacks of their own and unregister no client of the middleware, and a
client does not unregister before its registration returned. -/
def Proper (s : LegacySession P A C) : LegacyStep P A C → Prop
  | .sessionCall (.registerStatusCback callbacks) => ∃ client, callbacks.owner = .aidl client
  | .sessionCall (.unregisterStatusCback cookie) => ∀ client, ¬ s.Registered cookie client
  | .sessionCall _ => True
  | .register _ => True
  | .insert _ _ => True
  | .unregister cookie => ∀ client, (cookie, client) ∉ s.inserting
  | .erase _ => True

/-- No callback is taken out of the table under a cookie that the session gave to another client meanwhile, whose
registration has returned. -/
def ErasesInTime (s : LegacySession P A C) : LegacyStep P A C → Prop
  | .erase cookie =>
      cookie ∈ s.erasing → ∀ client, s.Registered cookie client → (cookie, client) ∈ s.inserting
  | _ => True

/-- The callback of a client that is registered is in the table, or on its way there. -/
structure Inv (s : LegacySession P A C) : Prop where
  unique : s.session.UniqueCookies
  defined : ∀ observer ∈ s.session.observers, observer.1 ≠ kObserversCookieUndefined
  known : s.session.sessionType ≠ .unknown
  found : ∀ cookie client, s.Registered cookie client → s.table cookie = some client ∨ (cookie, client) ∈ s.inserting
  inserted : ∀ cookie client, (cookie, client) ∈ s.inserting →
    cookie = kObserversCookieUndefined ∨ s.Registered cookie client

end LegacySession

/-! ### What a call does to the observers -/

section Session

variable {O : Type} {session : BluetoothAudioSession P O}

theorem le_freeCookie (observers : List (Nat × PortStatusCallbacks O)) (count cookie : Nat) :
    cookie ≤ BluetoothAudioSession.freeCookie observers count cookie := by
  induction count generalizing cookie with
  | zero => exact Nat.le_refl cookie
  | succ count ih =>
      rw [BluetoothAudioSession.freeCookie]
      split_ifs
      · exact Nat.le_of_succ_le (ih (cookie + 1))
      · exact Nat.le_refl cookie

theorem undefined_lt_initValue {sessionType : SessionType} (hknown : sessionType ≠ .unknown) :
    kObserversCookieUndefined < observersCookieGetInitValue sessionType := by
  cases sessionType with
  | unknown => exact absurd rfl hknown
  | _ => decide

/-- A registration is refused and changes nothing, or adds an observer under a cookie that is not the undefined one. -/
theorem registerStatusCback_cases (hknown : session.sessionType ≠ .unknown) (callbacks : PortStatusCallbacks O) :
    session.registerStatusCback callbacks = (session, kObserversCookieUndefined) ∨
      ∃ cookie, cookie ≠ kObserversCookieUndefined ∧
        session.registerStatusCback callbacks =
          ({ session with observers := session.observers ++ [(cookie, callbacks)] }, cookie) := by
  rw [BluetoothAudioSession.registerStatusCback]
  split_ifs with hfull
  · exact Or.inl rfl
  · refine Or.inr ⟨_, ?_, rfl⟩
    have hle := le_freeCookie session.observers kObserversCookieSize (observersCookieGetInitValue session.sessionType)
    exact Nat.ne_of_gt (Nat.lt_of_lt_of_le (undefined_lt_initValue hknown) hle)

/-- A call that neither registers nor unregisters leaves the observers as they are. -/
theorem observers_next_of_report {call : SessionCall P O}
    (hregister : ∀ callbacks, call ≠ .registerStatusCback callbacks)
    (hunregister : ∀ cookie, call ≠ .unregisterStatusCback cookie) :
    (session.next call).observers = session.observers := by
  cases call with
  | onSessionStarted stackIface mqDesc audioConfig latencyModes =>
      exact (session.facts_onSessionStarted stackIface mqDesc audioConfig latencyModes).2
  | onSessionEnded => rfl
  | reportAudioConfigChanged audioConfig =>
      rw [BluetoothAudioSession.next, SessionCall.apply, BluetoothAudioSession.reportAudioConfigChanged]
      split_ifs <;> rfl
  | registerStatusCback callbacks => exact absurd rfl (hregister callbacks)
  | unregisterStatusCback cookie => exact absurd rfl (hunregister cookie)

end Session

namespace LegacySession

variable {s : LegacySession P A C} {sessionType : SessionType}

theorem create_inv (hknown : sessionType ≠ .unknown) : (create sessionType : LegacySession P A C).Inv where
  unique := List.nodup_nil
  defined := fun _ h => absurd h List.not_mem_nil
  known := hknown
  found := fun _ _ h => absurd h List.not_mem_nil
  inserted := fun _ _ h => absurd h List.not_mem_nil

/-- Two clients under one cookie are the same. -/
theorem Inv.client_eq (h : s.Inv) {cookie : Nat} {left right : C} (hleft : s.Registered cookie left)
    (hright : s.Registered cookie right) : left = right := by
  have hsame := List.inj_on_of_nodup_map h.unique hleft hright rfl
  injection hsame with _ hcallbacks
  injection hcallbacks with howner
  injection howner

/-- Whatever is registered under another cookie or is not a client of the middleware changes nothing. -/
theorem Inv.of_session (h : s.Inv) {session : BluetoothAudioSession P (Owner A C)} (hunique : session.UniqueCookies)
    (hdefined : ∀ observer ∈ session.observers, observer.1 ≠ kObserversCookieUndefined)
    (htype : session.sessionType = s.session.sessionType)
    (hregistered : ∀ cookie client, (cookie, legacyCallbacks client) ∈ session.observers ↔ s.Registered cookie client) :
    Inv { s with session := session } where
  unique := hunique
  defined := hdefined
  known := htype ▸ h.known
  found := fun cookie client hreg => h.found cookie client ((hregistered cookie client).mp hreg)
  inserted := fun cookie client hmem => (h.inserted cookie client hmem).imp_right (hregistered cookie client).mpr

/-! ### What the clients hear -/

/-- The callbacks of HIDL clients that come of some callbacks of the session, under one cookie. -/
def heard (s : LegacySession P A C) (callbacks : List (Callback (Owner A C))) (cookie : Nat) : List (HidlCallback C) :=
  (callbacks.filterMap (deliver s.table)).filter fun callback => callback.cookie = cookie

/-- A report, which invokes a callback of every observer, comes under the cookie of a client to what that client's own
comes to. -/
theorem heard_of_report (hunique : s.session.UniqueCookies) {cookie : Nat} {client : C}
    (hregistered : s.Registered cookie client) (report : Owner A C → Nat → Callback (Owner A C))
    (hcookie : ∀ owner cookie, (report owner cookie).cookie = cookie) :
    s.heard (s.session.observers.map fun observer => report observer.2.owner observer.1) cookie =
      (deliver s.table (report (.legacy client) cookie)).toList := by
  have hmake : ∀ (observer : Nat × PortStatusCallbacks (Owner A C)) made,
      (deliver s.table ∘ fun observer => report observer.2.owner observer.1) observer = some made →
        made.cookie = observer.1 := by
    intro observer made hmade
    rw [cookie_deliver hmade, hcookie]
  rw [heard, List.filterMap_map, filter_filterMap_of_mem hunique hmake hregistered]
  rfl

/-- A client that is registered and whose registration returned hears each report of the session once, under its cookie
and with the status in the terms of HIDL, and nobody else hears it under that cookie. -/
def Served (s : LegacySession P A C) : Prop :=
  ∀ cookie client, s.Registered cookie client → (cookie, client) ∉ s.inserting →
    (∀ startResp status, s.heard (s.session.reportControlStatus startResp status) cookie =
      [.controlResultCb client cookie startResp (toHidlStatus status)]) ∧
    s.heard s.session.reportSessionStatus cookie = [.sessionChangedCb client cookie]

theorem Inv.served (h : s.Inv) : s.Served := by
  intro cookie client hregistered hreturned
  have htable := (h.found cookie client hregistered).resolve_right hreturned
  constructor
  · intro startResp status
    calc s.heard (s.session.reportControlStatus startResp status) cookie
        = (deliver s.table (.controlResultCb (.legacy client) cookie startResp status)).toList :=
          heard_of_report h.unique hregistered (fun owner other => .controlResultCb owner other startResp status)
            fun _ _ => rfl
      _ = [.controlResultCb client cookie startResp (toHidlStatus status)] := by
          rw [deliver, htable, Option.map_some, Option.toList_some]
  · calc s.heard s.session.reportSessionStatus cookie
        = (deliver s.table (.sessionChangedCb (.legacy client) cookie)).toList :=
          heard_of_report h.unique hregistered (fun owner other => .sessionChangedCb owner other) fun _ _ => rfl
      _ = [.sessionChangedCb client cookie] := by
          rw [deliver, htable, Option.map_some, Option.toList_some]

/-- Without a callback in the table a client hears nothing. -/
theorem not_served_of_table (hunique : s.session.UniqueCookies) {cookie : Nat} {client : C}
    (hregistered : s.Registered cookie client) (hreturned : (cookie, client) ∉ s.inserting)
    (htable : s.table cookie = none) : ¬s.Served := by
  intro hserved
  have hheard := heard_of_report hunique hregistered (fun owner other => .sessionChangedCb owner other) fun _ _ => rfl
  rw [deliver, htable, Option.map_none, Option.toList_none] at hheard
  have hchanged := (hserved cookie client hregistered hreturned).2
  rw [BluetoothAudioSession.reportSessionStatus, hheard] at hchanged
  cases hchanged

/-! ### Runs -/

variable [DecidableEq C]

theorem Inv.sessionCall (h : s.Inv) {call : SessionCall P (Owner A C)} (hproper : s.Proper (.sessionCall call)) :
    (s.next (.sessionCall call)).Inv := by
  have hunique := h.unique.next call
  have htype := s.session.sessionType_next call
  by_cases hregister : ∃ callbacks, call = .registerStatusCback callbacks
  · obtain ⟨callbacks, rfl⟩ := hregister
    obtain ⟨owner, howner⟩ := hproper
    refine h.of_session hunique ?_ htype ?_
    all_goals rw [BluetoothAudioSession.next, SessionCall.apply]
    all_goals obtain hrefused | ⟨cookie, hne, hadded⟩ := registerStatusCback_cases h.known callbacks
    · rw [hrefused]
      exact h.defined
    · rw [hadded]
      intro observer hobserver
      obtain hold | hnew := List.mem_append.mp hobserver
      · exact h.defined observer hold
      · rw [List.mem_singleton.mp hnew]
        exact hne
    · rw [hrefused]
      exact fun _ _ => Iff.rfl
    · rw [hadded]
      intro cookie' client
      have hother : (cookie', legacyCallbacks client) ≠ (cookie, callbacks) := by
        intro heq
        injection heq with _ hcallbacks
        rw [← hcallbacks] at howner
        cases howner
      simp [Registered, hother]
  · by_cases hunregister : ∃ cookie, call = .unregisterStatusCback cookie
    · obtain ⟨cookie, rfl⟩ := hunregister
      refine h.of_session hunique ?_ htype ?_
      · intro observer hobserver
        exact h.defined observer (List.mem_of_mem_filter hobserver)
      · intro cookie' client
        refine ⟨List.mem_of_mem_filter, ?_⟩
        intro hregistered
        refine List.mem_filter.mpr ⟨hregistered, decide_eq_true ?_⟩
        intro heq
        exact hproper client (heq ▸ hregistered)
    · have hobservers : (s.session.next call).observers = s.session.observers :=
        observers_next_of_report (fun callbacks heq => hregister ⟨callbacks, heq⟩)
          (fun cookie heq => hunregister ⟨cookie, heq⟩)
      refine h.of_session hunique ?_ htype ?_
      · rw [hobservers]
        exact h.defined
      · rw [hobservers]
        exact fun _ _ => Iff.rfl

theorem Inv.register (h : s.Inv) (client : C) : (s.next (.register client)).Inv := by
  have hunique := h.unique.registerStatusCback (legacyCallbacks client)
  obtain hrefused | ⟨cookie, hne, hadded⟩ := registerStatusCback_cases h.known (legacyCallbacks client)
  · rw [next, hrefused]
    refine ⟨h.unique, h.defined, h.known, ?_, ?_⟩
    · intro cookie' client' hregistered
      exact (h.found cookie' client' hregistered).imp_right (List.mem_cons_of_mem _)
    · intro cookie' client' hmem
      obtain hnew | hold := List.mem_cons.mp hmem
      · injection hnew with hcookie _
        exact Or.inl hcookie
      · exact h.inserted cookie' client' hold
  · rw [next, hadded]
    rw [hadded] at hunique
    refine ⟨hunique, ?_, h.known, ?_, ?_⟩
    · intro observer hobserver
      obtain hold | hnew := List.mem_append.mp hobserver
      · exact h.defined observer hold
      · rw [List.mem_singleton.mp hnew]
        exact hne
    · intro cookie' client' hregistered
      obtain hold | hnew := List.mem_append.mp hregistered
      · exact (h.found cookie' client' hold).imp_right (List.mem_cons_of_mem _)
      · injection List.mem_singleton.mp hnew with hcookie hcallbacks
        injection hcallbacks with howner
        injection howner with hclient
        rw [hcookie, hclient]
        exact Or.inr List.mem_cons_self
    · intro cookie' client' hmem
      obtain hnew | hold := List.mem_cons.mp hmem
      · injection hnew with hcookie hclient
        rw [hcookie, hclient]
        exact Or.inr (List.mem_append_right _ List.mem_cons_self)
      · exact (h.inserted cookie' client' hold).imp_right (List.mem_append_left _)

theorem Inv.insert (h : s.Inv) (cookie : Nat) (client : C) : (s.next (.insert cookie client)).Inv := by
  rw [next]
  split_ifs with hmem
  · refine ⟨h.unique, h.defined, h.known, ?_, ?_⟩
    · intro cookie' client' hregistered
      by_cases hcookie : cookie' = cookie
      · -- the client that goes into the table is the one that is registered under its cookie
        obtain hundefined | hinserting := h.inserted cookie client hmem
        · exact absurd (hcookie.trans hundefined) (h.defined _ hregistered)
        · rw [hcookie] at hregistered
          rw [h.client_eq hregistered hinserting, hcookie]
          exact Or.inl (Function.update_self ..)
      · have hother : (cookie', client') ≠ (cookie, client) := fun heq => hcookie (congrArg Prod.fst heq)
        refine (h.found cookie' client' hregistered).imp ?_ (List.mem_erase_of_ne hother).mpr
        intro htable
        rw [← htable]
        exact Function.update_of_ne hcookie ..
    · intro cookie' client' hmem'
      exact h.inserted cookie' client' (List.mem_of_mem_erase hmem')
  · exact h

theorem Inv.unregister (h : s.Inv) {cookie : Nat} (hproper : s.Proper (.unregister cookie : LegacyStep P A C)) :
    (s.next (.unregister cookie)).Inv := by
  refine ⟨h.unique.unregisterStatusCback cookie, ?_, h.known, ?_, ?_⟩
  · intro observer hobserver
    exact h.defined observer (List.mem_of_mem_filter hobserver)
  · intro cookie' client' hregistered
    exact h.found cookie' client' (List.mem_of_mem_filter hregistered)
  · intro cookie' client' hmem
    refine (h.inserted cookie' client' hmem).imp_right fun hregistered => ?_
    refine List.mem_filter.mpr ⟨hregistered, decide_eq_true ?_⟩
    intro heq
    exact hproper client' (heq ▸ hmem)

theorem Inv.erase (h : s.Inv) {cookie : Nat} (hintime : s.ErasesInTime (.erase cookie : LegacyStep P A C)) :
    (s.next (.erase cookie)).Inv := by
  rw [next]
  split_ifs with herasing
  · refine ⟨h.unique, h.defined, h.known, ?_, h.inserted⟩
    intro cookie' client' hregistered
    by_cases hcookie : cookie' = cookie
    · rw [hcookie] at hregistered ⊢
      exact Or.inr (hintime herasing client' hregistered)
    · refine (h.found cookie' client' hregistered).imp_left fun htable => ?_
      rw [← htable]
      exact Function.update_of_ne hcookie ..
  · exact h

theorem Inv.next (h : s.Inv) (step : LegacyStep P A C) (hproper : s.Proper step) (hintime : s.ErasesInTime step) :
    (s.next step).Inv := by
  cases step with
  | sessionCall call => exact h.sessionCall hproper
  | register client => exact h.register client
  | insert cookie client => exact h.insert cookie client
  | unregister cookie => exact h.unregister hproper
  | erase cookie => exact h.erase hintime

/-- Who is registered is served after a step if and only if the step takes no callback out too late. -/
theorem Inv.served_next_iff (h : s.Inv) (step : LegacyStep P A C) (hproper : s.Proper step) :
    (s.next step).Served ↔ s.ErasesInTime step := by
  refine ⟨?_, fun hintime => (h.next step hproper hintime).served⟩
  intro hserved
  cases step with
  | erase cookie =>
      intro herasing client hregistered
      by_contra hreturned
      rw [LegacySession.next, if_pos herasing] at hserved
      exact absurd hserved (not_served_of_table h.unique hregistered hreturned (Function.update_self ..))
  | _ => trivial

/-- The stack ends a session while a registration is under way, and the cookie is given again. -/
def givenAgain : List (LegacyStep Unit Unit Nat) :=
  [.register 5, .sessionCall .onSessionEnded, .insert 0x0100 5, .unregister 0x0100, .register 6, .erase 0x0100,
    .insert 0x0100 6]

/-- The callback of the client that left goes out of the table after that of the next one came in. -/
def givenAgainTooSoon : List (LegacyStep Unit Unit Nat) :=
  [.register 5, .insert 0x0100 5, .unregister 0x0100, .register 6, .insert 0x0100 6, .erase 0x0100]

end LegacySession

end Penrose.Bluetooth.Middleware

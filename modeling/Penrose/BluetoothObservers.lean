import Mathlib.Algebra.Ring.Int.Defs
import Mathlib.Algebra.Ring.Nat
import Mathlib.Data.List.AList
import Penrose.BluetoothSession
import Penrose.Tables

/-! The observers of a `BluetoothAudioSession` and their cookies, in the machine words of the source. A cookie
has the session type in its high byte and a number below sixteen in its low byte; whatever was registered and
unregistered before, the registered cookies are distinct and the sixteen of the session's type are all in use
before a registration is refused. -/

namespace Penrose.Bluetooth

/-- The cookie that a callback is given. -/
def Callback.cookie {O : Type} : Callback O → Nat
  | .controlResultCb _ cookie _ _ => cookie
  | .sessionChangedCb _ cookie => cookie
  | .audioConfigurationChangedCb _ cookie => cookie

namespace Observers

/-! ### Cookies -/

/-- `SessionType::UNKNOWN`, as the byte that a session type is. -/
def unknown : BitVec 8 := BitVec.ofNat 8 SessionType.unknown.value

def kObserversCookieSize : BitVec 16 := 0x0010

def kObserversCookieUndefined : BitVec 16 := unknown.setWidth 16 <<< 8 &&& 0xff00

def observersCookieGetSessionType (cookie : BitVec 16) : BitVec 8 := (cookie >>> 8 &&& 0x00ff).setWidth 8

def observersCookieGetInitValue (sessionType : BitVec 8) : BitVec 16 := sessionType.setWidth 16 <<< 8 &&& 0xff00

def observersCookieGetUpperBound (sessionType : BitVec 8) : BitVec 16 :=
  (sessionType.setWidth 16 <<< 8 &&& 0xff00) + kObserversCookieSize

theorem toNat_initValue (sessionType : BitVec 8) :
    (observersCookieGetInitValue sessionType).toNat = sessionType.toNat <<< 8 := by
  revert sessionType
  decide

theorem toNat_upperBound (sessionType : BitVec 8) :
    (observersCookieGetUpperBound sessionType).toNat = sessionType.toNat <<< 8 + 16 := by
  revert sessionType
  decide

theorem toNat_getSessionType (cookie : BitVec 16) :
    (observersCookieGetSessionType cookie).toNat = cookie.toNat / 2 ^ 8 := by
  have hlow : cookie.toNat / 2 ^ 8 &&& 2 ^ 8 - 1 = cookie.toNat / 2 ^ 8 := by
    rw [Nat.and_two_pow_sub_one_eq_mod]
    omega
  rw [observersCookieGetSessionType, BitVec.toNat_setWidth, BitVec.toNat_and, BitVec.toNat_ushiftRight,
    Nat.shiftRight_eq_div_pow, show (0x00ff : BitVec 16).toNat = 2 ^ 8 - 1 from rfl, hlow]
  omega

/-- A cookie of the type's range is one of the type. -/
theorem getSessionType_of_mem_range {sessionType : BitVec 8} {cookie : BitVec 16}
    (hlow : sessionType.toNat <<< 8 ≤ cookie.toNat) (hhigh : cookie.toNat < sessionType.toNat <<< 8 + 16) :
    observersCookieGetSessionType cookie = sessionType := by
  rw [Nat.shiftLeft_eq] at hlow hhigh
  apply BitVec.eq_of_toNat_eq
  rw [toNat_getSessionType]
  omega

theorem undefined_lt {sessionType : BitVec 8} (htype : sessionType ≠ unknown) :
    kObserversCookieUndefined.toNat < sessionType.toNat <<< 8 := by
  have hne : sessionType.toNat ≠ 0 := by
    intro hzero
    exact htype (BitVec.eq_of_toNat_eq hzero)
  rw [show kObserversCookieUndefined.toNat = 0 from rfl, Nat.shiftLeft_eq]
  omega

/-! ### The table of the observers -/

variable {O : Type}

/-- `observers_`, which has one observer for a cookie. -/
abbrev Table (O : Type) : Type := AList fun _ : BitVec 16 => PortStatusCallbacks O

/-- An entry of `observers_`. -/
abbrev Observer (O : Type) : Type := Sigma fun _ : BitVec 16 => PortStatusCallbacks O

/-- `session_type_` and `observers_` of a `BluetoothAudioSession`. -/
structure Session (O : Type) where
  sessionType : BitVec 8
  observers : Table O

def create (sessionType : BitVec 8) : Session O := ⟨sessionType, ∅⟩

/-- The loop of `RegisterStatusCback`. -/
def freeCookie (observers : Table O) (cookieUpperBound cookie : BitVec 16) : BitVec 16 :=
  if cookie < cookieUpperBound then
    if cookie ∈ observers then freeCookie observers cookieUpperBound (cookie + 1) else cookie
  else cookie
  termination_by cookieUpperBound.toNat - cookie.toNat
  decreasing_by bv_omega

namespace Session

def registerStatusCback (session : Session O) (callbacks : PortStatusCallbacks O) : Session O × BitVec 16 :=
  let cookieUpperBound := observersCookieGetUpperBound session.sessionType
  let cookie := freeCookie session.observers cookieUpperBound (observersCookieGetInitValue session.sessionType)
  if cookieUpperBound ≤ cookie then (session, kObserversCookieUndefined)
  else ({ session with observers := session.observers.insert cookie callbacks }, cookie)

def unregisterStatusCback (session : Session O) (cookie : BitVec 16) : Session O :=
  { session with observers := session.observers.erase cookie }

/-- The rounds of a loop over `observers_`: the map does not say in which order it is gone through. -/
def IsOrder (session : Session O) (order : List (Observer O)) : Prop :=
  order.Perm session.observers.entries

end Session

def reportSessionStatus (order : List (Observer O)) : List (Callback O) :=
  order.map fun observer => .sessionChangedCb observer.2.owner observer.1.toNat

def reportControlStatus (order : List (Observer O)) (startResp : Bool)
    (status : BluetoothAudioStatus) : List (Callback O) :=
  order.map fun observer => .controlResultCb observer.2.owner observer.1.toNat startResp status

/-- The calls that change the observers. -/
inductive ObserverCall (O : Type) where
  | registerStatusCback (callbacks : PortStatusCallbacks O)
  | unregisterStatusCback (cookie : BitVec 16)

def Session.next (session : Session O) : ObserverCall O → Session O
  | .registerStatusCback callbacks => (session.registerStatusCback callbacks).1
  | .unregisterStatusCback cookie => session.unregisterStatusCback cookie

/-- The session after some calls. -/
def after (sessionType : BitVec 8) (calls : List (ObserverCall O)) : Session O :=
  calls.foldl Session.next (create sessionType)

/-! ### What one call does -/

/-- The cookies of a session type. -/
def cookies (sessionType : BitVec 8) : Finset (BitVec 16) :=
  (Finset.range 16).image fun number => BitVec.ofNat 16 (sessionType.toNat <<< 8 + number)

theorem mem_cookies {sessionType : BitVec 8} {cookie : BitVec 16} : cookie ∈ cookies sessionType ↔
    sessionType.toNat <<< 8 ≤ cookie.toNat ∧ cookie.toNat < sessionType.toNat <<< 8 + 16 := by
  have hbyte := sessionType.isLt
  rw [cookies, Finset.mem_image, Nat.shiftLeft_eq]
  apply Iff.intro
  · intro h
    obtain ⟨number, hnumber, rfl⟩ := h
    rw [Finset.mem_range] at hnumber
    rw [BitVec.toNat_ofNat]
    omega
  · intro h
    refine ⟨cookie.toNat - sessionType.toNat * 2 ^ 8, Finset.mem_range.mpr (by omega), ?_⟩
    apply BitVec.eq_of_toNat_eq
    rw [BitVec.toNat_ofNat]
    omega

theorem card_cookies (sessionType : BitVec 8) : (cookies sessionType).card = 16 := by
  have hbyte := sessionType.isLt
  have hinj : Set.InjOn (fun number => BitVec.ofNat 16 (sessionType.toNat <<< 8 + number))
      (Finset.range 16 : Finset Nat) := by
    intro left hleft right hright heq
    have hnumbers := congrArg BitVec.toNat heq
    rw [Finset.coe_range, Set.mem_Iio] at hleft hright
    rw [BitVec.toNat_ofNat, BitVec.toNat_ofNat, Nat.shiftLeft_eq] at hnumbers
    omega
  rw [cookies, Finset.card_image_of_injOn hinj, Finset.card_range]

/-- The loop stops at the first cookie without an observer, or at the bound. -/
theorem freeCookie_spec (observers : Table O) {cookieUpperBound cookie : BitVec 16}
    (hle : cookie.toNat ≤ cookieUpperBound.toNat) :
    cookie.toNat ≤ (freeCookie observers cookieUpperBound cookie).toNat ∧
    (freeCookie observers cookieUpperBound cookie).toNat ≤ cookieUpperBound.toNat ∧
    (freeCookie observers cookieUpperBound cookie ∈ observers →
      freeCookie observers cookieUpperBound cookie = cookieUpperBound) ∧
    ∀ taken : BitVec 16, cookie.toNat ≤ taken.toNat →
      taken.toNat < (freeCookie observers cookieUpperBound cookie).toNat → taken ∈ observers := by
  fun_induction freeCookie observers cookieUpperBound cookie with
  | case1 cookie hlt hmem ih =>
      have hsucc : (cookie + 1).toNat = cookie.toNat + 1 := by bv_omega
      obtain ⟨hlow, hhigh, hfree, htaken⟩ := ih (by bv_omega)
      refine ⟨by omega, hhigh, hfree, ?_⟩
      intro taken hfrom hto
      by_cases heq : taken = cookie
      · rw [heq]
        exact hmem
      · exact htaken taken (by bv_omega) hto
  | case2 cookie hlt hmem =>
      exact ⟨le_rfl, hle, fun h => absurd h hmem, fun taken hfrom hto => by omega⟩
  | case3 cookie hge =>
      exact ⟨le_rfl, hle, fun _ => by bv_omega, fun taken hfrom hto => by omega⟩

theorem freeCookie_not_mem {observers : Table O} {cookieUpperBound cookie : BitVec 16}
    (hle : cookie.toNat ≤ cookieUpperBound.toNat)
    (hroom : ¬ cookieUpperBound ≤ freeCookie observers cookieUpperBound cookie) :
    freeCookie observers cookieUpperBound cookie ∉ observers := by
  intro hmem
  rw [(freeCookie_spec observers hle).2.2.1 hmem] at hroom
  exact hroom (BitVec.le_refl _)

namespace Session

/-- A registration is refused when every cookie of the type has an observer, and else adds the observer under one
that has none. -/
theorem registerStatusCback_cases (session : Session O) (callbacks : PortStatusCallbacks O) :
    (session.registerStatusCback callbacks = (session, kObserversCookieUndefined) ∧
      ∀ cookie ∈ cookies session.sessionType, cookie ∈ session.observers) ∨
    ∃ cookie ∈ cookies session.sessionType, cookie ∉ session.observers ∧
      session.registerStatusCback callbacks =
        ({ session with observers := session.observers.insert cookie callbacks }, cookie) := by
  have hinit := toNat_initValue session.sessionType
  have hupper := toNat_upperBound session.sessionType
  have hle : (observersCookieGetInitValue session.sessionType).toNat ≤
      (observersCookieGetUpperBound session.sessionType).toNat := by omega
  obtain ⟨hlow, hhigh, -, htaken⟩ := freeCookie_spec session.observers hle
  rw [registerStatusCback]
  split_ifs with hfull
  · refine Or.inl ⟨rfl, ?_⟩
    intro cookie hcookie
    rw [mem_cookies] at hcookie
    rw [BitVec.le_def] at hfull
    exact htaken cookie (by omega) (by omega)
  · have hfresh := freeCookie_not_mem hle hfull
    rw [BitVec.le_def] at hfull
    exact Or.inr ⟨_, mem_cookies.mpr ⟨by omega, by omega⟩, hfresh, rfl⟩

/-- Every observer has a cookie of the session's type. -/
def OfType (session : Session O) : Prop := ∀ cookie ∈ session.observers, cookie ∈ cookies session.sessionType

theorem sessionType_next (session : Session O) (call : ObserverCall O) :
    (session.next call).sessionType = session.sessionType := by
  cases call with
  | registerStatusCback callbacks =>
      rw [next]
      obtain ⟨heq, -⟩ | ⟨cookie, -, -, heq⟩ := session.registerStatusCback_cases callbacks
      · rw [heq]
      · rw [heq]
  | unregisterStatusCback cookie => rfl

theorem OfType.next {session : Session O} (htype : session.OfType) (call : ObserverCall O) :
    (session.next call).OfType := by
  cases call with
  | registerStatusCback callbacks =>
      rw [Session.next]
      obtain ⟨heq, -⟩ | ⟨cookie, hcookie, -, heq⟩ := session.registerStatusCback_cases callbacks
      · rw [heq]
        exact htype
      · rw [heq]
        intro other hother
        obtain heq | hold := (AList.mem_insert _).mp hother
        · rw [heq]
          exact hcookie
        · exact htype other hold
  | unregisterStatusCback cookie =>
      intro other hother
      exact htype other (AList.mem_erase.mp hother).2

theorem OfType.full_iff {session : Session O} (htype : session.OfType) :
    (∀ cookie ∈ cookies session.sessionType, cookie ∈ session.observers) ↔
      session.observers.entries.length = 16 := by
  rw [Tables.covers_iff_length htype, card_cookies]

/-- What a registration of the callbacks does: it is refused exactly at sixteen observers, which stay, and else
adds the observer under a cookie of the session's type that no observer has. -/
def RegistersFresh (session : Session O) (callbacks : PortStatusCallbacks O) : Prop :=
  let registered := session.registerStatusCback callbacks
  (registered.2 = kObserversCookieUndefined ↔ session.observers.entries.length = 16) ∧
  (registered.2 = kObserversCookieUndefined → registered.1 = session) ∧
  (registered.2 ≠ kObserversCookieUndefined →
    registered.2 ∉ session.observers ∧
    session.sessionType.toNat <<< 8 ≤ registered.2.toNat ∧
    registered.2.toNat < session.sessionType.toNat <<< 8 + 16 ∧
    observersCookieGetSessionType registered.2 = session.sessionType ∧
    ∀ cookie, registered.1.observers.lookup cookie =
      if cookie = registered.2 then some callbacks else session.observers.lookup cookie)

/-- Unregistering removes no observer but the cookie's. -/
def RemovesOnly (session : Session O) (cookie : BitVec 16) : Prop :=
  ∀ other, (session.unregisterStatusCback cookie).observers.lookup other =
    if other = cookie then none else session.observers.lookup other

/-- The callbacks are one for every observer, with the observer's cookie. -/
def CallsOnce (session : Session O) (callback : PortStatusCallbacks O → BitVec 16 → Callback O)
    (invoked : List (Callback O)) : Prop :=
  invoked.length = session.observers.entries.length ∧
  ∀ cookie : BitVec 16, invoked.filter (fun invocation => invocation.cookie = cookie.toNat) =
    (session.observers.lookup cookie).toList.map fun callbacks => callback callbacks cookie

theorem OfType.registersFresh {session : Session O} (htype : session.OfType) (hknown : session.sessionType ≠ unknown)
    (callbacks : PortStatusCallbacks O) : session.RegistersFresh callbacks := by
  have hundefined := undefined_lt hknown
  rw [RegistersFresh]
  obtain ⟨heq, hall⟩ | ⟨cookie, hcookie, hfree, heq⟩ := session.registerStatusCback_cases callbacks
  · rw [heq]
    exact ⟨iff_of_true rfl (htype.full_iff.mp hall), fun _ => rfl, fun h => absurd rfl h⟩
  · obtain ⟨hlow, hhigh⟩ := mem_cookies.mp hcookie
    have hne : cookie ≠ kObserversCookieUndefined := by
      intro h
      rw [h] at hlow
      omega
    have hroom : ¬ session.observers.entries.length = 16 := fun hfull =>
      hfree (htype.full_iff.mpr hfull cookie hcookie)
    rw [heq]
    refine ⟨iff_of_false hne hroom, fun h => absurd h hne, fun _ => ?_⟩
    refine ⟨hfree, hlow, hhigh, getSessionType_of_mem_range hlow hhigh, ?_⟩
    intro other
    split_ifs with hother
    · rw [hother]
      exact AList.lookup_insert _
    · exact AList.lookup_insert_ne hother

theorem removesOnly (session : Session O) (cookie : BitVec 16) : session.RemovesOnly cookie := by
  intro other
  rw [unregisterStatusCback]
  split_ifs with hother
  · rw [hother]
    exact AList.lookup_erase cookie session.observers
  · exact AList.lookup_erase_ne hother

/-- A loop over the observers that invokes a callback of each with its cookie. -/
theorem IsOrder.callsOnce {session : Session O} {order : List (Observer O)} (horder : session.IsOrder order)
    {callback : PortStatusCallbacks O → BitVec 16 → Callback O}
    (hcallback : ∀ callbacks cookie, (callback callbacks cookie).cookie = cookie.toNat) :
    session.CallsOnce callback (order.map fun observer => callback observer.2 observer.1) := by
  refine ⟨by rw [List.length_map, horder.length_eq], ?_⟩
  intro cookie
  have hsame : ((fun invocation : Callback O => decide (invocation.cookie = cookie.toNat)) ∘
      fun observer : Observer O => callback observer.2 observer.1) = fun observer => decide (observer.1 = cookie) := by
    funext observer
    rw [Function.comp_apply, hcallback, decide_eq_decide]
    exact BitVec.toNat_inj
  rw [List.filter_map, hsame, Tables.filter_key_of_perm horder, List.map_map]
  rfl

end Session

/-! ### Whatever was called before -/

theorem ofType_after (sessionType : BitVec 8) (calls : List (ObserverCall O)) :
    (after sessionType calls).sessionType = sessionType ∧ (after sessionType calls).OfType := by
  induction calls using List.reverseRecOn with
  | nil => exact ⟨rfl, fun cookie hcookie => absurd hcookie (AList.notMem_empty cookie)⟩
  | append_singleton calls call ih =>
      rw [after, List.foldl_append]
      obtain ⟨htype, hof⟩ := ih
      exact ⟨(Session.sessionType_next _ call).trans htype, hof.next call⟩

/-- After any calls on a session whose type is known, a registration is refused exactly at sixteen observers and
else answers with a cookie of the session that no observer has; unregistering removes that observer alone; and
each report, in whichever order the map is gone through, calls every observer once, with its own cookie. -/
theorem observers_served (sessionType : BitVec 8) (hknown : sessionType ≠ unknown) (calls : List (ObserverCall O)) :
    (after sessionType calls).sessionType = sessionType ∧
    (∀ callbacks, (after sessionType calls).RegistersFresh callbacks) ∧
    (∀ cookie, (after sessionType calls).RemovesOnly cookie) ∧
    ∀ order, (after sessionType calls).IsOrder order →
      (after sessionType calls).CallsOnce
        (fun callbacks cookie => .sessionChangedCb callbacks.owner cookie.toNat) (reportSessionStatus order) ∧
      ∀ startResp status, (after sessionType calls).CallsOnce
        (fun callbacks cookie => .controlResultCb callbacks.owner cookie.toNat startResp status)
        (reportControlStatus order startResp status) := by
  obtain ⟨htype, hof⟩ := ofType_after sessionType calls
  refine ⟨htype, ?_, (after sessionType calls).removesOnly, ?_⟩
  · rw [← htype] at hknown
    exact hof.registersFresh hknown
  · intro order horder
    exact ⟨horder.callsOnce fun _ _ => rfl, fun _ _ => horder.callsOnce fun _ _ => rfl⟩

theorem observers_served_sample :
    (after 1 [.registerStatusCback ⟨7, true⟩]).RegistersFresh (⟨8, false⟩ : PortStatusCallbacks Nat) ∧
    (after 1 [.registerStatusCback ⟨7, true⟩]).CallsOnce
      (fun callbacks cookie => .sessionChangedCb callbacks.owner cookie.toNat)
      ([.sessionChangedCb 7 0x0100] : List (Callback Nat)) := by
  obtain ⟨-, hregisters, -, hreports⟩ := observers_served 1 (by decide)
    [.registerStatusCback (⟨7, true⟩ : PortStatusCallbacks Nat)]
  refine ⟨hregisters ⟨8, false⟩, (hreports [⟨0x0100, ⟨7, true⟩⟩] ?_).1⟩
  rw [Session.IsOrder]
  simp [after, create, Session.next, Session.registerStatusCback, freeCookie, observersCookieGetInitValue,
    observersCookieGetUpperBound, kObserversCookieSize]

/-! ### The observers of a session -/

variable {P : Type}

/-- The table has the observers of the session, in whichever order. -/
def Represents (session : BluetoothAudioSession P O) (table : Session O) : Prop :=
  table.sessionType.toNat = session.sessionType.value ∧
    session.observers.Perm (table.observers.entries.map fun observer => (observer.1.toNat, observer.2))

theorem initValue_eq (sessionType : SessionType) :
    Bluetooth.observersCookieGetInitValue sessionType = sessionType.value <<< 8 := by
  cases sessionType <;> rfl

theorem upperBound_eq (sessionType : SessionType) :
    Bluetooth.observersCookieGetUpperBound sessionType = sessionType.value <<< 8 + 16 := by
  cases sessionType <;> rfl

namespace Represents

variable {session : BluetoothAudioSession P O} {table : Session O}

theorem mem_iff (h : Represents session table) (cookie : BitVec 16) :
    cookie.toNat ∈ session.observers.map Prod.fst ↔ cookie ∈ table.observers := by
  have hkeys : (session.observers.map Prod.fst).Perm (table.observers.keys.map BitVec.toNat) := by
    have hmap := h.2.map Prod.fst
    rw [List.map_map] at hmap
    rw [AList.keys, List.keys, List.map_map]
    exact hmap
  rw [hkeys.mem_iff, AList.mem_keys, List.mem_map_of_injective fun left right => BitVec.eq_of_toNat_eq]

theorem freeCookie_eq (h : Represents session table) (cookieUpperBound cookie : BitVec 16) :
    BluetoothAudioSession.freeCookie session.observers (cookieUpperBound.toNat - cookie.toNat) cookie.toNat =
      (freeCookie table.observers cookieUpperBound cookie).toNat := by
  fun_induction freeCookie table.observers cookieUpperBound cookie with
  | case1 cookie hlt hmem ih =>
      obtain ⟨count, hcount⟩ : ∃ count, cookieUpperBound.toNat - cookie.toNat = count + 1 :=
        ⟨cookieUpperBound.toNat - cookie.toNat - 1, by bv_omega⟩
      have hsucc : (cookie + 1).toNat = cookie.toNat + 1 := by bv_omega
      rw [hsucc, show cookieUpperBound.toNat - (cookie.toNat + 1) = count by omega] at ih
      rw [hcount, BluetoothAudioSession.freeCookie, if_pos ((h.mem_iff cookie).mpr hmem), ih]
  | case2 cookie hlt hmem =>
      obtain ⟨count, hcount⟩ : ∃ count, cookieUpperBound.toNat - cookie.toNat = count + 1 :=
        ⟨cookieUpperBound.toNat - cookie.toNat - 1, by bv_omega⟩
      rw [hcount, BluetoothAudioSession.freeCookie, if_neg fun hold => hmem ((h.mem_iff cookie).mp hold)]
  | case3 cookie hge =>
      rw [show cookieUpperBound.toNat - cookie.toNat = 0 by bv_omega, BluetoothAudioSession.freeCookie]

/-- Both find the same cookie. -/
theorem registerStatusCback (h : Represents session table) (callbacks : PortStatusCallbacks O) :
    Represents (session.registerStatusCback callbacks).1 (table.registerStatusCback callbacks).1 ∧
      (session.registerStatusCback callbacks).2 = (table.registerStatusCback callbacks).2.toNat := by
  have hinit := toNat_initValue table.sessionType
  have hupper := toNat_upperBound table.sessionType
  have hfree := h.freeCookie_eq (observersCookieGetUpperBound table.sessionType)
    (observersCookieGetInitValue table.sessionType)
  rw [hinit, hupper, h.1, show session.sessionType.value <<< 8 + 16 - session.sessionType.value <<< 8 =
    Bluetooth.kObserversCookieSize by rw [Bluetooth.kObserversCookieSize]; omega] at hfree
  rw [BluetoothAudioSession.registerStatusCback, Session.registerStatusCback, initValue_eq, upperBound_eq, hfree]
  have hiff : session.sessionType.value <<< 8 + 16 ≤ (freeCookie table.observers
      (observersCookieGetUpperBound table.sessionType) (observersCookieGetInitValue table.sessionType)).toNat ↔
      observersCookieGetUpperBound table.sessionType ≤ freeCookie table.observers
        (observersCookieGetUpperBound table.sessionType) (observersCookieGetInitValue table.sessionType) := by
    rw [BitVec.le_def, hupper, h.1]
  by_cases hfull : observersCookieGetUpperBound table.sessionType ≤ freeCookie table.observers
      (observersCookieGetUpperBound table.sessionType) (observersCookieGetInitValue table.sessionType)
  · rw [if_pos hfull, if_pos (hiff.mpr hfull)]
    exact ⟨h, rfl⟩
  · rw [if_neg hfull, if_neg (hiff.not.mpr hfull)]
    refine ⟨⟨h.1, ?_⟩, rfl⟩
    rw [AList.entries_insert_of_notMem (freeCookie_not_mem (by omega) hfull), List.map_cons]
    exact (List.perm_append_singleton _ _).trans (h.2.cons _)

theorem unregisterStatusCback (h : Represents session table) (cookie : BitVec 16) :
    Represents (session.unregisterStatusCback cookie.toNat) (table.unregisterStatusCback cookie) := by
  have hsame : ((fun observer : Nat × PortStatusCallbacks O => decide (observer.1 ≠ cookie.toNat)) ∘
      fun observer : Observer O => (observer.1.toNat, observer.2)) =
        fun observer => decide (observer.1 ≠ cookie) := by
    funext observer
    rw [Function.comp_apply, decide_eq_decide]
    exact BitVec.toNat_inj.not
  refine ⟨h.1, ?_⟩
  rw [BluetoothAudioSession.unregisterStatusCback, Session.unregisterStatusCback, Tables.entries_erase, ← hsame,
    ← List.filter_map]
  exact h.2.filter _

theorem of_unchanged (h : Represents session table) {later : BluetoothAudioSession P O}
    (htype : later.sessionType = session.sessionType) (hobservers : later.observers = session.observers) :
    Represents later table := by
  rw [Represents, htype, hobservers]
  exact h

end Represents

/-- What a call on a session is for its observers. -/
def observerCall : SessionCall P O → Option (ObserverCall O)
  | .registerStatusCback callbacks => some (.registerStatusCback callbacks)
  | .unregisterStatusCback cookie => some (.unregisterStatusCback (BitVec.ofNat 16 cookie))
  | _ => none

/-- A cookie that is unregistered fits its word. -/
def CookieFits : SessionCall P O → Prop
  | .unregisterStatusCback cookie => cookie < 2 ^ 16
  | _ => True

theorem Represents.next {session : BluetoothAudioSession P O} {table : Session O} (h : Represents session table)
    {call : SessionCall P O} (hfits : CookieFits call) :
    Represents (session.next call) ((observerCall call).toList.foldl Session.next table) := by
  have htype := session.sessionType_next call
  cases call with
  | onSessionStarted stackIface mqDesc audioConfig latencyModes =>
      exact h.of_unchanged htype
        (session.facts_onSessionStarted stackIface mqDesc audioConfig latencyModes).2
  | onSessionEnded => exact h.of_unchanged htype rfl
  | reportAudioConfigChanged audioConfig =>
      apply h.of_unchanged htype
      rw [BluetoothAudioSession.next, SessionCall.apply, BluetoothAudioSession.reportAudioConfigChanged]
      split_ifs <;> rfl
  | registerStatusCback callbacks => exact (h.registerStatusCback callbacks).1
  | unregisterStatusCback cookie =>
      have hword : (BitVec.ofNat 16 cookie).toNat = cookie := by
        rw [BitVec.toNat_ofNat]
        exact Nat.mod_eq_of_lt hfits
      have hlater := h.unregisterStatusCback (BitVec.ofNat 16 cookie)
      rw [hword] at hlater
      exact hlater

/-- Through any run of a session the table of the same registrations has its observers. -/
theorem represents_after (sessionType : SessionType) (calls : List (SessionCall P O))
    (hfits : ∀ call ∈ calls, CookieFits call) :
    Represents (calls.foldl BluetoothAudioSession.next (BluetoothAudioSession.create sessionType))
      (after (BitVec.ofNat 8 sessionType.value) (calls.filterMap observerCall)) := by
  induction calls using List.reverseRecOn with
  | nil =>
      refine ⟨?_, List.Perm.refl []⟩
      cases sessionType <;> rfl
  | append_singleton calls call ih =>
      have hcall := hfits call (List.mem_append_right calls (List.mem_singleton_self call))
      have hcalls := ih fun earlier hearlier => hfits earlier (List.mem_append_left [call] hearlier)
      have hone : [call].filterMap observerCall = (observerCall call).toList := by
        cases hobserver : observerCall call <;> simp [hobserver]
      rw [List.foldl_append, List.filterMap_append, after, List.foldl_append, hone]
      exact hcalls.next hcall

end Observers

end Penrose.Bluetooth

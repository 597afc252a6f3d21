import Mathlib.Data.Set.Insert
import Mathlib.Logic.Relation

/-! Programs as trees of calls to an environment, and what is known about the states they pass
through. A world answers each call with a reply and a new state, possibly in several ways, and says
which states the environment can be left in when it loses power during the call. The weakest
precondition carries two conditions: one on what the program returns and one on every state in which
the environment can be found if it stops there. A machine is a world that answers in one way. -/

namespace CallTree

/-- The calls a program may make and the type of reply each one gets. -/
structure Signature where
  Call : Type
  Reply : Call → Type

/-- `fault` is a program whose next step is not described, such as an access outside a buffer: anything may follow. -/
inductive Program (S : Signature) (α : Type) where
  | done (value : α)
  | fault
  | call (c : S.Call) (next : S.Reply c → Program S α)

variable {S : Signature} {σ α β γ : Type}

namespace Program

def bind (p : Program S α) (f : α → Program S β) : Program S β :=
  match p with
  | .done value => f value
  | .fault => .fault
  | .call c next => .call c fun r => (next r).bind f

instance : Monad (Program S) where
  pure := .done
  bind := bind

/-- One call that returns its reply. -/
def request (c : S.Call) : Program S (S.Reply c) := .call c .done

/-- A value that may be missing; its absence is a fault. -/
def ofOption : Option α → Program S α
  | some value => .done value
  | none => .fault

@[simp] theorem done_bind (value : α) (f : α → Program S β) :
    (Program.done value >>= f) = f value := rfl

@[simp] theorem pure_eq_done (value : α) : (pure value : Program S α) = .done value := rfl

@[simp] theorem fault_bind (f : α → Program S β) : (Program.fault >>= f) = .fault := rfl

@[simp] theorem call_bind (c : S.Call) (next : S.Reply c → Program S α) (f : α → Program S β) :
    (Program.call c next >>= f) = .call c fun r => next r >>= f := rfl

@[simp] theorem request_bind (c : S.Call) (f : S.Reply c → Program S β) :
    (request c >>= f) = .call c f := rfl

@[simp] theorem ofOption_some (value : α) : (ofOption (some value) : Program S α) = .done value := rfl

@[simp] theorem ofOption_none : (ofOption none : Program S α) = .fault := rfl

theorem bind_assoc (p : Program S α) (f : α → Program S β) (g : β → Program S γ) :
    (p >>= f) >>= g = p >>= fun a => f a >>= g := by
  induction p with
  | done value => rfl
  | fault => rfl
  | call c next ih =>
      simp only [call_bind]
      congr 1
      funext r
      exact ih r

theorem bind_done (p : Program S α) : (p >>= fun a => Program.done a) = p := by
  induction p with
  | done value => rfl
  | fault => rfl
  | call c next ih =>
      simp only [call_bind]
      congr 1
      funext r
      exact ih r

instance : LawfulMonad (Program S) :=
  LawfulMonad.mk' _ bind_done (fun _ _ => rfl) bind_assoc

end Program

/-- How an environment with states `σ` treats the calls of a program. -/
structure World (S : Signature) (σ : Type) where
  /-- The call is answered and leaves the environment in the last state. -/
  answer : (c : S.Call) → σ → S.Reply c → σ → Prop
  /-- Power is lost during the call and leaves the environment in the last state. -/
  interrupt : S.Call → σ → σ → Prop

/-- A run of the program from the first state ends with the value in the last state. -/
inductive Returns (W : World S σ) : Program S α → σ → α → σ → Prop where
  | done (value : α) (s : σ) : Returns W (.done value) s value s
  | call {c : S.Call} {next : S.Reply c → Program S α} {r : S.Reply c} {s t u : σ} {value : α} :
      W.answer c s r t → Returns W (next r) t value u → Returns W (.call c next) s value u

/-- A run of the program from the first state passes through the last one, or power is lost and
leaves the environment in it. -/
inductive Visits (W : World S σ) : Program S α → σ → σ → Prop where
  | here (p : Program S α) (s : σ) : Visits W p s s
  | call {c : S.Call} {next : S.Reply c → Program S α} {r : S.Reply c} {s t u : σ} :
      W.answer c s r t → Visits W (next r) t u → Visits W (.call c next) s u
  | interrupt {c : S.Call} {next : S.Reply c → Program S α} {s t : σ} :
      W.interrupt c s t → Visits W (.call c next) s t

theorem Visits.bind {W : World S σ} {p : Program S α} {f : α → Program S β} {s t : σ} (h : Visits W p s t) :
    Visits W (p >>= f) s t := by
  induction h with
  | here p s => exact .here _ s
  | call hanswer _ ih => exact .call hanswer ih
  | interrupt hcut => exact .interrupt hcut

theorem Returns.bind_visits {W : World S σ} {p : Program S α} {f : α → Program S β} {s t u : σ} {a : α}
    (h : Returns W p s a t) (hrest : Visits W (f a) t u) : Visits W (p >>= f) s u := by
  induction h with
  | done value s => exact hrest
  | call hanswer _ ih => exact .call hanswer (ih hrest)

theorem Returns.visits {W : World S σ} {p : Program S α} {s t : σ} {value : α}
    (h : Returns W p s value t) : Visits W p s t := by
  induction h with
  | done value s => exact .here _ s
  | call hanswer _ ih => exact .call hanswer ih

/-- Every run from the state returns according to `Q`, and every state it visits satisfies `C`. Of what follows a fault
nothing is said: that there is none is a statement of its own. -/
def wp (W : World S σ) (Q : α → σ → Prop) (C : σ → Prop) : Program S α → σ → Prop
  | .done value, s => C s ∧ Q value s
  | .fault, s => C s
  | .call c next, s =>
      C s ∧ (∀ t, W.interrupt c s t → C t) ∧ ∀ r t, W.answer c s r t → wp W Q C (next r) t

section Rules

variable {W : World S σ} {Q Q' : α → σ → Prop} {C C' : σ → Prop}

@[simp] theorem wp_done (value : α) (s : σ) : wp W Q C (.done value) s ↔ C s ∧ Q value s := Iff.rfl

@[simp] theorem wp_fault (s : σ) : wp W Q C .fault s ↔ C s := Iff.rfl

theorem wp_call (c : S.Call) (next : S.Reply c → Program S α) (s : σ) :
    wp W Q C (.call c next) s ↔
      C s ∧ (∀ t, W.interrupt c s t → C t) ∧ ∀ r t, W.answer c s r t → wp W Q C (next r) t := Iff.rfl

theorem wp_here {p : Program S α} {s : σ} (h : wp W Q C p s) : C s := by
  cases p with
  | done value => exact h.1
  | fault => exact h
  | call c next => exact h.1

theorem wp_bind (p : Program S α) (f : α → Program S β) (Q : β → σ → Prop) (s : σ) :
    wp W Q C (p >>= f) s ↔ wp W (fun a => wp W Q C (f a)) C p s := by
  induction p generalizing s with
  | done value =>
      rw [Program.done_bind, wp_done]
      exact ⟨fun h => ⟨wp_here h, h⟩, fun h => h.2⟩
  | fault => rfl
  | call c next ih => simp only [Program.call_bind, wp_call, ih]

theorem wp_mono {p : Program S α} {s : σ} (hQ : ∀ a t, Q a t → Q' a t) (hC : ∀ t, C t → C' t)
    (h : wp W Q C p s) : wp W Q' C' p s := by
  induction p generalizing s with
  | done value => exact ⟨hC s h.1, hQ value s h.2⟩
  | fault => exact hC s h
  | call c next ih =>
      obtain ⟨hs, hcut, hnext⟩ := h
      exact ⟨hC s hs, fun t ht => hC t (hcut t ht), fun r t hr => ih r (hnext r t hr)⟩

/-- A program is proved by proving the rest of it after each way its first part can return. -/
theorem wp_seq {p : Program S α} {f : α → Program S β} {R : β → σ → Prop} {s : σ}
    (hp : wp W Q C p s) (hf : ∀ a t, Q a t → wp W R C (f a) t) : wp W R C (p >>= f) s :=
  (wp_bind p f R s).mpr (wp_mono hf (fun _ h => h) hp)

/-- The state in which a program returns is one of those it visits. -/
theorem wp_returned {p : Program S α} {s : σ} (h : wp W Q C p s) :
    wp W (fun a t => C t ∧ Q a t) C p s := by
  induction p generalizing s with
  | done value => exact ⟨h.1, h⟩
  | fault => exact h
  | call c next ih => exact ⟨h.1, h.2.1, fun r t hr => ih r (h.2.2 r t hr)⟩

theorem wp_returns {p : Program S α} {s t : σ} {a : α} (h : wp W Q C p s)
    (hrun : Returns W p s a t) : Q a t := by
  induction hrun with
  | done value s => exact h.2
  | call hanswer _ ih => exact ih (h.2.2 _ _ hanswer)

theorem wp_visits {p : Program S α} {s t : σ} (h : wp W Q C p s) (hvisit : Visits W p s t) : C t := by
  induction hvisit with
  | here p s => exact wp_here h
  | call hanswer _ ih => exact ih (h.2.2 _ _ hanswer)
  | interrupt hcut => exact h.2.1 _ hcut

end Rules

theorem Returns.mono {V W : World S σ} {p : Program S α} {s t : σ} {a : α}
    (hanswer : ∀ c s r t, V.answer c s r t → W.answer c s r t) (h : Returns V p s a t) : Returns W p s a t := by
  induction h with
  | done value s => exact .done value s
  | call hcall _ ih => exact .call (hanswer _ _ _ _ hcall) ih

/-- What a run passes through in one world it passes through in another that allows as much. -/
theorem Visits.mono {V W : World S σ} {p : Program S α} {s t : σ}
    (hanswer : ∀ c s r t, V.answer c s r t → W.answer c s r t) (hcut : ∀ c s t, V.interrupt c s t → W.interrupt c s t)
    (h : Visits V p s t) : Visits W p s t := by
  induction h with
  | here p s => exact .here p s
  | call hcall _ ih => exact .call (hanswer _ _ _ _ hcall) ih
  | interrupt hlost => exact .interrupt (hcut _ _ _ hlost)

/-! ### The calls of a program -/

/-- Whatever its calls reply, the program makes only such calls, and every step of it is described. -/
def Only (P : S.Call → Prop) : Program S α → Prop
  | .done _ => True
  | .fault => False
  | .call c next => P c ∧ ∀ r, Only P (next r)

section Only

variable {P P' : S.Call → Prop}

theorem Only.mono {p : Program S α} (hP : ∀ c, P c → P' c) (h : Only P p) : Only P' p := by
  induction p with
  | done value => trivial
  | fault => exact h
  | call c next ih => exact ⟨hP c h.1, fun r => ih r (h.2 r)⟩

theorem Only.bind {p : Program S α} {f : α → Program S β} (hp : Only P p) (hf : ∀ a, Only P (f a)) :
    Only P (p >>= f) := by
  induction p with
  | done value => exact hf value
  | fault => exact hp.elim
  | call c next ih => exact ⟨hp.1, fun r => ih r (hp.2 r)⟩

/-- What none of the calls changes holds in every state the program visits. -/
theorem Only.wp {W : World S σ} {I : σ → Prop} {p : Program S α} {s : σ} (h : Only P p) (hs : I s)
    (hcut : ∀ c s t, P c → I s → W.interrupt c s t → I t)
    (hanswer : ∀ c s r t, P c → I s → W.answer c s r t → I t) : CallTree.wp W (fun _ => I) I p s := by
  induction p generalizing s with
  | done value => exact ⟨hs, hs⟩
  | fault => exact h.elim
  | call c next ih =>
      refine ⟨hs, fun t ht => hcut c s t h.1 hs ht, fun r t hr => ?_⟩
      exact ih r (h.2 r) (hanswer c s r t h.1 hs hr)

end Only

/-! ### Runs taken apart -/

section Inversion

variable {W : World S σ} {s u : σ} {a : α} {b : β}

theorem returns_done_iff {value : α} : Returns W (.done value) s a u ↔ a = value ∧ u = s := by
  refine ⟨?_, ?_⟩
  · rintro ⟨⟩
    exact ⟨rfl, rfl⟩
  · rintro ⟨rfl, rfl⟩
    exact .done _ _

theorem returns_call_iff {c : S.Call} {next : S.Reply c → Program S α} :
    Returns W (.call c next) s a u ↔ ∃ r t, W.answer c s r t ∧ Returns W (next r) t a u := by
  refine ⟨?_, ?_⟩
  · rintro (_ | ⟨hanswer, hnext⟩)
    exact ⟨_, _, hanswer, hnext⟩
  · rintro ⟨r, t, hanswer, hnext⟩
    exact .call hanswer hnext

theorem returns_bind_iff {p : Program S α} {f : α → Program S β} :
    Returns W (p >>= f) s b u ↔ ∃ a t, Returns W p s a t ∧ Returns W (f a) t b u := by
  induction p generalizing s with
  | done value =>
      simp only [Program.done_bind, returns_done_iff, and_assoc, exists_and_left, exists_eq_left]
  | fault =>
      refine ⟨?_, ?_⟩
      · rintro ⟨⟩
      · rintro ⟨a, t, ⟨⟩, -⟩
  | call c next ih =>
      simp only [Program.call_bind, returns_call_iff, ih]
      refine ⟨?_, ?_⟩
      · rintro ⟨r, t, hanswer, a, v, hnext, hf⟩
        exact ⟨a, v, ⟨r, t, hanswer, hnext⟩, hf⟩
      · rintro ⟨a, v, ⟨r, t, hanswer, hnext⟩, hf⟩
        exact ⟨r, t, hanswer, a, v, hnext, hf⟩

theorem returns_ofOption_bind_iff {x : Option α} {f : α → Program S β} :
    Returns W (Program.ofOption x >>= f) s b u ↔ ∃ a, x = some a ∧ Returns W (f a) s b u := by
  cases x with
  | none => exact iff_of_false nofun nofun
  | some value => simp only [Program.ofOption_some, Program.done_bind, Option.some.injEq, exists_eq_left']

end Inversion

/-! ### Faults -/

/-- A run of the program from the state comes to a fault. -/
inductive Faults (W : World S σ) : Program S α → σ → Prop where
  | fault (s : σ) : Faults W .fault s
  | call {c : S.Call} {next : S.Reply c → Program S α} {r : S.Reply c} {s t : σ} :
      W.answer c s r t → Faults W (next r) t → Faults W (.call c next) s

section Faults

variable {W : World S σ} {s : σ}

@[simp] theorem not_faults_done (value : α) : ¬ Faults W (.done value) s := nofun

theorem not_faults_request (c : S.Call) : ¬ Faults W (Program.request c) s := by
  rintro (_ | ⟨-, hnext⟩)
  exact not_faults_done _ hnext

theorem faults_call_iff {c : S.Call} {next : S.Reply c → Program S α} :
    Faults W (.call c next) s ↔ ∃ r t, W.answer c s r t ∧ Faults W (next r) t := by
  refine ⟨?_, ?_⟩
  · rintro (_ | ⟨hanswer, hnext⟩)
    exact ⟨_, _, hanswer, hnext⟩
  · rintro ⟨r, t, hanswer, hnext⟩
    exact .call hanswer hnext

/-- A sequence faults in its first part or in the rest, run with what the first part returns. -/
theorem faults_bind_iff {p : Program S α} {f : α → Program S β} :
    Faults W (p >>= f) s ↔ Faults W p s ∨ ∃ a t, Returns W p s a t ∧ Faults W (f a) t := by
  induction p generalizing s with
  | done value =>
      refine ⟨?_, ?_⟩
      · exact fun h => Or.inr ⟨value, s, .done value s, h⟩
      · rintro (h | ⟨_, _, hreturns, h⟩)
        · cases h
        · cases hreturns
          exact h
  | fault => exact iff_of_true (.fault s) (Or.inl (.fault s))
  | call c next ih =>
      rw [Program.call_bind, faults_call_iff]
      refine ⟨?_, ?_⟩
      · rintro ⟨r, t, hanswer, h⟩
        rcases ih r |>.mp h with h | ⟨a, u, hreturns, h⟩
        · exact Or.inl (.call hanswer h)
        · exact Or.inr ⟨a, u, .call hanswer hreturns, h⟩
      · rintro (h | ⟨a, u, hreturns, h⟩)
        · obtain ⟨r, t, hanswer, hnext⟩ := faults_call_iff.mp h
          exact ⟨r, t, hanswer, (ih r).mpr (Or.inl hnext)⟩
        · cases hreturns with
          | call hanswer hreturns => exact ⟨_, _, hanswer, (ih _).mpr (Or.inr ⟨a, u, hreturns, h⟩)⟩

theorem Only.not_faults {P : S.Call → Prop} {p : Program S α} (h : Only P p) (s : σ) : ¬ Faults W p s := by
  induction p generalizing s with
  | done value => exact not_faults_done value
  | fault => exact h.elim
  | call c next ih =>
      rw [faults_call_iff]
      rintro ⟨r, t, -, hnext⟩
      exact ih r (h.2 r) t hnext

/-- What follows a program without faults decides whether the two fault. -/
theorem Only.faults_bind_iff {P : S.Call → Prop} {p : Program S α} {f : α → Program S β} (hp : Only P p) :
    Faults W (p >>= f) s ↔ ∃ a t, Returns W p s a t ∧ Faults W (f a) t := by
  rw [CallTree.faults_bind_iff, or_iff_right (hp.not_faults s)]

theorem faults_ofOption_bind_iff {x : Option α} {f : α → Program S β} :
    Faults W (Program.ofOption x >>= f) s ↔ x = none ∨ ∃ a, x = some a ∧ Faults W (f a) s := by
  cases x with
  | none => exact iff_of_true (.fault s) (Or.inl rfl)
  | some value => simp

/-- No run of the program from the state comes to a fault, and each returns according to `Q`. -/
def Faultless (W : World S σ) (Q : α → σ → Prop) (p : Program S α) (s : σ) : Prop :=
  ¬ Faults W p s ∧ ∀ a t, Returns W p s a t → Q a t

section Faultless

variable {Q : α → σ → Prop}

theorem faultless_done {value : α} (h : Q value s) : Faultless W Q (.done value) s := by
  refine ⟨not_faults_done value, fun a t hreturns => ?_⟩
  obtain ⟨rfl, rfl⟩ := returns_done_iff.mp hreturns
  exact h

theorem faultless_call {c : S.Call} {next : S.Reply c → Program S α}
    (h : ∀ r t, W.answer c s r t → Faultless W Q (next r) t) : Faultless W Q (.call c next) s := by
  refine ⟨?_, fun a u hreturns => ?_⟩
  · rw [faults_call_iff]
    rintro ⟨r, t, hanswer, hfaults⟩
    exact (h r t hanswer).1 hfaults
  · obtain ⟨r, t, hanswer, hnext⟩ := returns_call_iff.mp hreturns
    exact (h r t hanswer).2 a u hnext

theorem faultless_bind {p : Program S α} {f : α → Program S β} {R : β → σ → Prop} (hp : Faultless W Q p s)
    (hf : ∀ a t, Q a t → Faultless W R (f a) t) : Faultless W R (p >>= f) s := by
  refine ⟨?_, fun b u hreturns => ?_⟩
  · rw [faults_bind_iff]
    rintro (hfaults | ⟨a, t, hreturns, hfaults⟩)
    · exact hp.1 hfaults
    · exact (hf a t (hp.2 a t hreturns)).1 hfaults
  · obtain ⟨a, t, hfirst, hrest⟩ := returns_bind_iff.mp hreturns
    exact (hf a t (hp.2 a t hfirst)).2 b u hrest

end Faultless

end Faults

/-- A run of the program can leave the environment in the last state: it passes through it or is cut off there, or it
comes to a fault, after which nothing is known of the state. -/
def Leaves (W : World S σ) (p : Program S α) (s t : σ) : Prop := Visits W p s t ∨ Faults W p s

/-- The states reached by running programs one after another, each of them to its end, up to a loss of power, or
beyond a fault. -/
def Reachable (W : World S σ) (programs : Set (Program S α)) : σ → σ → Prop :=
  Relation.ReflTransGen fun s t => ∃ p ∈ programs, Leaves W p s t

namespace Reachable

variable {W : World S σ} {programs : Set (Program S α)} {p : Program S α} {s t : σ}

/-- An invariant that every program keeps, also where it is cut off, holds in all states reached, if none of them
comes to a fault from a state that satisfies it. -/
theorem invariant {I : σ → Prop} (hstep : ∀ p ∈ programs, ∀ u, I u → wp W (fun _ _ => True) I p u)
    (hsound : ∀ p ∈ programs, ∀ u, I u → ¬ Faults W p u) (h : Reachable W programs s t) (hs : I s) : I t := by
  induction h with
  | refl => exact hs
  | tail _ hlast ih =>
      obtain ⟨p, hp, hvisit | hfaults⟩ := hlast
      · exact wp_visits (hstep p hp _ ih) hvisit
      · exact absurd hfaults (hsound p hp _ ih)

theorem of_visits (hp : p ∈ programs) (h : Visits W p s t) : Reachable W programs s t :=
  .single ⟨p, hp, Or.inl h⟩

/-- Beyond a fault every state is reached. -/
theorem of_faults (hp : p ∈ programs) (h : Faults W p s) (t : σ) : Reachable W programs s t :=
  .single ⟨p, hp, Or.inr h⟩

end Reachable

/-- A world with exactly one answer to each call, which never loses power. -/
structure Machine (S : Signature) (σ : Type) where
  answer : (c : S.Call) → σ → S.Reply c × σ

namespace Machine

variable (M : Machine S σ)

def world : World S σ where
  answer c s r t := M.answer c s = (r, t)
  interrupt _ _ _ := False

/-- The result of a whole run, or nothing when it faults. -/
def run : Program S α → σ → Option (α × σ)
  | .done value, s => some (value, s)
  | .fault, _ => none
  | .call c next, s => run (next (M.answer c s).1) (M.answer c s).2

/-- The states before, between and after the calls of the run. -/
def cuts : Program S α → σ → List σ
  | .done _, s => [s]
  | .fault, s => [s]
  | .call c next, s => s :: cuts (next (M.answer c s).1) (M.answer c s).2

@[simp] theorem run_done (value : α) (s : σ) : M.run (.done value) s = some (value, s) := rfl

@[simp] theorem run_fault (s : σ) : M.run (.fault : Program S α) s = none := rfl

theorem run_call (c : S.Call) (next : S.Reply c → Program S α) (s : σ) :
    M.run (.call c next) s = M.run (next (M.answer c s).1) (M.answer c s).2 := rfl

theorem run_bind (p : Program S α) (f : α → Program S β) (s : σ) :
    M.run (p >>= f) s = (M.run p s).bind fun x => M.run (f x.1) x.2 := by
  induction p generalizing s with
  | done value => rfl
  | fault => rfl
  | call c next ih => simp only [Program.call_bind, run_call, ih]

theorem returns_iff_run {p : Program S α} {s t : σ} {a : α} :
    Returns M.world p s a t ↔ M.run p s = some (a, t) := by
  refine ⟨?_, ?_⟩
  · intro h
    induction h with
    | done value s => rfl
    | call hanswer _ ih =>
        change M.answer _ _ = _ at hanswer
        rw [run_call, hanswer]
        exact ih
  · intro h
    induction p generalizing s with
    | done value =>
        rw [run_done, Option.some.injEq, Prod.mk.injEq] at h
        obtain ⟨rfl, rfl⟩ := h
        exact .done _ _
    | fault => cases h
    | call c next ih => exact .call (r := (M.answer c s).1) (t := (M.answer c s).2) rfl (ih _ h)

theorem visits_iff_mem_cuts {p : Program S α} {s t : σ} :
    Visits M.world p s t ↔ t ∈ M.cuts p s := by
  refine ⟨?_, ?_⟩
  · intro h
    induction h with
    | here p s => cases p <;> simp [cuts]
    | call hanswer _ ih =>
        change M.answer _ _ = _ at hanswer
        rw [cuts, hanswer]
        exact List.mem_cons_of_mem _ ih
    | interrupt hcut => exact hcut.elim
  · intro h
    induction p generalizing s with
    | done value =>
        rw [cuts, List.mem_singleton] at h
        exact h ▸ .here _ _
    | fault =>
        rw [cuts, List.mem_singleton] at h
        exact h ▸ .here _ _
    | call c next ih =>
        rw [cuts, List.mem_cons] at h
        rcases h with rfl | h
        · exact .here _ _
        · exact .call (r := (M.answer c s).1) (t := (M.answer c s).2) rfl (ih _ h)

/-- A run can be cut in its first part, or after it. -/
theorem mem_cuts_bind {p : Program S α} {f : α → Program S β} {s t : σ} :
    t ∈ M.cuts (p >>= f) s ↔
      t ∈ M.cuts p s ∨ ∃ a u, M.run p s = some (a, u) ∧ t ∈ M.cuts (f a) u := by
  induction p generalizing s with
  | done value =>
      have hhead : ∀ q : Program S β, s ∈ M.cuts q s := by
        intro q
        cases q <;> simp [cuts]
      simp only [Program.done_bind, cuts, List.mem_singleton, run_done, Option.some.injEq, Prod.mk.injEq]
      refine ⟨?_, ?_⟩
      · exact fun h => Or.inr ⟨value, s, ⟨rfl, rfl⟩, h⟩
      · rintro (rfl | ⟨a, u, ⟨rfl, rfl⟩, h⟩)
        · exact hhead _
        · exact h
  | fault => simp [cuts]
  | call c next ih => simp only [Program.call_bind, cuts, List.mem_cons, ih, run_call, or_assoc]

/-- The run returns the value in the last state and can be cut in exactly the states of `through`. -/
structure Trace (p : Program S α) (s : σ) (through : Set σ) (a : α) (t : σ) : Prop where
  run_eq : M.run p s = some (a, t)
  cuts_eq : {u | u ∈ M.cuts p s} = through

section Trace

variable {M} {s t u : σ} {A B : Set σ} {a : α} {b : β}

theorem trace_done (a : α) (s : σ) : M.Trace (.done a) s {s} a s :=
  ⟨rfl, by ext u; simp [cuts]⟩

theorem trace_call {c : S.Call} {next : S.Reply c → Program S α} {r : S.Reply c}
    (hanswer : M.answer c s = (r, t)) (h : M.Trace (next r) t A a u) :
    M.Trace (.call c next) s (insert s A) a u := by
  refine ⟨?_, ?_⟩
  · rw [run_call, hanswer]
    exact h.run_eq
  · rw [← h.cuts_eq]
    ext v
    simp only [cuts, hanswer, Set.mem_ofPred_eq, List.mem_cons, Set.mem_insert_iff]

theorem Trace.mem_cuts_iff {p : Program S α} (h : M.Trace p s A a t) (u : σ) : u ∈ M.cuts p s ↔ u ∈ A :=
  Set.ext_iff.mp h.cuts_eq u

theorem Trace.start_mem {p : Program S α} (h : M.Trace p s A a t) : s ∈ A :=
  (h.mem_cuts_iff s).mp ((visits_iff_mem_cuts M).mp (.here p s))

/-- A call that leaves the state alone adds no state to be cut in. -/
theorem trace_pureCall {c : S.Call} {next : S.Reply c → Program S α} {r : S.Reply c}
    (hanswer : M.answer c s = (r, s)) (h : M.Trace (next r) s A a u) : M.Trace (.call c next) s A a u := by
  have hcall := trace_call hanswer h
  rwa [Set.insert_eq_of_mem h.start_mem] at hcall

theorem trace_bind {p : Program S α} {f : α → Program S β} (hp : M.Trace p s A a t)
    (hf : M.Trace (f a) t B b u) : M.Trace (p >>= f) s (A ∪ B) b u := by
  refine ⟨?_, ?_⟩
  · rw [run_bind, hp.run_eq]
    exact hf.run_eq
  · rw [← hp.cuts_eq, ← hf.cuts_eq]
    ext v
    simp only [Set.mem_ofPred_eq, mem_cuts_bind, hp.run_eq, Option.some.injEq, Prod.mk.injEq, Set.mem_union]
    refine ⟨?_, ?_⟩
    · rintro (h | ⟨_, _, ⟨rfl, rfl⟩, h⟩)
      · exact Or.inl h
      · exact Or.inr h
    · exact Or.imp_right fun h => ⟨a, t, ⟨rfl, rfl⟩, h⟩

/-- The first part of a program leaves the state alone. -/
theorem trace_pureBind {p : Program S α} {f : α → Program S β} (hp : M.Trace p s {s} a s)
    (hf : M.Trace (f a) s B b u) : M.Trace (p >>= f) s B b u := by
  have hbind := trace_bind hp hf
  rwa [Set.singleton_union, Set.insert_eq_of_mem hf.start_mem] at hbind

theorem Trace.last_mem {p : Program S α} (h : M.Trace p s A a t) : t ∈ A :=
  (h.mem_cuts_iff t).mp ((visits_iff_mem_cuts M).mp ((returns_iff_run M).mpr h.run_eq).visits)

/-- A program that changes only the value it returns. -/
theorem trace_map {p : Program S α} (f : α → β) (hp : M.Trace p s A a t) :
    M.Trace (p >>= fun x => .done (f x)) s A (f a) t := by
  have hbind := trace_bind (f := fun x => .done (f x)) hp (trace_done (f a) t)
  rwa [Set.union_singleton, Set.insert_eq_of_mem hp.last_mem] at hbind

end Trace

end Machine

end CallTree

import Penrose.CallTree

/-! Programs whose calls are programs themselves. A handler says what each call of the upper signature does with calls
of the lower one; a program of the upper signature is then expanded into one of the lower. -/

namespace CallTree

variable {S T : Signature} {σ τ α : Type}

/-- The program, with each call replaced by what the handler does for it. -/
def Program.expand (handler : (c : S.Call) → Program T (S.Reply c)) : Program S α → Program T α
  | .done value => .done value
  | .fault => .fault
  | .call c next => handler c >>= fun r => (next r).expand handler

section Expand

variable {handler : (c : S.Call) → Program T (S.Reply c)} {W : World T τ} {V : World S σ}

@[simp] theorem expand_done (value : α) : (Program.done value).expand handler = .done value := rfl

@[simp] theorem expand_fault : (Program.fault : Program S α).expand handler = .fault := rfl

/-- Conditions that hold of everything hold of every program. -/
theorem wp_of_forall {Q : α → τ → Prop} {C : τ → Prop} (hQ : ∀ a t, Q a t) (hC : ∀ t, C t) (p : Program T α) (t : τ) :
    wp W Q C p t := by
  induction p generalizing t with
  | done value => exact ⟨hC t, hQ value t⟩
  | fault => exact hC t
  | call c next ih => exact ⟨hC t, fun u _ => hC u, fun r u _ => ih r u⟩

/-- The handler does for each call what the upper world allows, seen through the view; on the way the state looks as
before the call, as after it, or as if power was lost during it. `I` is what is kept besides. -/
def Simulates (handler : (c : S.Call) → Program T (S.Reply c)) (W : World T τ) (V : World S σ) (view : τ → σ)
    (I : τ → Prop) : Prop :=
  ∀ c t, I t →
    wp W (fun r u => I u ∧ V.answer c (view t) r (view u))
      (fun u => I u ∧ (view u = view t ∨ (∃ r, V.answer c (view t) r (view u)) ∨ V.interrupt c (view t) (view u)))
      (handler c) t

/-- What a program satisfies in the upper world, its expansion satisfies in the lower one. -/
theorem Simulates.wp_expand {view : τ → σ} {I : τ → Prop} (hsim : Simulates handler W V view I) {p : Program S α}
    {Q : α → σ → Prop} {C : σ → Prop} {t : τ} (ht : I t) (h : wp V Q C p (view t)) :
    wp W (fun a u => I u ∧ Q a (view u)) (fun u => I u ∧ C (view u)) (p.expand handler) t := by
  induction p generalizing t with
  | done value => exact ⟨⟨ht, h.1⟩, ht, h.2⟩
  | fault => exact ⟨ht, h⟩
  | call c next ih =>
      obtain ⟨hhere, hcut, hnext⟩ := h
      have hhandler := wp_mono (fun _ _ => id) (fun u hu => (⟨hu.1, ?_⟩ : I u ∧ C (view u))) (hsim c t ht)
      · exact wp_seq hhandler fun r u hu => ih r hu.1 (hnext r (view u) hu.2)
      · obtain hsame | ⟨r, hanswer⟩ | hlost := hu.2
        · rw [hsame]
          exact hhere
        · exact wp_here (hnext r _ hanswer)
        · exact hcut _ hlost

/-- Where the work for the calls comes to no fault, a fault of the expansion is one of the program. -/
theorem Simulates.faults {view : τ → σ} {I : τ → Prop} (hsim : Simulates handler W V view I)
    (hcalls : ∀ c t, I t → ¬ Faults W (handler c) t) {p : Program S α} {t : τ} (ht : I t)
    (h : Faults W (p.expand handler) t) : Faults V p (view t) := by
  induction p generalizing t with
  | done value => exact absurd h (not_faults_done value)
  | fault => exact .fault _
  | call c next ih =>
      rcases faults_bind_iff.mp h with hhandler | ⟨r, u, hreturns, hnext⟩
      · exact absurd hhandler (hcalls c t ht)
      · obtain ⟨hu, hanswer⟩ := wp_returns (hsim c t ht) hreturns
        exact .call hanswer (ih r hu hnext)

/-- The world in which a call is all that is done for it. -/
def World.above (W : World T τ) (handler : (c : S.Call) → Program T (S.Reply c)) : World S τ where
  answer c t r u := Returns W (handler c) t r u
  interrupt c t u := Visits W (handler c) t u

/-- What the program passes through when its calls are answered by the work for them, its expansion does. -/
theorem Visits.expand {p : Program S α} {t u : τ} (h : Visits (W.above handler) p t u) :
    Visits W (p.expand handler) t u := by
  induction h with
  | here p t => exact .here _ t
  | call hanswer _ ih => exact Returns.bind_visits hanswer ih
  | interrupt hcut => exact Visits.bind hcut

end Expand

end CallTree

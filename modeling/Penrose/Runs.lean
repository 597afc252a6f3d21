/-! Runs of a state machine whose steps are a function of the state and an input. A property of every step is
carried through a run by an invariant. -/

namespace Penrose

variable {S I : Type} {next : S → I → S} {P Q W : S → I → Prop} {Inv : S → Prop}

/-- Every step of the run satisfies the condition. -/
def Run (next : S → I → S) (P : S → I → Prop) : S → List I → Prop
  | _, [] => True
  | s, input :: inputs => P s input ∧ Run next P (next s input) inputs

namespace Run

instance decidable [∀ s input, Decidable (P s input)] : ∀ s inputs, Decidable (Run next P s inputs)
  | _, [] => isTrue trivial
  | s, input :: inputs =>
      have := decidable (next s input) inputs
      inferInstanceAs (Decidable (P s input ∧ Run next P (next s input) inputs))

/-- A property that the invariant gives at every step holds through the run. -/
theorem of_inv (hstep : ∀ s input, Inv s → W s input → P s input) {s : S} {inputs : List I}
    (hnext : ∀ s input, Inv s → W s input → Inv (next s input)) (hinv : Inv s) (hrun : Run next W s inputs) :
    Run next P s inputs := by
  induction inputs generalizing s with
  | nil => trivial
  | cons input inputs ih =>
      exact ⟨hstep s input hinv hrun.1, ih (hnext s input hinv hrun.1) hrun.2⟩

/-- Two conditions on steps that agree under an invariant, which one of them keeps, agree on runs. -/
theorem iff_of_inv (hiff : ∀ s input, Inv s → W s input → (P s input ↔ Q s input))
    (hnext : ∀ s input, Inv s → W s input → Q s input → Inv (next s input)) {s : S} {inputs : List I}
    (hinv : Inv s) (hrun : Run next W s inputs) : Run next P s inputs ↔ Run next Q s inputs := by
  induction inputs generalizing s with
  | nil => exact Iff.rfl
  | cons input inputs ih =>
      have hhead := hiff s input hinv hrun.1
      constructor
      · rintro ⟨hP, hrest⟩
        exact ⟨hhead.mp hP, (ih (hnext s input hinv hrun.1 (hhead.mp hP)) hrun.2).mp hrest⟩
      · rintro ⟨hQ, hrest⟩
        exact ⟨hhead.mpr hQ, (ih (hnext s input hinv hrun.1 hQ) hrun.2).mpr hrest⟩

/-- An invariant that the steps of the run keep holds after the run. -/
theorem inv_foldl (hnext : ∀ s input, Inv s → W s input → Inv (next s input)) {s : S} {inputs : List I} (hinv : Inv s)
    (hrun : Run next W s inputs) : Inv (inputs.foldl next s) := by
  induction inputs generalizing s with
  | nil => exact hinv
  | cons input inputs ih => exact ih (hnext s input hinv hrun.1) hrun.2

theorem and {s : S} {inputs : List I} (hP : Run next P s inputs) (hQ : Run next Q s inputs) :
    Run next (fun s input => P s input ∧ Q s input) s inputs := by
  induction inputs generalizing s with
  | nil => trivial
  | cons input inputs ih => exact ⟨⟨hP.1, hQ.1⟩, ih hP.2 hQ.2⟩

/-- A condition on the inputs alone. -/
theorem forall_iff {p : I → Prop} {s : S} {inputs : List I} :
    Run next (fun _ input => p input) s inputs ↔ ∀ input ∈ inputs, p input := by
  induction inputs generalizing s with
  | nil => exact iff_of_true trivial (List.forall_mem_nil _)
  | cons input inputs ih => rw [List.forall_mem_cons, Run, ih]

/-- A property of every step is one of the state after every proper prefix. -/
theorem iff_prefix {s : S} {inputs : List I} :
    Run next P s inputs ↔
      ∀ before input after, inputs = before ++ input :: after → P (before.foldl next s) input := by
  induction inputs generalizing s with
  | nil => exact iff_of_true trivial fun before input after h => absurd h.symm (by simp)
  | cons head rest ih =>
      rw [Run, ih]
      constructor
      · intro h before input after hsplit
        cases before with
        | nil =>
            obtain ⟨rfl, -⟩ := List.cons.inj hsplit
            exact h.1
        | cons first before =>
            obtain ⟨rfl, hrest⟩ := List.cons.inj hsplit
            exact h.2 before input after hrest
      · intro h
        exact ⟨h [] head rest rfl, fun before input after hsplit =>
          h (head :: before) input after (congrArg (head :: ·) hsplit)⟩

end Run

end Penrose

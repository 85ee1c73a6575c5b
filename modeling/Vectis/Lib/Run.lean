import Mathlib.Logic.Basic

/-!
# Runs of partial step functions

A system is a step function `σ → α → Option σ`: an action is taken in a state where it is enabled. `run` takes a list of
actions. An invariant that every step keeps holds after every run (`run_inv`), also when it is only kept by the steps
that meet a condition and all steps of the run do (`run_inv_along`).
-/

namespace Run

variable {σ α : Type} {step : σ → α → Option σ}

/-- The state after a list of actions, when each is enabled. -/
def run (step : σ → α → Option σ) : σ → List α → Option σ
  | s, [] => some s
  | s, a :: as => (step s a).bind fun s' => run step s' as

/-- Every step of the run meets `C`, a condition on the state before the step and the action. -/
def Along (step : σ → α → Option σ) (C : σ → α → Prop) : σ → List α → Prop
  | _, [] => True
  | s, a :: as => C s a ∧ ∀ s', step s a = some s' → Along step C s' as

instance decidableAlong {C : σ → α → Prop} [∀ s a, Decidable (C s a)] : ∀ s as, Decidable (Along step C s as)
  | _, [] => isTrue trivial
  | s, a :: as =>
    have : Decidable (∀ s', step s a = some s' → Along step C s' as) :=
      match step s a with
      | none => isTrue fun _ h' => nomatch h'
      | some s₁ =>
        match decidableAlong s₁ as with
        | isTrue hyes => isTrue fun _ h' => Option.some.inj h' ▸ hyes
        | isFalse hno => isFalse fun hall => hno (hall s₁ rfl)
    inferInstanceAs (Decidable (_ ∧ _))

theorem run_cons {s s' : σ} {a : α} {as : List α} (h : run step s (a :: as) = some s') :
    ∃ s₁, step s a = some s₁ ∧ run step s₁ as = some s' := by
  simpa [run, Option.bind_eq_some_iff] using h

theorem run_step {s s₁ : σ} {a : α} {as : List α} (h : step s a = some s₁) : run step s (a :: as) = run step s₁ as := by
  rw [run, h, Option.bind_some]

theorem run_of_step {s s₁ s' : σ} {a : α} {as : List α} (h : step s a = some s₁) (hrun : run step s₁ as = some s') :
    run step s (a :: as) = some s' :=
  (run_step h).trans hrun

theorem run_append : ∀ {s s₁ s' : σ} {as bs : List α}, run step s as = some s₁ → run step s₁ bs = some s' →
    run step s (as ++ bs) = some s'
  | _, _, _, [], _, h, h' => by
    cases h
    exact h'
  | _, _, _, _ :: _, _, h, h' => by
    obtain ⟨_, hstep, hrun⟩ := run_cons h
    exact run_of_step hstep (run_append hrun h')

theorem run_inv_along {C : σ → α → Prop} {I : σ → Prop}
    (hstep : ∀ s a s', I s → C s a → step s a = some s' → I s') :
    ∀ {s s' : σ} {as : List α}, I s → Along step C s as → run step s as = some s' → I s'
  | s, s', [], hI, _, h => by cases h; exact hI
  | s, s', a :: as, hI, hC, h => by
    obtain ⟨s₁, h₁, h₂⟩ := run_cons h
    exact run_inv_along hstep (hstep s a s₁ hI hC.1 h₁) (hC.2 s₁ h₁) h₂

/-- A condition on the actions alone. -/
theorem along_of_forall {C : α → Prop} : ∀ {s : σ} {as : List α}, (∀ a ∈ as, C a) → Along step (fun _ a => C a) s as
  | _, [], _ => trivial
  | _, a :: _, h => ⟨h a List.mem_cons_self, fun _ _ => along_of_forall fun a' ha' => h a' (List.mem_cons_of_mem _ ha')⟩

theorem run_inv {I : σ → Prop} (hstep : ∀ s a s', I s → step s a = some s' → I s') :
    ∀ {s s' : σ} {as : List α}, I s → run step s as = some s' → I s'
  | s, s', [], hI, h => by cases h; exact hI
  | s, s', a :: as, hI, h => by
    obtain ⟨s₁, h₁, h₂⟩ := run_cons h
    exact run_inv hstep (hstep s a s₁ hI h₁) h₂

end Run

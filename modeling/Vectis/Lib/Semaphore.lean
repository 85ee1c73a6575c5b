import Mathlib.Data.List.Basic

/-!
# Counting semaphores

A semaphore is the counter of its free permits. Each process of a list holds a permit or none, as a predicate on its
state says, and `Conserves` counts both.

- `Moves`: what one process does to the semaphore when its state changes;
- `Conserves.moves`: such a move keeps the number of permits;
- `Conserves.countP_le`, `Conserves.available_eq`: the bound on the holders, and what is free when nobody holds a
  permit.
-/

structure Semaphore where
  available : Nat
  deriving DecidableEq, Repr

namespace Semaphore

/-- One free permit less, when there is one. -/
def tryAcquire (s : Semaphore) : Option Semaphore :=
  if s.available = 0 then none else some ⟨s.available - 1⟩

/-- A guard is dropped. -/
def release (s : Semaphore) : Semaphore := ⟨s.available + 1⟩

theorem tryAcquire_eq_some {s s' : Semaphore} : s.tryAcquire = some s' ↔ s.available = s'.available + 1 := by
  unfold tryAcquire
  constructor
  · intro h
    split at h
    · cases h
    · rename_i hne
      cases h
      exact (Nat.succ_pred_eq_of_ne_zero hne).symm
  · intro h
    rw [if_neg (by omega), h]
    rfl

variable {α : Type} {holds : α → Bool} {total : Nat}

/-- The free permits and the held ones are all there are. -/
def Conserves (total : Nat) (s : Semaphore) (holds : α → Bool) (processes : List α) : Prop :=
  s.available + processes.countP holds = total

/-- A process goes from `p` to `p'`: it takes a permit, drops its own, or neither. -/
def Moves (holds : α → Bool) (s : Semaphore) (p : α) (s' : Semaphore) (p' : α) : Prop :=
  (holds p' = holds p ∧ s' = s) ∨ (holds p = false ∧ holds p' = true ∧ s.tryAcquire = some s') ∨
    (holds p = true ∧ holds p' = false ∧ s' = s.release)

namespace Conserves

variable {s s' : Semaphore} {processes : List α} {i : Nat} {p p' : α}

theorem new (permits : Nat) : Conserves permits ⟨permits⟩ holds [] := rfl

theorem spawn (h : Conserves total s holds processes) (hp : holds p = false) :
    Conserves total s holds (processes ++ [p]) := by
  unfold Conserves at h ⊢
  rw [List.countP_append, List.countP_singleton, if_neg (by simp [hp]), Nat.add_zero]
  exact h

theorem moves (h : Conserves total s holds processes) (hi : processes[i]? = some p) (hmove : Moves holds s p s' p') :
    Conserves total s' holds (processes.set i p') := by
  obtain ⟨hlt, rfl⟩ := List.getElem?_eq_some_iff.mp hi
  have hcount := List.boole_getElem_le_countP (p := holds) hlt
  unfold Conserves at h ⊢
  rw [List.countP_set hlt]
  obtain ⟨hsame, rfl⟩ | ⟨hp, hp', hacquire⟩ | ⟨hp, hp', rfl⟩ := hmove
  · rw [hsame]
    omega
  · rw [tryAcquire_eq_some] at hacquire
    simp only [hp, hp', Bool.false_eq_true, if_false, if_true]
    omega
  · simp only [hp, hp', Bool.false_eq_true, if_false, if_true, release] at hcount ⊢
    omega

/-- At most `total` processes hold a permit, and so do at most as many of which that is known. -/
theorem countP_le (h : Conserves total s holds processes) {busy : α → Bool} (hbusy : ∀ p, busy p = true →
    holds p = true) :
    processes.countP busy ≤ total := by
  unfold Conserves at h
  have hle := List.countP_mono_left (p := busy) (q := holds) fun p (_ : p ∈ processes) => hbusy p
  omega

theorem available_eq (h : Conserves total s holds processes) (hfree : ∀ p ∈ processes, holds p = false) :
    s.available = total := by
  have hzero : processes.countP holds = 0 := List.countP_eq_zero.mpr fun p hp => by simp [hfree p hp]
  unfold Conserves at h
  omega

/-- The permit of one process is neither free nor held by another. -/
theorem others (h : Conserves total s holds processes) (hi : processes[i]? = some p) (hp : holds p = true) :
    s.available + (processes.eraseIdx i).countP holds + 1 = total := by
  obtain ⟨hlt, rfl⟩ := List.getElem?_eq_some_iff.mp hi
  have hsplit := congrArg (List.countP holds) (List.take_append_drop i processes)
  rw [List.countP_append, List.drop_eq_getElem_cons hlt, List.countP_cons, if_pos hp] at hsplit
  unfold Conserves at h
  rw [List.eraseIdx_eq_take_drop_succ, List.countP_append]
  omega

end Conserves

end Semaphore

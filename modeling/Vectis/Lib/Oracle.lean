import Mathlib.Logic.Basic

/-!
# Programs with an oracle

A program that is given a function as an oracle asks it at a point when its result depends on the answer there.

- `Asks.mem`: it asks only where two oracles have to agree for its results to be equal.
-/

namespace Oracle

variable {Q A B : Type}

/-- Two oracles that differ nowhere else lead to different results. -/
def Asks (program : (Q → A) → B) (point : Q) : Prop :=
  ∃ oracle oracle', (∀ q, q ≠ point → oracle q = oracle' q) ∧ program oracle ≠ program oracle'

/-- The result depends on the answers at these points only. -/
def DependsOn (program : (Q → A) → B) (points : Q → Prop) : Prop :=
  ∀ oracle oracle', (∀ q, points q → oracle q = oracle' q) → program oracle = program oracle'

theorem Asks.mem {program : (Q → A) → B} {points : Q → Prop} {point : Q} (hask : Asks program point)
    (hdep : DependsOn program points) : points point := by
  obtain ⟨oracle, oracle', hagree, hne⟩ := hask
  apply Classical.byContradiction
  intro hnot
  refine hne (hdep oracle oracle' fun q hq => hagree q ?_)
  rintro rfl
  exact hnot hq

end Oracle

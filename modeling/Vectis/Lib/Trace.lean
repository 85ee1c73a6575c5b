import Mathlib.Data.List.Basic

/-!
# Traces

A trace is the list of what has happened, oldest first. `Each P` says of every event that `P` holds of it and of what
had happened before; it is kept by appending an event for which `P` holds.
-/

namespace Trace

variable {E : Type} {P Q : List E → E → Prop} {trace : List E}

def Each (P : List E → E → Prop) (trace : List E) : Prop :=
  ∀ past e rest, trace = past ++ e :: rest → P past e

/-- An event of an extended trace is the last one, or one of the trace. -/
theorem snoc_eq {x e : E} {past rest : List E} (h : trace ++ [x] = past ++ e :: rest) :
    (past = trace ∧ e = x ∧ rest = []) ∨ ∃ rest', rest = rest' ++ [x] ∧ trace = past ++ e :: rest' := by
  rcases List.eq_nil_or_concat rest with rfl | ⟨rest', y, rfl⟩
  · obtain ⟨h₁, h₂⟩ := List.append_inj' h rfl
    exact Or.inl ⟨h₁.symm, (List.cons.inj h₂).1.symm, rfl⟩
  · have h' : trace ++ [x] = (past ++ e :: rest') ++ [y] := by simpa using h
    obtain ⟨h₁, h₂⟩ := List.append_inj' h' rfl
    exact Or.inr ⟨rest', by rw [(List.cons.inj h₂).1]; simp, h₁⟩

theorem each_nil : Each P [] := fun past e rest h => by simp at h

theorem each_snoc {x : E} (h : Each P trace) (hx : P trace x) : Each P (trace ++ [x]) := by
  intro past e rest heq
  rcases snoc_eq heq with ⟨rfl, rfl, -⟩ | ⟨rest', -, htrace⟩
  · exact hx
  · exact h past e rest' htrace

theorem Each.mono (h : Each P trace) (himp : ∀ past e, P past e → Q past e) : Each Q trace :=
  fun past e rest heq => himp past e (h past e rest heq)

/-- The `i`-th selected event, with the events before it. -/
theorem filterMap_getElem? {F : Type} {f : E → Option F} : ∀ {trace : List E} {i : Nat} {b : F},
    (trace.filterMap f)[i]? = some b →
      ∃ past e rest, trace = past ++ e :: rest ∧ f e = some b ∧ past.filterMap f = (trace.filterMap f).take i
  | [], i, b, h => by simp at h
  | x :: trace, i, b, h => by
    cases hx : f x with
    | none =>
      rw [List.filterMap_cons_none hx] at h
      obtain ⟨past, e, rest, rfl, he, hpast⟩ := filterMap_getElem? h
      exact ⟨x :: past, e, rest, rfl, he, by rw [List.filterMap_cons_none hx, hpast, List.filterMap_cons_none hx]⟩
    | some y =>
      rw [List.filterMap_cons_some hx] at h
      cases i with
      | zero =>
        cases h
        exact ⟨[], x, trace, rfl, hx, rfl⟩
      | succ i =>
        obtain ⟨past, e, rest, rfl, he, hpast⟩ := filterMap_getElem? (i := i) (by simpa using h)
        refine ⟨x :: past, e, rest, rfl, he, ?_⟩
        rw [List.filterMap_cons_some hx, List.filterMap_cons_some hx, List.take_succ_cons, hpast]

end Trace

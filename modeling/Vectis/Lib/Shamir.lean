import Mathlib.LinearAlgebra.Lagrange
import Mathlib.Data.Fintype.Pi

/-!
# Threshold sharing over a field

The polynomial `c₀ + c₁ X + …` of a coefficient list (`poly`) is evaluated by Horner's rule (`horner`); the shares of
`c₀` are its values at distinct nonzero points.

* **Reconstruction** (`lagrange_horner`): at least as many points as coefficients determine every value, by the
  explicit Lagrange sum, which evaluates the interpolating polynomial (`eval_interpolate`).
* **Secrecy** (`existsUnique_tail`): with one point less, every secret is compatible with every choice of values,
through exactly one choice of the other coefficients.
-/

namespace Shamir

open Polynomial

variable {F : Type*} [Field F]

/-! ## Polynomials of coefficient lists -/

/-- Horner evaluation, lowest coefficient first. -/
def horner (cs : List F) (x : F) : F := cs.foldr (fun c v => v * x + c) 0

/-- The polynomial of a coefficient list, lowest coefficient first. -/
noncomputable def poly : List F → F[X]
  | [] => 0
  | c :: cs => poly cs * X + C c

@[simp] theorem horner_nil (x : F) : horner ([] : List F) x = 0 := rfl

@[simp] theorem horner_cons (c : F) (cs : List F) (x : F) : horner (c :: cs) x = horner cs x * x + c := rfl

theorem eval_poly (x : F) : ∀ cs : List F, (poly cs).eval x = horner cs x
  | [] => by simp [poly]
  | c :: cs => by simp [poly, eval_poly x cs]

theorem coeff_poly : ∀ (cs : List F) (i : ℕ), (poly cs).coeff i = cs.getD i 0
  | [], i => by simp [poly]
  | c :: cs, 0 => by simp [poly]
  | c :: cs, i + 1 => by simp [poly, coeff_poly cs i]

/-- The degree is below the number of coefficients. -/
theorem degree_poly_lt (cs : List F) : (poly cs).degree < cs.length := by
  rw [degree_lt_iff_coeff_zero]
  intro i hi
  rw [coeff_poly, List.getD_eq_getElem?_getD, List.getElem?_eq_none hi, Option.getD_none]

theorem horner_zero (c : F) (cs : List F) : horner (c :: cs) 0 = c := by simp

/-! ## Reconstruction -/

section Reconstruction

variable {n : ℕ}

/-- The Lagrange coefficient of point `i` at `x`. -/
def lagrange (v : Fin n → F) (x : F) (i : Fin n) : F := ∏ j, if i = j then 1 else (x - v j) / (v i - v j)

theorem eval_basis (v : Fin n → F) (x : F) (i : Fin n) :
    (Lagrange.basis Finset.univ v i).eval x = lagrange v x i := by
  rw [Lagrange.basis, eval_prod, lagrange, ← Finset.mul_prod_erase _ _ (Finset.mem_univ i), if_pos rfl, one_mul]
  refine Finset.prod_congr rfl fun j hj => ?_
  have hne : i ≠ j := (Finset.ne_of_mem_erase hj).symm
  simp [Lagrange.basisDivisor, hne, div_eq_mul_inv, mul_comm]

/-- The polynomial through the points is evaluated by the Lagrange sum. -/
theorem eval_interpolate (v r : Fin n → F) (x : F) :
    (Lagrange.interpolate Finset.univ v r).eval x = ∑ i, r i * lagrange v x i := by
  rw [Lagrange.interpolate_apply, eval_finsetSum]
  refine Finset.sum_congr rfl fun i _ => ?_
  rw [eval_mul, eval_C, eval_basis]

/-- **Reconstruction**: the Lagrange sum through at least as many points as coefficients is the polynomial. -/
theorem lagrange_horner {v : Fin n → F} (hv : Function.Injective v) {cs : List F} (hn : cs.length ≤ n) (x : F) :
    ∑ i, horner cs (v i) * lagrange v x i = horner cs x := by
  have hdeg : (poly cs).degree < (Finset.univ : Finset (Fin n)).card := by
    refine (degree_poly_lt cs).trans_le ?_
    simpa using hn
  have h := congrArg (eval x) (Lagrange.eq_interpolate hv.injOn hdeg)
  rw [eval_interpolate, eval_poly] at h
  simpa only [eval_poly] using h.symm

end Reconstruction

/-! ## Secrecy -/

section Secrecy

variable {n : ℕ}

/-- The values at `n` distinct points determine `n` coefficients. -/
theorem horner_injective {v : Fin n → F} (hv : Function.Injective v) :
    Function.Injective fun (cs : Fin n → F) (i : Fin n) => horner (List.ofFn cs) (v i) := by
  intro cs ds h
  have hp : poly (List.ofFn cs) = poly (List.ofFn ds) := by
    refine Polynomial.eq_of_degrees_lt_of_eval_index_eq (s := Finset.univ) (v := v) hv.injOn ?_ ?_ fun i _ => ?_
    · simpa using degree_poly_lt (List.ofFn cs)
    · simpa using degree_poly_lt (List.ofFn ds)
    · rw [eval_poly, eval_poly]; exact congrFun h i
  funext i
  have hc := congrArg (fun p => p.coeff i) hp
  simpa [coeff_poly] using hc

/-- **Secrecy**: at `n` distinct nonzero points, every constant coefficient reaches every choice of values through
exactly one choice of the `n` other coefficients. -/
theorem existsUnique_tail [Finite F] {v : Fin n → F} (hv : Function.Injective v) (h0 : ∀ i, v i ≠ 0) (a : F)
    (y : Fin n → F) : ∃! cs : Fin n → F, ∀ i, horner (a :: List.ofFn cs) (v i) = y i := by
  have hb := Finite.injective_iff_bijective.mp (horner_injective hv)
  have hiff : ∀ cs : Fin n → F, (∀ i, horner (a :: List.ofFn cs) (v i) = y i) ↔
      (fun i => horner (List.ofFn cs) (v i)) = fun i => (y i - a) / v i := by
    intro cs
    rw [funext_iff]
    refine forall_congr' fun i => ?_
    rw [horner_cons, eq_div_iff (h0 i), eq_sub_iff_add_eq]
  simpa only [hiff] using hb.existsUnique fun i => (y i - a) / v i

end Secrecy

end Shamir

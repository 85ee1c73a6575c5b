import Mathlib.Algebra.Order.Ring.Nat

/-!
# Unsigned 64-bit arithmetic that does not wrap

Checked and saturating operations on `UInt64`, with their values in `Nat`.
-/

namespace U64

def max : UInt64 := 18446744073709551615

def checkedAdd (a b : UInt64) : Option UInt64 := if a.toNat + b.toNat < 2 ^ 64 then some (a + b) else none

def saturatingAdd (a b : UInt64) : UInt64 := (checkedAdd a b).getD max

def saturatingSub (a b : UInt64) : UInt64 := if b ≤ a then a - b else 0

def checkedMul (a b : UInt64) : Option UInt64 := if a.toNat * b.toNat < 2 ^ 64 then some (a * b) else none

def saturatingMul (a b : UInt64) : UInt64 := (checkedMul a b).getD max

theorem checkedAdd_eq_some {a b c : UInt64} (h : checkedAdd a b = some c) : c.toNat = a.toNat + b.toNat := by
  unfold checkedAdd at h
  split at h
  · rename_i hlt
    cases h
    rw [UInt64.toNat_add, Nat.mod_eq_of_lt hlt]
  · cases h

theorem checkedAdd_eq_none {a b : UInt64} (h : checkedAdd a b = none) : 2 ^ 64 ≤ a.toNat + b.toNat := by
  unfold checkedAdd at h
  split at h
  · cases h
  · omega

theorem toNat_max : max.toNat = 2 ^ 64 - 1 := rfl

theorem toNat_saturatingAdd (a b : UInt64) : (saturatingAdd a b).toNat = min (a.toNat + b.toNat) (2 ^ 64 - 1) := by
  unfold saturatingAdd
  cases h : checkedAdd a b with
  | some c =>
    have hc := checkedAdd_eq_some h
    have := c.toNat_lt
    simp only [Option.getD_some]
    omega
  | none =>
    have := checkedAdd_eq_none h
    simp only [Option.getD_none, toNat_max]
    omega

theorem toNat_saturatingSub (a b : UInt64) : (saturatingSub a b).toNat = a.toNat - b.toNat := by
  unfold saturatingSub
  split
  · rename_i hle
    exact UInt64.toNat_sub_of_le a b hle
  · rename_i hle
    rw [UInt64.le_iff_toNat_le] at hle
    simp only [UInt64.toNat_zero]
    omega

theorem toNat_saturatingMul (a b : UInt64) : (saturatingMul a b).toNat = min (a.toNat * b.toNat) (2 ^ 64 - 1) := by
  unfold saturatingMul checkedMul
  split
  · rename_i hlt
    rw [Option.getD_some, UInt64.toNat_mul, Nat.mod_eq_of_lt hlt]
    omega
  · rw [Option.getD_none, toNat_max]
    omega

/-- A number of the type is below a saturated product when it is below the exact one. -/
theorem le_saturatingMul {a b c : UInt64} : a ≤ saturatingMul b c ↔ a.toNat ≤ b.toNat * c.toNat := by
  have := a.toNat_lt
  rw [UInt64.le_iff_toNat_le, toNat_saturatingMul]
  omega

end U64

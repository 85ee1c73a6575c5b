import Vectis.Lib.U64

/-!
# Signed 64-bit arithmetic that does not wrap

Saturating subtraction, absolute value and addition to an unsigned number, with their values in `Int`.
-/

namespace I64

def checkedSub (a b : Int64) : Option Int64 :=
  if -2 ^ 63 ≤ a.toInt - b.toInt ∧ a.toInt - b.toInt < 2 ^ 63 then some (a - b) else none

def saturatingSub (a b : Int64) : Int64 := (checkedSub a b).getD (if a < b then Int64.minValue else Int64.maxValue)

/-- `unsigned_abs`. -/
def unsignedAbs (a : Int64) : UInt64 := if a < 0 then (-a).toUInt64 else a.toUInt64

theorem checkedSub_eq_some {a b c : Int64} (h : checkedSub a b = some c) : c.toInt = a.toInt - b.toInt := by
  unfold checkedSub at h
  split at h
  · rename_i hrange
    cases h
    rw [Int64.toInt_sub]
    exact Int.bmod_eq_of_le hrange.1 hrange.2
  · cases h

theorem toInt_saturatingSub (a b : Int64) :
    (saturatingSub a b).toInt = max (-2 ^ 63) (min (a.toInt - b.toInt) (2 ^ 63 - 1)) := by
  unfold saturatingSub
  cases h : checkedSub a b with
  | some c =>
    have hc := checkedSub_eq_some h
    have hlow := c.le_toInt
    have hhigh := c.toInt_lt
    rw [Option.getD_some]
    omega
  | none =>
    have hrange : ¬(-2 ^ 63 ≤ a.toInt - b.toInt ∧ a.toInt - b.toInt < 2 ^ 63) := by
      intro hin
      simp only [checkedSub, if_pos hin, reduceCtorEq] at h
    rw [Option.getD_none]
    split
    · rename_i hlt
      rw [Int64.lt_iff_toInt_lt] at hlt
      rw [Int64.toInt_minValue]
      omega
    · rename_i hge
      rw [Int64.lt_iff_toInt_lt] at hge
      rw [Int64.toInt_maxValue]
      omega

/-- Against a number of the same type a saturated difference compares as the exact one. -/
theorem saturatingSub_lt {a b limit : Int64} (hlimit : 0 < limit.toInt) :
    saturatingSub a b < limit ↔ a.toInt - b.toInt < limit.toInt := by
  have := limit.toInt_lt
  rw [Int64.lt_iff_toInt_lt, toInt_saturatingSub]
  omega

theorem toNat_toUInt64 {a : Int64} (h : 0 ≤ a.toInt) : a.toUInt64.toNat = a.toInt.toNat :=
  Int64.toNat_toUInt64_of_le (Int64.le_iff_toInt_le.mpr h)

theorem toNat_unsignedAbs (a : Int64) : (unsignedAbs a).toNat = a.toInt.natAbs := by
  unfold unsignedAbs
  have hzero : (0 : Int64).toInt = 0 := rfl
  have hlow := a.le_toInt
  split
  · rename_i hneg
    rw [Int64.lt_iff_toInt_lt, hzero] at hneg
    by_cases hmin : a = Int64.minValue
    · subst hmin
      rfl
    · have hne : a.toInt ≠ -2 ^ 63 := fun h => hmin (Int64.toInt.inj (h.trans Int64.toInt_minValue.symm))
      have hval : (-a).toInt = -a.toInt := by
        rw [Int64.toInt_neg]
        apply Int.bmod_eq_of_le <;> omega
      rw [toNat_toUInt64 (by omega), hval]
      omega
  · rename_i hge
    rw [Int64.lt_iff_toInt_lt, hzero] at hge
    rw [toNat_toUInt64 (by omega)]
    omega

end I64

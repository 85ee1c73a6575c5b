import Vectis.Core.Sharing.Shares

/-!
# Sharing: which lists of shares combine

`combine` interpolates through the first `threshold` shares and compares the others with the result.

* `interpolateAt_eval`: on distinct indexes, `interpolate_at` evaluates the polynomial through the shares.
* `onPolynomial_iff`: a polynomial of degree below `threshold` through all shares is the one through the first
  `threshold` of them.
* **Detection** (`combine_ok_iff`): `combine` succeeds exactly on shares of one length, with distinct nonzero indexes,
that lie on one such polynomial at every byte, and returns its values at 0.
-/

namespace Vectis.Core.Sharing

open Loop Polynomial
open Shamir (lagrange)

/-- The points of the shares at byte `offset` lie on `p`, of degree below `threshold`. -/
def OnPolynomial (shares : List RawShare) (threshold offset : Nat) (p : Gf256[X]) : Prop :=
  p.degree < threshold ∧ ∀ s ∈ shares, p.eval ⟨s.index⟩ = ⟨s.value.getD offset 0⟩

/-- The lists of shares `combine` accepts, in terms of polynomials over the byte field. -/
structure Consistent (shares : List RawShare) (threshold length : Nat) : Prop where
  nonempty : shares ≠ []
  enough : threshold ≤ shares.length
  lengths : ∀ s ∈ shares, s.value.length = length
  nonzero : ∀ s ∈ shares, s.index ≠ 0
  distinct : (shares.map RawShare.index).Nodup
  onPolynomial : ∀ offset < length, ∃ p, OnPolynomial shares threshold offset p

/-! ## The interpolating polynomial -/

section Interpolation

variable {shares : List RawShare}

theorem interpolateAt_eval (h : (shares.map RawShare.index).Nodup) (offset : Nat) (x : UInt8) :
    interpolateAt shares offset x = .ok ((sharePoly shares offset).eval ⟨x⟩).byte := by
  rw [interpolateAt_ok h, sharePoly, Shamir.eval_interpolate]

theorem degree_sharePoly_lt (h : (shares.map RawShare.index).Nodup) (offset : Nat) :
    (sharePoly shares offset).degree < shares.length := by
  have hd := Lagrange.degree_interpolate_lt (s := Finset.univ) (fun i => ⟨shares[i].value.getD offset 0⟩)
    (points_injective h).injOn
  rwa [Finset.card_univ, Fintype.card_fin] at hd

theorem sharePoly_eval (h : (shares.map RawShare.index).Nodup) (offset : Nat) {s : RawShare} (hs : s ∈ shares) :
    (sharePoly shares offset).eval ⟨s.index⟩ = ⟨s.value.getD offset 0⟩ := by
  obtain ⟨i, hi, rfl⟩ := List.getElem_of_mem hs
  exact Lagrange.eval_interpolate_at_node (s := Finset.univ) (i := ⟨i, hi⟩)
    (fun i : Fin shares.length => (⟨shares[i].value.getD offset 0⟩ : Gf256)) (points_injective h).injOn
      (Finset.mem_univ _)

/-- Uniqueness: a polynomial of degree below the number of shares through all of them. -/
theorem eq_sharePoly (h : (shares.map RawShare.index).Nodup) {offset : Nat} {p : Gf256[X]}
    (hp : OnPolynomial shares shares.length offset p) : p = sharePoly shares offset := by
  refine Lagrange.eq_interpolate_of_eval_eq _ (points_injective h).injOn ?_ fun i _ => hp.2 _ (List.getElem_mem _)
  simpa using hp.1

end Interpolation

/-! ## The first shares decide -/

section Basis

variable {shares : List RawShare} {threshold : Nat}

theorem nodup_take (h : (shares.map RawShare.index).Nodup) (threshold : Nat) :
    ((shares.take threshold).map RawShare.index).Nodup := by
  rw [List.map_take]
  exact h.sublist (List.take_sublist _ _)

/-- A polynomial of degree below `threshold` through all shares is the one through the first `threshold`. -/
theorem onPolynomial_iff (h : (shares.map RawShare.index).Nodup) (ht : threshold ≤ shares.length) (offset : Nat)
    (p : Gf256[X]) : OnPolynomial shares threshold offset p ↔ p = sharePoly (shares.take threshold) offset ∧
      ∀ s ∈ shares.drop threshold, p.eval ⟨s.index⟩ = ⟨s.value.getD offset 0⟩ := by
  have hlen : (shares.take threshold).length = threshold := by rw [List.length_take, Nat.min_eq_left ht]
  constructor
  · rintro ⟨hdeg, hval⟩
    refine ⟨eq_sharePoly (nodup_take h _) ⟨?_, fun s hs => hval s (List.mem_of_mem_take hs)⟩,
      fun s hs => hval s (List.mem_of_mem_drop hs)⟩
    rw [hlen]
    exact hdeg
  · rintro ⟨rfl, hval⟩
    refine ⟨?_, fun s hs => ?_⟩
    · simpa only [hlen] using degree_sharePoly_lt (nodup_take h threshold) offset
    · rw [← List.take_append_drop threshold shares] at hs
      rcases List.mem_append.mp hs with hs | hs
      · exact sharePoly_eval (nodup_take h _) offset hs
      · exact hval s hs

theorem checkExtraShare_ok_iff {basis : List RawShare} (h : (basis.map RawShare.index).Nodup) (length : Nat)
    (share : RawShare) : checkExtraShare basis length share = .ok () ↔
      ∀ offset < length, (sharePoly basis offset).eval ⟨share.index⟩ = ⟨share.value.getD offset 0⟩ := by
  rw [checkExtraShare, forM_eq_ok]
  simp only [List.mem_range]
  refine forall_congr' fun offset => forall_congr' fun _ => ?_
  rw [interpolateAt_eval h]
  simp only [bind, Except.bind]
  by_cases he : ((sharePoly basis offset).eval ⟨share.index⟩).byte = share.value.getD offset 0
  · simp only [ne_eq, he, not_true_eq_false, if_false, pure, Except.pure, true_iff]
    exact Gf256.ext' he
  · simp only [ne_eq, he, not_false_eq_true, if_true, throw, throwThe, MonadExceptOf.throw, reduceCtorEq, false_iff]
    exact fun h => he (congrArg Gf256.byte h)

end Basis

/-! ## Detection -/

/-- What the loops of `combine` compute: the values at 0, if every extra share lies on the polynomial of the first. -/
theorem combine_eq_ok_iff (shares : List RawShare) (threshold : Nat) (secret : List UInt8) :
    combine shares threshold = .ok secret ↔ threshold ≤ shares.length ∧
    ∃ length, validateRawShares shares = .ok length ∧
      (∀ offset < length, OnPolynomial shares threshold offset (sharePoly (shares.take threshold) offset)) ∧
      secret = (List.range length).map fun offset => ((sharePoly (shares.take threshold) offset).eval 0).byte := by
  rw [combine]
  by_cases ht : shares.length < threshold
  · simp only [ht, if_true, throw, throwThe, MonadExceptOf.throw, bind, Except.bind, reduceCtorEq, false_iff]
    rintro ⟨h, -⟩
    omega
  · simp only [ht, if_false]
    rw [show (threshold ≤ shares.length) = True from eq_true (by omega), true_and]
    refine Iff.trans (b := ∃ length, validateRawShares shares = .ok length ∧ _) bind_eq_ok ?_
    refine exists_congr fun length => and_congr_right fun hv => ?_
    have hnd := ((validateRawShares_ok_iff shares length).mp hv).2.2
    have hsec := mapM_ok (List.range length) fun offset _ => interpolateAt_eval (nodup_take hnd threshold) offset 0
    rw [hsec]
    refine Iff.trans bind_unit_eq_ok (and_congr ?_ ?_)
    · rw [forM_eq_ok]
      simp only [checkExtraShare_ok_iff (nodup_take hnd threshold)]
      simp only [onPolynomial_iff hnd (Nat.le_of_not_lt ht), true_and]
      exact ⟨fun h o ho s hs => h s hs o ho, fun h s hs o ho => h o ho s hs⟩
    · simp only [pure, Except.pure, Except.ok.injEq]
      exact eq_comm

section Consistent

variable {shares : List RawShare} {threshold length : Nat}

theorem Consistent.validateRawShares_ok (hc : Consistent shares threshold length) :
    validateRawShares shares = .ok length :=
  (validateRawShares_ok_iff shares length).mpr
    ⟨hc.nonempty, fun s hs => ⟨hc.nonzero s hs, hc.lengths s hs⟩, hc.distinct⟩

/-- The polynomial all shares lie on is the one of the first `threshold`. -/
theorem Consistent.onSharePoly (hc : Consistent shares threshold length) {offset : Nat} (ho : offset < length) :
    OnPolynomial shares threshold offset (sharePoly (shares.take threshold) offset) := by
  obtain ⟨p, hp⟩ := hc.onPolynomial offset ho
  rwa [← ((onPolynomial_iff hc.distinct hc.enough offset p).mp hp).1]

end Consistent

theorem combine_eq_ok_iff_consistent (shares : List RawShare) (threshold : Nat) (secret : List UInt8) :
    combine shares threshold = .ok secret ↔ ∃ length, Consistent shares threshold length ∧ secret.length = length ∧
      ∀ offset < length, ∀ p, OnPolynomial shares threshold offset p → secret[offset]? = some (p.eval 0).byte := by
  rw [combine_eq_ok_iff]
  constructor
  · rintro ⟨ht, length, hv, hon, rfl⟩
    obtain ⟨hne, hall, hnd⟩ := (validateRawShares_ok_iff shares length).mp hv
    refine ⟨length, ⟨hne, ht, fun s hs => (hall s hs).2, fun s hs => (hall s hs).1, hnd, fun o ho => ⟨_, hon o ho⟩⟩,
      by simp, fun offset ho p hp => ?_⟩
    rw [((onPolynomial_iff hnd ht offset p).mp hp).1]
    simp [ho]
  · rintro ⟨length, hc, hlen, hval⟩
    refine ⟨hc.enough, length, hc.validateRawShares_ok, fun o ho => hc.onSharePoly ho, ?_⟩
    refine List.ext_getElem? fun i => ?_
    by_cases hi : i < length
    · rw [hval i hi _ (hc.onSharePoly hi)]
      simp [hi]
    · rw [List.getElem?_eq_none (by omega), List.getElem?_eq_none (by simp; omega)]

/-! ## The order of the shares -/

theorem OnPolynomial.perm {shares shares' : List RawShare} (h : shares.Perm shares') {threshold offset : Nat}
    {p : Gf256[X]} :
    OnPolynomial shares threshold offset p ↔ OnPolynomial shares' threshold offset p := by
  simp only [OnPolynomial, h.mem_iff]

theorem Consistent.perm {shares shares' : List RawShare} (h : shares.Perm shares') {threshold length : Nat}
    (hc : Consistent shares threshold length) : Consistent shares' threshold length where
  nonempty := fun he => hc.nonempty (List.perm_nil.mp (he ▸ h))
  enough := h.length_eq ▸ hc.enough
  lengths := fun s hs => hc.lengths s (h.mem_iff.mpr hs)
  nonzero := fun s hs => hc.nonzero s (h.mem_iff.mpr hs)
  distinct := (h.map _).nodup_iff.mp hc.distinct
  onPolynomial := fun offset ho => (hc.onPolynomial offset ho).imp fun _ => (OnPolynomial.perm h).mp

theorem combine_perm {shares shares' : List RawShare} (h : shares.Perm shares') {threshold : Nat} {secret : List UInt8}
    (hs : combine shares threshold = .ok secret) : combine shares' threshold = .ok secret := by
  obtain ⟨length, hc, hlen, hval⟩ := (combine_eq_ok_iff_consistent shares threshold secret).mp hs
  refine (combine_eq_ok_iff_consistent shares' threshold secret).mpr ⟨length, hc.perm h, hlen, fun o ho p hp => ?_⟩
  exact hval o ho p ((OnPolynomial.perm h).mpr hp)

/-- **Detection**: `combine` succeeds exactly on the consistent lists, its result holds at every byte the value at 0 of
the polynomial there, and the order of the list does not matter. -/
theorem combine_ok_iff (shares : List RawShare) (threshold : Nat) :
    ((∃ secret, combine shares threshold = .ok secret) ↔ ∃ length, Consistent shares threshold length) ∧
    (∀ secret, combine shares threshold = .ok secret → ∃ length, Consistent shares threshold length ∧
      secret.length = length ∧ ∀ offset < length, ∃ p, OnPolynomial shares threshold offset p ∧
        (∀ q, OnPolynomial shares threshold offset q → q = p) ∧ secret[offset]? = some (p.eval 0).byte) ∧
    ∀ shares', shares.Perm shares' → ∀ secret,
      combine shares' threshold = .ok secret ↔ combine shares threshold = .ok secret := by
  refine ⟨⟨?_, ?_⟩, ?_, fun shares' h secret => ⟨combine_perm h.symm, combine_perm h⟩⟩
  · rintro ⟨secret, hs⟩
    obtain ⟨length, hc, -⟩ := (combine_eq_ok_iff_consistent shares threshold secret).mp hs
    exact ⟨length, hc⟩
  · rintro ⟨length, hc⟩
    exact ⟨_, (combine_eq_ok_iff shares threshold _).mpr
      ⟨hc.enough, length, hc.validateRawShares_ok, fun o ho => hc.onSharePoly ho, rfl⟩⟩
  · intro secret hs
    obtain ⟨length, hc, hlen, hval⟩ := (combine_eq_ok_iff_consistent shares threshold secret).mp hs
    refine ⟨length, hc, hlen, fun offset ho => ?_⟩
    obtain ⟨p, hp⟩ := hc.onPolynomial offset ho
    have hiff := onPolynomial_iff hc.distinct hc.enough offset
    refine ⟨p, hp, fun q hq => ?_, hval offset ho p hp⟩
    rw [((hiff q).mp hq).1, ((hiff p).mp hp).1]

end Vectis.Core.Sharing

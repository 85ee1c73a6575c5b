import Vectis.Core.Sharing.Shares
import Mathlib.Data.Set.Card

/-!
# Sharing: reconstruction and secrecy

For every accepted threshold and share count:

* **Reconstruction** (`combine_split`): at least `threshold` distinct shares of a split, in any order, combine to the
  secret, whatever the random coefficients were.
* **Secrecy** (`split_secrecy`): `threshold - 1` shares are compatible with all secrets of the same length equally,
namely through exactly one choice of the random coefficients (one per byte).
-/

namespace Vectis.Core.Sharing

open Shamir (horner)

/-! ## Accepted parameters -/

theorem validateThreshold_ok {threshold shares : Nat} (h : validateThreshold threshold shares = .ok ()) :
    2 ≤ threshold ∧ threshold ≤ shares ∧ shares ≤ 32 := by
  unfold validateThreshold SHARING_MIN_THRESHOLD INTERNAL_SHARE_MAX at h
  split_ifs at h with h₁ h₂ h₃
  omega

theorem validateSecret_ok {profile : SharingProfile} {secret : List UInt8}
    (h : validateSecret profile secret = .ok ()) :
    secret ≠ [] ∧ secret.length ≤ profile.maxSecretLen := by
  unfold validateSecret at h
  split_ifs at h with h₁ h₂
  exact ⟨h₁, by omega⟩

/-- With at most 32 shares no index wraps to zero. -/
theorem index_ne_zero {profile : SharingProfile} (h : profile.shares ≤ 32) {index : UInt8}
    (hi : index ∈ shareIndexes profile) : index ≠ 0 := by
  obtain ⟨n, hn, rfl⟩ := List.mem_map.mp hi
  obtain ⟨h₁, h₂⟩ := List.mem_range'_1.mp hn
  intro h0
  have hz : n % 256 = 0 := by simpa using congrArg UInt8.toNat h0
  omega

/-! ## Reconstruction -/

section Reconstruction

variable {profile : SharingProfile} {secret : List UInt8}

/-- The byte polynomials of a split. -/
def bytePoly (secret : List UInt8) {k : Nat} (random : Fin secret.length → Fin k → UInt8) (offset : Nat) : List Gf256 :=
  if h : offset < secret.length then (coefficients secret[offset] (random ⟨offset, h⟩)).map Gf256.mk else []

theorem bytePoly_zero {k : Nat} (random : Fin secret.length → Fin k → UInt8) :
    ((List.range secret.length).map fun o => (horner (bytePoly secret random o) 0).byte) = secret := by
  refine List.ext_getElem (by simp) fun i h₁ h₂ => ?_
  simp [bytePoly, h₂, coefficients]

theorem length_bytePoly {k : Nat} (random : Fin secret.length → Fin k → UInt8) (o : Nat) :
    (bytePoly secret random o).length ≤ k + 1 := by
  unfold bytePoly
  split <;> simp [coefficients]

/-- A share of a split holds the values of the byte polynomials. -/
theorem share_value {k : Nat} {random : Fin secret.length → Fin k → UInt8} {share : RawShare}
    (h : share.value = List.ofFn fun offset =>
      evaluatePolynomial (coefficients (secret.get offset) (random offset)) share.index)
    {o : Nat} (ho : o < secret.length) :
    share.value.getD o 0 = (horner (bytePoly secret random o) ⟨share.index⟩).byte := by
  rw [h, List.getD_eq_getElem?_getD, List.getElem?_eq_getElem (by simpa using ho)]
  simp [bytePoly, ho, evaluatePolynomial_eq]

/-- **Reconstruction.** -/
theorem combine_split (profile : SharingProfile) (secret : List UInt8)
    (random : Fin secret.length → Fin (profile.threshold - 1) → UInt8)
    (ht : validateThreshold profile.threshold profile.shares = .ok ()) (hs : validateSecret profile secret = .ok ()) :
    ∃ output, split profile secret random = .ok output ∧ ∀ selection : List RawShare, (∀ s ∈ selection, s ∈ output) →
      (selection.map RawShare.index).Nodup → profile.threshold ≤ selection.length →
      combine selection profile.threshold = .ok secret := by
  obtain ⟨ht2, _, h32⟩ := validateThreshold_ok ht
  refine ⟨_, split_ok hs random, fun selection hsub hnd hlen => ?_⟩
  have hmem : ∀ s ∈ selection, s.index ∈ shareIndexes profile ∧ s.value = List.ofFn fun offset =>
      evaluatePolynomial (coefficients secret[offset] (random offset)) s.index :=
    fun s hsel => (mem_shares_iff (f := fun index => List.ofFn fun offset =>
      evaluatePolynomial (coefficients secret[offset] (random offset)) index)).mp (hsub s hsel)
  have hvalid : validateRawShares selection = .ok secret.length := by
    refine (validateRawShares_ok_iff _ _).mpr ⟨?_, fun s hsel => ⟨index_ne_zero h32 (hmem s hsel).1, ?_⟩, hnd⟩
    · rintro rfl
      simp only [List.length_nil] at hlen
      omega
    · rw [(hmem s hsel).2, List.length_ofFn]
  have hcomb := combine_poly hlen hvalid (bytePoly secret random)
    (fun o _ => (length_bytePoly random o).trans (by omega)) fun o ho s hsel => share_value (hmem s hsel).2 ho
  rw [hcomb, bytePoly_zero]

theorem combine_split_two_of_three :
    ∃ output, split ⟨2, 3, 16⟩ [7] (fun _ _ => 5) = .ok output ∧ ∀ selection : List RawShare,
      (∀ s ∈ selection, s ∈ output) → (selection.map RawShare.index).Nodup → 2 ≤ selection.length →
      combine selection 2 = .ok [7] :=
  combine_split ⟨2, 3, 16⟩ [7] (fun _ _ => 5) (by decide) (by decide)

end Reconstruction

/-! ## Secrecy -/

section Secrecy

variable {profile : SharingProfile}

/-- The random choices for which the shares `indexes` of a split are exactly `values`. -/
def compatible (profile : SharingProfile) (secret : List UInt8) (indexes : Fin (profile.threshold - 1) → UInt8)
    (values : Fin (profile.threshold - 1) → List UInt8) :
    Set (Fin secret.length → Fin (profile.threshold - 1) → UInt8) :=
  {random | ∃ output, split profile secret random = .ok output ∧ ∀ i, RawShare.mk (indexes i) (values i) ∈ output}

/-- Exactly one choice of the coefficients of one byte gives the bytes `ys` at distinct nonzero indexes. -/
theorem existsUnique_coefficients {k : Nat} {indexes : Fin k → UInt8} (hinj : Function.Injective indexes)
    (h0 : ∀ i, indexes i ≠ 0) (secretByte : UInt8) (ys : Fin k → UInt8) :
    ∃! random : Fin k → UInt8, ∀ i, evaluatePolynomial (coefficients secretByte random) (indexes i) = ys i := by
  have : Finite Gf256 := Finite.of_equiv _ (Gf256.equivByte.trans ⟨UInt8.toFin, UInt8.ofFin, fun _ => rfl,
    fun _ => rfl⟩).symm
  have hv : Function.Injective fun i => Gf256.mk (indexes i) := fun i j h => hinj (congrArg Gf256.byte h)
  obtain ⟨cs, hcs, huniq⟩ := Shamir.existsUnique_tail hv (fun i h => h0 i (congrArg Gf256.byte h)) ⟨secretByte⟩
    fun i => Gf256.mk (ys i)
  have hmap : ∀ ds : Fin k → Gf256, (coefficients secretByte fun i => (ds i).byte).map Gf256.mk =
      ⟨secretByte⟩ :: List.ofFn ds := by
    intro ds
    rw [coefficients, List.map_cons, List.map_ofFn]
    rfl
  refine ⟨fun i => (cs i).byte, fun i => ?_, fun random hr => ?_⟩
  · rw [evaluatePolynomial_eq, hmap, hcs i]
  · have hds := huniq (fun i => ⟨random i⟩) fun i => by
      refine Gf256.ext' ?_
      rw [← hr i, evaluatePolynomial_eq, ← hmap]
    funext i
    exact congrArg Gf256.byte (congrFun hds i)

/-- A random choice is compatible iff the values have the length of the secret and every byte is right. -/
theorem mem_compatible_iff {secret : List UInt8} (hs : validateSecret profile secret = .ok ())
    {indexes : Fin (profile.threshold - 1) → UInt8} (hmem : ∀ i, indexes i ∈ shareIndexes profile)
    {values : Fin (profile.threshold - 1) → List UInt8} (hlen : ∀ i, (values i).length = secret.length)
    (random : Fin secret.length → Fin (profile.threshold - 1) → UInt8) :
    random ∈ compatible profile secret indexes values ↔ ∀ offset i,
      evaluatePolynomial (coefficients (secret.get offset) (random offset)) (indexes i) = (values i).getD offset 0 := by
  have hok := split_ok hs random
  simp only [compatible, Set.mem_ofPred_eq, hok, Except.ok.injEq, exists_eq_left', mem_shares_iff, hmem, true_and]
  constructor
  · intro h offset i
    rw [h i]
    simp
  · intro h i
    refine List.ext_getElem (by simp [hlen i]) fun o h₁ h₂ => ?_
    have hoff := h ⟨o, by simpa using h₂⟩ i
    rw [List.getElem_ofFn]
    refine Eq.trans ?_ hoff.symm
    simp [h₁]

/-- With values of the right length there is exactly one compatible choice. -/
theorem ncard_compatible {secret : List UInt8} (hs : validateSecret profile secret = .ok ()) (h32 : profile.shares ≤ 32)
    {indexes : Fin (profile.threshold - 1) → UInt8} (hinj : Function.Injective indexes)
    (hmem : ∀ i, indexes i ∈ shareIndexes profile) {values : Fin (profile.threshold - 1) → List UInt8}
    (hlen : ∀ i, (values i).length = secret.length) : (compatible profile secret indexes values).ncard = 1 := by
  have hbyte := fun offset : Fin secret.length =>
    existsUnique_coefficients hinj (fun i => index_ne_zero h32 (hmem i)) secret[offset]
      fun i => (values i).getD offset 0
  choose r hr huniq using hbyte
  refine Set.ncard_eq_one.mpr ⟨r, Set.eq_singleton_iff_unique_mem.mpr ⟨?_, fun random hrand => ?_⟩⟩
  · exact (mem_compatible_iff hs hmem hlen r).mpr hr
  · funext offset
    exact huniq offset _ ((mem_compatible_iff hs hmem hlen random).mp hrand offset)

/-- Values of another length than the secret are never returned. -/
theorem compatible_eq_empty {secret : List UInt8} (hs : validateSecret profile secret = .ok ())
    {indexes : Fin (profile.threshold - 1) → UInt8} {values : Fin (profile.threshold - 1) → List UInt8}
    (hlen : ¬ ∀ i, (values i).length = secret.length) : compatible profile secret indexes values = ∅ := by
  refine Set.eq_empty_of_forall_notMem fun random ⟨output, hout, hsub⟩ => hlen fun i => ?_
  rw [split_ok hs random, Except.ok.injEq] at hout
  have hi := hsub i
  rw [← hout, mem_shares_iff] at hi
  simpa using congrArg List.length hi.2

/-- **Secrecy**: two secrets of one length have the same number of random choices for each view of `threshold - 1`
shares, one when the view has the length of the secrets; byte by byte there is one choice of coefficients. -/
theorem split_secrecy (profile : SharingProfile) (ht : validateThreshold profile.threshold profile.shares = .ok ())
    (indexes : Fin (profile.threshold - 1) → UInt8) (hinj : Function.Injective indexes)
    (hmem : ∀ i, indexes i ∈ shareIndexes profile) (values : Fin (profile.threshold - 1) → List UInt8)
    (secret₁ secret₂ : List UInt8) (h₁ : validateSecret profile secret₁ = .ok ())
    (h₂ : validateSecret profile secret₂ = .ok ()) (hlen : secret₁.length = secret₂.length) :
    (compatible profile secret₁ indexes values).ncard = (compatible profile secret₂ indexes values).ncard ∧
      ((∀ i, (values i).length = secret₁.length) → (compatible profile secret₁ indexes values).ncard = 1) ∧
      ∀ offset : Fin secret₁.length, {random : Fin (profile.threshold - 1) → UInt8 | ∀ i, evaluatePolynomial
        (coefficients secret₁[offset] random) (indexes i) = (values i).getD offset 0}.ncard = 1 := by
  obtain ⟨_, _, h32⟩ := validateThreshold_ok ht
  refine ⟨?_, fun hv => ncard_compatible h₁ h32 hinj hmem hv, fun offset => ?_⟩
  · by_cases hv : ∀ i, (values i).length = secret₁.length
    · rw [ncard_compatible h₁ h32 hinj hmem hv, ncard_compatible h₂ h32 hinj hmem fun i => (hv i).trans hlen]
    · rw [compatible_eq_empty h₁ hv, compatible_eq_empty h₂ (by rwa [← hlen])]
      simp
  · obtain ⟨r, hr, huniq⟩ := existsUnique_coefficients hinj (fun i => index_ne_zero h32 (hmem i)) secret₁[offset]
      fun i => (values i).getD offset 0
    exact Set.ncard_eq_one.mpr ⟨r, Set.eq_singleton_iff_unique_mem.mpr ⟨hr, huniq⟩⟩

theorem split_secrecy_two_of_three :
    (compatible ⟨2, 3, 16⟩ [7] (fun _ => 2) (fun _ => [9])).ncard =
        (compatible ⟨2, 3, 16⟩ [8] (fun _ => 2) (fun _ => [9])).ncard ∧
      (compatible ⟨2, 3, 16⟩ [7] (fun _ => 2) (fun _ => [9])).ncard = 1 := by
  have h := split_secrecy ⟨2, 3, 16⟩ (by decide) (fun _ => 2) (fun i j _ => Subsingleton.elim (α := Fin 1) i j)
    (by decide) (fun _ => [9]) [7] [8] (by decide) (by decide) rfl
  exact ⟨h.1, h.2.1 fun _ => rfl⟩

end Secrecy

end Vectis.Core.Sharing

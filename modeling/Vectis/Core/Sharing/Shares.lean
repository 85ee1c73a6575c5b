import Vectis.Core.Sharing.Gf
import Vectis.Lib.Loop
import Vectis.Lib.Shamir

/-!
# Splitting and combining secrets

`split` and `combine` of `core/sharing.rs`. A secret is split byte by byte: the coefficients of byte `offset` are the
byte itself and `threshold - 1` random bytes, and share `index` holds the value at `index`.

- what `split` returns (`split_ok`, `mem_shares_iff`);
- what `combine` computes on distinct indexes: the Lagrange sum of the first `threshold` shares (`interpolateAt_ok`);
- when the raw shares are accepted (`validateRawShares_ok_iff`).
-/

namespace Vectis.Core.Sharing

open Loop
open Shamir (horner lagrange)

def SHARING_MIN_THRESHOLD : Nat := 2
def INTERNAL_SHARE_MAX : Nat := 32

/-- The fields of `SharingProfile` that splitting and combining read. -/
structure SharingProfile where
  threshold : Nat
  shares : Nat
  maxSecretLen : Nat
  deriving DecidableEq, Repr

structure RawShare where
  index : UInt8
  value : List UInt8
  deriving DecidableEq, Repr

/-! ## Validation -/

def validateThreshold (threshold shares : Nat) : Res Unit :=
  if threshold < SHARING_MIN_THRESHOLD then
    .error (.invalidInput s!"sharing_profiles.threshold must be at least {SHARING_MIN_THRESHOLD}")
  else if shares > INTERNAL_SHARE_MAX then
    .error (.invalidInput s!"sharing_profiles.shares exceeds maximum allowed value: {INTERNAL_SHARE_MAX}")
  else if threshold > shares then
    .error (.invalidInput "sharing_profiles.threshold must be less than or equal to shares")
  else .ok ()

def validateSecret (profile : SharingProfile) (secret : List UInt8) : Res Unit :=
  if secret = [] then .error (.invalidInput "plaintext must not be empty")
  else if secret.length > profile.maxSecretLen then
    .error (.invalidInput "plaintext exceeds sharing profile maximum length")
  else .ok ()

/-- The loop of `validate_raw_shares` over the indexes seen so far. -/
def validateRawSharesLoop (length : Nat) : List UInt8 → List RawShare → Res Unit
  | _, [] => .ok ()
  | indexes, share :: shares =>
    if share.index = 0 ∨ share.index ∈ indexes then .error (.invalidInput "share indexes must be unique")
    else if share.value.length ≠ length then .error (.invalidInput "share payload lengths must match")
    else validateRawSharesLoop length (share.index :: indexes) shares

def validateRawShares : List RawShare → Res Nat
  | [] => .error (.invalidInput "shares must not be empty")
  | first :: shares => do
    validateRawSharesLoop first.value.length [] (first :: shares)
    return first.value.length

/-! ## Splitting -/

/-- `evaluate_polynomial`: Horner's rule from the highest coefficient. -/
def evaluatePolynomial (coefficients : List UInt8) (x : UInt8) : UInt8 :=
  coefficients.reverse.foldl (fun value coefficient => gfMul value x ^^^ coefficient) 0

/-- The indexes `1..=shares`, as bytes. -/
def shareIndexes (profile : SharingProfile) : List UInt8 := (List.range' 1 profile.shares).map Nat.toUInt8

/-- The coefficients of one byte: the byte, then the random bytes drawn for its offset. -/
def coefficients {k : Nat} (secretByte : UInt8) (random : Fin k → UInt8) : List UInt8 := secretByte :: List.ofFn random

/-- The inner loop of `split`: every share gets its value at `offset`. -/
def writeOffset (cs : List UInt8) (offset : Nat) (output : List RawShare) : List RawShare :=
  output.map fun share => { share with value := share.value.set offset (evaluatePolynomial cs share.index) }

/-- `split`, with `random offset` the `threshold - 1` bytes the generator returns for the byte at `offset`. -/
def split (profile : SharingProfile) (secret : List UInt8)
    (random : Fin secret.length → Fin (profile.threshold - 1) → UInt8) : Res (List RawShare) := do
  validateSecret profile secret
  let output := (shareIndexes profile).map fun index => RawShare.mk index (List.replicate secret.length 0)
  return (List.finRange secret.length).foldl
    (fun output offset => writeOffset (coefficients secret[offset] (random offset)) offset output) output

/-! ## Combining -/

/-- The inner loop of `interpolate_at`: the coefficient of the share at position `index`. -/
def basisCoefficient (shares : List RawShare) (index : Nat) (share : RawShare) (x : UInt8) : Res UInt8 :=
  shares.zipIdx.foldlM (fun coefficient other =>
    if index = other.2 then pure coefficient
    else do
      let denominator := share.index ^^^ other.1.index
      return gfMul coefficient (← gfDiv (x ^^^ other.1.index) denominator)) 1

/-- `interpolate_at`; a missing byte, which the equal lengths exclude, reads as 0. -/
def interpolateAt (shares : List RawShare) (offset : Nat) (x : UInt8) : Res UInt8 :=
  shares.zipIdx.foldlM (fun value share => do
    let coefficient ← basisCoefficient shares share.2 share.1 x
    return value ^^^ gfMul (share.1.value.getD offset 0) coefficient) 0

/-- The consistency check of one extra share. -/
def checkExtraShare (basis : List RawShare) (length : Nat) (share : RawShare) : Res Unit :=
  (List.range length).forM fun offset => do
    if (← interpolateAt basis offset share.index) ≠ share.value.getD offset 0 then
      throw (.invalidInput "shares are inconsistent with the sharing set")

def combine (shares : List RawShare) (threshold : Nat) : Res (List UInt8) := do
  if shares.length < threshold then
    throw (.invalidInput "not enough shares to meet sharing profile threshold")
  let length ← validateRawShares shares
  let basis := shares.take threshold
  let secret ← (List.range length).mapM fun offset => interpolateAt basis offset 0
  (shares.drop threshold).forM (checkExtraShare basis length)
  return secret

/-! ## What the loops compute -/

section Loops

variable {α : Type}

theorem zipIdx_eq_ofFn (l : List α) : l.zipIdx = List.ofFn fun i : Fin l.length => (l[i], i.val) := by
  refine List.ext_getElem (by simp) fun i h₁ h₂ => ?_
  simp

/-- Writing every position once gives the written values. -/
theorem foldl_set_getElem? {n : Nat} (f : Fin n → α) : ∀ (l : List (Fin n)) (v : List α) (k : Fin n), k.val < v.length →
    (l.foldl (fun v o => v.set o (f o)) v)[k.val]? = if k ∈ l then some (f k) else v[k.val]?
  | [], _, _, _ => by simp
  | o :: l, v, k, hk => by
    rw [List.foldl_cons, foldl_set_getElem? f l _ k (by simpa using hk), List.getElem?_set]
    by_cases hl : k ∈ l
    · simp [hl]
    · by_cases ho : o = k
      · subst ho; simp [hk]
      · have hv : o.val ≠ k.val := fun h => ho (Fin.ext h)
        simp [hl, hv, Ne.symm ho]

theorem foldl_set_finRange {n : Nat} (f : Fin n → α) (v : List α) (hv : v.length = n) :
    (List.finRange n).foldl (fun v o => v.set o (f o)) v = List.ofFn f := by
  have hlen : ∀ (l : List (Fin n)) (v : List α), (l.foldl (fun v o => v.set o (f o)) v).length = v.length := by
    intro l
    induction l with
    | nil => simp
    | cons o l ih => intro v; rw [List.foldl_cons, ih, List.length_set]
  refine List.ext_getElem? fun i => ?_
  by_cases hi : i < n
  · have h := foldl_set_getElem? f (List.finRange n) v ⟨i, hi⟩ (by simpa [hv] using hi)
    rw [show (⟨i, hi⟩ : Fin n).val = i from rfl] at h
    simp [h, hi]
  · rw [List.getElem?_eq_none (by rw [hlen, hv]; omega), List.getElem?_eq_none (by simp; omega)]

end Loops

/-! ## Polynomials over the byte field -/

/-- `evaluate_polynomial` is Horner evaluation in the field. -/
theorem evaluatePolynomial_eq (cs : List UInt8) (x : UInt8) :
    evaluatePolynomial cs x = (horner (cs.map Gf256.mk) ⟨x⟩).byte := by
  rw [evaluatePolynomial, List.foldl_reverse]
  induction cs with
  | nil => rfl
  | cons c cs ih => rw [List.foldr_cons, ih]; rfl

/-- What `split` returns: share `index` holds the values of the byte polynomials at `index`. -/
theorem split_ok {profile : SharingProfile} {secret : List UInt8} (hs : validateSecret profile secret = .ok ())
    (random : Fin secret.length → Fin (profile.threshold - 1) → UInt8) :
    split profile secret random = .ok ((shareIndexes profile).map fun index => RawShare.mk index (List.ofFn
      fun offset => evaluatePolynomial (coefficients secret[offset] (random offset)) index)) := by
  have hmap : ∀ (l : List (Fin secret.length)) (out : List RawShare),
      l.foldl (fun output offset => writeOffset (coefficients secret[offset] (random offset)) offset output) out =
        out.map fun share => RawShare.mk share.index (l.foldl (fun v (offset : Fin secret.length) => v.set offset
          (evaluatePolynomial (coefficients secret[offset] (random offset)) share.index)) share.value) := by
    intro l
    induction l with
    | nil => simp
    | cons o l ih => intro out; rw [List.foldl_cons, ih, writeOffset, List.map_map]; rfl
  rw [split, hs]
  simp only [hmap, List.map_map]
  refine congrArg Except.ok (List.map_congr_left fun index _ => ?_)
  simp only [Function.comp_apply]
  rw [foldl_set_finRange _ _ (by simp)]

/-- The share with a given index and value is returned iff the index is one of `1..=shares` and the value is right. -/
theorem mem_shares_iff {profile : SharingProfile} {f : UInt8 → List UInt8} {share : RawShare} :
    share ∈ (shareIndexes profile).map (fun index => RawShare.mk index (f index)) ↔
      share.index ∈ shareIndexes profile ∧ share.value = f share.index := by
  rw [List.mem_map]
  constructor
  · rintro ⟨index, h, rfl⟩; exact ⟨h, rfl⟩
  · rintro ⟨h, hv⟩; exact ⟨share.index, h, by rw [← hv]⟩

/-! ## Interpolation -/

section Interpolation

variable {shares : List RawShare}

/-- The points of a list of shares. -/
def points (shares : List RawShare) (i : Fin shares.length) : Gf256 := ⟨shares[i].index⟩

/-- The polynomial through the points of the shares at byte `offset`. -/
noncomputable def sharePoly (shares : List RawShare) (offset : Nat) : Polynomial Gf256 :=
  Lagrange.interpolate Finset.univ (points shares) fun i => ⟨shares[i].value.getD offset 0⟩

theorem points_injective (h : (shares.map RawShare.index).Nodup) : Function.Injective (points shares) := by
  intro i j hij
  have hb : shares[i].index = shares[j].index := congrArg Gf256.byte hij
  have hi : i.val < (shares.map RawShare.index).length := by simp
  have hj : j.val < (shares.map RawShare.index).length := by simp
  have hget : (shares.map RawShare.index)[i.val] = (shares.map RawShare.index)[j.val] := by simpa using hb
  exact Fin.ext (h.getElem_inj_iff.mp hget)

theorem basisCoefficient_ok (h : (shares.map RawShare.index).Nodup) (i : Fin shares.length) (x : UInt8) :
    basisCoefficient shares i shares[i] x = .ok (lagrange (points shares) ⟨x⟩ i).byte := by
  let q : RawShare × Nat → Gf256 := fun o =>
    if i.val = o.2 then 1 else (⟨x⟩ - ⟨o.1.index⟩) / (⟨shares[i].index⟩ - ⟨o.1.index⟩)
  have hstep : ∀ o ∈ shares.zipIdx, ∀ c : UInt8, (if i.val = o.2 then pure c else do
      let denominator := shares[i].index ^^^ o.1.index
      return gfMul c (← gfDiv (x ^^^ o.1.index) denominator) : Res UInt8) = .ok (Gf256.mk c * q o).byte := by
    intro o ho c
    rw [zipIdx_eq_ofFn, List.mem_ofFn] at ho
    obtain ⟨j, rfl⟩ := ho
    by_cases hij : i.val = j.val
    · simp only [q, hij, if_true, mul_one]; rfl
    · have hne : shares[i].index ^^^ shares[j].index ≠ 0 := by
        intro hz
        refine hij (congrArg Fin.val (points_injective h (sub_eq_zero.mp ?_)))
        exact Gf256.ext' hz
      simp only [q, hij, if_false, gfDiv, hne]; rfl
  rw [basisCoefficient, foldlM_ok (g := fun c o => (Gf256.mk c * q o).byte) _ _ hstep]
  refine congrArg Except.ok ?_
  have hhom : ∀ (l : List (RawShare × Nat)) (c : Gf256),
      l.foldl (fun c o => (Gf256.mk c * q o).byte) c.byte = (c * (l.map q).prod).byte := by
    intro l
    induction l with
    | nil => simp
    | cons o l ih => intro c; rw [List.foldl_cons, ih, List.map_cons, List.prod_cons, mul_assoc]
  rw [show (1 : UInt8) = (1 : Gf256).byte from rfl, hhom, one_mul, zipIdx_eq_ofFn, List.map_ofFn, List.prod_ofFn]
  congr 1
  refine Finset.prod_congr rfl fun j _ => ?_
  simp only [Function.comp_apply, q, points, Fin.ext_iff]

/-- On distinct indexes `interpolate_at` returns the Lagrange sum. -/
theorem interpolateAt_ok (h : (shares.map RawShare.index).Nodup) (offset : Nat) (x : UInt8) :
    interpolateAt shares offset x =
      .ok (∑ i : Fin shares.length, Gf256.mk (shares[i].value.getD offset 0) * lagrange (points shares)
        ⟨x⟩ i).byte := by
  let q : RawShare × Nat → Gf256 := fun o => if hi : o.2 < shares.length then
    Gf256.mk (o.1.value.getD offset 0) * lagrange (points shares) ⟨x⟩ ⟨o.2, hi⟩ else 0
  have hstep : ∀ o ∈ shares.zipIdx, ∀ v : UInt8, (do
      let coefficient ← basisCoefficient shares o.2 o.1 x
      return v ^^^ gfMul (o.1.value.getD offset 0) coefficient : Res UInt8) = .ok (Gf256.mk v + q o).byte := by
    intro o ho v
    rw [zipIdx_eq_ofFn, List.mem_ofFn] at ho
    obtain ⟨j, rfl⟩ := ho
    simp only [basisCoefficient_ok h j x, q, j.isLt, dif_pos]; rfl
  rw [interpolateAt, foldlM_ok (g := fun v o => (Gf256.mk v + q o).byte) _ _ hstep]
  refine congrArg Except.ok ?_
  have hhom : ∀ (l : List (RawShare × Nat)) (v : Gf256),
      l.foldl (fun v o => (Gf256.mk v + q o).byte) v.byte = (v + (l.map q).sum).byte := by
    intro l
    induction l with
    | nil => simp
    | cons o l ih => intro v; rw [List.foldl_cons, ih, List.map_cons, List.sum_cons, add_assoc]
  rw [show (0 : UInt8) = (0 : Gf256).byte from rfl, hhom, zero_add, zipIdx_eq_ofFn, List.map_ofFn, List.sum_ofFn]
  congr 1
  refine Finset.sum_congr rfl fun j _ => ?_
  simp only [Function.comp_apply, q, j.isLt, dif_pos]; rfl

/-- Shares whose bytes lie on a polynomial with at most as many coefficients interpolate to it. -/
theorem interpolateAt_poly (h : (shares.map RawShare.index).Nodup) {offset : Nat} {cs : List Gf256}
    (hlen : cs.length ≤ shares.length)
    (hval : ∀ s ∈ shares, s.value.getD offset 0 = (horner cs ⟨s.index⟩).byte) (x : UInt8) :
    interpolateAt shares offset x = .ok (horner cs ⟨x⟩).byte := by
  rw [interpolateAt_ok h, ← Shamir.lagrange_horner (points_injective h) hlen]
  refine congrArg (fun a : Gf256 => Except.ok a.byte) (Finset.sum_congr rfl fun i _ => ?_)
  rw [show Gf256.mk (shares[i].value.getD offset 0) = horner cs (points shares i) from
    Gf256.ext' (hval _ (List.getElem_mem _))]

end Interpolation

/-! ## The checks of `combine` -/

theorem validateRawSharesLoop_ok_iff (length : Nat) : ∀ (seen : List UInt8) (shares : List RawShare),
    validateRawSharesLoop length seen shares = .ok () ↔ (∀ s ∈ shares, s.index ≠ 0 ∧ s.value.length = length) ∧
      (shares.map RawShare.index).Nodup ∧ ∀ s ∈ shares, s.index ∉ seen
  | _, [] => by simp [validateRawSharesLoop]
  | seen, share :: shares => by
    rw [validateRawSharesLoop]
    split_ifs with h₁ h₂
    · simp only [false_iff]
      rintro ⟨h, -, hs⟩
      rcases h₁ with h0 | hm
      · exact (h share List.mem_cons_self).1 h0
      · exact hs share List.mem_cons_self hm
    · simp only [false_iff]
      rintro ⟨h, -⟩
      exact h₂ (h share List.mem_cons_self).2
    · push Not at h₁ h₂
      rw [validateRawSharesLoop_ok_iff length (share.index :: seen) shares]
      simp only [List.mem_cons, List.map_cons, List.nodup_cons, List.mem_map, not_or, forall_eq_or_imp]
      constructor
      · rintro ⟨h, hnd, hs⟩
        exact ⟨⟨⟨h₁.1, h₂⟩, h⟩, ⟨fun ⟨s, hs', he⟩ => (hs s hs').1 he, hnd⟩, h₁.2, fun s hs' => (hs s hs').2⟩
      · rintro ⟨⟨-, h⟩, ⟨hn, hnd⟩, -, hs⟩
        exact ⟨h, hnd, fun s hs' => ⟨fun he => hn ⟨s, hs', he⟩, hs s hs'⟩⟩

/-- Raw shares are accepted iff there is one, their lengths agree and their indexes are distinct and nonzero. -/
theorem validateRawShares_ok_iff (shares : List RawShare) (length : Nat) :
    validateRawShares shares = .ok length ↔ shares ≠ [] ∧ (∀ s ∈ shares, s.index ≠ 0 ∧ s.value.length = length) ∧
      (shares.map RawShare.index).Nodup := by
  cases shares with
  | nil => simp [validateRawShares]
  | cons first shares =>
    simp only [validateRawShares, ne_eq, reduceCtorEq, not_false_eq_true, true_and]
    cases hl : validateRawSharesLoop first.value.length [] (first :: shares) with
    | error e =>
      simp only [bind, Except.bind, reduceCtorEq, false_iff]
      rintro ⟨h, hnd⟩
      have hlen : first.value.length = length := (h first List.mem_cons_self).2
      have := (validateRawSharesLoop_ok_iff first.value.length [] (first :: shares)).mpr
        ⟨by rw [hlen]; exact h, hnd, fun _ _ => List.not_mem_nil⟩
      rw [hl] at this
      cases this
    | ok u =>
      obtain ⟨h, hnd, -⟩ := (validateRawSharesLoop_ok_iff _ _ _).mp hl
      simp only [bind, Except.bind, pure, Except.pure, Except.ok.injEq]
      constructor
      · rintro rfl; exact ⟨h, hnd⟩
      · rintro ⟨h', -⟩; exact (h' first List.mem_cons_self).2

/-- Accepted shares, all on the byte polynomials `P offset`, combine to the constant coefficients. -/
theorem combine_poly {shares : List RawShare} {threshold length : Nat} (ht : threshold ≤ shares.length)
    (hv : validateRawShares shares = .ok length) (P : Nat → List Gf256) (hP : ∀ o < length, (P o).length ≤ threshold)
    (hval : ∀ o < length, ∀ s ∈ shares, s.value.getD o 0 = (horner (P o) ⟨s.index⟩).byte) :
    combine shares threshold = .ok ((List.range length).map fun o => (horner (P o) 0).byte) := by
  have hnd := ((validateRawShares_ok_iff shares length).mp hv).2.2
  have hbasis : ((shares.take threshold).map RawShare.index).Nodup := by
    rw [List.map_take]; exact hnd.sublist (List.take_sublist _ _)
  have hint : ∀ o < length, ∀ x, interpolateAt (shares.take threshold) o x = .ok (horner (P o) ⟨x⟩).byte := by
    intro o ho x
    refine interpolateAt_poly hbasis ?_ (fun s hs => hval o ho s (List.mem_of_mem_take hs)) x
    rw [List.length_take, Nat.min_eq_left ht]
    exact hP o ho
  have hextra : (shares.drop threshold).forM (checkExtraShare (shares.take threshold) length) = .ok () := by
    refine forM_ok _ fun s hs => forM_ok _ fun o ho => ?_
    have ho' := List.mem_range.mp ho
    rw [hint o ho', hval o ho' s (List.mem_of_mem_drop hs)]
    simp [bind, Except.bind, pure, Except.pure]
  have hsec : (List.range length).mapM (fun o => interpolateAt (shares.take threshold) o 0) =
      .ok ((List.range length).map fun o => (horner (P o) 0).byte) :=
    mapM_ok _ fun o ho => hint o (List.mem_range.mp ho) 0
  rw [combine, if_neg (by omega)]
  simp only [hv, hsec, hextra, bind, Except.bind, pure, Except.pure]

end Vectis.Core.Sharing

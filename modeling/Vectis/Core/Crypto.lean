import Mathlib.Data.Set.Defs
import Vectis.Core.Error

/-!
# Symmetric ciphers

The supported ciphers with the sizes of their keys and nonces (`core/crypto.rs`). The ciphers themselves are a parameter
(`Aead`); what an ideal one opens is what was sealed (`Aead.Ideal`).
-/

namespace Vectis.Core.Crypto

structure SymmetricCipherSpec where
  algorithm : String
  keySizeBytes : Nat
  nonceSizeBytes : Nat
  deriving DecidableEq, Repr

def symmetricCipher (algorithm : String) : Option SymmetricCipherSpec :=
  match algorithm with
  | "ChaCha20Poly1305" => some ⟨"ChaCha20Poly1305", 32, 24⟩
  | "AES-128/GCM" => some ⟨"AES-128/GCM", 16, 12⟩
  | "AES-192/GCM" => some ⟨"AES-192/GCM", 24, 12⟩
  | "AES-256/GCM" => some ⟨"AES-256/GCM", 32, 12⟩
  | _ => none

def symmetricAlgorithms : List String := ["ChaCha20Poly1305", "AES-128/GCM", "AES-192/GCM", "AES-256/GCM"]

theorem symmetricCipher_some {algorithm : String} {cipher : SymmetricCipherSpec}
    (h : symmetricCipher algorithm = some cipher) : cipher.algorithm = algorithm ∧ algorithm ∈ symmetricAlgorithms := by
  unfold symmetricCipher at h
  split at h <;> cases h <;> exact ⟨rfl, by decide⟩

/-- The loop of `constant_time_eq`. -/
def differences (diff : UInt8) : List (UInt8 × UInt8) → UInt8
  | [] => diff
  | (left, right) :: rest => differences (diff ||| (left ^^^ right)) rest

def constantTimeEq (left right : List UInt8) : Bool :=
  if left.length ≠ right.length then false else differences 0 (left.zip right) = 0

theorem differences_eq_zero {diff : UInt8} {pairs : List (UInt8 × UInt8)} :
    differences diff pairs = 0 ↔ diff = 0 ∧ ∀ pair ∈ pairs, pair.1 = pair.2 := by
  induction pairs generalizing diff with
  | nil => simp [differences]
  | cons pair pairs ih =>
    rw [differences, ih, UInt8.or_eq_zero_iff, UInt8.xor_eq_zero_iff, List.forall_mem_cons, and_assoc]

theorem constantTimeEq_iff {left right : List UInt8} : constantTimeEq left right = true ↔ left = right := by
  unfold constantTimeEq
  split
  · rename_i hne
    simp only [Bool.false_eq_true, false_iff]
    exact fun h => hne (congrArg List.length h)
  · rename_i hlen
    rw [decide_eq_true_eq, differences_eq_zero]
    constructor
    · rintro ⟨-, h⟩
      apply List.ext_getElem (Decidable.not_not.mp hlen)
      intro i hl hr
      exact h (left[i], right[i]) (List.mem_iff_getElem.mpr ⟨i, by rw [List.length_zip]; omega, by simp⟩)
    · rintro rfl
      refine ⟨rfl, fun pair hpair => ?_⟩
      obtain ⟨i, hi, rfl⟩ := List.mem_iff_getElem.mp hpair
      simp

/-- `create_hmac`: the key and the message. -/
abbrev Hmac := List UInt8 → List UInt8 → Res (List UInt8)

/-- `encrypt_symmetric` and `decrypt_symmetric`. -/
structure Aead where
  encrypt : (algorithm : String) → (plaintext key nonce aad : List UInt8) → Res (List UInt8)
  decrypt : (algorithm : String) → (ciphertext key nonce aad : List UInt8) → Res (List UInt8)

/-- One encryption. -/
structure Sealing where
  algorithm : String
  key : List UInt8
  nonce : List UInt8
  aad : List UInt8
  plaintext : List UInt8
  ciphertext : List UInt8
  deriving DecidableEq, Repr

/-- The encryption did take place as recorded. -/
def Sealing.By (sealing : Sealing) (aead : Aead) : Prop :=
  aead.encrypt sealing.algorithm sealing.plaintext sealing.key sealing.nonce sealing.aad = .ok sealing.ciphertext

/-- The tag at the end of a ciphertext. -/
def tagSizeBytes : Nat := 16

/-- The cipher opens what was sealed, under the same key, nonce and associated data, and a ciphertext is sealed once. -/
structure Aead.Ideal (aead : Aead) (ledger : Set Sealing) : Prop where
  sealed : ∀ s ∈ ledger, s.By aead
  opens : ∀ s ∈ ledger, aead.decrypt s.algorithm s.ciphertext s.key s.nonce s.aad = .ok s.plaintext
  authentic : ∀ algorithm ciphertext key nonce aad plaintext,
    aead.decrypt algorithm ciphertext key nonce aad = .ok plaintext →
      ⟨algorithm, key, nonce, aad, plaintext, ciphertext⟩ ∈ ledger
  distinct : ∀ s ∈ ledger, ∀ t ∈ ledger, s.ciphertext = t.ciphertext → s = t
  length : ∀ s ∈ ledger, s.ciphertext.length = s.plaintext.length + tagSizeBytes

/-- Every plaintext is encrypted under a key and a nonce of the right sizes, with a tag at the end. -/
def Aead.Total (aead : Aead) : Prop := ∀ algorithm cipher plaintext key nonce aad, symmetricCipher algorithm =
  some cipher →
  key.length = cipher.keySizeBytes → nonce.length = cipher.nonceSizeBytes →
    ∃ ciphertext, aead.encrypt algorithm plaintext key nonce aad = .ok ciphertext ∧
      ciphertext.length = plaintext.length + tagSizeBytes

/-- A ciphertext is longer than its plaintext by the tag. -/
structure Aead.Tagged (aead : Aead) : Prop where
  encrypt : ∀ algorithm plaintext key nonce aad ciphertext, aead.encrypt algorithm plaintext key nonce aad =
    .ok ciphertext →
    ciphertext.length = plaintext.length + tagSizeBytes
  decrypt : ∀ algorithm ciphertext key nonce aad plaintext, aead.decrypt algorithm ciphertext key nonce aad =
    .ok plaintext →
    ciphertext.length = plaintext.length + tagSizeBytes

/-- What was encrypted is decrypted. -/
def Aead.Opens (aead : Aead) : Prop := ∀ algorithm plaintext key nonce aad ciphertext,
  aead.encrypt algorithm plaintext key nonce aad = .ok ciphertext →
    aead.decrypt algorithm ciphertext key nonce aad = .ok plaintext

/-! ## An ideal cipher -/

/-- The cipher that has made these encryptions, and opens them. -/
def Aead.ofSealings (sealings : List Sealing) : Aead where
  encrypt algorithm plaintext key nonce aad :=
    match sealings.find? fun s => s.algorithm = algorithm ∧ s.plaintext = plaintext ∧ s.key = key ∧ s.nonce = nonce ∧
        s.aad = aad with
    | some s => .ok s.ciphertext
    | none => .ok (plaintext ++ List.replicate tagSizeBytes 0)
  decrypt algorithm ciphertext key nonce aad :=
    match sealings.find? fun s => s.algorithm = algorithm ∧ s.ciphertext = ciphertext ∧ s.key = key ∧ s.nonce = nonce ∧
        s.aad = aad with
    | some s => .ok s.plaintext
    | none => .error (.other "tag mismatch")

theorem Aead.ideal_ofSealings {sealings : List Sealing} {ledger : Set Sealing} (hledger : ∀ s, s ∈ ledger ↔
    s ∈ sealings) (hsame : ∀ s ∈ sealings, ∀ t ∈ sealings, s.plaintext = t.plaintext → s.nonce = t.nonce →
    s.aad = t.aad → s = t)
    (hdistinct : ∀ s ∈ sealings, ∀ t ∈ sealings, s.ciphertext = t.ciphertext → s = t)
    (hlength : ∀ s ∈ sealings, s.ciphertext.length = s.plaintext.length + tagSizeBytes) :
    (Aead.ofSealings sealings).Ideal ledger where
  sealed := by
    intro s hs
    rw [hledger] at hs
    unfold Sealing.By ofSealings
    simp only
    split
    · rename_i t ht
      have hmem := List.mem_of_find?_eq_some ht
      have hfound := List.find?_some ht
      simp only [decide_eq_true_eq] at hfound
      rw [hsame t hmem s hs hfound.2.1 hfound.2.2.2.1 hfound.2.2.2.2]
    · rename_i hnone
      exact absurd (List.find?_eq_none.mp hnone s hs) (by simp)
  opens := by
    intro s hs
    rw [hledger] at hs
    unfold ofSealings
    simp only
    split
    · rename_i t ht
      have hmem := List.mem_of_find?_eq_some ht
      have hfound := List.find?_some ht
      simp only [decide_eq_true_eq] at hfound
      rw [hdistinct t hmem s hs hfound.2.1]
    · rename_i hnone
      exact absurd (List.find?_eq_none.mp hnone s hs) (by simp)
  authentic := by
    intro algorithm ciphertext key nonce aad plaintext h
    unfold ofSealings at h
    simp only at h
    split at h
    · rename_i t ht
      have hmem := List.mem_of_find?_eq_some ht
      have hfound := List.find?_some ht
      simp only [decide_eq_true_eq] at hfound
      obtain ⟨rfl, rfl, rfl, rfl, rfl⟩ := hfound
      cases h
      exact (hledger t).mpr hmem
    · cases h
  distinct := fun s hs t ht => hdistinct s ((hledger s).mp hs) t ((hledger t).mp ht)
  length := fun s hs => hlength s ((hledger s).mp hs)

theorem Aead.total_ofSealings {sealings : List Sealing}
    (hlength : ∀ s ∈ sealings, s.ciphertext.length = s.plaintext.length + tagSizeBytes) :
    (Aead.ofSealings sealings).Total := by
  intro algorithm cipher plaintext key nonce aad _ _ _
  simp only [ofSealings]
  split
  · rename_i s hs
    have hfound := List.find?_some hs
    simp only [decide_eq_true_eq] at hfound
    exact ⟨_, rfl, by rw [hlength s (List.mem_of_find?_eq_some hs), hfound.2.1]⟩
  · exact ⟨_, rfl, by rw [List.length_append, List.length_replicate]⟩

end Vectis.Core.Crypto

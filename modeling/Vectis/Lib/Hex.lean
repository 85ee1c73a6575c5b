import Mathlib.Data.List.Basic
import Vectis.Lib.Utf8

/-!
# Hex digits

Bytes as pairs of hex digits. The encoder writes lowercase digits, the decoder reads both cases.

- `decode_encode`: what is written is read back;
- `encode_of_decode`: a text denotes the bytes whose encoding is its lowercase form, so two texts denote the same bytes
  exactly when they agree up to the case of their letters (`lower_eq_iff`).
-/

namespace Hex

/-! ## Encoding and decoding -/

def digit (n : Nat) : Char := if n < 10 then Char.ofNat (48 + n) else Char.ofNat (87 + n)

def encode (bytes : List UInt8) : String :=
  String.ofList (bytes.flatMap fun byte => [digit (byte.toNat / 16), digit (byte.toNat % 16)])

def value (c : Char) : Option Nat :=
  if 0x30 ≤ c.val ∧ c.val ≤ 0x39 then some (c.toNat - 48)
  else if 0x61 ≤ c.val ∧ c.val ≤ 0x66 then some (c.toNat - 87)
  else if 0x41 ≤ c.val ∧ c.val ≤ 0x46 then some (c.toNat - 55)
  else none

def decodeChars : List Char → Option (List UInt8)
  | [] => some []
  | [_] => none
  | high :: low :: rest =>
    match value high, value low, decodeChars rest with
    | some h, some l, some bytes => some (UInt8.ofNat (16 * h + l) :: bytes)
    | _, _, _ => none

def decode (text : String) : Option (List UInt8) := decodeChars text.toList

/-- `str::to_ascii_lowercase`. -/
def lower (text : String) : String := String.ofList (text.toList.map Char.toLower)

/-! ## Digits -/

theorem value_digit : ∀ n : Fin 16, value (digit n.val) = some n.val := by decide

theorem digit_value_ascii : ∀ k : Fin 128, ∀ n ∈ value (Char.ofNat k), n < 16 ∧
    digit n = (Char.ofNat k).toLower := by decide

theorem digit_value {c : Char} {n : Nat} (h : value c = some n) : n < 16 ∧ digit n = c.toLower := by
  have hc : c.toNat < 128 := by
    by_contra hge
    have hval : ¬ c.val ≤ 0x66 := by
      intro hle
      have hle' : c.toNat ≤ 0x66 := UInt32.le_iff_toNat_le.mp hle
      omega
    have hbig : ∀ k : UInt32, k ≤ 0x66 → ¬ c.val ≤ k := fun k hk hck => hval (UInt32.le_trans hck hk)
    simp [value, hbig 0x39 (by decide), hbig 0x46 (by decide), hval] at h
  have := digit_value_ascii ⟨c.toNat, hc⟩ n (by simpa [Char.ofNat_toNat] using h)
  simpa [Char.ofNat_toNat] using this

/-! ## Round trips -/

theorem decode_encode (bytes : List UInt8) : decode (encode bytes) = some bytes := by
  unfold decode encode
  rw [String.toList_ofList]
  induction bytes with
  | nil => rfl
  | cons byte bytes ih =>
    have hbyte := byte.toNat_lt
    have hhigh := value_digit ⟨byte.toNat / 16, by omega⟩
    have hlow := value_digit ⟨byte.toNat % 16, by omega⟩
    simp only [List.flatMap_cons, List.cons_append, List.nil_append, decodeChars, hhigh, hlow, ih]
    rw [Nat.div_add_mod, UInt8.ofNat_toNat]

theorem encode_decodeChars : ∀ {text : List Char} {bytes : List UInt8}, decodeChars text = some bytes →
    (bytes.flatMap fun byte => [digit (byte.toNat / 16), digit (byte.toNat % 16)]) = text.map Char.toLower
  | [], bytes, h => by
    cases h
    rfl
  | [_], _, h => by cases h
  | high :: low :: rest, bytes, h => by
    unfold decodeChars at h
    split at h
    · rename_i hi lo tail hhigh hlow htail
      cases h
      obtain ⟨hhi, hdhi⟩ := digit_value hhigh
      obtain ⟨hlo, hdlo⟩ := digit_value hlow
      have hbyte : (UInt8.ofNat (16 * hi + lo)).toNat = 16 * hi + lo :=
        UInt8.toNat_ofNat_of_lt' (by change _ < 256; omega)
      have hdiv : (16 * hi + lo) / 16 = hi := by omega
      have hmod : (16 * hi + lo) % 16 = lo := by omega
      rw [List.flatMap_cons, encode_decodeChars htail, hbyte, hdiv, hmod, hdhi, hdlo]
      rfl
    · cases h

theorem encode_of_decode {text : String} {bytes : List UInt8} (h : decode text = some bytes) :
    encode bytes = lower text := by
  unfold encode lower
  rw [encode_decodeChars h]

theorem encode_injective {as bs : List UInt8} (h : encode as = encode bs) : as = bs := by
  have := decode_encode as
  rw [h, decode_encode] at this
  exact (Option.some.inj this).symm

/-- Two texts of bytes denote the same bytes exactly when they agree up to the case of their letters. -/
theorem lower_eq_iff {s t : String} {as bs : List UInt8} (hs : decode s = some as) (ht : decode t = some bs) :
    lower s = lower t ↔ as = bs := by
  rw [← encode_of_decode hs, ← encode_of_decode ht]
  exact ⟨encode_injective, congrArg encode⟩

/-- An even number of hex digits is a text of bytes. -/
theorem decodeChars_some : ∀ {text : List Char}, text.length % 2 = 0 → (∀ c ∈ text, (value c).isSome) →
    ∃ bytes, decodeChars text = some bytes
  | [], _, _ => ⟨[], rfl⟩
  | [_], h, _ => by cases h
  | high :: low :: rest, h, hall => by
    obtain ⟨hi, hhigh⟩ := Option.isSome_iff_exists.mp (hall high (by simp))
    obtain ⟨lo, hlow⟩ := Option.isSome_iff_exists.mp (hall low (by simp))
    have hlen : rest.length % 2 = 0 := by
      simp only [List.length_cons] at h
      omega
    obtain ⟨bytes, hrest⟩ := decodeChars_some hlen fun c hc => hall c (by simp [hc])
    refine ⟨UInt8.ofNat (16 * hi + lo) :: bytes, ?_⟩
    simp only [decodeChars, hhigh, hlow, hrest]

end Hex

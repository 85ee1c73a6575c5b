import Mathlib.Algebra.BigOperators.Group.List.Basic
import Mathlib.Algebra.Order.Ring.Nat

/-!
# UTF-8 bytes of a string

`encode` gives the bytes of a string and `decode` reads them back; no byte of another character is a line feed.
-/

namespace Utf8

def encode (s : String) : List UInt8 := s.toByteArray.data.toList

def decode (bytes : List UInt8) : Option String := String.fromUTF8? ⟨bytes.toArray⟩

@[simp]
theorem decode_encode (s : String) : decode (encode s) = some s := by
  have hvalid := s.isValidUTF8
  simp [decode, encode, String.fromUTF8?, hvalid, String.fromUTF8]

theorem encode_of_decode {bytes : List UInt8} {s : String} (h : decode bytes = some s) : encode s = bytes := by
  unfold decode String.fromUTF8? at h
  split at h
  · cases h
    rfl
  · cases h

theorem encode_injective {s t : String} (h : encode s = encode t) : s = t := by
  have hs := decode_encode s
  rw [h, decode_encode] at hs
  exact (Option.some.inj hs).symm

theorem length_encode (s : String) : (encode s).length = s.utf8ByteSize := rfl

theorem encode_ofList (cs : List Char) : encode (String.ofList cs) = cs.flatMap String.utf8EncodeChar := by
  simp [encode, String.ofList, List.utf8Encode]

theorem utf8ByteSize_ofList (cs : List Char) : (String.ofList cs).utf8ByteSize = (cs.map Char.utf8Size).sum := by
  rw [← length_encode, encode_ofList, List.length_flatMap]
  simp

theorem length_le_utf8ByteSize (s : String) : s.length ≤ s.utf8ByteSize := by
  rw [← String.ofList_toList (s := s), utf8ByteSize_ofList, String.length_ofList]
  generalize s.toList = cs
  induction cs with
  | nil => exact Nat.le_refl _
  | cons c cs ih =>
    have := c.utf8Size_pos
    rw [List.map_cons, List.sum_cons, List.length_cons]
    omega

/-- An ASCII text has one byte for each character. -/
theorem utf8ByteSize_ascii {s : String} (h : ∀ c ∈ s.toList, c.val ≤ 127) : s.utf8ByteSize = s.toList.length := by
  have hsize : s.utf8ByteSize = (s.toList.map Char.utf8Size).sum := by
    rw [← utf8ByteSize_ofList, String.ofList_toList]
  have hone : s.toList.map Char.utf8Size = s.toList.map fun _ => 1 :=
    List.map_congr_left fun c hc => Char.utf8Size_eq_one_iff.mpr (h c hc)
  rw [hsize, hone]
  simp

theorem newline_ne_ofNat {n : Nat} (hge : 128 ≤ n) (hlt : n < 256) : (10 : UInt8) ≠ UInt8.ofNat n := by
  intro h
  have hn := congrArg UInt8.toNat h
  rw [UInt8.toNat_ofNat_of_lt' hlt] at hn
  have h10 : (10 : UInt8).toNat = 10 := rfl
  omega

/-- Beyond ASCII all bytes have the high bit. -/
theorem eq_newline_of_mem {c : Char} (h : (10 : UInt8) ∈ String.utf8EncodeChar c) : c = '\n' := by
  unfold String.utf8EncodeChar at h
  simp only at h
  split at h
  · rename_i hascii
    have hn := congrArg UInt8.toNat (List.mem_singleton.mp h)
    rw [UInt8.toNat_ofNat_of_lt' (show c.val.toNat < 256 by omega)] at hn
    have h10 : (10 : UInt8).toNat = 10 := rfl
    exact Char.toNat_inj.mp (by rw [h10] at hn; exact hn.symm)
  · have hlow : ∀ n, (10 : UInt8) ≠ UInt8.ofNat (n % 0x40 + 0x80) := fun n => newline_ne_ofNat (by omega) (by omega)
    have h2 : ∀ n, (10 : UInt8) ≠ UInt8.ofNat (n % 0x20 + 0xc0) := fun n => newline_ne_ofNat (by omega) (by omega)
    have h3 : ∀ n, (10 : UInt8) ≠ UInt8.ofNat (n % 0x10 + 0xe0) := fun n => newline_ne_ofNat (by omega) (by omega)
    have h4 : ∀ n, (10 : UInt8) ≠ UInt8.ofNat (n % 0x08 + 0xf0) := fun n => newline_ne_ofNat (by omega) (by omega)
    split at h
    · simp only [List.mem_cons, hlow, h2, List.not_mem_nil, or_self] at h
    · split at h
      · simp only [List.mem_cons, hlow, h3, List.not_mem_nil, or_self] at h
      · simp only [List.mem_cons, hlow, h4, List.not_mem_nil, or_self] at h

/-- The bytes of a string without line feeds have none. -/
theorem newline_not_mem_encode {s : String} (h : '\n' ∉ s.toList) : (10 : UInt8) ∉ encode s := by
  rw [← String.ofList_toList (s := s), encode_ofList, List.mem_flatMap]
  rintro ⟨c, hc, hmem⟩
  exact h (eq_newline_of_mem hmem ▸ hc)

end Utf8

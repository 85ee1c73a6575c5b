import Vectis.Core.Error
import Vectis.Lib.Hex
import Vectis.Lib.Loop
import Vectis.Lib.Utf8

/-!
# Field validation

The checks of `core/validation.rs` that the storage layer and the audit chain use, with their messages.

- `validateHashHexField`: the hex digits of a hash of the named algorithm; for the internal one these are 64 hex digits
  (`validateInternalHash_ok_iff`);
- `validateBase64StandardEnvelopeSegments`: three base64 segments separated by dots. The base64 decoder is a parameter.
-/

namespace Vectis.Core.Validation

/-! ## Characters -/

/-- `char::is_control`: the Unicode category Cc. -/
def isControl (c : Char) : Bool := c.val < 0x20 || (0x7f ≤ c.val && c.val < 0xa0)

/-- `char::is_whitespace`: the Unicode property White_Space. -/
def isWhitespace (c : Char) : Bool :=
  (0x09 ≤ c.val && c.val ≤ 0x0d) || c.val = 0x20 || c.val = 0x85 || c.val = 0xa0 || c.val = 0x1680 ||
    (0x2000 ≤ c.val && c.val ≤ 0x200a) || c.val = 0x2028 || c.val = 0x2029 || c.val = 0x202f || c.val = 0x205f ||
    c.val = 0x3000

def isAscii (c : Char) : Bool := c.val < 0x80

def isAsciiDigit (c : Char) : Bool := 0x30 ≤ c.val && c.val ≤ 0x39

def isLowerHexLetter (c : Char) : Bool := 0x61 ≤ c.val && c.val ≤ 0x66

def isAsciiHexdigit (c : Char) : Bool := isAsciiDigit c || isLowerHexLetter c || (0x41 ≤ c.val && c.val ≤ 0x46)

/-- `u8::is_ascii_whitespace`. -/
def isAsciiWhitespace (c : Char) : Bool :=
  c.val = 0x20 || c.val = 0x09 || c.val = 0x0a || c.val = 0x0c || c.val = 0x0d

/-- `u8::is_ascii_control`. -/
def isAsciiControl (c : Char) : Bool := c.val < 0x20 || c.val = 0x7f

/-! ## Text fields -/

def validateTextField (field value : String) : Res Unit :=
  if value.toList.all isWhitespace then .error (.invalidInput (field ++ " must not be empty"))
  else if value.toList.any isControl then .error (.invalidInput (field ++ " must not contain control characters"))
  else .ok ()

def validateBoundedTextField (field value : String) (maxChars : Nat) : Res Unit := do
  validateTextField field value
  if value.length > maxChars then
    .error (.invalidInput (field ++ " exceeds maximum allowed length: " ++ toString maxChars))
  else .ok ()

/-- `config::CONFIG_NAME_MAX_CHARS`. -/
def configNameMaxChars : Nat := 128

def validateConfigName (field value : String) : Res Unit := validateBoundedTextField field value configNameMaxChars

def validateAllowedValue (field value : String) (allowedValues : List String) : Res Unit := do
  validateTextField field value
  if value ∈ allowedValues then .ok ()
  else .error (.invalidInput (field ++ " must be one of " ++ ", ".intercalate allowedValues))

theorem validateAllowedValue_mem {field value : String} {allowed : List String}
    (h : validateAllowedValue field value allowed = .ok ()) : value ∈ allowed := by
  unfold validateAllowedValue at h
  rw [Loop.bind_unit_eq_ok, Loop.check_eq_ok] at h
  exact h.2.1

/-! ## Hashes in hex -/

/-- `crypto::HASH_ALGORITHMS`. -/
def hashAlgorithms : List String :=
  ["BLAKE2b(160)", "BLAKE2b(224)", "BLAKE2b(256)", "BLAKE2b(384)", "BLAKE2b(512)", "SHA-224", "SHA-256", "SHA-384",
    "SHA-512", "SHA-512-256", "SHA-3(224)", "SHA-3(256)", "SHA-3(384)", "SHA-3(512)", "Whirlpool"]

def hashOutputSizeBytes (algorithm : String) : Option Nat :=
  if algorithm = "BLAKE2b(160)" then some 20
  else if algorithm ∈ ["BLAKE2b(224)", "SHA-224", "SHA-3(224)"] then some 28
  else if algorithm ∈ ["BLAKE2b(256)", "SHA-256", "SHA-512-256", "SHA-3(256)"] then some 32
  else if algorithm ∈ ["BLAKE2b(384)", "SHA-384", "SHA-3(384)"] then some 48
  else if algorithm ∈ ["BLAKE2b(512)", "SHA-512", "SHA-3(512)", "Whirlpool"] then some 64
  else none

/-- `config::INTERNAL_KEYS_HASH`. -/
def internalKeysHash : String := "BLAKE2b(256)"

def validateHexField (field value : String) : Res Unit :=
  if value.isEmpty then .error (.invalidInput (field ++ " must not be empty"))
  else if value.utf8ByteSize % 2 ≠ 0 then
    .error (.invalidInput (field ++ " must have an even number of hex characters"))
  else if !value.toList.all isAsciiHexdigit then
    .error (.invalidInput (field ++ " must contain only hexadecimal characters"))
  else .ok ()

def validateSymmetricKey (field keyHex : String) (keySizeBytes : Nat) : Res Unit := do
  validateHexField field keyHex
  if keyHex.utf8ByteSize ≠ keySizeBytes * 2 then
    .error (.invalidInput (field ++ " must be " ++ toString (keySizeBytes * 2) ++ " hex characters for a " ++
      toString keySizeBytes ++ "-byte symmetric key, got " ++ toString keyHex.utf8ByteSize))
  else .ok ()

def validateHashHexField (field value hashAlgorithm : String) : Res Unit := do
  validateAllowedValue "hash_algorithm" hashAlgorithm hashAlgorithms
  validateHexField field value
  match hashOutputSizeBytes hashAlgorithm with
  | none => .error (.invalidInput "hash_algorithm is not supported")
  | some size =>
    if value.utf8ByteSize ≠ size * 2 then
      .error (.invalidInput (field ++ " must be " ++ toString (size * 2) ++ " hex characters for " ++ hashAlgorithm ++
        ", got " ++ toString value.utf8ByteSize))
    else .ok ()

/-- The internal hash accepts the strings of 64 hex digits. -/
theorem validateInternalHash_ok_iff {field value : String} :
    validateHashHexField field value internalKeysHash = .ok () ↔
    value.utf8ByteSize = 64 ∧ value.toList.all isAsciiHexdigit = true := by
  have halg : validateAllowedValue "hash_algorithm" internalKeysHash hashAlgorithms = .ok () := rfl
  have hsize : hashOutputSizeBytes internalKeysHash = some 32 := by decide
  simp only [validateHashHexField, halg, hsize, bind, Except.bind]
  unfold validateHexField
  constructor
  · intro h
    split at h
    · cases h
    · rename_i hhex
      split at h
      · cases h
      · rename_i hlen
        split at hhex
        · cases hhex
        · split at hhex
          · cases hhex
          · split at hhex
            · cases hhex
            · rename_i hall
              exact ⟨Classical.not_not.mp hlen, by simpa using hall⟩
  · rintro ⟨hlen, hall⟩
    have hne : value.isEmpty = false := by
      rw [Bool.eq_false_iff]
      intro hempty
      rw [String.isEmpty_iff.mp hempty] at hlen
      exact absurd hlen (by decide)
    simp [hne, hlen, hall]

/-- One digit, 64 times. -/
theorem validateInternalHash_replicate {c : Char} (h : isAsciiHexdigit c = true ∧ c.utf8Size = 1) (field : String) :
    validateHashHexField field (String.ofList (List.replicate 64 c)) internalKeysHash = .ok () := by
  refine validateInternalHash_ok_iff.mpr ⟨?_, ?_⟩
  · rw [Utf8.utf8ByteSize_ofList, List.map_replicate, List.sum_replicate, h.2]
    rfl
  · simp only [String.toList_ofList, List.all_replicate, h.1, ite_self]

theorem validateHexField_ok_iff {field value : String} : validateHexField field value = .ok () ↔
    value.isEmpty = false ∧ value.utf8ByteSize % 2 = 0 ∧ value.toList.all isAsciiHexdigit = true := by
  unfold validateHexField
  simp only [Loop.guard_eq_ok, Bool.not_eq_true, and_true, ne_eq, Decidable.not_not, Bool.not_eq_true',
    Bool.not_eq_false]

theorem validateSymmetricKey_ok_iff {field keyHex : String} {size : Nat} :
    validateSymmetricKey field keyHex size = .ok () ↔
    validateHexField field keyHex = .ok () ∧ keyHex.utf8ByteSize = size * 2 := by
  unfold validateSymmetricKey
  rw [Loop.bind_unit_eq_ok, Loop.guard_eq_ok]
  simp only [ne_eq, Decidable.not_not, and_true]

theorem isAsciiHexdigit_iff {c : Char} : isAsciiHexdigit c = true ↔ (Hex.value c).isSome = true := by
  unfold isAsciiHexdigit isAsciiDigit isLowerHexLetter Hex.value
  split
  · simp_all
  · split
    · simp_all
    · split <;> simp_all

theorem isAscii_of_hexdigit {c : Char} (h : isAsciiHexdigit c = true) : c.val ≤ 127 := by
  simp only [isAsciiHexdigit, isAsciiDigit, isLowerHexLetter, Bool.or_eq_true, Bool.and_eq_true, decide_eq_true_eq] at h
  rcases h with (⟨-, h⟩ | ⟨-, h⟩) | ⟨-, h⟩ <;> exact UInt32.le_trans h (by decide)

/-- A hex field is the text of some bytes. -/
theorem decode_of_validateHexField {field value : String} (h : validateHexField field value = .ok ()) :
    ∃ bytes, Hex.decode value = some bytes := by
  obtain ⟨-, heven, hall⟩ := validateHexField_ok_iff.mp h
  rw [List.all_eq_true] at hall
  rw [Utf8.utf8ByteSize_ascii fun c hc => isAscii_of_hexdigit (hall c hc)] at heven
  exact Hex.decodeChars_some heven fun c hc => isAsciiHexdigit_iff.mp (hall c hc)

/-! ## Subjects -/

/-- `subjects::validate_subject`. -/
def validateSubject (value : String) : Res Unit :=
  if value.utf8ByteSize ≠ 64 || !value.toList.all fun c => isAsciiDigit c || isLowerHexLetter c then
    .error (.invalidInput "subject must be exactly 64 lowercase hex characters")
  else .ok ()

/-! ## Envelopes -/

/-- `value.split('.')`. -/
def splitDots (value : String) : List (List Char) := value.toList.splitOn '.'

def splitBase64StandardEnvelopeSegments (field value : String) (maxChars : Nat) : Res (String × String × String) :=
  if value.isEmpty then .error (.invalidInput (field ++ " must not be empty"))
  else if value.utf8ByteSize > maxChars then
    .error (.invalidInput (field ++ " exceeds maximum allowed length: " ++ toString maxChars))
  else if !value.toList.all isAscii || value.toList.any fun c => isAsciiWhitespace c || isAsciiControl c then
    .error (.invalidInput (field ++ " contains invalid base64"))
  else
    match splitDots value with
    | [ciphertext, nonce, aad] =>
      if ciphertext.isEmpty || nonce.isEmpty || aad.isEmpty then
        .error (.invalidInput (field ++ " must have ciphertext.nonce.aad base64 sections"))
      else .ok (String.ofList ciphertext, String.ofList nonce, String.ofList aad)
    | _ => .error (.invalidInput (field ++ " must have ciphertext.nonce.aad base64 sections"))

/-- The three segments must be base64; `decode` is the decoder of the standard alphabet. -/
def validateBase64StandardEnvelopeSegments (decode : String → Option (List UInt8)) (field value : String)
    (maxChars : Nat) : Res (String × String × String) := do
  let (ciphertext, nonce, aad) ← splitBase64StandardEnvelopeSegments field value maxChars
  if [ciphertext, nonce, aad].all fun part => (decode part).isSome then .ok (ciphertext, nonce, aad)
  else .error (.invalidInput (field ++ " contains invalid base64"))

end Vectis.Core.Validation

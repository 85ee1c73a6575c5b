import Vectis.Core.Canonical
import Vectis.Core.Envelope
import Vectis.Core.Tokenization.Profile

/-!
# Subjects

A subject has a random seed, stored in an envelope that the profile of its tokens seals, and its keys are derived from
the keys of the profile with the seed as salt (`core/subjects.rs`).

- `length_openAuthenticatedSeed`: an opened seed has 32 bytes.
-/

namespace Vectis.Core.Subjects

open Validation Profiles Crypto Canonical Tokenization Json

def subjectNameMaxChars : Nat := 128

def subjectSeedBytes : Nat := 32

def subjectSeedEnvelopeMaxChars : Nat := 2048

def wrapSalt : List UInt8 := bytesOf "vectis/subjects/v1"

structure SubjectTokenKeys where
  subject : String
  hashKey : List UInt8
  dataKey : List UInt8
  deriving DecidableEq, Repr

/-- `SeedPayload`, whose one field is the seed in hex. -/
def seedPayloadCodec : Codec String where
  toValue seed := .object [("seed", .string seed)]
  fromValue
    | .object [("seed", .string seed)] => some seed
    | _ => none
  fromValue_toValue _ := rfl

def validateSubjectName (value : String) : Res Unit := do
  validateBoundedTextField "subject_name" value subjectNameMaxChars
  if ';' ∈ value.toList || '=' ∈ value.toList then .error (.invalidInput "subject_name must not contain ';' or '='")
  else .ok ()

def validateSeedEnvelope (seed : String) : Res Unit :=
  if !seed.toList.all isAscii then .error (.invalidInput "subjects.seed must be ASCII")
  else do
    let (ciphertext, nonce, _) ← validateBase64StandardEnvelopeSegments standardDecode "subjects.seed" seed
      subjectSeedEnvelopeMaxChars
    let ciphertext ← decodeSegment "subjects.seed" ciphertext
    let nonce ← decodeSegment "subjects.seed" nonce
    if ciphertext.length < 16 || !(nonce.length = 12 || nonce.length = 24) then
      .error (.invalidInput "subjects.seed has invalid tag or nonce length")
    else .ok ()

/-- The fields of the third segment name one profile. -/
def profileHint (envelope : String) : Res String := do
  validateSeedEnvelope envelope
  match (splitDots envelope)[2]? with
  | none => .error (.internal "invalid subject envelope")
  | some part =>
    let aad ← decodeSegment "subjects.seed" (String.ofList part)
    match Utf8.decode aad with
    | none => .error (.other "invalid utf-8 sequence")
    | some aad =>
      let fields ← parseAadFields aad
      match fields.filter fun field => field.1 = "profile" with
      | [(_, name)] => do
        validateAadConfigName "subject profile" name
        .ok name
      | _ => .error (.internal "invalid subject profile hint")

/-- A hint for the lookup only: the profile it names must authenticate the whole context. -/
def seedProfileHint (envelope : String) : Res String :=
  (profileHint envelope).mapError fun _ => .internal "stored subject seed is invalid"

/-! ## Keys -/

def keyInfo (profile : TokenizationProfile) (purpose : String) : Res String :=
  buildValidatedAad [("purpose", purpose), ("kid", profile.kid), ("profile", profile.name), ("version", "v1")]

def seedAad (profile : TokenizationProfile) (subject : String) : Res String := do
  validateSubject subject
  buildValidatedAad [("version", "v1"), ("type", "subject-seed"), ("kid", profile.kid), ("profile", profile.name),
    ("subject", subject), ("cipher", profile.cipherAlgorithm)]

def subjectId (hmac : Hmac) (profile : TokenizationProfile) (name : String) : Res String := do
  validateSubjectName name
  let message ← buildValidatedAad [("purpose", "subject-lookup"), ("kid", profile.kid), ("profile", profile.name),
    ("subject_name", name), ("version", "v1")]
  let tag ← hmac profile.hashKey (bytesOf message)
  .ok (Hex.encode tag)

def unsupportedSubjectCipher : DynError := .internal "unsupported subject cipher"

def wrappingKey (hkdf : Hkdf) (profile : TokenizationProfile) : Res (List UInt8) := do
  let cipher ← requireCipher unsupportedSubjectCipher profile.cipherAlgorithm
  let info ← keyInfo profile "subject-wrap"
  hkdf profile.dataKey wrapSalt (bytesOf info) cipher.keySizeBytes

def deriveTokenKeys (hkdf : Hkdf) (profile : TokenizationProfile) (subject : String) (seed : List UInt8) :
    Res SubjectTokenKeys := do
  let cipher ← requireCipher unsupportedSubjectCipher profile.cipherAlgorithm
  let hashInfo ← keyInfo profile "subject-token-hash"
  let hashKey ← hkdf profile.hashKey seed (bytesOf hashInfo) 32
  let dataInfo ← keyInfo profile "subject-token-data"
  let dataKey ← hkdf profile.dataKey seed (bytesOf dataInfo) cipher.keySizeBytes
  .ok ⟨subject, hashKey, dataKey⟩

/-! ## Seeds -/

section Seeds

variable (hkdf : Hkdf) (aead : Aead) (serde : SerdeJson)

/-- The seed and the nonce are what `random_bytes` gives. -/
def createSeed (profile : TokenizationProfile) (subject : String) (seed nonce : Res (List UInt8)) : Res String := do
  let aad ← seedAad profile subject
  let cipher ← requireCipher unsupportedSubjectCipher profile.cipherAlgorithm
  let seed ← seed
  let plaintext := serde.toText (seedPayloadCodec.toValue (Hex.encode seed))
  let nonce ← nonce
  let key ← wrappingKey hkdf profile
  let ciphertext ← aead.encrypt cipher.algorithm (Utf8.encode plaintext) key nonce (bytesOf aad)
  let envelope := envelopeText ciphertext nonce (bytesOf aad)
  validateSeedEnvelope envelope
  .ok envelope

/-- `serde_json::from_slice::<SeedPayload>`. -/
def readSeedPayload (plaintext : List UInt8) : Res String :=
  match (Utf8.decode plaintext).bind (serde.fromStrAs seedPayloadCodec) with
  | some seed => .ok seed
  | none => .error (.other "invalid seed payload")

def openSeedInner (profile : TokenizationProfile) (subject envelope : String) : Res (List UInt8) := do
  validateSeedEnvelope envelope
  let cipher ← requireCipher unsupportedSubjectCipher profile.cipherAlgorithm
  let decoded ← decodeBase64StandardEnvelope "subjects.seed" envelope subjectSeedEnvelopeMaxChars cipher.nonceSizeBytes
  let aad ← seedAad profile subject
  if decoded.aad ≠ bytesOf aad then .error (.internal "subject seed context mismatch")
  else
    let key ← wrappingKey hkdf profile
    let plaintext ← aead.decrypt cipher.algorithm decoded.ciphertext key decoded.nonce decoded.aad
    let seed ← readSeedPayload serde plaintext
    validateSymmetricKey "seed" seed subjectSeedBytes
    hexDecode seed

def openAuthenticatedSeed (profile : TokenizationProfile) (subject envelope : String) : Res (List UInt8) :=
  (openSeedInner hkdf aead serde profile subject envelope).mapError fun _ => .internal "stored subject seed is invalid"

end Seeds

theorem length_hexDecode {text : String} {bytes : List UInt8} (h : Hex.decode text = some bytes) :
    2 * bytes.length = text.toList.length := by
  have hencode := congrArg (fun s : String => s.toList.length) (Hex.encode_of_decode h)
  simp only [Hex.encode, Hex.lower, String.toList_ofList, List.length_map, List.length_flatMap, List.length_cons,
    List.length_nil] at hencode
  simpa [Nat.mul_comm] using hencode

/-- An opened seed has 32 bytes. -/
theorem length_openAuthenticatedSeed {hkdf : Hkdf} {aead : Aead} {serde : SerdeJson} {profile : TokenizationProfile}
    {subject envelope : String} {seed : List UInt8}
    (h : openAuthenticatedSeed hkdf aead serde profile subject envelope = .ok seed) :
    seed.length = subjectSeedBytes := by
  rw [openAuthenticatedSeed, Loop.mapError_eq_ok, openSeedInner, Loop.bind_unit_eq_ok] at h
  obtain ⟨-, h⟩ := h
  obtain ⟨cipher, -, h⟩ := Loop.bind_eq_ok.mp h
  obtain ⟨decoded, -, h⟩ := Loop.bind_eq_ok.mp h
  obtain ⟨aad, -, h⟩ := Loop.bind_eq_ok.mp h
  obtain ⟨-, h⟩ := Loop.guard_eq_ok.mp h
  obtain ⟨key, -, h⟩ := Loop.bind_eq_ok.mp h
  obtain ⟨plaintext, -, h⟩ := Loop.bind_eq_ok.mp h
  obtain ⟨text, -, h⟩ := Loop.bind_eq_ok.mp h
  rw [Loop.bind_unit_eq_ok, validateSymmetricKey_ok_iff, validateHexField_ok_iff] at h
  obtain ⟨⟨⟨-, -, hhex⟩, hsize⟩, h⟩ := h
  rw [Utf8.utf8ByteSize_ascii fun c hc => isAscii_of_hexdigit (List.all_eq_true.mp hhex c hc)] at hsize
  unfold hexDecode at h
  split at h
  · rename_i bytes hbytes
    cases h
    have hlength := length_hexDecode hbytes
    simp only [subjectSeedBytes] at hsize ⊢
    omega
  · cases h

end Vectis.Core.Subjects

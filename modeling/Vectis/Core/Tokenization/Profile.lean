import Vectis.Core.Crypto
import Vectis.Core.Profiles

/-!
# Profiles of random tokens

The `tokenization_profiles` section and the two keys of its profiles (`core/tokenization.rs`): one hashes tokens, the
other encrypts what they stand for, with the cipher of the key of the kid.

- `ProfileOk`: what holds of every profile that `validateTokenizationProfiles` accepts (`profileOk_of_validate`).
-/

namespace Vectis.Core.Tokenization

open Validation Profiles Crypto Ops.Keys

/-! ## Data -/

/-- `TOKENIZATION_VERSION_RANDOM_V1`. -/
def tokenizationVersionRandomV1 : String := "token-random-v1"

def tokenizationHkdfSalt : List UInt8 := bytesOf "vectis/tokenization/v1"

def tokenHashKeyPurpose : String := "token-hash"

def tokenDataKeyPurpose : String := "token-data"

def tokenKeySizeBytes : Nat := 32

def tokenLenMinBytes : Nat := 32

def tokenPlaintextMaxLen : Nat := 16384

def tokenMetadataMaxChars : Nat := 128

def tokenPrefixMaxChars : Nat := 16

def tokenDataType : String := "token-data"

structure TokenizationProfileInput where
  name : String
  kid : String
  tokenPrefix : String
  tokenLen : UInt64
  maxPlaintextLen : UInt64
  oneTime : Bool
  subjectMode : SubjectMode
  deriving DecidableEq, Repr

structure TokenizationProfile where
  name : String
  kid : String
  tokenPrefix : String
  tokenLen : UInt64
  maxPlaintextLen : UInt64
  oneTime : Bool
  subjectMode : SubjectMode
  cipherAlgorithm : String
  hashKey : List UInt8
  dataKey : List UInt8
  deriving DecidableEq, Repr

structure DerivedTokenizationKeys where
  hashKey : List UInt8
  dataKey : List UInt8
  cipherAlgorithm : String
  deriving DecidableEq, Repr

structure TokenizationKeyDerivationRequest where
  profileName : String
  kid : String

/-! ## Validation -/

def validateTokenPrefix (value : String) : Res Unit := do
  validateTextField "tokenization_profiles.token_prefix" value
  if value.length > tokenPrefixMaxChars then
    .error (.invalidInput ("tokenization_profiles.token_prefix exceeds maximum allowed length: " ++
      toString tokenPrefixMaxChars))
  else if value.toList.any isWhitespace then
    .error (.invalidInput "tokenization_profiles.token_prefix must not contain whitespace")
  else if ';' ∈ value.toList || '=' ∈ value.toList then
    .error (.invalidInput "tokenization_profiles.token_prefix must not contain ';' or '='")
  else .ok ()

def validateTokenLengths (tokenLen maxPlaintextLen : Nat) : Res Unit :=
  if tokenLen < tokenLenMinBytes then
    .error (.invalidInput ("tokenization_profiles.token_len must be at least " ++ toString tokenLenMinBytes))
  else if maxPlaintextLen = 0 || maxPlaintextLen > tokenPlaintextMaxLen then
    .error (.invalidInput ("tokenization_profiles.max_plaintext_len must be between 1 and " ++
      toString tokenPlaintextMaxLen))
  else .ok ()

def validateTokenizationProfileFields (name tokenPrefix : String) (tokenLen maxPlaintextLen : Nat) : Res Unit := do
  validateAadConfigName "tokenization_profiles.name" name
  validateTokenPrefix tokenPrefix
  validateTokenLengths tokenLen maxPlaintextLen

/-- `crypto::symmetric_cipher`, with an error for the other algorithms. -/
def requireCipher (err : DynError) (algorithm : String) : Res SymmetricCipherSpec :=
  match symmetricCipher algorithm with
  | some cipher => .ok cipher
  | none => .error err

def unsupportedAlgorithm (algorithm : String) : DynError :=
  .invalidInput ("tokenization profile symmetric algorithm is not supported: " ++ algorithm)

/-- What the section needs of the node. -/
structure TokenizationHooks where
  isLoadedKid : String → Bool
  deriveKeys : TokenizationKeyDerivationRequest → Res DerivedTokenizationKeys

/-- One round of the loop over the profiles. -/
def validateTokenizationProfile (hooks : TokenizationHooks) (seenNames : List String)
    (profile : TokenizationProfileInput) :
    Res TokenizationProfile := do
  validateTokenizationProfileFields profile.name profile.tokenPrefix profile.tokenLen.toNat
    profile.maxPlaintextLen.toNat
  validateProfileKid "tokenization" hooks.isLoadedKid profile.kid
  rejectDuplicatedName "tokenization" seenNames profile.name
  let derived ← hooks.deriveKeys ⟨profile.name, profile.kid⟩
  let cipher ← requireCipher (unsupportedAlgorithm derived.cipherAlgorithm) derived.cipherAlgorithm
  if derived.hashKey.length ≠ tokenKeySizeBytes || derived.dataKey.length ≠ cipher.keySizeBytes then
    .error (.internal "derived tokenization key has invalid length")
  else
    .ok { name := profile.name, kid := profile.kid, tokenPrefix := profile.tokenPrefix, tokenLen := profile.tokenLen,
          maxPlaintextLen := profile.maxPlaintextLen, oneTime := profile.oneTime, subjectMode := profile.subjectMode,
          cipherAlgorithm := derived.cipherAlgorithm, hashKey := derived.hashKey, dataKey := derived.dataKey }

def validateTokenizationProfiles (hooks : TokenizationHooks) (profileInputs : List TokenizationProfileInput) :
    Res (ProfilesState TokenizationProfile) := do
  let profiles ← Loop.collect (validateTokenizationProfile hooks) TokenizationProfileInput.name [] profileInputs
  .ok (.fromProfiles TokenizationProfile.name profiles)

/-! ## Keys of profiles -/

def tokenizationKeyInfo (purpose profileName kid : String) : Res String :=
  buildValidatedAad [("purpose", purpose), ("profile", profileName), ("kid", kid),
    ("tokenization_version", tokenizationVersionRandomV1)]

def deriveTokenizationKeys (hkdf : Hkdf) (opsSymmetricKeyHex cipherAlgorithm : String)
    (request : TokenizationKeyDerivationRequest) : Res DerivedTokenizationKeys := do
  let cipher ← requireCipher (unsupportedAlgorithm cipherAlgorithm) cipherAlgorithm
  let opsSymmetricKey ← hexDecode opsSymmetricKeyHex
  let hashInfo ← tokenizationKeyInfo tokenHashKeyPurpose request.profileName request.kid
  let dataInfo ← tokenizationKeyInfo tokenDataKeyPurpose request.profileName request.kid
  let hashKey ← hkdf opsSymmetricKey tokenizationHkdfSalt (bytesOf hashInfo) tokenKeySizeBytes
  let dataKey ← hkdf opsSymmetricKey tokenizationHkdfSalt (bytesOf dataInfo) cipher.keySizeBytes
  .ok ⟨hashKey, dataKey, cipherAlgorithm⟩

/-! ## Accepted profiles -/

theorem requireCipher_ok_iff {err : DynError} {algorithm : String} {cipher : SymmetricCipherSpec} :
    requireCipher err algorithm = .ok cipher ↔ symmetricCipher algorithm = some cipher := by
  unfold requireCipher
  cases symmetricCipher algorithm with
  | none => simp
  | some found => simp

theorem validateTokenPrefix_ok {value : String} (h : validateTokenPrefix value = .ok ()) :
    (value.toList.all isWhitespace = false ∧ value.toList.any isControl = false) ∧ value.length ≤ tokenPrefixMaxChars ∧
      ';' ∉ value.toList ∧ '=' ∉ value.toList := by
  rw [validateTokenPrefix, Loop.bind_unit_eq_ok, validateTextField_ok_iff] at h
  obtain ⟨htext, h⟩ := h
  obtain ⟨hlength, h⟩ := Loop.guard_eq_ok.mp h
  obtain ⟨-, h⟩ := Loop.guard_eq_ok.mp h
  obtain ⟨hdelimiters, -⟩ := Loop.guard_eq_ok.mp h
  exact ⟨htext, Nat.le_of_not_lt hlength, by simpa using hdelimiters⟩

/-- What holds of an accepted profile. -/
structure ProfileOk (profile : TokenizationProfile) : Prop where
  name : validateAadConfigName "tokenization_profiles.name" profile.name = .ok ()
  tokenPrefix : validateTokenPrefix profile.tokenPrefix = .ok ()
  tokenLen : tokenLenMinBytes ≤ profile.tokenLen.toNat
  maxPlaintextLen : profile.maxPlaintextLen.toNat ≤ tokenPlaintextMaxLen
  kid : validateKeyId profile.kid = .ok ()
  hashKey : profile.hashKey.length = tokenKeySizeBytes
  cipher : ∃ cipher, symmetricCipher profile.cipherAlgorithm = some cipher ∧
  profile.dataKey.length = cipher.keySizeBytes

theorem validateTokenizationProfile_ok {hooks : TokenizationHooks} {seenNames : List String}
    {input : TokenizationProfileInput} {profile : TokenizationProfile}
    (h : validateTokenizationProfile hooks seenNames input = .ok profile) :
    ProfileOk profile ∧ hooks.deriveKeys ⟨profile.name, profile.kid⟩ =
      .ok ⟨profile.hashKey, profile.dataKey, profile.cipherAlgorithm⟩ := by
  rw [validateTokenizationProfile, Loop.bind_unit_eq_ok, Loop.bind_unit_eq_ok, Loop.bind_unit_eq_ok,
    validateProfileKid_ok_iff] at h
  obtain ⟨hfields, ⟨hkid, -⟩, -, h⟩ := h
  rw [validateTokenizationProfileFields, Loop.bind_unit_eq_ok, Loop.bind_unit_eq_ok, validateTokenLengths,
    Loop.guard_eq_ok, Loop.guard_eq_ok] at hfields
  obtain ⟨hname, hprefix, hlen, hmax, -⟩ := hfields
  obtain ⟨derived, hderived, h⟩ := Loop.bind_eq_ok.mp h
  obtain ⟨cipher, hcipher, h⟩ := Loop.bind_eq_ok.mp h
  obtain ⟨hlengths, h⟩ := Loop.guard_eq_ok.mp h
  cases h
  simp only [Bool.or_eq_true, decide_eq_true_eq, not_or, ne_eq, Decidable.not_not, gt_iff_lt,
    Nat.not_lt] at hlengths hmax
  exact ⟨⟨hname, hprefix, Nat.le_of_not_lt hlen, hmax.2, hkid, hlengths.1, cipher, requireCipher_ok_iff.mp hcipher,
    hlengths.2⟩, hderived⟩

theorem mem_of_validate {hooks : TokenizationHooks} {inputs : List TokenizationProfileInput}
    {state : ProfilesState TokenizationProfile} (h : validateTokenizationProfiles hooks inputs = .ok state)
    {profile : TokenizationProfile} (hmem : profile ∈ state.profiles) :
    ProfileOk profile ∧ hooks.deriveKeys ⟨profile.name, profile.kid⟩ =
      .ok ⟨profile.hashKey, profile.dataKey, profile.cipherAlgorithm⟩ := by
  obtain ⟨profiles, hprofiles, h⟩ := Loop.bind_eq_ok.mp h
  cases h
  obtain ⟨input, -, seen, hround⟩ := Loop.mem_collect hprofiles profile hmem
  exact validateTokenizationProfile_ok hround

end Vectis.Core.Tokenization

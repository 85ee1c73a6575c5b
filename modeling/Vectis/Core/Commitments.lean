import Vectis.Core.Canonical
import Vectis.Core.Mac
import Vectis.Lib.Base64

/-!
# Profiles of commitments

The `commitment_profiles` section and the keys of its profiles (`core/commitments.rs`), which are those of tags with
another purpose and salt; openings, and the tag that is the commitment.
-/

namespace Vectis.Core.Commitments

open Validation Profiles Mac Canonical Json

def commitmentKeySalt : List UInt8 := bytesOf "vectis/commitment/v1"

def commitmentHmacSubkeySalt : List UInt8 := bytesOf "vectis/commitment/hmac/v1"

def commitmentKeySizeBytes : Nat := 32

def commitmentContextMaxChars : Nat := 128

def commitmentPlaintextMaxChars : Nat := 1024

def commitmentOpeningMinBytes : Nat := 32

def commitmentOpeningMaxBytes : Nat := 64

structure CommitmentProfileInput where
  name : String
  kid : String
  context : String
  maxPlaintextLen : UInt64
  openingLen : UInt64
  deriving DecidableEq, Repr

structure CommitmentProfile where
  name : String
  kid : String
  context : String
  maxPlaintextLen : UInt64
  openingLen : UInt64
  publicAlgorithm : String
  botanAlgorithm : String
  customization : String
  commitKey : List UInt8
  deriving DecidableEq, Repr

def validateCommitmentPlaintextLen (maxPlaintextLen : Nat) : Res Unit :=
  if maxPlaintextLen = 0 then .error (.invalidInput "commitment_profiles.max_plaintext_len must be at least 1")
  else if maxPlaintextLen > commitmentPlaintextMaxChars then
    .error (.invalidInput ("commitment_profiles.max_plaintext_len exceeds maximum allowed value: " ++
      toString commitmentPlaintextMaxChars))
  else .ok ()

def validateCommitmentOpeningLen (openingLen : Nat) : Res Unit :=
  if openingLen < commitmentOpeningMinBytes then
    .error (.invalidInput ("commitment_profiles.opening_len must be at least " ++ toString commitmentOpeningMinBytes))
  else if openingLen > commitmentOpeningMaxBytes then
    .error (.invalidInput ("commitment_profiles.opening_len exceeds maximum allowed value: " ++
      toString commitmentOpeningMaxBytes))
  else .ok ()

def validateCommitmentProfileFields (name context : String) (maxPlaintextLen openingLen : Nat) : Res Unit := do
  validateAadConfigName "commitment_profiles.name" name
  validateLabels "commitment_profiles.context" context commitmentContextMaxChars
  validateCommitmentPlaintextLen maxPlaintextLen
  validateCommitmentOpeningLen openingLen

def deriveCommitmentKeyForProfile (hkdf : Hkdf) (opsSymmetricKeyHex : String) (request : TagKeyRequest) :
    Res DerivedTagKey :=
  deriveTagKeyForProfile hkdf "commitment-key" commitmentKeySalt commitmentKeySizeBytes opsSymmetricKeyHex request

/-- One round of the loop over the profiles. -/
def validateCommitmentProfile (hkdf : Hkdf) (hooks : TagHooks) (seenNames : List String)
    (profile : CommitmentProfileInput) :
    Res CommitmentProfile := do
  validateCommitmentProfileFields profile.name profile.context profile.maxPlaintextLen.toNat profile.openingLen.toNat
  validateProfileKid "commitment" hooks.isLoadedKid profile.kid
  rejectDuplicatedName "commitment" seenNames profile.name
  let keys ← deriveTagKeys hkdf hooks "commitment" commitmentHmacSubkeySalt commitmentKeySizeBytes profile.name
    profile.kid profile.context
  .ok ⟨profile.name, profile.kid, profile.context, profile.maxPlaintextLen, profile.openingLen, keys.publicAlgorithm,
    keys.botanAlgorithm, keys.customization, keys.key⟩

def validateCommitmentProfiles (hkdf : Hkdf) (hooks : TagHooks) (profileInputs : List CommitmentProfileInput) :
    Res (ProfilesState CommitmentProfile) := do
  let profiles ← Loop.collect (validateCommitmentProfile hkdf hooks) CommitmentProfileInput.name [] profileInputs
  .ok (.fromProfiles CommitmentProfile.name profiles)

/-! ## Commitments -/

def CommitmentProfile.usesKmac (profile : CommitmentProfile) : Bool := isKmacAlgorithm profile.publicAlgorithm

/-- `URL_SAFE_NO_PAD`. -/
def encodeOpening (opening : List UInt8) : String := String.ofList (Base64.encode opening)

def validateOpening (profile : CommitmentProfile) (opening : String) : Res Unit :=
  match Base64.decode opening.toList with
  | none => .error (.invalidInput "opening contains invalid commitment encoding")
  | some decoded =>
    if decoded.length ≠ profile.openingLen.toNat then
      .error (.invalidInput "opening length does not match commitment profile")
    else .ok ()

/-- The object of `commitment_payload`. -/
structure CommitmentPayload where
  version : String
  profile : String
  kid : String
  opening : String
  plaintext : String
  deriving DecidableEq, Repr

def payloadCodec : Codec CommitmentPayload where
  toValue payload := .object [("kid", .string payload.kid), ("opening", .string payload.opening),
    ("plaintext", .string payload.plaintext), ("profile", .string payload.profile),
    ("version", .string payload.version)]
  fromValue
    | .object [("kid", .string kid), ("opening", .string opening), ("plaintext", .string plaintext),
        ("profile", .string profile), ("version", .string version)] => some ⟨version, profile, kid, opening, plaintext⟩
    | _ => none
  fromValue_toValue _ := rfl

def commitmentPayload (serde : SerdeJson) (profile : CommitmentProfile) (openingB64 plaintext : String) :
    Res (List UInt8) := do
  let payload ← canonicalJsonV1 serde payloadCodec ⟨"v1", profile.name, profile.kid, openingB64, plaintext⟩
  .ok (Utf8.encode payload)

def computeCommitment (lib : TagLib) (serde : SerdeJson) (profile : CommitmentProfile) (openingB64 plaintext : String) :
    Res (List UInt8) := do
  let payload ← commitmentPayload serde profile openingB64 plaintext
  computeKeyedTag lib profile.usesKmac profile.botanAlgorithm profile.commitKey profile.customization payload

/-! ## What a commitment determines -/

theorem payload_plain (payload : CommitmentPayload) : (payloadCodec.toValue payload).plain = true := by
  simp [payloadCodec, Value.plain, plainEntries, plainEntry]
  decide

theorem canonical_payload {serde : SerdeJson} (payload : CommitmentPayload) :
    canonicalJsonV1 serde payloadCodec payload = .ok (serde.toText (payloadCodec.toValue payload)) := rfl

theorem commitmentPayload_eq {serde : SerdeJson} (profile : CommitmentProfile) (opening plaintext : String) :
    commitmentPayload serde profile opening plaintext =
      .ok (Utf8.encode (serde.toText (payloadCodec.toValue ⟨"v1", profile.name, profile.kid, opening, plaintext⟩))) :=
        rfl

/-- Equal payloads are those of one profile name, kid, opening and plaintext. -/
theorem commitmentPayload_injective {serde : SerdeJson} {profile other : CommitmentProfile}
    {opening opening' plaintext plaintext' : String} {payload : List UInt8}
    (h : commitmentPayload serde profile opening plaintext = .ok payload)
    (h' : commitmentPayload serde other opening' plaintext' = .ok payload) :
    profile.name = other.name ∧ profile.kid = other.kid ∧ opening = opening' ∧ plaintext = plaintext' := by
  rw [commitmentPayload_eq, Except.ok.injEq] at h h'
  have htext := Utf8.encode_injective (h.trans h'.symm)
  have hvalue := toText_injective (payload_plain _) (payload_plain _) htext
  have hfrom := payloadCodec.fromValue_toValue ⟨"v1", profile.name, profile.kid, opening, plaintext⟩
  rw [hvalue, payloadCodec.fromValue_toValue, Option.some.injEq, CommitmentPayload.mk.injEq] at hfrom
  exact ⟨hfrom.2.1.symm, hfrom.2.2.1.symm, hfrom.2.2.2.1.symm, hfrom.2.2.2.2.symm⟩

/-- Tags of resolved algorithms under keys of the right size exist and are not empty. -/
def Works (lib : TagLib) : Prop := ∀ hash resolved key customization payload, resolveMacAlgorithm hash = .ok resolved →
  key.length = macKeySizeBytes → ∃ tag, computeKeyedTag lib (isKmacAlgorithm resolved.publicAlgorithm)
    resolved.botanAlgorithm key customization payload = .ok tag ∧ tag ≠ []

/-- An ideal tag: equal tags are tags of equal payloads. -/
def Injective (lib : TagLib) : Prop := ∀ kmac kmac' algorithm algorithm' key key' customization customization' payload
  payload' tag, computeKeyedTag lib kmac algorithm key customization payload = .ok tag →
    computeKeyedTag lib kmac' algorithm' key' customization' payload' = .ok tag → payload = payload'

theorem computeCommitment_injective {lib : TagLib} (hinj : Injective lib) {serde : SerdeJson}
    {profile other : CommitmentProfile} {opening opening' plaintext plaintext' : String} {tag : List UInt8}
    (h : computeCommitment lib serde profile opening plaintext = .ok tag)
    (h' : computeCommitment lib serde other opening' plaintext' = .ok tag) :
    profile.name = other.name ∧ profile.kid = other.kid ∧ opening = opening' ∧ plaintext = plaintext' := by
  obtain ⟨payload, hpayload, htag⟩ := Loop.bind_eq_ok.mp h
  obtain ⟨payload', hpayload', htag'⟩ := Loop.bind_eq_ok.mp h'
  obtain rfl := hinj _ _ _ _ _ _ _ _ _ _ _ htag htag'
  exact commitmentPayload_injective hpayload hpayload'

/-! ## Accepted profiles -/

/-- What the checks establish: an opening has 32 to 64 bytes, and the key is one of a resolved algorithm. -/
structure Accepted (profile : CommitmentProfile) : Prop where
  opening : commitmentOpeningMinBytes ≤ profile.openingLen.toNat
  key : profile.commitKey.length = macKeySizeBytes
  algorithm : ∃ hash, resolveMacAlgorithm hash = .ok ⟨profile.publicAlgorithm, profile.botanAlgorithm⟩

theorem accepted_of_validate {hkdf : Hkdf} (hsized : Sized hkdf) {hooks : TagHooks} (hresolved : hooks.Resolved)
    {profileInputs : List CommitmentProfileInput} {state : ProfilesState CommitmentProfile}
    (h : validateCommitmentProfiles hkdf hooks profileInputs = .ok state) {profile : CommitmentProfile}
    (hp : profile ∈ state.profiles) : Accepted profile := by
  obtain ⟨profiles, hprofiles, h⟩ := Loop.bind_eq_ok.mp h
  cases h
  obtain ⟨input, -, seen, hinput⟩ := Loop.mem_collect hprofiles profile hp
  obtain ⟨hfields, h⟩ := Loop.bind_unit_eq_ok.mp hinput
  obtain ⟨-, h⟩ := Loop.bind_unit_eq_ok.mp h
  obtain ⟨-, h⟩ := Loop.bind_unit_eq_ok.mp h
  obtain ⟨keys, hkeys, h⟩ := Loop.bind_eq_ok.mp h
  cases h
  obtain ⟨-, hfields⟩ := Loop.bind_unit_eq_ok.mp hfields
  obtain ⟨-, hfields⟩ := Loop.bind_unit_eq_ok.mp hfields
  obtain ⟨-, hopening⟩ := Loop.bind_unit_eq_ok.mp hfields
  obtain ⟨hmin, -⟩ := Loop.guard_eq_ok.mp hopening
  obtain ⟨hlength, halgorithm⟩ := deriveTagKeys_ok hsized hresolved hkeys
  exact ⟨Nat.le_of_not_lt hmin, hlength, halgorithm⟩

/-- Under an accepted profile every opening and plaintext has a commitment. -/
theorem computeCommitment_total {lib : TagLib} (hworks : Works lib) {profile : CommitmentProfile}
    (hp : Accepted profile) (serde : SerdeJson) (opening plaintext : String) :
    ∃ tag, computeCommitment lib serde profile opening plaintext = .ok tag ∧ tag ≠ [] := by
  obtain ⟨hash, hresolved⟩ := hp.algorithm
  obtain ⟨tag, htag, hne⟩ := hworks hash _ profile.commitKey profile.customization
    (Utf8.encode (serde.toText (payloadCodec.toValue ⟨"v1", profile.name, profile.kid, opening, plaintext⟩)))
      hresolved hp.key
  exact ⟨tag, Loop.bind_eq_ok.mpr ⟨_, commitmentPayload_eq profile opening plaintext, htag⟩, hne⟩

end Vectis.Core.Commitments

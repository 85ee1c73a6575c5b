import Vectis.Core.Mac
import Vectis.Core.Sharing.Shares

/-!
# Profiles of secret sharing

The `sharing_profiles` section and the keys that authenticate shares (`core/sharing.rs`), which are those of tags with
another purpose and salt.
-/

namespace Vectis.Core.Sharing

open Validation Profiles Mac

def sharingKeySalt : List UInt8 := bytesOf "vectis/sharing/v1"

def sharingHmacSubkeySalt : List UInt8 := bytesOf "vectis/sharing/hmac/v1"

def sharingKeySizeBytes : Nat := 32

def sharingContextMaxChars : Nat := 128

def sharingSecretMaxBytes : Nat := 4096

structure SharingProfileInput where
  name : String
  kid : String
  threshold : UInt64
  shares : UInt64
  maxSecretLen : UInt64
  context : String
  deriving DecidableEq, Repr

/-- A profile with its keys. -/
structure KeyedSharingProfile where
  name : String
  kid : String
  threshold : UInt64
  shares : UInt64
  maxSecretLen : UInt64
  context : String
  publicAlgorithm : String
  botanAlgorithm : String
  customization : String
  shareAuthKey : List UInt8
  deriving DecidableEq, Repr

def validateMaxSecretLen (maxSecretLen : Nat) : Res Unit :=
  if maxSecretLen = 0 then .error (.invalidInput "sharing_profiles.max_secret_len must be at least 1")
  else if maxSecretLen > sharingSecretMaxBytes then
    .error (.invalidInput ("sharing_profiles.max_secret_len exceeds maximum allowed value: " ++
      toString sharingSecretMaxBytes))
  else .ok ()

def validateSharingProfileFields (name context : String) (threshold shares maxSecretLen : Nat) : Res Unit := do
  validateAadConfigName "sharing_profiles.name" name
  validateLabels "sharing_profiles.context" context sharingContextMaxChars
  validateThreshold threshold shares
  validateMaxSecretLen maxSecretLen

def deriveSharingKeyForProfile (hkdf : Hkdf) (opsSymmetricKeyHex : String) (request : TagKeyRequest) :
    Res DerivedTagKey :=
  deriveTagKeyForProfile hkdf "sharing-key" sharingKeySalt sharingKeySizeBytes opsSymmetricKeyHex request

/-- One round of the loop over the profiles. -/
def validateSharingProfile (hkdf : Hkdf) (hooks : TagHooks) (seenNames : List String) (input : SharingProfileInput) :
    Res KeyedSharingProfile := do
  validateSharingProfileFields input.name input.context input.threshold.toNat input.shares.toNat
    input.maxSecretLen.toNat
  validateProfileKid "sharing" hooks.isLoadedKid input.kid
  rejectDuplicatedName "sharing" seenNames input.name
  let keys ← deriveTagKeys hkdf hooks "sharing" sharingHmacSubkeySalt sharingKeySizeBytes input.name input.kid
    input.context
  .ok ⟨input.name, input.kid, input.threshold, input.shares, input.maxSecretLen, input.context, keys.publicAlgorithm,
    keys.botanAlgorithm, keys.customization, keys.key⟩

def validateSharingProfiles (hkdf : Hkdf) (hooks : TagHooks) (inputs : List SharingProfileInput) :
    Res (ProfilesState KeyedSharingProfile) := do
  let profiles ← Loop.collect (validateSharingProfile hkdf hooks) SharingProfileInput.name [] inputs
  .ok (.fromProfiles KeyedSharingProfile.name profiles)

end Vectis.Core.Sharing

import Vectis.Core.Commitments
import Vectis.Core.DeterministicTokenization
import Vectis.Core.Fpe.Transform
import Vectis.Core.Sharing.Profile
import Vectis.Core.Tokenization.Profile
import Vectis.Ops.KeyMaterial

/-!
# Hooks of the configuration

What the sections of the configuration need of the node (`io/http/app.rs`): whether a kid is loaded, the hash of its
key, and the keys that are derived from its symmetric key.
-/

namespace Vectis.Io.Http.App

open Vectis.Core Core.Profiles Core.Mac Ops.Keys

/-- The key of a kid that a profile names. -/
def requireKey (state : LoadedKeys) (message kid : String) : Res OpsKey :=
  match state.get kid with
  | some key => .ok key
  | none => .error (.invalidInput message)

def notLoaded (kind kid : String) : String := kind ++ " profile references kid not loaded in memory: " ++ kid

section Hooks

variable (hkdf : Hkdf) (state : LoadedKeys)

def fpeHooks : Fpe.FpeHooks where
  isLoadedKid := state.containsId
  deriveFpeKey request := do
    let key ← requireKey state (notLoaded "fpe" request.kid) request.kid
    Fpe.deriveFpeKeyForProfile hkdf key.symmetric.keyHex request
  deriveFpeAuthKey request := do
    let key ← requireKey state (notLoaded "fpe" request.kid) request.kid
    Fpe.deriveFpeAuthKeyForProfile hkdf key.symmetric.keyHex request

def tokenizationHooks : Tokenization.TokenizationHooks where
  isLoadedKid := state.containsId
  deriveKeys request := do
    let key ← requireKey state (notLoaded "tokenization" request.kid) request.kid
    Tokenization.deriveTokenizationKeys hkdf key.symmetric.keyHex key.symmetric.variant request

/-- One hook for the three sections. -/
def hashAlgorithmForKid (kid : String) : Res String := do
  let key ← requireKey state (notLoaded "mac" kid) kid
  .ok key.keyMaterial.hashVariant

/-- The hooks of a section with tags. -/
def tagHooks (kind : String) (derive : Hkdf → String → TagKeyRequest → Res DerivedTagKey) : TagHooks where
  isLoadedKid := state.containsId
  hashAlgorithmForKid := hashAlgorithmForKid state
  deriveKey request := do
    let key ← requireKey state (notLoaded kind request.kid) request.kid
    derive hkdf key.symmetric.keyHex request

def macHooks : TagHooks := tagHooks hkdf state "mac" deriveMacKeyForProfile

def commitmentHooks : TagHooks := tagHooks hkdf state "commitment" Commitments.deriveCommitmentKeyForProfile

def sharingHooks : TagHooks := tagHooks hkdf state "sharing" Sharing.deriveSharingKeyForProfile

def deriveDeterministicKey (request : DeterministicTokenization.DeterministicTokenKeyDerivationRequest) :
    Res (List UInt8) := do
  let key ← requireKey state "deterministic token profile kid is not loaded" request.kid
  DeterministicTokenization.deriveProfileKey hkdf key.symmetric.keyHex request

end Hooks

theorem requireKey_ok_iff {state : LoadedKeys} {message kid : String} {key : OpsKey} :
    requireKey state message kid = .ok key ↔ state.get kid = some key := by
  unfold requireKey
  cases state.get kid with
  | none => simp
  | some found => simp

/-- The algorithms that the hooks derive are those of the hash of the kid. -/
theorem tagHooks_resolved {hkdf : Hkdf} {state : LoadedKeys} {kind purpose : String} {salt : List UInt8} {size : Nat} :
    (tagHooks hkdf state kind fun hkdf => deriveTagKeyForProfile hkdf purpose salt size).Resolved := by
  intro request derived h
  obtain ⟨key, -, h⟩ := Loop.bind_eq_ok.mp h
  exact ⟨request.hashAlgorithm, deriveTagKeyForProfile_resolved h⟩

/-- The commitment profiles that a node loads are accepted ones. -/
theorem commitmentProfiles_accepted {hkdf : Hkdf} (hsized : Sized hkdf) {state : LoadedKeys}
    {inputs : List Commitments.CommitmentProfileInput} {profiles : ProfilesState Commitments.CommitmentProfile}
    (h : Commitments.validateCommitmentProfiles hkdf (commitmentHooks hkdf state) inputs = .ok profiles) :
    ∀ profile ∈ profiles.profiles, Commitments.Accepted profile := fun _ hprofile =>
  Commitments.accepted_of_validate hsized tagHooks_resolved h hprofile

end Vectis.Io.Http.App

import Vectis.Core.Commitments
import Vectis.Core.DeterministicTokenization
import Vectis.Core.Fpe.Transform
import Vectis.Core.Masking
import Vectis.Core.Permissions
import Vectis.Core.RemoteRoutes
import Vectis.Core.Sharing.Profile
import Vectis.Core.TimeAttestation
import Vectis.Core.Tokenization.Profile
import Vectis.Lib.Json.Record

/-!
# The configuration file

`core/config_file.rs`: the sections as they are written and read, the canonical text that is signed, and the state that
a server makes of a file.

- `configShape`: the file is read back from what is written, so nothing that the checks read is lost;
- `canonicalConfigJson_canonical`: the canonical text of a file is its own canonical text;
- `validateConfigContent_eq`: files with one canonical text make the same state on every node.
-/

namespace Vectis.Core.Config

open Json Canonical Validation Profiles Mac Ops.Message Ops.Sign

/-! ## Time attestation -/

structure TimeAttestationConfigInput where
  provider : Option String
  ntsServer : Option String
  roughtimeServer : Option String
  roughtimePublicKey : Option String
  maxClockSkewMs : Option UInt64
  maxRoundTripMs : Option UInt64
  maxRoughtimeRadiusMs : Option UInt64
  deriving DecidableEq, Repr

/-- `TimeAttestationConfigInput::default`. -/
def TimeAttestationConfigInput.empty : TimeAttestationConfigInput := ⟨none, none, none, none, none, none, none⟩

/-- `SUPPORTED_TIME_PROVIDERS`. -/
def supportedTimeProviders : List String := ["cloudflare"]

def timeAttestationDefaults : TimeAttestation.EffectiveTimeAttestationConfig where
  provider := "cloudflare"
  ntsServer := "time.cloudflare.com"
  roughtimeServer := "roughtime.cloudflare.com:2003"
  roughtimePublicKey := "0GD7c3yP8xEc4Zl2zeuN2SlLvDVVocjsPSL8/Rl/7zg="
  maxClockSkewMs := 1000
  maxRoundTripMs := 2000
  maxRoughtimeRadiusMs := 2000

def validateMillis : List (String × UInt64) → Res Unit
  | [] => .ok ()
  | (field, number) :: rest =>
    if number = 0 || number > 60000 then .error (.invalidInput (field ++ " must be between 1 and 60000"))
    else validateMillis rest

/-- `validate_effective_config`. -/
def validateEffectiveConfig (addr : AddrLibrary) (value : TimeAttestation.EffectiveTimeAttestationConfig) :
    Res Unit := do
  validateConfigName "time_attestation.provider" value.provider
  if value.provider ∉ supportedTimeProviders then
    .error (.invalidInput ("time_attestation.provider is not supported: " ++ value.provider))
  else do
    validateHostname addr "time_attestation.nts_server" value.ntsServer
    let _ ← validateHostPort addr "time_attestation.roughtime_server" value.roughtimeServer
    match standardDecode value.roughtimePublicKey with
    | none => .error (.invalidInput "time_attestation.roughtime_public_key must be valid base64")
    | some key =>
      if key.length ≠ 32 then .error (.invalidInput "time_attestation.roughtime_public_key must decode to 32 bytes")
      else
        validateMillis [("time_attestation.max_clock_skew_ms", value.maxClockSkewMs),
          ("time_attestation.max_round_trip_ms", value.maxRoundTripMs),
          ("time_attestation.max_roughtime_radius_ms", value.maxRoughtimeRadiusMs)]

def resolveTimeAttestation (addr : AddrLibrary) (input : Option TimeAttestationConfigInput) :
    Res TimeAttestation.EffectiveTimeAttestationConfig := do
  let input := input.getD .empty
  let defaults := timeAttestationDefaults
  let effective : TimeAttestation.EffectiveTimeAttestationConfig :=
    { provider := input.provider.getD defaults.provider, ntsServer := input.ntsServer.getD defaults.ntsServer,
      roughtimeServer := input.roughtimeServer.getD defaults.roughtimeServer,
      roughtimePublicKey := input.roughtimePublicKey.getD defaults.roughtimePublicKey,
      maxClockSkewMs := input.maxClockSkewMs.getD defaults.maxClockSkewMs,
      maxRoundTripMs := input.maxRoundTripMs.getD defaults.maxRoundTripMs,
      maxRoughtimeRadiusMs := input.maxRoughtimeRadiusMs.getD defaults.maxRoughtimeRadiusMs }
  validateEffectiveConfig addr effective
  .ok effective

/-! ## Sections -/

def text (key : String) : Json.Field String := .required key .string

def count (key : String) : Json.Field UInt64 := .required key .u64

/-- `RouteInput`. -/
def routeShape : Shape Routes.FinalAppRoute :=
  .record ((Fields.cons (text "final_app_addr") <| .cons (text "final_app_path") <| .cons (text "kid") <|
    .cons (text "name") .nil).map
    (fun t => (t.finalAppAddr, t.finalAppPath, t.kid, t.name, ()))
    (fun (addr, path, kid, name, _) => ⟨kid, name, addr, path⟩) fun _ => rfl) true (by decide)

/-- `PeerDerKey`. -/
def derKeyShape : Shape PublicDerKey :=
  .record ((Fields.cons (text "alg") <| .cons (text "public_key_der_hex") .nil).map
    (fun t => (t.alg, t.publicKeyDerHex, ())) (fun (alg, hex, _) => ⟨alg, hex⟩) fun _ => rfl) false (by decide)

/-- `PeerRawKey`. -/
def rawKeyShape : Shape PublicRawKey :=
  .record ((Fields.cons (text "alg") <| .cons (text "public_key_hex") .nil).map
    (fun t => (t.alg, t.publicKeyHex, ())) (fun (alg, hex, _) => ⟨alg, hex⟩) fun _ => rfl) false (by decide)

/-- `PeerPublicKeys`. -/
def publicKeysFields : Fields PublicKeys :=
  (Fields.cons (.required "eddsa" derKeyShape) <| .cons (.required "ml-dsa" derKeyShape) <|
    .cons (.required "ml-kem" derKeyShape) <| .cons (.required "xecdh" rawKeyShape) .nil).map
    (fun t => (t.eddsa, t.mlDsa, t.mlKem, t.xecdh, ()))
    (fun (eddsa, mlDsa, mlKem, xecdh, _) => ⟨eddsa, xecdh, mlDsa, mlKem⟩) fun _ => rfl

theorem publicKeysFields_sorted : Sorted publicKeysFields.keys := by decide

def publicKeysShape : Shape PublicKeys := .record publicKeysFields false publicKeysFields_sorted

theorem publicKeysShape_ne_null : ∀ keys, publicKeysShape.write keys ≠ .null :=
  record_ne_null publicKeysFields false publicKeysFields_sorted

/-- `RemoteRouteInput`. -/
def remoteRouteShape : Shape RemoteRoutes.RemoteRoute :=
  .record ((Fields.cons (.required "allowed_local_kids" (.list .string)) <| .cons (text "name") <|
    .cons (.nullable "public_keys" publicKeysShape publicKeysShape_ne_null) <| .cons (text "remote_addr") <|
    .cons (text "remote_kid") <| .cons (text "status") .nil).map
    (fun t => (t.allowedLocalKids, t.name, t.publicKeys, t.remoteAddr, t.remoteKid, t.status, ()))
    (fun (kids, name, keys, addr, kid, status, _) => ⟨kid, name, addr, kids, status, keys⟩) fun _ => rfl) true
      (by decide)

/-- `KidPermissionInput`. -/
def kidPermissionShape : Shape Permissions.KidPermissionInput :=
  .record ((Fields.cons (.required "actions" (.list .string)) <| .cons (text "kid") .nil).map
    (fun t => (t.actions, t.kid, ())) (fun (actions, kid, _) => ⟨kid, actions⟩) fun _ => rfl) true (by decide)

/-- `PermissionClientInput`. -/
def permissionClientShape : Shape Permissions.PermissionClientInput :=
  .record ((Fields.cons (text "apikey_hash") <| .cons (text "client") <|
    .cons (.required "permissions" (.list kidPermissionShape)) <| .cons (text "status") .nil).map
    (fun t => (t.apikeyHash, t.client, t.permissions, t.status, ()))
    (fun (hash, client, permissions, status, _) => ⟨client, hash, status, permissions⟩) fun _ => rfl) true (by decide)

def AlphabetPreset.name : Fpe.AlphabetPreset → String
  | .num => "num"
  | .alpha => "alpha"
  | .alphanum => "alphanum"

def alphabetPresetShape : Shape Fpe.AlphabetPreset :=
  .names AlphabetPreset.name [.num, .alpha, .alphanum] (fun t => by cases t <;> simp)
    (fun s t h => by cases s <;> cases t <;> first | rfl | exact absurd h (by decide))

def LetterCase.name : Fpe.LetterCase → String
  | .uppercase => "uppercase"
  | .lowercase => "lowercase"
  | .mixed => "mixed"

def letterCaseShape : Shape Fpe.LetterCase :=
  .names LetterCase.name [.uppercase, .lowercase, .mixed] (fun t => by cases t <;> simp)
    (fun s t h => by cases s <;> cases t <;> first | rfl | exact absurd h (by decide))

def SubjectMode.name : SubjectMode → String
  | .none => "none"
  | .stored => "stored"

def subjectModeShape : Shape SubjectMode :=
  .names SubjectMode.name [.none, .stored] (fun t => by cases t <;> simp)
    (fun s t h => by cases s <;> cases t <;> first | rfl | exact absurd h (by decide))

/-- The mode is left out when it is `none`. -/
def subjectMode : Json.Field SubjectMode := .unless "subject_mode" subjectModeShape .none

def fpeProfileShape : Shape Fpe.FpeProfileInput :=
  .record ((Fields.cons (.present "alphabet" .string) <| .cons (.present "alphabet_preset" alphabetPresetShape) <|
    .cons (.unless "authenticated" .bool false) <| .cons (text "fpe_version") <| .cons (text "kid") <|
    .cons (.present "letter_case" letterCaseShape) <| .cons (count "max_len") <| .cons (count "min_len") <|
    .cons (text "name") <| .cons (.present "preserve_characters" .string) <| .cons subjectMode <|
    .cons (text "tweak_aad") .nil).map
    (fun t => (t.alphabet, t.alphabetPreset, t.authenticated, t.fpeVersion, t.kid, t.letterCase, t.maxLen, t.minLen,
      t.name, t.preserveCharacters, t.subjectMode, t.tweakAad, ()))
    (fun (alphabet, alphabetPreset, authenticated, version, kid, letterCase, maxLen, minLen, name, preserve, mode,
      tweak, _) =>
      ⟨name, version, alphabet, alphabetPreset, letterCase, preserve, authenticated, mode, minLen, maxLen, tweak, kid⟩)
    fun _ => rfl) true (by decide)

def tokenizationProfileShape : Shape Tokenization.TokenizationProfileInput :=
  .record ((Fields.cons (text "kid") <| .cons (count "max_plaintext_len") <| .cons (text "name") <|
    .cons (.required "one_time" .bool) <| .cons subjectMode <| .cons (count "token_len") <|
    .cons (text "token_prefix") .nil).map
    (fun t => (t.kid, t.maxPlaintextLen, t.name, t.oneTime, t.subjectMode, t.tokenLen, t.tokenPrefix, ()))
    (fun (kid, maxLen, name, oneTime, mode, len, pre, _) => ⟨name, kid, pre, len, maxLen, oneTime, mode⟩)
    fun _ => rfl) true (by decide)

def deterministicProfileShape : Shape DeterministicTokenization.DeterministicTokenProfileInput :=
  .record ((Fields.cons (text "context") <| .cons (text "kid") <| .cons (count "max_plaintext_len") <|
    .cons (count "min_plaintext_len") <| .cons (text "name") <| .cons subjectMode .nil).map
    (fun t => (t.context, t.kid, t.maxPlaintextLen, t.minPlaintextLen, t.name, t.subjectMode, ()))
    (fun (context, kid, maxLen, minLen, name, mode, _) => ⟨name, kid, context, minLen, maxLen, mode⟩)
    fun _ => rfl) true (by decide)

def macProfileShape : Shape MacProfileInput :=
  .record ((Fields.cons (text "context") <| .cons (text "kid") <| .cons (text "name") .nil).map
    (fun t => (t.context, t.kid, t.name, ())) (fun (context, kid, name, _) => ⟨name, kid, context⟩) fun _ => rfl) true
    (by decide)

/-- `MaskingProfileInput`. -/
def maskingProfileShape : Shape Masking.MaskingProfile :=
  .record ((Fields.cons (text "kid") <| .cons (text "mask_char") <| .cons (count "max_len") <| .cons
    (count "min_len") <| .cons (text "name") <| .cons (count "visible_first") <| .cons (count "visible_last") .nil).map
    (fun t => (t.kid, t.maskChar, t.maxLen, t.minLen, t.name, t.visibleFirst, t.visibleLast, ()))
    (fun (kid, maskChar, maxLen, minLen, name, first, last, _) => ⟨name, kid, first, last, maskChar, minLen, maxLen⟩)
    fun _ => rfl) true (by decide)

def commitmentProfileShape : Shape Commitments.CommitmentProfileInput :=
  .record ((Fields.cons (text "context") <| .cons (text "kid") <| .cons (count "max_plaintext_len") <|
    .cons (text "name") <| .cons (count "opening_len") .nil).map
    (fun t => (t.context, t.kid, t.maxPlaintextLen, t.name, t.openingLen, ()))
    (fun (context, kid, maxLen, name, opening, _) => ⟨name, kid, context, maxLen, opening⟩) fun _ => rfl) true
      (by decide)

def sharingProfileShape : Shape Sharing.SharingProfileInput :=
  .record ((Fields.cons (text "context") <| .cons (text "kid") <| .cons (count "max_secret_len") <|
    .cons (text "name") <| .cons (count "shares") <| .cons (count "threshold") .nil).map
    (fun t => (t.context, t.kid, t.maxSecretLen, t.name, t.shares, t.threshold, ()))
    (fun (context, kid, maxLen, name, shares, threshold, _) => ⟨name, kid, threshold, shares, maxLen, context⟩)
    fun _ => rfl) true (by decide)

theorem string_ne_null : ∀ s, Shape.string.write s ≠ .null := fun _ h => Value.noConfusion h

theorem u64_ne_null : ∀ n, Shape.u64.write n ≠ .null := fun _ h => Value.noConfusion h

def timeAttestationFields : Fields TimeAttestationConfigInput :=
  (Fields.cons (.optional "max_clock_skew_ms" .u64 u64_ne_null) <|
    .cons (.optional "max_roughtime_radius_ms" .u64 u64_ne_null) <|
    .cons (.optional "max_round_trip_ms" .u64 u64_ne_null) <| .cons (.optional "nts_server" .string string_ne_null) <|
    .cons (.optional "provider" .string string_ne_null) <|
    .cons (.optional "roughtime_public_key" .string string_ne_null) <|
    .cons (.optional "roughtime_server" .string string_ne_null) .nil).map
    (fun t => (t.maxClockSkewMs, t.maxRoughtimeRadiusMs, t.maxRoundTripMs, t.ntsServer, t.provider,
      t.roughtimePublicKey, t.roughtimeServer, ()))
    (fun (skew, radius, trip, nts, provider, key, server, _) => ⟨provider, nts, server, key, skew, trip, radius⟩)
      fun _ => rfl

theorem timeAttestationFields_sorted : Sorted timeAttestationFields.keys := by decide

def timeAttestationShape : Shape TimeAttestationConfigInput :=
  .record timeAttestationFields true timeAttestationFields_sorted

theorem timeAttestationShape_ne_null : ∀ input, timeAttestationShape.write input ≠ .null :=
  record_ne_null timeAttestationFields true timeAttestationFields_sorted

/-! ## Files -/

structure ConfigFile where
  version : String
  routes : List Routes.FinalAppRoute
  remoteRoutes : List RemoteRoutes.RemoteRoute
  permissions : List Permissions.PermissionClientInput
  fpeProfiles : List Fpe.FpeProfileInput
  tokenizationProfiles : List Tokenization.TokenizationProfileInput
  deterministicTokenizationProfiles : List DeterministicTokenization.DeterministicTokenProfileInput
  macProfiles : List MacProfileInput
  maskingProfiles : List Masking.MaskingProfile
  commitmentProfiles : List Commitments.CommitmentProfileInput
  sharingProfiles : List Sharing.SharingProfileInput
  timeAttestation : Option TimeAttestationConfigInput
  deriving DecidableEq, Repr

/-- A section that is empty when it is missing. -/
def sectionOf {T : Type} (key : String) (shape : Shape T) : Json.Field (List T) := .default key (.list shape) []

/-- Unknown keys of the file are ignored. -/
def configShape : Shape ConfigFile :=
  .record ((Fields.cons (sectionOf "commitment_profiles" commitmentProfileShape) <|
    .cons (.unless "deterministic_tokenization_profiles" (.list deterministicProfileShape) []) <|
    .cons (sectionOf "fpe_profiles" fpeProfileShape) <| .cons (sectionOf "mac_profiles" macProfileShape) <|
    .cons (sectionOf "masking_profiles" maskingProfileShape) <| .cons (sectionOf "permissions" permissionClientShape) <|
    .cons (sectionOf "remote_routes" remoteRouteShape) <| .cons (sectionOf "routes" routeShape) <|
    .cons (sectionOf "sharing_profiles" sharingProfileShape) <|
    .cons (.optional "time_attestation" timeAttestationShape timeAttestationShape_ne_null) <|
    .cons (sectionOf "tokenization_profiles" tokenizationProfileShape) <| .cons (text "version") .nil).map
    (fun t => (t.commitmentProfiles, t.deterministicTokenizationProfiles, t.fpeProfiles, t.macProfiles,
      t.maskingProfiles, t.permissions, t.remoteRoutes, t.routes, t.sharingProfiles, t.timeAttestation,
      t.tokenizationProfiles, t.version, ()))
    (fun (commitment, deterministic, fpe, mac, masking, permissions, remoteRoutes, routes, sharing, time, token,
      version, _) =>
      ⟨version, routes, remoteRoutes, permissions, fpe, token, deterministic, mac, masking, commitment, sharing, time⟩)
    fun _ => rfl) false (by decide)

/-- `derive(Serialize, Deserialize)` of a file. -/
def configCodec : Codec ConfigFile := ⟨configShape.write, configShape.read, configShape.read_write⟩

def parseConfigJson (serde : SerdeJson) (content : String) : Res ConfigFile :=
  match serde.fromStrAs configCodec content with
  | some configFile => .ok configFile
  | none => .error (.invalidInput "config file must be valid JSON")

def canonicalConfigJson (serde : SerdeJson) (content : String) : Res String := do
  let configFile ← parseConfigJson serde content
  validateProtocolVersion "config.version" configFile.version
  canonicalJsonV1 serde configCodec configFile

/-! ## Validation -/

/-- What a node gives the checks: its loaded kids, the keys that it derives, and what the generator draws to try the
keys of a peer. -/
structure ConfigHooks where
  isLoadedKid : String → Bool
  deriveFpeKey : Fpe.FpeKeyDerivationRequest → Res (List UInt8)
  deriveTokenizationKeys : Tokenization.TokenizationKeyDerivationRequest → Res Tokenization.DerivedTokenizationKeys
  hashAlgorithmForKid : String → Res String
  deriveMacKey : TagKeyRequest → Res DerivedTagKey
  deriveCommitmentKey : TagKeyRequest → Res DerivedTagKey
  deriveSharingKey : TagKeyRequest → Res DerivedTagKey
  deriveFpeAuthKey : Fpe.FpeKeyDerivationRequest → Res (List UInt8)
  deriveDeterministicKey : DeterministicTokenization.DeterministicTokenKeyDerivationRequest → Res (List UInt8)
  trial : String → Res (List UInt8 × List UInt8)

/-- The libraries that the checks call. -/
structure ConfigLibrary extends MessageLibrary where
  addr : AddrLibrary
  newFf1 : Fpe.NewFf1

structure ConfigState where
  routes : Routes.RoutesState
  remoteRoutes : RemoteRoutes.RemoteRoutesState
  permissions : Permissions.PermissionsState
  fpeProfiles : ProfilesState Fpe.FpeProfile
  tokenizationProfiles : ProfilesState Tokenization.TokenizationProfile
  deterministicTokenizationProfiles : DeterministicTokenization.DeterministicTokenProfilesState
  macProfiles : ProfilesState MacProfile
  maskingProfiles : ProfilesState Masking.MaskingProfile
  commitmentProfiles : ProfilesState Commitments.CommitmentProfile
  sharingProfiles : ProfilesState Sharing.KeyedSharingProfile
  timeAttestation : TimeAttestation.EffectiveTimeAttestationConfig

section Checks

variable (lib : ConfigLibrary) (defaults : String × String) (hooks : ConfigHooks)

def validateConfigFile (configFile : ConfigFile) : Res ConfigState := do
  validateProtocolVersion "config.version" configFile.version
  let routes ← Routes.validateRoutes lib.addr hooks.isLoadedKid configFile.routes
  let remoteRoutes ← RemoteRoutes.validateRemoteRoutes lib.toMessageLibrary lib.addr hooks.isLoadedKid hooks.trial
    configFile.remoteRoutes
  let permissions ← Permissions.validatePermissionClients configFile.permissions hooks.isLoadedKid
  let fpeProfiles ← Fpe.validateFpeProfiles lib.newFf1 ⟨hooks.isLoadedKid, hooks.deriveFpeKey, hooks.deriveFpeAuthKey⟩
    configFile.fpeProfiles
  let tokenizationProfiles ← Tokenization.validateTokenizationProfiles ⟨hooks.isLoadedKid, hooks.deriveTokenizationKeys⟩
    configFile.tokenizationProfiles
  let deterministicTokenizationProfiles ← DeterministicTokenization.validateProfiles hooks.isLoadedKid
    hooks.deriveDeterministicKey configFile.deterministicTokenizationProfiles
  let macProfiles ← validateMacProfiles lib.hkdf ⟨hooks.isLoadedKid, hooks.hashAlgorithmForKid, hooks.deriveMacKey⟩
    configFile.macProfiles
  let maskingProfiles ← Masking.validateMaskingProfiles hooks.isLoadedKid configFile.maskingProfiles
  let commitmentProfiles ← Commitments.validateCommitmentProfiles lib.hkdf
    ⟨hooks.isLoadedKid, hooks.hashAlgorithmForKid, hooks.deriveCommitmentKey⟩ configFile.commitmentProfiles
  let sharingProfiles ← Sharing.validateSharingProfiles lib.hkdf
    ⟨hooks.isLoadedKid, hooks.hashAlgorithmForKid, hooks.deriveSharingKey⟩ configFile.sharingProfiles
  let timeAttestation ← resolveTimeAttestation lib.addr configFile.timeAttestation
  .ok { routes := ⟨defaults.1, defaults.2, routes⟩, remoteRoutes := .fromRoutes remoteRoutes, permissions, fpeProfiles,
        tokenizationProfiles, deterministicTokenizationProfiles, macProfiles, maskingProfiles, commitmentProfiles,
        sharingProfiles, timeAttestation }

def validateConfigContent (content : String) : Res ConfigState := do
  let configFile ← parseConfigJson lib.serde content
  validateConfigFile lib defaults hooks configFile

/-- `load_config_file` after its file was read. -/
def loadConfigFile (verifyConfig : String → Res Unit) (content : String) : Res ConfigState := do
  verifyConfig content
  let configFile ← parseConfigJson lib.serde content
  validateConfigFile lib defaults hooks configFile

end Checks

/-! ## Canonical texts -/

variable {serde : SerdeJson} {content content₁ content₂ canonical : String} {configFile : ConfigFile}

theorem parseConfigJson_ok_iff :
    parseConfigJson serde content = .ok configFile ↔ serde.fromStrAs configCodec content = some configFile := by
  unfold parseConfigJson
  cases serde.fromStrAs configCodec content with
  | none => simp
  | some found => simp

theorem canonicalConfigJson_ok_iff : canonicalConfigJson serde content = .ok canonical ↔
    ∃ configFile, parseConfigJson serde content = .ok configFile ∧
      validateProtocolVersion "config.version" configFile.version = .ok () ∧
      canonicalJsonV1 serde configCodec configFile = .ok canonical := by
  rw [canonicalConfigJson, Loop.bind_eq_ok]
  simp only [Loop.bind_unit_eq_ok]

theorem configShape_levels : configShape.levels < recursionLimit := by decide

/-- One canonical text, one file. -/
theorem configFile_unique {other : ConfigFile} (h : canonicalJsonV1 serde configCodec configFile = .ok canonical)
    (h' : canonicalJsonV1 serde configCodec other = .ok canonical) : other = configFile := by
  have htext := (canonicalJsonV1_ok h').symm.trans (canonicalJsonV1_ok h)
  exact configShape.write_injective (toText_injective (configShape.plain other) (configShape.plain configFile) htext)

/-- The canonical text is read as the file it is of. -/
theorem parseConfigJson_canonical (h : canonicalJsonV1 serde configCodec configFile = .ok canonical) :
    parseConfigJson serde canonical = .ok configFile := by
  rw [parseConfigJson_ok_iff, canonicalJsonV1_ok h]
  exact serde.fromStrAs_toText configCodec configFile (configShape.plain configFile) (canonicalJsonV1_unreserved h)
    (Nat.lt_of_le_of_lt (configShape.depth_le configFile) configShape_levels)

theorem canonicalConfigJson_canonical (h : canonicalConfigJson serde content = .ok canonical) :
    canonicalConfigJson serde canonical = .ok canonical := by
  obtain ⟨configFile, -, hversion, hcanonical⟩ := canonicalConfigJson_ok_iff.mp h
  exact canonicalConfigJson_ok_iff.mpr ⟨configFile, parseConfigJson_canonical hcanonical, hversion, hcanonical⟩

/-- Files of one canonical text are read as one file. -/
theorem parseConfigJson_eq (h₁ : canonicalConfigJson serde content₁ = .ok canonical)
    (h₂ : canonicalConfigJson serde content₂ = .ok canonical) :
    parseConfigJson serde content₁ = parseConfigJson serde content₂ := by
  obtain ⟨file₁, hparse₁, -, hcanonical₁⟩ := canonicalConfigJson_ok_iff.mp h₁
  obtain ⟨file₂, hparse₂, -, hcanonical₂⟩ := canonicalConfigJson_ok_iff.mp h₂
  rw [hparse₁, hparse₂, configFile_unique hcanonical₂ hcanonical₁]

theorem validateConfigContent_eq {lib : ConfigLibrary} (defaults : String × String) (hooks : ConfigHooks)
    (h₁ : canonicalConfigJson lib.serde content₁ = .ok canonical)
    (h₂ : canonicalConfigJson lib.serde content₂ = .ok canonical) :
    validateConfigContent lib defaults hooks content₁ = validateConfigContent lib defaults hooks content₂ := by
  rw [validateConfigContent, validateConfigContent, parseConfigJson_eq h₁ h₂]

end Vectis.Core.Config

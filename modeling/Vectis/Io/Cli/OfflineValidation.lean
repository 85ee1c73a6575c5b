import Vectis.Core.DomainAad
import Vectis.Io.Cli.ConfigStore
import Vectis.Io.Http.App

/-!
# Offline validation

The commands check a file with constant keys in place of those of the node. What only a derivation checks is not
checked then: the associated data of a deterministic profile is built from its labels nowhere else, while the other
sections with labels also build it for the customization of their tags.

- `validateConfigFile_online`: a file that is accepted offline, and whose deterministic profiles have visible labels, is
  accepted by every node that holds its kids, with the same definitions;
- `offline_sound_iff`: and only then;
- `blank_label_refused`: a profile that the commands write and the node refuses.
-/

namespace Vectis.Io.Cli

open Vectis.Core Json Core.Canonical Core.Config Core.Crypto Core.Mac Core.Profiles Core.Validation Http.App Ops.Keys

/-! ## What a node gives the checks -/

section

variable (hkdf : Hkdf) (state : LoadedKeys) (trial : String → Res (List UInt8 × List UInt8))

/-- The hooks of a node, with what its generator draws to try the keys of its peers. -/
def nodeHooks : ConfigHooks where
  isLoadedKid := state.containsId
  deriveFpeKey := (fpeHooks hkdf state).deriveFpeKey
  deriveTokenizationKeys := (tokenizationHooks hkdf state).deriveKeys
  hashAlgorithmForKid := hashAlgorithmForKid state
  deriveMacKey := (macHooks hkdf state).deriveKey
  deriveCommitmentKey := (commitmentHooks hkdf state).deriveKey
  deriveSharingKey := (sharingHooks hkdf state).deriveKey
  deriveFpeAuthKey := (fpeHooks hkdf state).deriveFpeAuthKey
  deriveDeterministicKey := deriveDeterministicKey hkdf state
  trial

end

/-- A key whose symmetric part has 32 bytes and whose algorithms are supported. -/
structure Supported (key : OpsKey) : Prop where
  parent : ∃ bytes, hexDecode key.symmetric.keyHex = .ok bytes ∧ bytes.length = 32
  cipher : ∃ cipher, symmetricCipher key.symmetric.variant = some cipher
  hash : key.keyMaterial.hashVariant ∈ hashAlgorithms

/-- The kid is loaded, with a supported key. -/
def Held (state : LoadedKeys) (kid : String) : Prop := ∃ key, state.get kid = some key ∧ Supported key

/-- The kids that the sections of a file name are loaded; a wildcard is none. -/
structure KidsHeld (state : LoadedKeys) (configFile : ConfigFile) : Prop where
  routes : ∀ route ∈ configFile.routes, Held state route.kid
  remoteRoutes : ∀ route ∈ configFile.remoteRoutes, ∀ kid ∈ route.allowedLocalKids, kid ≠ "*" → Held state kid
  permissions : ∀ client ∈ configFile.permissions, ∀ permission ∈ client.permissions, permission.kid ≠ "*" →
    Held state permission.kid
  fpeProfiles : ∀ profile ∈ configFile.fpeProfiles, Held state profile.kid
  tokenizationProfiles : ∀ profile ∈ configFile.tokenizationProfiles, Held state profile.kid
  deterministicProfiles : ∀ profile ∈ configFile.deterministicTokenizationProfiles, Held state profile.kid
  macProfiles : ∀ profile ∈ configFile.macProfiles, Held state profile.kid
  maskingProfiles : ∀ profile ∈ configFile.maskingProfiles, Held state profile.kid
  commitmentProfiles : ∀ profile ∈ configFile.commitmentProfiles, Held state profile.kid
  sharingProfiles : ∀ profile ∈ configFile.sharingProfiles, Held state profile.kid

/-- `create_hkdf` gives the bytes that are asked for. -/
def Expands (hkdf : Hkdf) : Prop := ∀ inputKey salt info length, inputKey ≠ [] → length ≤ 64 →
  ∃ output, hkdf inputKey salt info length = .ok output ∧ output.length = length

/-- `FF1::new` looks at the length of the key only. -/
def KeyBlind (newFf1 : Fpe.NewFf1) : Prop := ∀ key key' radix, key.length = key'.length →
  newFf1 key radix = newFf1 key' radix

/-! ## Definitions without keys -/

/-- The index stays. -/
def definitionsOf {P Q : Type} (definition : P → Q) (state : ProfilesState P) : ProfilesState Q :=
  ⟨state.profiles.map definition, state.byName⟩

def fpeDefinition (profile : Fpe.FpeProfile) : Fpe.FpeProfile :=
  { profile with cipher := none, parentKey := none, authKey := none }

def tokenDefinition (profile : Tokenization.TokenizationProfile) : Tokenization.TokenizationProfile :=
  { profile with cipherAlgorithm := "", hashKey := [], dataKey := [] }

def macDefinition (profile : MacProfile) : MacProfile :=
  { profile with publicAlgorithm := "", botanAlgorithm := "", macKey := [] }

def commitmentDefinition (profile : Commitments.CommitmentProfile) : Commitments.CommitmentProfile :=
  { profile with publicAlgorithm := "", botanAlgorithm := "", commitKey := [] }

def sharingDefinition (profile : Sharing.KeyedSharingProfile) : Sharing.KeyedSharingProfile :=
  { profile with publicAlgorithm := "", botanAlgorithm := "", shareAuthKey := [] }

/-- All that the file decides: the routes, the permissions and the profiles but for their keys and algorithms. -/
structure SameDefinitions (online offline : ConfigState) : Prop where
  routes : online.routes.routes = offline.routes.routes
  remoteRoutes : online.remoteRoutes = offline.remoteRoutes
  permissions : online.permissions = offline.permissions
  fpe : definitionsOf fpeDefinition online.fpeProfiles =
    definitionsOf fpeDefinition offline.fpeProfiles
  tokenization : definitionsOf tokenDefinition online.tokenizationProfiles =
    definitionsOf tokenDefinition offline.tokenizationProfiles
  deterministic : online.deterministicTokenizationProfiles.profiles.map (·.input) =
    offline.deterministicTokenizationProfiles.profiles.map (·.input)
  mac : definitionsOf macDefinition online.macProfiles =
    definitionsOf macDefinition offline.macProfiles
  masking : online.maskingProfiles = offline.maskingProfiles
  commitment : definitionsOf commitmentDefinition online.commitmentProfiles =
    definitionsOf commitmentDefinition offline.commitmentProfiles
  sharing : definitionsOf sharingDefinition online.sharingProfiles =
    definitionsOf sharingDefinition offline.sharingProfiles
  timeAttestation : online.timeAttestation = offline.timeAttestation

theorem fromProfiles_definitions {P : Type} {name : P → String} {definition : P → P}
    (hname : ∀ profile, name (definition profile) = name profile) {profiles profiles' : List P}
    (h : profiles'.map definition = profiles.map definition) :
    definitionsOf definition (.fromProfiles name profiles') =
      definitionsOf definition (.fromProfiles name profiles) := by
  have hindex : ∀ profiles : List P, (profiles.zipIdx.map fun entry => (name entry.1, entry.2)) =
      (profiles.map definition).zipIdx.map fun entry => (name entry.1, entry.2) := by
    intro profiles
    simp [List.zipIdx_map, hname]
  unfold definitionsOf ProfilesState.fromProfiles
  rw [hindex profiles', hindex profiles, h]

/-! ## Rounds -/

section Rounds

variable {hkdf : Hkdf} {state : LoadedKeys} {kid : String}

theorem Held.containsId (h : Held state kid) : state.containsId kid = true := by
  obtain ⟨key, hget, -⟩ := h
  obtain ⟨index, hindex, -⟩ := Option.bind_eq_some_iff.mp hget
  rw [KeysDbState.containsId, hindex]
  rfl

/-- The key of a held kid, and the bytes that keys are derived from. -/
theorem Held.parent (h : Held state kid) : ∃ key bytes, (∀ message, requireKey state message kid = .ok key) ∧
    Supported key ∧ hexDecode key.symmetric.keyHex = .ok bytes ∧ bytes ≠ [] := by
  obtain ⟨key, hget, hkey⟩ := h
  obtain ⟨bytes, hbytes, hlength⟩ := hkey.parent
  refine ⟨key, bytes, fun _ => requireKey_ok_iff.mpr hget, hkey, hbytes, ?_⟩
  rintro rfl
  cases hlength

theorem routes_online {addr : AddrLibrary} {routes out : List Routes.FinalAppRoute}
    (h : Routes.validateRoutes addr (fun _ => true) routes = .ok out) (hheld : ∀ route ∈ routes, Held state route.kid) :
    Routes.validateRoutes addr state.containsId routes = .ok out := by
  obtain ⟨hok, hrest⟩ := Routes.validateRoutes_ok_iff.mp h
  exact Routes.validateRoutes_ok_iff.mpr
    ⟨fun route hroute => { hok route hroute with loaded := (hheld route hroute).containsId }, hrest⟩

theorem remoteRoutes_online {lib : Ops.Message.MessageLibrary} {addr : AddrLibrary}
    {trial : String → Res (List UInt8 × List UInt8)} {routes out : List RemoteRoutes.RemoteRoute}
    (h : RemoteRoutes.validateRemoteRoutes lib addr (fun _ => true) trial routes = .ok out)
    (hheld : ∀ route ∈ routes, ∀ kid ∈ route.allowedLocalKids, kid ≠ "*" → Held state kid) :
    RemoteRoutes.validateRemoteRoutes lib addr state.containsId trial routes = .ok out := by
  obtain ⟨hok, hrest⟩ := RemoteRoutes.validateRemoteRoutes_ok_iff.mp h
  refine RemoteRoutes.validateRemoteRoutes_ok_iff.mpr ⟨fun route hroute => { hok route hroute with kids := ?_ }, hrest⟩
  refine (hok route hroute).kids.imp_right fun h => ⟨h.1, h.2.1, h.2.2.1, fun kid hkid => ?_⟩
  have hstar : kid ≠ "*" := fun heq => h.2.1 (heq ▸ hkid)
  exact ⟨(h.2.2.2 kid hkid).1, (hheld route hroute kid hkid hstar).containsId⟩

theorem ruleKid_online {actions : List String} (h : Permissions.validateRuleKid (fun _ => true) kid actions = .ok ())
    (hheld : kid ≠ "*" → Held state kid) : Permissions.validateRuleKid state.containsId kid actions = .ok () := by
  unfold Permissions.validateRuleKid at h ⊢
  by_cases hstar : kid = "*"
  · rw [if_pos hstar] at h ⊢
    exact h
  · rw [if_neg hstar] at h ⊢
    cases hvalid : validateKeyId kid with
    | error e =>
      rw [hvalid] at h
      cases h
    | ok u =>
      simp only
      rw [if_pos (hheld hstar).containsId]

theorem permissions_online {clients : List Permissions.PermissionClientInput} {out : Permissions.PermissionsState}
    (h : Permissions.validatePermissionClients clients (fun _ => true) = .ok out)
    (hheld : ∀ client ∈ clients, ∀ permission ∈ client.permissions, permission.kid ≠ "*" →
      Held state permission.kid) :
    Permissions.validatePermissionClients clients state.containsId = .ok out := by
  obtain ⟨haccepted, hout⟩ := Permissions.validatePermissionClients_ok_iff.mp h
  refine Permissions.validatePermissionClients_ok_iff.mpr ⟨{ haccepted with clients := fun client hclient => ?_ }, hout⟩
  have hok := haccepted.clients client hclient
  refine { hok with rules := fun hactive hadmin => ⟨(hok.rules hactive hadmin).1, fun permission hpermission => ?_⟩ }
  have hrule := (hok.rules hactive hadmin).2 permission hpermission
  exact ⟨hrule.actions, ruleKid_online hrule.kid (hheld client hclient permission hpermission)⟩

theorem maskingProfile_online {seen : List String} {profile out : Masking.MaskingProfile}
    (h : Masking.validateMaskingProfile (fun _ => true) seen profile = .ok out) (hheld : Held state profile.kid) :
    Masking.validateMaskingProfile state.containsId seen profile = .ok out := by
  obtain ⟨hfields, h⟩ := Loop.bind_unit_eq_ok.mp h
  obtain ⟨-, h⟩ := Loop.guard_eq_ok.mp h
  exact Loop.bind_unit_eq_ok.mpr ⟨hfields, Loop.guard_eq_ok.mpr ⟨by simp [hheld.containsId], h⟩⟩

theorem profileKid_online {kind : String} (h : validateProfileKid kind (fun _ => true) kid = .ok ())
    (hheld : Held state kid) : validateProfileKid kind state.containsId kid = .ok () :=
  validateProfileKid_ok_iff.mpr ⟨(validateProfileKid_ok_iff.mp h).1, hheld.containsId⟩

/-! ### Format-preserving encryption -/

theorem fpeVersion_eq {version : String} (h : Fpe.validateFpeVersion version = .ok ()) :
    version = Fpe.fpeVersionFf12025 :=
  List.mem_singleton.mp (validateAllowedValue_mem h)

section Fpe

variable {newFf1 : Fpe.NewFf1} {request : Fpe.FpeKeyDerivationRequest} {field : String}

theorem fpeKey_online (hhkdf : Expands hkdf) (hheld : Held state request.kid)
    (hkid : validateKeyId request.kid = .ok ()) (hname : validateAadConfigName field request.profileName = .ok ())
    (hversion : Fpe.validateFpeVersion request.fpeVersion = .ok ()) :
    ∃ key, (fpeHooks hkdf state).deriveFpeKey request = .ok key ∧ key.length = Fpe.fpeKeySizeBytes := by
  obtain ⟨key, bytes, hkey, -, hbytes, hne⟩ := hheld.parent
  have hprofile : AadOk ("profile", request.profileName) := aadOk_name (by decide) hname
  have hkid' : AadOk ("kid", request.kid) := aadOk_kid (by decide) hkid
  have hversion' : AadOk ("fpe_version", request.fpeVersion) := by
    rw [fpeVersion_eq hversion]
    exact aadOk_of_validate (by rfl)
  have hfields : ∀ f ∈ [("profile", request.profileName), ("kid", request.kid), ("fpe_version", request.fpeVersion)],
      AadOk f := by
    simp [hprofile, hkid', hversion']
  obtain ⟨output, houtput, hlength⟩ := hhkdf bytes Fpe.fpeKeySalt (bytesOf (buildAad _)) Fpe.fpeKeySizeBytes hne
    (by decide)
  exact ⟨output, Loop.bind_eq_ok.mpr ⟨key, hkey _, Loop.bind_eq_ok.mpr ⟨bytes, hbytes,
    Loop.bind_eq_ok.mpr ⟨_, buildValidatedAad_ok_iff.mpr ⟨hfields, rfl⟩, houtput⟩⟩⟩, hlength⟩

theorem fpeAuthKey_online (hhkdf : Expands hkdf) (hheld : Held state request.kid)
    (hkid : validateKeyId request.kid = .ok ()) (hname : validateAadConfigName field request.profileName = .ok ())
    (hversion : Fpe.validateFpeVersion request.fpeVersion = .ok ()) :
    ∃ key, (fpeHooks hkdf state).deriveFpeAuthKey request = .ok key ∧ key.length = Fpe.fpeAuthKeySizeBytes := by
  obtain ⟨key, bytes, hkey, -, hbytes, hne⟩ := hheld.parent
  have hpurpose : AadOk ("purpose", "fpe-auth") := aadOk_of_validate (by rfl)
  have hprofile : AadOk ("profile", request.profileName) := aadOk_name (by decide) hname
  have hkid' : AadOk ("kid", request.kid) := aadOk_kid (by decide) hkid
  have hversion' : AadOk ("fpe_version", request.fpeVersion) := by
    rw [fpeVersion_eq hversion]
    exact aadOk_of_validate (by rfl)
  have hauth : AadOk ("auth_version", Fpe.fpeAuthVersion) := aadOk_of_validate (by rfl)
  have hfields : ∀ f ∈ [("purpose", "fpe-auth"), ("profile", request.profileName), ("kid", request.kid),
      ("fpe_version", request.fpeVersion), ("auth_version", Fpe.fpeAuthVersion)], AadOk f := by
    simp [hpurpose, hprofile, hkid', hversion', hauth]
  obtain ⟨output, houtput, hlength⟩ := hhkdf bytes Fpe.fpeAuthKeySalt (bytesOf (buildAad _)) Fpe.fpeAuthKeySizeBytes hne
    (by decide)
  exact ⟨output, Loop.bind_eq_ok.mpr ⟨key, hkey _, Loop.bind_eq_ok.mpr ⟨bytes, hbytes,
    Loop.bind_eq_ok.mpr ⟨_, buildValidatedAad_ok_iff.mpr ⟨hfields, rfl⟩, houtput⟩⟩⟩, hlength⟩

theorem prepareKeys_online (hff1 : KeyBlind newFf1) {mode : SubjectMode} {key key' : List UInt8} {radix : Nat}
    {out : Option Fpe.Ff1Cipher × Option (List UInt8)} (hlength : key'.length = key.length)
    (h : Fpe.prepareKeys newFf1 mode key radix = .ok out) :
    ∃ out', Fpe.prepareKeys newFf1 mode key' radix = .ok out' := by
  cases mode with
  | stored => exact ⟨_, rfl⟩
  | none =>
    unfold Fpe.prepareKeys Fpe.buildFpeCipher at h ⊢
    obtain ⟨cipher, h, -⟩ := Loop.map_eq_ok.mp h
    obtain ⟨hradix, h⟩ := Loop.check_eq_ok.mp h
    refine ⟨(some ⟨key', radix⟩, .none), Loop.map_eq_ok.mpr ⟨⟨key', radix⟩, Loop.check_eq_ok.mpr ⟨hradix, ?_⟩, rfl⟩⟩
    rw [hff1 key' key radix hlength]
    cases hnew : newFf1 key radix with
    | ok u => rfl
    | error err =>
      rw [hnew] at h
      cases h

end Fpe

theorem fpeProfile_online {newFf1 : Fpe.NewFf1} {trial : String → Res (List UInt8 × List UInt8)} (hhkdf : Expands hkdf)
    (hff1 : KeyBlind newFf1) {seen : List String} {profile : Fpe.FpeProfileInput} {out : Fpe.FpeProfile}
    (h : Fpe.validateFpeProfile newFf1 ⟨(localHooks trial).isLoadedKid, (localHooks trial).deriveFpeKey,
      (localHooks trial).deriveFpeAuthKey⟩ seen profile = .ok out) (hheld : Held state profile.kid) :
    ∃ out', Fpe.validateFpeProfile newFf1 (fpeHooks hkdf state) seen profile = .ok out' ∧
      fpeDefinition out' = fpeDefinition out := by
  obtain ⟨alphabet, halphabet, h⟩ := Loop.bind_eq_ok.mp h
  obtain ⟨preserved, hpreserved, h⟩ := Loop.bind_eq_ok.mp h
  obtain ⟨radix, hfields, h⟩ := Loop.bind_eq_ok.mp h
  obtain ⟨hkid, h⟩ := Loop.bind_unit_eq_ok.mp h
  obtain ⟨hdistinct, h⟩ := Loop.bind_unit_eq_ok.mp h
  obtain ⟨key, hkey, h⟩ := Loop.bind_eq_ok.mp h
  obtain ⟨hlength, h⟩ := Loop.guard_eq_ok.mp h
  obtain ⟨⟨chars, index⟩, hprepare, h⟩ := Loop.bind_eq_ok.mp h
  obtain ⟨⟨cipher, parentKey⟩, hkeys, h⟩ := Loop.bind_eq_ok.mp h
  obtain ⟨authKey, hauth, h⟩ := Loop.bind_eq_ok.mp h
  obtain ⟨hname, hrest⟩ := Loop.bind_unit_eq_ok.mp hfields
  obtain ⟨hversion, -⟩ := Loop.bind_unit_eq_ok.mp hrest
  have hkeyId := (validateProfileKid_ok_iff.mp hkid).1
  obtain ⟨key', hkey', hlength'⟩ := @fpeKey_online hkdf state profile.request _ hhkdf hheld hkeyId hname hversion
  obtain ⟨⟨cipher', parentKey'⟩, hkeys'⟩ := prepareKeys_online hff1
    (hlength'.trans (Decidable.not_not.mp hlength).symm) hkeys
  have hauth' : ∃ authKey', Fpe.deriveAuthKey (fpeHooks hkdf state) profile = .ok authKey' := by
    obtain ⟨authKey', hderive, hsize⟩ := @fpeAuthKey_online hkdf state profile.request _ hhkdf hheld hkeyId hname
      hversion
    unfold Fpe.deriveAuthKey
    cases profile.authenticated with
    | false => exact ⟨none, rfl⟩
    | true => exact ⟨some authKey', Loop.bind_eq_ok.mpr ⟨authKey', hderive,
        Loop.guard_eq_ok.mpr ⟨not_not_intro hsize, rfl⟩⟩⟩
  obtain ⟨authKey', hauth'⟩ := hauth'
  refine ⟨{ out with cipher := cipher', parentKey := parentKey', authKey := authKey' }, ?_, rfl⟩
  cases h
  exact Loop.bind_eq_ok.mpr ⟨alphabet, halphabet, Loop.bind_eq_ok.mpr ⟨preserved, hpreserved,
    Loop.bind_eq_ok.mpr ⟨radix, hfields, Loop.bind_unit_eq_ok.mpr ⟨profileKid_online hkid hheld,
    Loop.bind_unit_eq_ok.mpr ⟨hdistinct, Loop.bind_eq_ok.mpr ⟨key', hkey', Loop.guard_eq_ok.mpr
    ⟨not_not_intro hlength', Loop.bind_eq_ok.mpr ⟨(chars, index), hprepare, Loop.bind_eq_ok.mpr
    ⟨(cipher', parentKey'), hkeys', Loop.bind_eq_ok.mpr ⟨authKey', hauth', rfl⟩⟩⟩⟩⟩⟩⟩⟩⟩⟩

/-! ### Tokens -/

theorem tokenizationKeys_online (hhkdf : Expands hkdf) {request : Tokenization.TokenizationKeyDerivationRequest}
    {field : String} (hheld : Held state request.kid) (hkid : validateKeyId request.kid = .ok ())
    (hname : validateAadConfigName field request.profileName = .ok ()) :
    ∃ derived cipher, (tokenizationHooks hkdf state).deriveKeys request = .ok derived ∧
      symmetricCipher derived.cipherAlgorithm = some cipher ∧
      derived.hashKey.length = Tokenization.tokenKeySizeBytes ∧ derived.dataKey.length = cipher.keySizeBytes := by
  obtain ⟨key, bytes, hkey, hsupported, hbytes, hne⟩ := hheld.parent
  obtain ⟨cipher, hcipher⟩ := hsupported.cipher
  have hsize : cipher.keySizeBytes ≤ 64 := by
    unfold symmetricCipher at hcipher
    split at hcipher <;> cases hcipher <;> decide
  have hprofile : AadOk ("profile", request.profileName) := aadOk_name (by decide) hname
  have hkid' : AadOk ("kid", request.kid) := aadOk_kid (by decide) hkid
  have hversion : AadOk ("tokenization_version", Tokenization.tokenizationVersionRandomV1) := aadOk_of_validate (by rfl)
  have hinfo : ∀ purpose ∈ [Tokenization.tokenHashKeyPurpose, Tokenization.tokenDataKeyPurpose],
      ∃ info, Tokenization.tokenizationKeyInfo purpose request.profileName request.kid = .ok info := by
    intro purpose hpurpose
    have hpurposes : ∀ p ∈ [Tokenization.tokenHashKeyPurpose, Tokenization.tokenDataKeyPurpose],
        validateAadValue "" p = .ok () := by decide
    have hpurpose' : AadOk ("purpose", purpose) := aadOk_of (show validateAadKey "" "purpose" = .ok () by decide)
      (hpurposes purpose hpurpose)
    exact ⟨_, buildValidatedAad_ok_iff.mpr ⟨by simp [hpurpose', hprofile, hkid', hversion], rfl⟩⟩
  obtain ⟨hashInfo, hhashInfo⟩ := hinfo _ List.mem_cons_self
  obtain ⟨dataInfo, hdataInfo⟩ := hinfo _ (List.mem_cons_of_mem _ List.mem_cons_self)
  obtain ⟨hashKey, hhashKey, hhashLength⟩ := hhkdf bytes Tokenization.tokenizationHkdfSalt (bytesOf hashInfo)
    Tokenization.tokenKeySizeBytes hne (by decide)
  obtain ⟨dataKey, hdataKey, hdataLength⟩ := hhkdf bytes Tokenization.tokenizationHkdfSalt (bytesOf dataInfo)
    cipher.keySizeBytes hne hsize
  refine ⟨⟨hashKey, dataKey, key.symmetric.variant⟩, cipher, ?_, hcipher, hhashLength, hdataLength⟩
  exact Loop.bind_eq_ok.mpr ⟨key, hkey _, Loop.bind_eq_ok.mpr ⟨cipher, Tokenization.requireCipher_ok_iff.mpr hcipher,
    Loop.bind_eq_ok.mpr ⟨bytes, hbytes, Loop.bind_eq_ok.mpr ⟨hashInfo, hhashInfo, Loop.bind_eq_ok.mpr
    ⟨dataInfo, hdataInfo, Loop.bind_eq_ok.mpr ⟨hashKey, hhashKey, Loop.bind_eq_ok.mpr ⟨dataKey, hdataKey, rfl⟩⟩⟩⟩⟩⟩⟩

theorem tokenizationProfile_online {trial : String → Res (List UInt8 × List UInt8)} (hhkdf : Expands hkdf)
    {seen : List String} {profile : Tokenization.TokenizationProfileInput} {out : Tokenization.TokenizationProfile}
    (h : Tokenization.validateTokenizationProfile ⟨(localHooks trial).isLoadedKid,
      (localHooks trial).deriveTokenizationKeys⟩ seen profile = .ok out) (hheld : Held state profile.kid) :
    ∃ out', Tokenization.validateTokenizationProfile (tokenizationHooks hkdf state) seen profile = .ok out' ∧
      tokenDefinition out' = tokenDefinition out := by
  obtain ⟨hfields, h⟩ := Loop.bind_unit_eq_ok.mp h
  obtain ⟨hkid, h⟩ := Loop.bind_unit_eq_ok.mp h
  obtain ⟨hdistinct, h⟩ := Loop.bind_unit_eq_ok.mp h
  obtain ⟨derived, hderived, h⟩ := Loop.bind_eq_ok.mp h
  obtain ⟨cipher, hcipher, h⟩ := Loop.bind_eq_ok.mp h
  obtain ⟨-, h⟩ := Loop.guard_eq_ok.mp h
  cases h
  obtain ⟨derived', cipher', hderived', hcipher', hhash, hdata⟩ := @tokenizationKeys_online hkdf state hhkdf
    ⟨profile.name, profile.kid⟩ _ hheld (validateProfileKid_ok_iff.mp hkid).1 (Loop.bind_unit_eq_ok.mp hfields).1
  exact ⟨_, Loop.bind_unit_eq_ok.mpr ⟨hfields, Loop.bind_unit_eq_ok.mpr ⟨profileKid_online hkid hheld,
    Loop.bind_unit_eq_ok.mpr ⟨hdistinct, Loop.bind_eq_ok.mpr ⟨derived', hderived', Loop.bind_eq_ok.mpr
    ⟨cipher', Tokenization.requireCipher_ok_iff.mpr hcipher', Loop.guard_eq_ok.mpr ⟨by simp [hhash, hdata], rfl⟩⟩⟩⟩⟩⟩,
    rfl⟩

/-! ### Tags -/

theorem resolveMacAlgorithm_ok {hash : String} (h : hash ∈ hashAlgorithms) : ∃ resolved,
    resolveMacAlgorithm hash = .ok resolved := by
  have hall : ∀ hash ∈ hashAlgorithms, (resolveMacAlgorithm hash).isOk = true := by decide +kernel
  have hok := hall hash h
  cases hresolved : resolveMacAlgorithm hash with
  | ok resolved => exact ⟨resolved, rfl⟩
  | error e =>
    rw [hresolved] at hok
    cases hok

section Tags

variable {hooks : TagHooks} {kind name context : String} {subkeySalt : List UInt8} {size : Nat}

/-- The customization is also built offline, and its labels are those of the key. -/
theorem tagKeys_online (nodeKind purpose : String) (salt : List UInt8) (hhkdf : Expands hkdf)
    (hpurpose : purpose ∈ ["mac-key", "commitment-key", "sharing-key"])
    (hsize : 0 < size ∧ size ≤ 64) {keys : TagKeys} (hok : FieldsOk name kid context) (hheld : Held state kid)
    (h : deriveTagKeys hkdf hooks kind subkeySalt size name kid context = .ok keys) :
    ∃ keys', deriveTagKeys hkdf (tagHooks hkdf state nodeKind fun hkdf => deriveTagKeyForProfile hkdf purpose salt size)
      kind subkeySalt size name kid context = .ok keys' ∧ keys'.customization = keys.customization := by
  obtain ⟨_, -, h⟩ := Loop.bind_eq_ok.mp h
  obtain ⟨_, -, h⟩ := Loop.bind_eq_ok.mp h
  obtain ⟨-, h⟩ := Loop.guard_eq_ok.mp h
  obtain ⟨customization, hcustomization, h⟩ := Loop.bind_eq_ok.mp h
  obtain ⟨_, -, h⟩ := Loop.bind_eq_ok.mp h
  cases h
  obtain ⟨key, bytes, hkey, hsupported, hbytes, hne⟩ := hheld.parent
  obtain ⟨resolved, hresolved⟩ := resolveMacAlgorithm_ok hsupported.hash
  obtain ⟨_, hlabels⟩ := hok.labels
  have hvisible := (buildMacDomainAad_ok_iff hlabels (aadOk_base hok .customization)).mp ⟨_, hcustomization⟩
  obtain ⟨info, hinfo⟩ := (buildMacDomainAad_ok_iff hlabels (aadOk_base hok (.key hpurpose hresolved))).mpr hvisible
  obtain ⟨derived, hderived, hlength⟩ := hhkdf bytes salt (bytesOf info) size hne hsize.2
  have hsubkey : ∃ subkey, deriveKeyedTagSubkey hkdf resolved.publicAlgorithm derived subkeySalt customization size =
      .ok subkey := by
    unfold deriveKeyedTagSubkey
    cases isKmacAlgorithm resolved.publicAlgorithm with
    | true => exact ⟨derived, rfl⟩
    | false =>
      have hderivedNe : derived ≠ [] := List.ne_nil_of_length_pos (hlength ▸ hsize.1)
      obtain ⟨subkey, hsubkey, -⟩ := hhkdf derived subkeySalt (bytesOf customization) size hderivedNe hsize.2
      exact ⟨subkey, hsubkey⟩
  obtain ⟨subkey, hsubkey⟩ := hsubkey
  have hderive : deriveTagKeyForProfile hkdf purpose salt size key.symmetric.keyHex
      ⟨name, kid, context, key.keyMaterial.hashVariant⟩ =
      .ok ⟨resolved.publicAlgorithm, resolved.botanAlgorithm, derived⟩ :=
    Loop.bind_eq_ok.mpr ⟨resolved, hresolved, Loop.bind_eq_ok.mpr ⟨bytes, hbytes, Loop.bind_eq_ok.mpr ⟨info, hinfo,
      Loop.bind_eq_ok.mpr ⟨derived, hderived, rfl⟩⟩⟩⟩
  exact ⟨_, Loop.bind_eq_ok.mpr ⟨_, Loop.bind_eq_ok.mpr ⟨key, hkey _, rfl⟩, Loop.bind_eq_ok.mpr
    ⟨_, Loop.bind_eq_ok.mpr ⟨key, hkey _, hderive⟩, Loop.guard_eq_ok.mpr ⟨not_not_intro hlength, Loop.bind_eq_ok.mpr
    ⟨customization, hcustomization, Loop.bind_eq_ok.mpr ⟨subkey, hsubkey, rfl⟩⟩⟩⟩⟩, rfl⟩

/-- The rounds of the three sections: their checks, and the keys that a profile is made of. -/
def tagRound {P : Type} (hkdf : Hkdf) (hooks : TagHooks) (kind : String) (fields : Res Unit) (subkeySalt : List UInt8)
    (size : Nat) (seen : List String) (name kid context : String) (make : TagKeys → P) : Res P := do
  fields
  validateProfileKid kind hooks.isLoadedKid kid
  rejectDuplicatedName kind seen name
  let keys ← deriveTagKeys hkdf hooks kind subkeySalt size name kid context
  .ok (make keys)

theorem tagRound_online (nodeKind purpose : String) (salt : List UInt8) (hhkdf : Expands hkdf)
    (hpurpose : purpose ∈ ["mac-key", "commitment-key", "sharing-key"])
    (hsize : 0 < size ∧ size ≤ 64) {P : Type} {fields : Res Unit} {seen : List String} {make : TagKeys → P} {out : P}
    (hloaded : hooks.isLoadedKid = fun _ => true)
    (h : tagRound hkdf hooks kind fields subkeySalt size seen name kid context make = .ok out)
    (hok : fields = .ok () → validateKeyId kid = .ok () → AcceptedFields name kid context) (hheld : Held state kid) :
    ∃ keys keys', make keys = out ∧ keys'.customization = keys.customization ∧
      tagRound hkdf (tagHooks hkdf state nodeKind fun hkdf => deriveTagKeyForProfile hkdf purpose salt size) kind fields
        subkeySalt size seen name kid context make = .ok (make keys') := by
  obtain ⟨hfields, h⟩ := Loop.bind_unit_eq_ok.mp h
  obtain ⟨hkid, h⟩ := Loop.bind_unit_eq_ok.mp h
  obtain ⟨hdistinct, h⟩ := Loop.bind_unit_eq_ok.mp h
  obtain ⟨keys, hkeys, h⟩ := Loop.bind_eq_ok.mp h
  cases h
  rw [hloaded] at hkid
  have haccepted := (hok hfields (validateProfileKid_ok_iff.mp hkid).1).fieldsOk
  obtain ⟨keys', hkeys', hcustomization⟩ := tagKeys_online nodeKind purpose salt hhkdf hpurpose hsize haccepted hheld
    hkeys
  exact ⟨keys, keys', rfl, hcustomization, Loop.bind_unit_eq_ok.mpr ⟨hfields, Loop.bind_unit_eq_ok.mpr
    ⟨profileKid_online hkid hheld, Loop.bind_unit_eq_ok.mpr ⟨hdistinct, Loop.bind_eq_ok.mpr ⟨keys', hkeys', rfl⟩⟩⟩⟩⟩

end Tags

section

variable {trial : String → Res (List UInt8 × List UInt8)} {seen : List String}

theorem macProfile_online (hhkdf : Expands hkdf) {profile : MacProfileInput} {out : MacProfile}
    (h : validateMacProfile hkdf ⟨(localHooks trial).isLoadedKid, (localHooks trial).hashAlgorithmForKid,
      (localHooks trial).deriveMacKey⟩ seen profile = .ok out) (hheld : Held state profile.kid) :
    ∃ out', validateMacProfile hkdf (macHooks hkdf state) seen profile = .ok out' ∧
      macDefinition out' = macDefinition out := by
  obtain ⟨keys, keys', rfl, hcustomization, h'⟩ := tagRound_online "mac" "mac-key" macKeySalt hhkdf (by decide)
    (by decide) rfl h (fun hfields hkid => .mac hfields hkid) hheld
  refine ⟨_, h', ?_⟩
  simp [macDefinition, hcustomization]

theorem commitmentProfile_online (hhkdf : Expands hkdf) {profile : Commitments.CommitmentProfileInput}
    {out : Commitments.CommitmentProfile}
    (h : Commitments.validateCommitmentProfile hkdf ⟨(localHooks trial).isLoadedKid,
      (localHooks trial).hashAlgorithmForKid, (localHooks trial).deriveCommitmentKey⟩ seen profile = .ok out)
    (hheld : Held state profile.kid) :
    ∃ out', Commitments.validateCommitmentProfile hkdf (commitmentHooks hkdf state) seen profile = .ok out' ∧
      commitmentDefinition out' = commitmentDefinition out := by
  obtain ⟨keys, keys', rfl, hcustomization, h'⟩ := tagRound_online "commitment" "commitment-key"
    Commitments.commitmentKeySalt hhkdf (by decide) (by decide) rfl h (fun hfields hkid => .commitment hfields hkid)
    hheld
  refine ⟨_, h', ?_⟩
  simp [commitmentDefinition, hcustomization]

theorem sharingProfile_online (hhkdf : Expands hkdf) {profile : Sharing.SharingProfileInput}
    {out : Sharing.KeyedSharingProfile}
    (h : Sharing.validateSharingProfile hkdf ⟨(localHooks trial).isLoadedKid, (localHooks trial).hashAlgorithmForKid,
      (localHooks trial).deriveSharingKey⟩ seen profile = .ok out) (hheld : Held state profile.kid) :
    ∃ out', Sharing.validateSharingProfile hkdf (sharingHooks hkdf state) seen profile = .ok out' ∧
      sharingDefinition out' = sharingDefinition out := by
  obtain ⟨keys, keys', rfl, hcustomization, h'⟩ := tagRound_online "sharing" "sharing-key" Sharing.sharingKeySalt hhkdf
    (by decide) (by decide) rfl h (fun hfields hkid => .sharing hfields hkid) hheld
  refine ⟨_, h', ?_⟩
  simp [sharingDefinition, hcustomization]

/-! ### Deterministic tokens -/

theorem deterministicProfile_online (hhkdf : Expands hkdf)
    {profile : DeterministicTokenization.DeterministicTokenProfileInput}
    {out : DeterministicTokenization.DeterministicTokenProfile}
    (h : DeterministicTokenization.validateProfile (localHooks trial).isLoadedKid
      (localHooks trial).deriveDeterministicKey seen profile = .ok out) (hheld : Held state profile.kid)
    (hvisible : VisibleLabels profile.context) :
    ∃ out', DeterministicTokenization.validateProfile state.containsId (deriveDeterministicKey hkdf state) seen
      profile = .ok out' ∧ out'.input = out.input := by
  have hok := (AcceptedFields.deterministic h rfl rfl rfl).fieldsOk
  obtain ⟨hname, h⟩ := Loop.bind_unit_eq_ok.mp h
  obtain ⟨hkid, h⟩ := Loop.bind_unit_eq_ok.mp h
  obtain ⟨hfields, h⟩ := Loop.bind_unit_eq_ok.mp h
  obtain ⟨hlengths, h⟩ := Loop.guard_eq_ok.mp h
  obtain ⟨hdistinct, h⟩ := Loop.guard_eq_ok.mp h
  obtain ⟨-, h⟩ := Loop.guard_eq_ok.mp h
  obtain ⟨_, -, h⟩ := Loop.bind_eq_ok.mp h
  obtain ⟨-, h⟩ := Loop.guard_eq_ok.mp h
  cases h
  obtain ⟨key, bytes, hkey, -, hbytes, hne⟩ := hheld.parent
  obtain ⟨_, hlabels⟩ := hok.labels
  obtain ⟨info, hinfo⟩ := (buildMacDomainAad_ok_iff hlabels (aadOk_base hok .deterministic)).mpr hvisible
  obtain ⟨derived, hderived, hlength⟩ := hhkdf bytes DeterministicTokenization.hkdfSalt (bytesOf info)
    DeterministicTokenization.keyBytes hne (by decide)
  have hderive : deriveDeterministicKey hkdf state ⟨profile.name, profile.kid, profile.context⟩ = .ok derived :=
    Loop.bind_eq_ok.mpr ⟨key, hkey _, Loop.bind_unit_eq_ok.mpr ⟨hname, Loop.bind_unit_eq_ok.mpr ⟨hkid,
      Loop.bind_eq_ok.mpr ⟨info, hinfo, Loop.bind_eq_ok.mpr ⟨bytes, hbytes, hderived⟩⟩⟩⟩⟩
  exact ⟨_, Loop.bind_unit_eq_ok.mpr ⟨hname, Loop.bind_unit_eq_ok.mpr ⟨hkid, Loop.bind_unit_eq_ok.mpr ⟨hfields,
    Loop.guard_eq_ok.mpr ⟨hlengths, Loop.guard_eq_ok.mpr ⟨hdistinct, Loop.guard_eq_ok.mpr
    ⟨by simp [hheld.containsId], Loop.bind_eq_ok.mpr ⟨derived, hderive, Loop.guard_eq_ok.mpr
    ⟨not_not_intro hlength, rfl⟩⟩⟩⟩⟩⟩⟩⟩, rfl⟩

/-- A node builds the associated data of the profiles that it accepts. -/
theorem deterministicProfile_visible {profile : DeterministicTokenization.DeterministicTokenProfileInput}
    {out : DeterministicTokenization.DeterministicTokenProfile}
    (h : DeterministicTokenization.validateProfile state.containsId (deriveDeterministicKey hkdf state) seen profile =
      .ok out) : VisibleLabels profile.context := by
  have hok := (AcceptedFields.deterministic h rfl rfl rfl).fieldsOk
  obtain ⟨-, h⟩ := Loop.bind_unit_eq_ok.mp h
  obtain ⟨-, h⟩ := Loop.bind_unit_eq_ok.mp h
  obtain ⟨-, h⟩ := Loop.bind_unit_eq_ok.mp h
  obtain ⟨-, h⟩ := Loop.guard_eq_ok.mp h
  obtain ⟨-, h⟩ := Loop.guard_eq_ok.mp h
  obtain ⟨-, h⟩ := Loop.guard_eq_ok.mp h
  obtain ⟨derived, hderive, -⟩ := Loop.bind_eq_ok.mp h
  obtain ⟨key, -, hderive⟩ := Loop.bind_eq_ok.mp hderive
  obtain ⟨-, hderive⟩ := Loop.bind_unit_eq_ok.mp hderive
  obtain ⟨-, hderive⟩ := Loop.bind_unit_eq_ok.mp hderive
  obtain ⟨info, hinfo, -⟩ := Loop.bind_eq_ok.mp hderive
  obtain ⟨_, hlabels⟩ := hok.labels
  exact (buildMacDomainAad_ok_iff hlabels (aadOk_base hok .deterministic)).mp ⟨info, hinfo⟩

end

end Rounds

/-! ## Sections -/

section Sections

variable {hkdf : Hkdf} {state : LoadedKeys} {trial : String → Res (List UInt8 × List UInt8)}

/-- The rounds of a section, one by one. -/
theorem profiles_online {I P : Type} (definition : P → P) {build build' : List String → I → Res P} {nameOf : I → String}
    {name : P → String} (hname : ∀ profile, name (definition profile) = name profile) {inputs : List I}
    {out : ProfilesState P}
    (hround : ∀ input ∈ inputs, ∀ seen profile, build seen input = .ok profile →
      ∃ profile', build' seen input = .ok profile' ∧ definition profile' = definition profile)
    (h : (do let profiles ← Loop.collect build nameOf [] inputs; .ok (ProfilesState.fromProfiles name profiles)) =
      (.ok out : Res (ProfilesState P))) :
    ∃ out', (do let profiles ← Loop.collect build' nameOf [] inputs; .ok (ProfilesState.fromProfiles name profiles)) =
        (.ok out' : Res (ProfilesState P)) ∧
      definitionsOf definition out' = definitionsOf definition out := by
  obtain ⟨profiles, hprofiles, h⟩ := Loop.bind_eq_ok.mp h
  cases h
  obtain ⟨profiles', hprofiles', hmap⟩ := Loop.collect_map hround hprofiles
  exact ⟨_, Loop.bind_eq_ok.mpr ⟨profiles', hprofiles', rfl⟩, fromProfiles_definitions hname hmap⟩

/-- A file that is accepted offline is accepted by a node that holds its kids, when the labels of its deterministic
profiles are visible. -/
theorem validateConfigFile_online {lib : ConfigLibrary} (hhkdf : Expands lib.hkdf) (hff1 : KeyBlind lib.newFf1)
    {defaults defaults' : String × String} {configFile : ConfigFile} {offline : ConfigState}
    (h : validateConfigFile lib defaults (localHooks trial) configFile = .ok offline)
    (hheld : KidsHeld state configFile)
    (hvisible : ∀ profile ∈ configFile.deterministicTokenizationProfiles, VisibleLabels profile.context) :
    ∃ online, validateConfigFile lib defaults' (nodeHooks lib.hkdf state trial) configFile = .ok online ∧
      SameDefinitions online offline := by
  obtain ⟨hversion, h⟩ := Loop.bind_unit_eq_ok.mp h
  obtain ⟨routes, hroutes, h⟩ := Loop.bind_eq_ok.mp h
  obtain ⟨remoteRoutes, hremoteRoutes, h⟩ := Loop.bind_eq_ok.mp h
  obtain ⟨permissions, hpermissions, h⟩ := Loop.bind_eq_ok.mp h
  obtain ⟨fpe, hfpe, h⟩ := Loop.bind_eq_ok.mp h
  obtain ⟨token, htoken, h⟩ := Loop.bind_eq_ok.mp h
  obtain ⟨deterministic, hdeterministic, h⟩ := Loop.bind_eq_ok.mp h
  obtain ⟨mac, hmac, h⟩ := Loop.bind_eq_ok.mp h
  obtain ⟨masking, hmasking, h⟩ := Loop.bind_eq_ok.mp h
  obtain ⟨commitment, hcommitment, h⟩ := Loop.bind_eq_ok.mp h
  obtain ⟨sharing, hsharing, h⟩ := Loop.bind_eq_ok.mp h
  obtain ⟨time, htime, h⟩ := Loop.bind_eq_ok.mp h
  cases h
  obtain ⟨fpe', hfpe', hfpeSame⟩ := profiles_online fpeDefinition (fun _ => rfl)
    (fun input hinput seen profile hround =>
      fpeProfile_online hhkdf hff1 hround (hheld.fpeProfiles input hinput)) hfpe
  obtain ⟨token', htoken', htokenSame⟩ := profiles_online tokenDefinition (fun _ => rfl)
    (fun input hinput seen profile hround =>
      tokenizationProfile_online hhkdf hround (hheld.tokenizationProfiles input hinput)) htoken
  obtain ⟨mac', hmac', hmacSame⟩ := profiles_online macDefinition (fun _ => rfl)
    (fun input hinput seen profile hround => macProfile_online hhkdf hround (hheld.macProfiles input hinput)) hmac
  obtain ⟨commitment', hcommitment', hcommitmentSame⟩ := profiles_online commitmentDefinition (fun _ => rfl)
    (fun input hinput seen profile hround =>
      commitmentProfile_online hhkdf hround (hheld.commitmentProfiles input hinput)) hcommitment
  obtain ⟨sharing', hsharing', hsharingSame⟩ := profiles_online sharingDefinition (fun _ => rfl)
    (fun input hinput seen profile hround => sharingProfile_online hhkdf hround (hheld.sharingProfiles input hinput))
    hsharing
  obtain ⟨deterministics, hdeterministics, h⟩ := Loop.bind_eq_ok.mp hdeterministic
  cases h
  obtain ⟨deterministics', hdeterministics', hdeterministicSame⟩ := Loop.collect_map
    (fun input hinput seen profile hround => deterministicProfile_online hhkdf hround
      (hheld.deterministicProfiles input hinput) (hvisible input hinput)) hdeterministics
  obtain ⟨maskings, hmaskings, h⟩ := Loop.bind_eq_ok.mp hmasking
  cases h
  obtain ⟨maskings', hmaskings', hmaskingSame⟩ := Loop.collect_map (d := id) (fun input hinput seen profile hround =>
    ⟨profile, maskingProfile_online hround (hheld.maskingProfiles input hinput), rfl⟩) hmaskings
  rw [List.map_id, List.map_id] at hmaskingSame
  subst hmaskingSame
  refine ⟨_, Loop.bind_unit_eq_ok.mpr ⟨hversion, Loop.bind_eq_ok.mpr ⟨routes, routes_online hroutes hheld.routes,
    Loop.bind_eq_ok.mpr ⟨remoteRoutes, remoteRoutes_online hremoteRoutes hheld.remoteRoutes, Loop.bind_eq_ok.mpr
    ⟨permissions, permissions_online hpermissions hheld.permissions, Loop.bind_eq_ok.mpr ⟨fpe', hfpe',
    Loop.bind_eq_ok.mpr ⟨token', htoken', Loop.bind_eq_ok.mpr ⟨_, Loop.bind_eq_ok.mpr ⟨_, hdeterministics', rfl⟩,
    Loop.bind_eq_ok.mpr ⟨mac', hmac', Loop.bind_eq_ok.mpr ⟨_, Loop.bind_eq_ok.mpr ⟨_, hmaskings', rfl⟩,
    Loop.bind_eq_ok.mpr ⟨commitment', hcommitment', Loop.bind_eq_ok.mpr ⟨sharing', hsharing', Loop.bind_eq_ok.mpr
    ⟨time, htime, rfl⟩⟩⟩⟩⟩⟩⟩⟩⟩⟩⟩⟩, ?_⟩
  exact ⟨rfl, rfl, rfl, hfpeSame, htokenSame, hdeterministicSame, hmacSame, rfl, hcommitmentSame, hsharingSame, rfl⟩

/-- The labels of the deterministic profiles that a node accepts are visible. -/
theorem validateConfigFile_visible {lib : ConfigLibrary} {defaults : String × String} {configFile : ConfigFile}
    {online : ConfigState}
    (h : validateConfigFile lib defaults (nodeHooks lib.hkdf state trial) configFile = .ok online) :
    ∀ profile ∈ configFile.deterministicTokenizationProfiles, VisibleLabels profile.context := by
  obtain ⟨-, h⟩ := Loop.bind_unit_eq_ok.mp h
  obtain ⟨_, -, h⟩ := Loop.bind_eq_ok.mp h
  obtain ⟨_, -, h⟩ := Loop.bind_eq_ok.mp h
  obtain ⟨_, -, h⟩ := Loop.bind_eq_ok.mp h
  obtain ⟨_, -, h⟩ := Loop.bind_eq_ok.mp h
  obtain ⟨_, -, h⟩ := Loop.bind_eq_ok.mp h
  obtain ⟨deterministic, hdeterministic, -⟩ := Loop.bind_eq_ok.mp h
  obtain ⟨profiles, hprofiles, -⟩ := Loop.bind_eq_ok.mp hdeterministic
  intro profile hprofile
  obtain ⟨seen, out, hround⟩ := Loop.collect_forall hprofiles profile hprofile
  exact deterministicProfile_visible hround

end Sections

/-! ## Files of the commands -/

/-- A node takes every text of the file, as the commands did. -/
def TakenOver (editor : Editor) (state : LoadedKeys) (defaults : String × String) (configFile : ConfigFile) : Prop :=
  ∀ content, parseConfigJson editor.lib.serde content = .ok configFile → ∃ offline online,
    validateConfigContent editor.lib (editor.app.finalAppAddr, editor.app.finalAppPath) (localHooks editor.trial)
      content = .ok offline ∧
    validateConfigContent editor.lib defaults (nodeHooks editor.lib.hkdf state editor.trial) content = .ok online ∧
    SameDefinitions online offline

/-- What the commands accept is accepted by the nodes that hold its kids exactly when the labels of its deterministic
profiles are visible. -/
theorem offline_sound_iff (editor : Editor) (hhkdf : Expands editor.lib.hkdf) (hff1 : KeyBlind editor.lib.newFf1)
    (value : Value) (hvalid : validateLocalConfig editor value = .ok ()) (configFile : ConfigFile)
    (hparse : parseConfigJson editor.lib.serde (editor.lib.serde.toText value) = .ok configFile) (state : LoadedKeys)
    (hheld : KidsHeld state configFile) (defaults : String × String) :
    TakenOver editor state defaults configFile ↔
      ∀ profile ∈ configFile.deterministicTokenizationProfiles, VisibleLabels profile.context := by
  constructor
  · intro htaken
    obtain ⟨_, online, -, honline, -⟩ := htaken _ hparse
    obtain ⟨found, hfound, honline⟩ := Loop.bind_eq_ok.mp honline
    obtain rfl := Except.ok.inj (hparse.symm.trans hfound)
    exact validateConfigFile_visible honline
  · intro hvisible content hcontent
    obtain ⟨offline, hoffline, -⟩ := Loop.bind_eq_ok.mp hvalid
    obtain ⟨found, hfound, hoffline⟩ := Loop.bind_eq_ok.mp hoffline
    obtain rfl := Except.ok.inj (hparse.symm.trans hfound)
    obtain ⟨online, honline, hsame⟩ := validateConfigFile_online hhkdf hff1 hoffline hheld hvisible
    exact ⟨offline, online, Loop.bind_eq_ok.mpr ⟨configFile, hcontent, hoffline⟩,
      Loop.bind_eq_ok.mpr ⟨configFile, hcontent, honline⟩, hsame⟩

/-! ## A deterministic profile -/

def offlineKid : String := Core.Mac.exampleKid

def offlineKey : OpsKey where
  id := offlineKid
  aad := ""
  propertiesAad := ""
  keyMaterial := ⟨⟨"AES-256/GCM", String.ofList (List.replicate 64 '0')⟩, ⟨"", "", ""⟩, ⟨"", "", ""⟩, ⟨"", "", ""⟩,
    ⟨"", "", ""⟩, "SHA-3(256)"⟩
  properties := ⟨1, "", "", "", ⟨"active", "", ""⟩⟩

def offlineState : LoadedKeys := .fromKeys LoadedOpsKey.id [offlineKey]

def offlineFile (context : String) : ConfigFile where
  version := "v1"
  routes := []
  remoteRoutes := []
  permissions := []
  fpeProfiles := []
  tokenizationProfiles := []
  deterministicTokenizationProfiles := [⟨"pan", offlineKid, context, 1, 64, .none⟩]
  macProfiles := []
  maskingProfiles := []
  commitmentProfiles := []
  sharingProfiles := []
  timeAttestation := none

def offlineValue (context : String) : Value := configCodec.toValue (offlineFile context)

theorem offlineKey_supported : Supported offlineKey where
  parent := ⟨List.replicate 32 0, by rfl, List.length_replicate⟩
  cipher := ⟨_, rfl⟩
  hash := by decide

theorem offlineFile_held (context : String) : KidsHeld offlineState (offlineFile context) where
  routes := List.forall_mem_nil _
  remoteRoutes := List.forall_mem_nil _
  permissions := List.forall_mem_nil _
  fpeProfiles := List.forall_mem_nil _
  tokenizationProfiles := List.forall_mem_nil _
  deterministicProfiles := by
    intro profile hprofile
    rw [List.mem_singleton.mp hprofile]
    exact ⟨offlineKey, rfl, offlineKey_supported⟩
  macProfiles := List.forall_mem_nil _
  maskingProfiles := List.forall_mem_nil _
  commitmentProfiles := List.forall_mem_nil _
  sharingProfiles := List.forall_mem_nil _

theorem offlineValue_parse {context : String} (h : Unreserved (offlineValue context)) :
    parseConfigJson exampleEditor.lib.serde (exampleEditor.lib.serde.toText (offlineValue context)) =
      .ok (offlineFile context) :=
  parseConfigJson_ok_iff.mpr (exampleEditor.lib.serde.fromStrAs_toText configCodec _
    (configShape.plain (offlineFile context)) h
    (Nat.lt_of_le_of_lt (configShape.depth_le (offlineFile context)) configShape_levels))

theorem offlineValue_valid {context : String} (hunreserved : Unreserved (offlineValue context))
    (h : (validateConfigFile exampleEditor.lib (exampleEditor.app.finalAppAddr, exampleEditor.app.finalAppPath)
      (localHooks exampleEditor.trial) (offlineFile context)).isOk = true) :
    validateLocalConfig exampleEditor (offlineValue context) = .ok () := by
  cases hstate : validateConfigFile exampleEditor.lib (exampleEditor.app.finalAppAddr, exampleEditor.app.finalAppPath)
      (localHooks exampleEditor.trial) (offlineFile context) with
  | error e =>
    rw [hstate] at h
    cases h
  | ok offline =>
    exact Loop.bind_eq_ok.mpr ⟨offline, Loop.bind_eq_ok.mpr ⟨_, offlineValue_parse hunreserved, hstate⟩, rfl⟩

theorem exampleEditor_expands : Expands exampleEditor.lib.hkdf :=
  fun _ _ _ length _ _ => ⟨List.replicate length 0, rfl, List.length_replicate⟩

/-- A tenant label. -/
theorem offline_sound_iff_example : validateLocalConfig exampleEditor (offlineValue "tenant=acme") = .ok () ∧
    TakenOver exampleEditor offlineState ("localhost:8080", "/") (offlineFile "tenant=acme") := by
  have hunreserved : Unreserved (offlineValue "tenant=acme") := by decide
  have hvalid := offlineValue_valid hunreserved (by decide +kernel)
  refine ⟨hvalid, (offline_sound_iff exampleEditor exampleEditor_expands (fun _ _ _ _ => rfl) _ hvalid _
    (offlineValue_parse hunreserved) offlineState (offlineFile_held _) _).mpr ?_⟩
  intro profile hprofile
  rw [List.mem_singleton.mp hprofile]
  exact visibleLabels_tenant

/-- A label value of one space: the commands take it, and a node that holds the kid refuses the file. -/
theorem blank_label_refused : validateLocalConfig exampleEditor (offlineValue "tenant= ") = .ok () ∧
    KidsHeld offlineState (offlineFile "tenant= ") ∧
    (∀ online, validateConfigContent exampleEditor.lib ("localhost:8080", "/")
      (nodeHooks exampleEditor.lib.hkdf offlineState exampleEditor.trial)
      (exampleEditor.lib.serde.toText (offlineValue "tenant= ")) ≠ .ok online) ∧
    ¬ TakenOver exampleEditor offlineState ("localhost:8080", "/") (offlineFile "tenant= ") := by
  have hunreserved : Unreserved (offlineValue "tenant= ") := by decide
  have hparse := offlineValue_parse hunreserved
  have hrefused : ∀ online, validateConfigContent exampleEditor.lib ("localhost:8080", "/")
      (nodeHooks exampleEditor.lib.hkdf offlineState exampleEditor.trial)
      (exampleEditor.lib.serde.toText (offlineValue "tenant= ")) ≠ .ok online := by
    intro online honline
    obtain ⟨found, hfound, honline⟩ := Loop.bind_eq_ok.mp honline
    obtain rfl := Except.ok.inj (hparse.symm.trans hfound)
    have hvisible := validateConfigFile_visible honline _ List.mem_cons_self
    have hblank := hvisible "tenant= ".toList (by decide) "tenant".toList " ".toList (by decide)
    exact absurd hblank (by decide)
  refine ⟨offlineValue_valid hunreserved (by decide +kernel), offlineFile_held _, hrefused, fun htaken => ?_⟩
  obtain ⟨_, online, -, honline, -⟩ := htaken _ hparse
  exact hrefused online honline

end Vectis.Io.Cli

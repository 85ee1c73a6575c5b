import Vectis.Io.Http.App
import Vectis.Lib.Oracle
import Vectis.Ops.Message.Symmetric

/-!
# Derived keys

The keys that a node derives with HKDF, in six modules of the source, each with a salt and an info string of its own.

- `Derivation`: one derivation with all that it is made from, its salt and its info;
- `Run`: a piece of the code that derives keys, and `asks_derivation`: it calls HKDF only for its derivations;
- `domain_separated`: the salt and the info determine the derivation.
-/

namespace Vectis.Io.Http.Derivations

open Vectis.Core Core.Validation Core.Profiles Core.Mac Ops.Keys App

/-! ## Derivations -/

/-- The sections whose keys are keys of tags. -/
inductive TagFamily
  | mac
  | commitment
  | sharing
  deriving DecidableEq, Repr

inductive Derivation
  | tokenHash (profile kid : String)
  | tokenData (profile kid algorithm : String)
  | subjectWrap (profile kid algorithm : String)
  | subjectTokenHash (seed : List UInt8) (profile kid : String)
  | subjectTokenData (seed : List UInt8) (profile kid algorithm : String)
  | fpe (profile kid version : String)
  | fpeAuth (profile kid version : String)
  | subjectFpeEncryption (seed : List UInt8) (profile kid version : String)
  | subjectFpeAuthentication (seed : List UInt8) (profile kid version : String)
  | tag (family : TagFamily) (profile kid algorithm context : String)
  | hmacSubkey (family : TagFamily) (profile kid algorithm context : String)
  | deterministic (profile kid context : String)
  | subjectDeterministic (seed : List UInt8) (profile kid context : String)
  | subjectSymmetric (seed : List UInt8) (kid algorithm : String)

/-- The salts that are constants of the source. -/
inductive SaltName
  | tokenization
  | subjects
  | fpe
  | fpeAuth
  | tag (family : TagFamily)
  | hmacSubkey (family : TagFamily)
  | deterministic
  deriving DecidableEq, Repr

def TagFamily.salt : TagFamily → List UInt8
  | .mac => macKeySalt
  | .commitment => Commitments.commitmentKeySalt
  | .sharing => Sharing.sharingKeySalt

def TagFamily.subkeySalt : TagFamily → List UInt8
  | .mac => macHmacSubkeySalt
  | .commitment => Commitments.commitmentHmacSubkeySalt
  | .sharing => Sharing.sharingHmacSubkeySalt

def TagFamily.purpose : TagFamily → String
  | .mac => "mac-key"
  | .commitment => "commitment-key"
  | .sharing => "sharing-key"

def SaltName.bytes : SaltName → List UInt8
  | .tokenization => Tokenization.tokenizationHkdfSalt
  | .subjects => Subjects.wrapSalt
  | .fpe => Fpe.fpeKeySalt
  | .fpeAuth => Fpe.fpeAuthKeySalt
  | .tag family => family.salt
  | .hmacSubkey family => family.subkeySalt
  | .deterministic => DeterministicTokenization.hkdfSalt

/-- A constant, or the seed of a subject. -/
inductive Salt
  | constant (name : SaltName)
  | seed (value : List UInt8)
  deriving DecidableEq, Repr

def Salt.bytes : Salt → List UInt8
  | .constant name => name.bytes
  | .seed value => value

namespace Derivation

def salt : Derivation → Salt
  | .tokenHash _ _ | .tokenData _ _ _ => .constant .tokenization
  | .subjectWrap _ _ _ => .constant .subjects
  | .fpe _ _ _ => .constant .fpe
  | .fpeAuth _ _ _ => .constant .fpeAuth
  | .tag family _ _ _ _ => .constant (.tag family)
  | .hmacSubkey family _ _ _ _ => .constant (.hmacSubkey family)
  | .deterministic _ _ _ => .constant .deterministic
  | .subjectTokenHash seed _ _ | .subjectTokenData seed _ _ _ | .subjectFpeEncryption seed _ _ _
  | .subjectFpeAuthentication seed _ _ _ | .subjectDeterministic seed _ _ _ | .subjectSymmetric seed _ _ => .seed seed

/-- The fields of the info, before the labels of the context. -/
def fields : Derivation → AadFields
  | .tokenHash profile kid => [("purpose", "token-hash"), ("profile", profile), ("kid", kid),
      ("tokenization_version", "token-random-v1")]
  | .tokenData profile kid _ => [("purpose", "token-data"), ("profile", profile), ("kid", kid),
      ("tokenization_version", "token-random-v1")]
  | .subjectWrap profile kid _ => [("purpose", "subject-wrap"), ("kid", kid), ("profile", profile), ("version", "v1")]
  | .subjectTokenHash _ profile kid => [("purpose", "subject-token-hash"), ("kid", kid), ("profile", profile),
      ("version", "v1")]
  | .subjectTokenData _ profile kid _ =>
    [("purpose", "subject-token-data"), ("kid", kid), ("profile", profile), ("version", "v1")]
  | .fpe profile kid version => [("profile", profile), ("kid", kid), ("fpe_version", version)]
  | .fpeAuth profile kid version => [("purpose", "fpe-auth"), ("profile", profile), ("kid", kid),
      ("fpe_version", version), ("auth_version", "v1")]
  | .subjectFpeEncryption _ profile kid version => [("purpose", "subject-fpe-encryption"), ("kid", kid),
      ("profile", profile), ("fpe_version", version), ("version", "v1")]
  | .subjectFpeAuthentication _ profile kid version => [("purpose", "subject-fpe-authentication"), ("kid", kid),
      ("profile", profile), ("fpe_version", version), ("auth_version", "v1"), ("version", "v1")]
  | .tag family profile kid algorithm _ => [("purpose", family.purpose), ("profile", profile), ("kid", kid),
      ("algorithm", algorithm)]
  | .hmacSubkey _ profile kid _ _ => [("profile", profile), ("kid", kid)]
  | .deterministic profile kid _ => [("purpose", "token-deterministic-data"), ("profile", profile), ("kid", kid),
      ("tokenization_version", "token-deterministic-v1")]
  | .subjectDeterministic _ profile kid _ => [("purpose", "subject-token-deterministic-data"), ("kid", kid),
      ("profile", profile), ("version", "v1")]
  | .subjectSymmetric _ kid algorithm => [("purpose", "subject-symmetric-encryption"), ("kid", kid),
      ("cipher_alg", algorithm), ("version", "v1")]

/-- The context whose labels the info has. -/
def infoContext : Derivation → Option String
  | .tag _ _ _ _ context | .hmacSubkey _ _ _ _ context | .deterministic _ _ context => some context
  | _ => none

def info (d : Derivation) : Res String :=
  match d.infoContext with
  | some context => buildMacDomainAad d.fields context
  | none => buildValidatedAad d.fields

end Derivation

/-! ## Labels -/

inductive Purpose
  | tokenHash
  | tokenData
  | subjectWrap
  | subjectTokenHash
  | subjectTokenData
  | fpe
  | fpeAuth
  | subjectFpeEncryption
  | subjectFpeAuthentication
  | tag (family : TagFamily)
  | hmacSubkey (family : TagFamily)
  | deterministic
  | subjectDeterministic
  | subjectSymmetric
  deriving DecidableEq, Repr

/-- What a derived key is for. -/
structure Label where
  purpose : Purpose
  profile : Option String
  kid : String
  version : Option String
  algorithm : Option String
  context : Option String
  deriving DecidableEq, Repr

/-- A key: that of a kid, or a derived one. -/
inductive KeyName
  | ops (kid : String)
  | derived (d : Derivation)

namespace Derivation

def label : Derivation → Label
  | .tokenHash profile kid => ⟨.tokenHash, some profile, kid, some "token-random-v1", none, none⟩
  | .tokenData profile kid algorithm => ⟨.tokenData, some profile, kid, some "token-random-v1", some algorithm, none⟩
  | .subjectWrap profile kid algorithm => ⟨.subjectWrap, some profile, kid, some "v1", some algorithm, none⟩
  | .subjectTokenHash _ profile kid => ⟨.subjectTokenHash, some profile, kid, some "v1", none, none⟩
  | .subjectTokenData _ profile kid algorithm => ⟨.subjectTokenData, some profile, kid, some "v1", some algorithm, none⟩
  | .fpe profile kid version => ⟨.fpe, some profile, kid, some version, none, none⟩
  | .fpeAuth profile kid version => ⟨.fpeAuth, some profile, kid, some version, none, none⟩
  | .subjectFpeEncryption _ profile kid version => ⟨.subjectFpeEncryption, some profile, kid, some version, none, none⟩
  | .subjectFpeAuthentication _ profile kid version =>
    ⟨.subjectFpeAuthentication, some profile, kid, some version, none, none⟩
  | .tag family profile kid algorithm context => ⟨.tag family, some profile, kid, none, some algorithm, some context⟩
  | .hmacSubkey family profile kid algorithm context =>
    ⟨.hmacSubkey family, some profile, kid, none, some algorithm, some context⟩
  | .deterministic profile kid context =>
    ⟨.deterministic, some profile, kid, some "token-deterministic-v1", none, some context⟩
  -- the context is that of the key that the derivation starts from
  | .subjectDeterministic _ profile kid _ => ⟨.subjectDeterministic, some profile, kid, some "v1", none, none⟩
  | .subjectSymmetric _ kid algorithm => ⟨.subjectSymmetric, none, kid, some "v1", some algorithm, none⟩

/-- The key that the derivation starts from. -/
def parent : Derivation → KeyName
  | .subjectWrap profile kid algorithm | .subjectTokenData _ profile kid algorithm =>
  .derived (.tokenData profile kid algorithm)
  | .subjectTokenHash _ profile kid => .derived (.tokenHash profile kid)
  | .subjectFpeEncryption _ profile kid version => .derived (.fpe profile kid version)
  | .subjectFpeAuthentication _ profile kid version => .derived (.fpeAuth profile kid version)
  | .hmacSubkey family profile kid algorithm context => .derived (.tag family profile kid algorithm context)
  | .subjectDeterministic _ profile kid context => .derived (.deterministic profile kid context)
  | d => .ops d.label.kid

end Derivation

/-! ## Runs -/

/-- The call is for this derivation. -/
def Derivation.At (d : Derivation) (query : HkdfQuery) : Prop :=
  query.salt = d.salt.bytes ∧ ∃ text, d.info = .ok text ∧ query.info = bytesOf text

def TagFamily.kind : TagFamily → String
  | .mac => "mac"
  | .commitment => "commitment"
  | .sharing => "sharing"

def TagFamily.hooks (hkdf : Hkdf) (state : LoadedKeys) : TagFamily → TagHooks
  | .mac => macHooks hkdf state
  | .commitment => commitmentHooks hkdf state
  | .sharing => sharingHooks hkdf state

def TagFamily.keySize : TagFamily → Nat
  | .mac => macKeySizeBytes
  | .commitment => Commitments.commitmentKeySizeBytes
  | .sharing => Sharing.sharingKeySizeBytes

/-- A profile that the node has loaded. -/
def Loaded (state : LoadedKeys) (profile : Tokenization.TokenizationProfile) : Prop :=
  ∃ hkdf inputs profiles, Tokenization.validateTokenizationProfiles (tokenizationHooks hkdf state) inputs =
    .ok profiles ∧
    profile ∈ profiles.profiles

/-- A piece of code that derives keys, with its arguments. -/
inductive Run (state : LoadedKeys)
  | fpeKey (request : Fpe.FpeKeyDerivationRequest)
  | fpeAuthKey (request : Fpe.FpeKeyDerivationRequest)
  | tokenizationKeys (request : Tokenization.TokenizationKeyDerivationRequest)
  | tagKeys (family : TagFamily) (name kid context : String)
  | deterministicKey (request : DeterministicTokenization.DeterministicTokenKeyDerivationRequest)
  | wrappingKey (profile : Tokenization.TokenizationProfile) (loaded : Loaded state profile)
  | tokenKeys (profile : Tokenization.TokenizationProfile) (loaded : Loaded state profile) (subject : String)
      (seed : List UInt8) (opened : seed.length = Subjects.subjectSeedBytes)
  | fpeSubject (newFf1 : Fpe.NewFf1) (profile : Fpe.FpeProfile) (subject : String) (seed : List UInt8)
      (opened : seed.length = Subjects.subjectSeedBytes)
  | deterministicSubject (serde : Canonical.SerdeJson) (profile : DeterministicTokenization.DeterministicTokenProfile)
      (origin : DeterministicTokenization.SeedOrigin) (subject : String) (seed : List UInt8)
      (opened : seed.length = Subjects.subjectSeedBytes)
  | subjectSymmetric (parent seed : List UInt8) (kid algorithm : String)

namespace Run

variable {state : LoadedKeys}

def Result : Run state → Type
  | .tokenizationKeys _ => Tokenization.DerivedTokenizationKeys
  | .tagKeys _ _ _ _ => TagKeys
  | .tokenKeys _ _ _ _ _ => Subjects.SubjectTokenKeys
  | .fpeSubject _ _ _ _ _ => Fpe.FpeContext
  | .deterministicSubject _ _ _ _ _ _ => DeterministicTokenization.DeterministicTokenContext
  | _ => List UInt8

def code (hkdf : Hkdf) : (run : Run state) → Res run.Result
  | .fpeKey request => (fpeHooks hkdf state).deriveFpeKey request
  | .fpeAuthKey request => (fpeHooks hkdf state).deriveFpeAuthKey request
  | .tokenizationKeys request => (tokenizationHooks hkdf state).deriveKeys request
  | .tagKeys family name kid context =>
    deriveTagKeys hkdf (family.hooks hkdf state) family.kind family.subkeySalt family.keySize name kid context
  | .deterministicKey request => deriveDeterministicKey hkdf state request
  | .wrappingKey profile _ => Subjects.wrappingKey hkdf profile
  | .tokenKeys profile _ subject seed _ => Subjects.deriveTokenKeys hkdf profile subject seed
  | .fpeSubject newFf1 profile subject seed _ => Fpe.FpeContext.withSubject newFf1 hkdf profile subject seed
  | .deterministicSubject serde profile origin subject seed _ =>
    DeterministicTokenization.DeterministicTokenContext.fromSubjectEnvelope serde hkdf profile origin subject (.ok seed)
  | .subjectSymmetric parent seed kid algorithm => Ops.Message.deriveSubjectSymmetricKey hkdf parent seed kid algorithm

/-- The derivations of tags from a key. -/
def tagDerivations (family : TagFamily) (name kid context : String) (key : OpsKey) : List Derivation :=
  match resolveMacAlgorithm key.keyMaterial.hashVariant with
  | .ok resolved => [.tag family name kid resolved.publicAlgorithm context,
      .hmacSubkey family name kid resolved.publicAlgorithm context]
  | .error _ => []

def derivations : Run state → List Derivation
  | .fpeKey request => [.fpe request.profileName request.kid request.fpeVersion]
  | .fpeAuthKey request => [.fpeAuth request.profileName request.kid request.fpeVersion]
  | .tokenizationKeys request =>
    match state.get request.kid with
    | some key => [.tokenHash request.profileName request.kid,
        .tokenData request.profileName request.kid key.symmetric.variant]
    | none => []
  | .tagKeys family name kid context =>
    match state.get kid with
    | some key => tagDerivations family name kid context key
    | none => []
  | .deterministicKey request => [.deterministic request.profileName request.kid request.context]
  | .wrappingKey profile _ => [.subjectWrap profile.name profile.kid profile.cipherAlgorithm]
  | .tokenKeys profile _ _ seed _ => [.subjectTokenHash seed profile.name profile.kid,
      .subjectTokenData seed profile.name profile.kid profile.cipherAlgorithm]
  | .fpeSubject _ profile _ seed _ => [.subjectFpeEncryption seed profile.name profile.kid profile.fpeVersion,
      .subjectFpeAuthentication seed profile.name profile.kid profile.fpeVersion]
  | .deterministicSubject _ profile _ _ seed _ =>
    [.subjectDeterministic seed profile.name profile.kid profile.input.context]
  | .subjectSymmetric _ seed kid algorithm =>
    if seed.length = Subjects.subjectSeedBytes then [.subjectSymmetric seed kid algorithm] else []

end Run

/-- HKDF as an oracle. -/
def ofOracle (oracle : HkdfQuery → Res (List UInt8)) : Hkdf := fun inputKey salt info length =>
  oracle ⟨inputKey, salt, info, length⟩

/-- The code of the run calls HKDF there. -/
def Run.Asks {state : LoadedKeys} (run : Run state) (query : HkdfQuery) : Prop :=
  Oracle.Asks (fun oracle => run.code (ofOracle oracle)) query

/-! ## What runs ask -/

section Asks

variable {state : LoadedKeys} {hkdf hkdf' : Hkdf}

/-- Both oracles answer the calls for these derivations in the same way. -/
def Agree (hkdf hkdf' : Hkdf) (ds : List Derivation) : Prop :=
  ∀ d ∈ ds, ∀ text, d.info = .ok text → ∀ inputKey length,
    hkdf inputKey d.salt.bytes (bytesOf text) length = hkdf' inputKey d.salt.bytes (bytesOf text) length

theorem Agree.cons {d : Derivation} {ds : List Derivation} (h : Agree hkdf hkdf' (d :: ds)) :
    (∀ text, d.info = .ok text → ∀ inputKey length,
      hkdf inputKey d.salt.bytes (bytesOf text) length = hkdf' inputKey d.salt.bytes (bytesOf text) length) ∧
    Agree hkdf hkdf' ds :=
  ⟨h d List.mem_cons_self, fun d' hd' => h d' (List.mem_cons_of_mem _ hd')⟩

theorem Agree.head {d : Derivation} {ds : List Derivation} (h : Agree hkdf hkdf' (d :: ds)) : Agree hkdf hkdf' [d] := by
  intro d' hd'
  rw [List.mem_singleton.mp hd']
  exact h.cons.1

theorem tokenizationKeys_agree {keyHex algorithm : String} {request : Tokenization.TokenizationKeyDerivationRequest}
    (h : Agree hkdf hkdf' [.tokenHash request.profileName request.kid,
      .tokenData request.profileName request.kid algorithm]) :
    Tokenization.deriveTokenizationKeys hkdf keyHex algorithm request =
      Tokenization.deriveTokenizationKeys hkdf' keyHex algorithm request := by
  obtain ⟨hhash, hdata, -⟩ := h.cons.imp_right Agree.cons
  unfold Tokenization.deriveTokenizationKeys
  refine Loop.bind_congr fun cipher _ => Loop.bind_congr fun key _ => Loop.bind_congr fun hashInfo hhashInfo =>
    Loop.bind_congr fun dataInfo hdataInfo => ?_
  have hfirst := hhash hashInfo hhashInfo key Tokenization.tokenKeySizeBytes
  have hsecond := hdata dataInfo hdataInfo key cipher.keySizeBytes
  simp only [Derivation.salt, Salt.bytes, SaltName.bytes] at hfirst hsecond
  rw [hfirst, hsecond]

theorem tagKey_agree {family : TagFamily} {keyHex : String} {size : Nat} {request : TagKeyRequest}
    {resolved : ResolvedMacAlgorithm} (hresolved : resolveMacAlgorithm request.hashAlgorithm = .ok resolved)
    (h : Agree hkdf hkdf' [.tag family request.profileName request.kid resolved.publicAlgorithm request.context]) :
    deriveTagKeyForProfile hkdf family.purpose family.salt size keyHex request =
      deriveTagKeyForProfile hkdf' family.purpose family.salt size keyHex request := by
  unfold deriveTagKeyForProfile
  refine Loop.bind_congr fun resolved' hresolved' => Loop.bind_congr fun key _ => Loop.bind_congr fun info hinfo => ?_
  cases hresolved.symm.trans hresolved'
  have hkey := h.cons.1 info hinfo key size
  simp only [Derivation.salt, Salt.bytes, SaltName.bytes] at hkey
  rw [hkey]

theorem subkey_agree {family : TagFamily} {derivedKey : List UInt8} {size : Nat}
    {name kid algorithm context customization : String}
    (hcustomization : buildMacDomainAad [("profile", name), ("kid", kid)] context = .ok customization)
    (h : Agree hkdf hkdf' [.hmacSubkey family name kid algorithm context]) :
    deriveKeyedTagSubkey hkdf algorithm derivedKey family.subkeySalt customization size =
      deriveKeyedTagSubkey hkdf' algorithm derivedKey family.subkeySalt customization size := by
  have hkey := h.cons.1 customization hcustomization derivedKey size
  simp only [Derivation.salt, Salt.bytes, SaltName.bytes] at hkey
  unfold deriveKeyedTagSubkey
  rw [hkey]

theorem TagFamily.deriveKey_hooks (hkdf : Hkdf) (family : TagFamily) (request : TagKeyRequest) :
    (family.hooks hkdf state).deriveKey request =
      (requireKey state (notLoaded family.kind request.kid) request.kid >>= fun key =>
        deriveTagKeyForProfile hkdf family.purpose family.salt family.keySize key.symmetric.keyHex request) := by
  cases family <;> rfl

theorem TagFamily.hashAlgorithm_hooks (hkdf : Hkdf) (family : TagFamily) (kid : String) :
    (family.hooks hkdf state).hashAlgorithmForKid kid = hashAlgorithmForKid state kid := by
  cases family <;> rfl

theorem tagKeys_agree {family : TagFamily} {name kid context : String}
    (h : ∀ key, state.get kid = some key → Agree hkdf hkdf' (Run.tagDerivations family name kid context key)) :
    deriveTagKeys hkdf (family.hooks hkdf state) family.kind family.subkeySalt family.keySize name kid context =
      deriveTagKeys hkdf' (family.hooks hkdf' state) family.kind family.subkeySalt family.keySize name kid context := by
  unfold deriveTagKeys
  rw [family.hashAlgorithm_hooks, family.hashAlgorithm_hooks]
  refine Loop.bind_congr fun hashAlgorithm hhash => ?_
  obtain ⟨key, hkey, hvariant⟩ := Loop.bind_eq_ok.mp hhash
  cases hvariant
  have hget := requireKey_ok_iff.mp hkey
  have hagree := h key hget
  rw [family.deriveKey_hooks, family.deriveKey_hooks]
  cases hresolved : resolveMacAlgorithm key.keyMaterial.hashVariant with
  | error err =>
    -- no key is derived for an unsupported hash
    have hfail : ∀ hkdf, deriveTagKeyForProfile hkdf family.purpose family.salt family.keySize key.symmetric.keyHex
        ⟨name, kid, context, key.keyMaterial.hashVariant⟩ = .error err := by
      intro hkdf
      rw [deriveTagKeyForProfile, hresolved]
      rfl
    simp only [requireKey, hget, bind, Except.bind, hfail]
  | ok resolved =>
    rw [Run.tagDerivations, hresolved] at hagree
    have hderive := @tagKey_agree hkdf hkdf' family key.symmetric.keyHex family.keySize
      ⟨name, kid, context, key.keyMaterial.hashVariant⟩ resolved hresolved (Agree.head hagree)
    simp only [requireKey, hget, bind, Except.bind] at hderive ⊢
    rw [hderive]
    refine Loop.bind_congr fun derived hderived => ?_
    have hsame := @deriveTagKeyForProfile_resolved hkdf' family.purpose family.salt family.keySize key.symmetric.keyHex
      ⟨name, kid, context, key.keyMaterial.hashVariant⟩ derived hderived
    cases hresolved.symm.trans hsame
    split
    · rfl
    · refine Loop.bind_congr fun customization hcustomization => ?_
      rw [subkey_agree hcustomization (Agree.cons hagree).2]

theorem fpeSubjectKey_agree {profile : Fpe.FpeProfile} {parent : Option (List UInt8)} {missing purpose : String}
    {auth : Bool} {seed : List UInt8} {d : Derivation} (hsalt : d.salt = .seed seed)
    (hinfo : d.info = Fpe.FpeContext.subjectInfo profile purpose auth) (h : Agree hkdf hkdf' [d]) :
    Fpe.FpeContext.subjectKey hkdf profile parent missing purpose auth seed =
      Fpe.FpeContext.subjectKey hkdf' profile parent missing purpose auth seed := by
  unfold Fpe.FpeContext.subjectKey
  split
  · rfl
  · refine Loop.bind_congr fun info hok => ?_
    have hkey := h.cons.1 info (hinfo.trans hok)
    rw [hsalt] at hkey
    exact hkey _ _

theorem fpeSubject_agree {newFf1 : Fpe.NewFf1} {profile : Fpe.FpeProfile} {subject : String} {seed : List UInt8}
    (h : Agree hkdf hkdf' [.subjectFpeEncryption seed profile.name profile.kid profile.fpeVersion,
      .subjectFpeAuthentication seed profile.name profile.kid profile.fpeVersion]) :
    Fpe.FpeContext.withSubject newFf1 hkdf profile subject seed =
      Fpe.FpeContext.withSubject newFf1 hkdf' profile subject seed := by
  have hencryption := @fpeSubjectKey_agree hkdf hkdf' profile profile.parentKey "FPE parent key unavailable"
    "subject-fpe-encryption" false seed (.subjectFpeEncryption seed profile.name profile.kid profile.fpeVersion) rfl
      rfl h.head
  have hauthentication := @fpeSubjectKey_agree hkdf hkdf' profile profile.authKey "FPE parent MAC key unavailable"
    "subject-fpe-authentication" true seed (.subjectFpeAuthentication seed profile.name profile.kid profile.fpeVersion)
      rfl rfl
    h.cons.2
  unfold Fpe.FpeContext.withSubject Fpe.FpeContext.subjectAuthKey
  rw [hencryption, hauthentication]

/-- Oracles that agree on the derivations of a run lead to the same result. -/
theorem code_agree (run : Run state) (h : Agree hkdf hkdf' run.derivations) : run.code hkdf = run.code hkdf' := by
  cases run with
  | fpeKey request =>
    refine Loop.bind_congr fun key _ => Loop.bind_congr fun parent _ => Loop.bind_congr fun info hinfo => ?_
    exact h.cons.1 info hinfo parent _
  | fpeAuthKey request =>
    refine Loop.bind_congr fun key _ => Loop.bind_congr fun parent _ => Loop.bind_congr fun info hinfo => ?_
    exact h.cons.1 info hinfo parent _
  | tokenizationKeys request =>
    refine Loop.bind_congr fun key hkey => ?_
    simp only [Run.derivations, requireKey_ok_iff.mp hkey] at h
    exact tokenizationKeys_agree h
  | tagKeys family name kid context =>
    refine tagKeys_agree fun key hkey => ?_
    simpa only [Run.derivations, hkey] using h
  | deterministicKey request =>
    refine Loop.bind_congr fun key _ => Loop.bind_congr fun _ _ => Loop.bind_congr fun _ _ =>
      Loop.bind_congr fun info hinfo => Loop.bind_congr fun parent _ => ?_
    exact h.cons.1 info hinfo parent _
  | wrappingKey profile loaded =>
    refine Loop.bind_congr fun cipher _ => Loop.bind_congr fun info hinfo => ?_
    exact h.cons.1 info hinfo _ _
  | tokenKeys profile loaded subject seed opened =>
    obtain ⟨hhash, hdata, -⟩ := h.cons.imp_right Agree.cons
    refine Loop.bind_congr fun cipher _ => Loop.bind_congr fun hashInfo hhashInfo => ?_
    have hkey := hhash hashInfo hhashInfo profile.hashKey 32
    simp only [Derivation.salt, Salt.bytes] at hkey
    rw [hkey]
    refine Loop.bind_congr fun hashKey _ => Loop.bind_congr fun dataInfo hdataInfo => ?_
    have hkey' := hdata dataInfo hdataInfo profile.dataKey cipher.keySizeBytes
    simp only [Derivation.salt, Salt.bytes] at hkey'
    rw [hkey']
  | fpeSubject newFf1 profile subject seed opened =>
    exact fpeSubject_agree h
  | deterministicSubject serde profile origin subject seed opened =>
    refine Loop.bind_congr fun _ _ => ?_
    split
    · rfl
    · refine Loop.bind_congr fun seed' hseed => Loop.bind_congr fun info hinfo => ?_
      cases hseed
      have hkey := h.cons.1 info hinfo profile.key DeterministicTokenization.keyBytes
      simp only [Derivation.salt, Salt.bytes] at hkey
      rw [hkey]
  | subjectSymmetric parent seed kid algorithm =>
    refine Loop.bind_congr fun _ _ => Loop.bind_congr fun cipher hcipher => ?_
    split
    · rfl
    · rename_i hlengths
      refine Loop.bind_congr fun info hinfo => ?_
      rw [(Crypto.symmetricCipher_some (Tokenization.requireCipher_ok_iff.mp hcipher)).1] at hinfo
      simp only [not_or, ne_eq, Decidable.not_not] at hlengths
      simp only [Run.derivations, if_pos hlengths.2] at h
      exact h.cons.1 info hinfo parent _

/-- A run calls HKDF only for its derivations. -/
theorem asks_derivation {run : Run state} {query : HkdfQuery} (h : run.Asks query) :
    ∃ d ∈ run.derivations, d.At query := by
  refine @Oracle.Asks.mem _ _ _ _ (fun query => ∃ d ∈ run.derivations, d.At query) _ h ?_
  intro oracle oracle' hagree
  refine code_agree run fun d hd text htext inputKey length => ?_
  exact hagree _ ⟨d, hd, rfl, text, htext, rfl⟩

end Asks

/-! ## Separation -/

section Separation

variable {state : LoadedKeys} {d d₁ d₂ : Derivation}

def SaltName.all : List SaltName :=
  [.tokenization, .subjects, .fpe, .fpeAuth, .tag .mac, .tag .commitment, .tag .sharing, .hmacSubkey .mac,
    .hmacSubkey .commitment, .hmacSubkey .sharing, .deterministic]

theorem SaltName.mem_all (name : SaltName) : name ∈ all := by
  cases name with
  | tag family => cases family <;> decide
  | hmacSubkey family => cases family <;> decide
  | tokenization => decide
  | subjects => decide
  | fpe => decide
  | fpeAuth => decide
  | deterministic => decide

theorem SaltName.bytes_injective {name name' : SaltName} (h : name.bytes = name'.bytes) : name = name' :=
  List.inj_on_of_nodup_map (show (all.map SaltName.bytes).Nodup by decide) name.mem_all name'.mem_all h

/-- No constant is as long as a seed. -/
theorem SaltName.length_bytes (name : SaltName) : name.bytes.length ≠ Subjects.subjectSeedBytes := by
  have hall : all.all (fun name => name.bytes.length ≠ Subjects.subjectSeedBytes) = true := by rfl
  simpa using List.all_eq_true.mp hall name name.mem_all

/-- What holds of the derivations of a node: seeds are complete, and the algorithm is that of the key of the kid. -/
def Derivation.Of (state : LoadedKeys) : Derivation → Prop
  | .tokenData _ kid algorithm | .subjectWrap _ kid algorithm => ∃ key, state.get kid = some key ∧
  algorithm = key.symmetric.variant
  | .subjectTokenData seed _ kid algorithm =>
    seed.length = Subjects.subjectSeedBytes ∧ ∃ key, state.get kid = some key ∧ algorithm = key.symmetric.variant
  | .hmacSubkey _ _ kid algorithm _ => ∃ key resolved, state.get kid = some key ∧
      resolveMacAlgorithm key.keyMaterial.hashVariant = .ok resolved ∧ algorithm = resolved.publicAlgorithm
  | .subjectTokenHash seed _ _ | .subjectFpeEncryption seed _ _ _ | .subjectFpeAuthentication seed _ _ _
  | .subjectDeterministic seed _ _ _ | .subjectSymmetric seed _ _ => seed.length = Subjects.subjectSeedBytes
  | _ => True

theorem Derivation.Of.length_seed (h : d.Of state) {seed : List UInt8} (hsalt : d.salt = .seed seed) :
    seed.length = Subjects.subjectSeedBytes := by
  cases d <;> cases hsalt <;> first | exact h | exact h.1

theorem salt_injective (h₁ : d₁.Of state) (h₂ : d₂.Of state) (h : d₁.salt.bytes = d₂.salt.bytes) :
    d₁.salt = d₂.salt := by
  cases hs₁ : d₁.salt with
  | constant name =>
    cases hs₂ : d₂.salt with
    | constant name' =>
      rw [hs₁, hs₂] at h
      exact congrArg Salt.constant (SaltName.bytes_injective h)
    | seed seed =>
      rw [hs₁, hs₂] at h
      exact absurd ((congrArg List.length h).trans (h₂.length_seed hs₂)) name.length_bytes
  | seed seed =>
    cases hs₂ : d₂.salt with
    | constant name =>
      rw [hs₁, hs₂] at h
      exact absurd ((congrArg List.length h).symm.trans (h₁.length_seed hs₁)) name.length_bytes
    | seed seed' =>
      rw [hs₁, hs₂] at h
      exact congrArg Salt.seed h

/-- The algorithm of a loaded profile is that of the key of its kid. -/
theorem Loaded.algorithm {profile : Tokenization.TokenizationProfile} (h : Loaded state profile) :
    ∃ key, state.get profile.kid = some key ∧ profile.cipherAlgorithm = key.symmetric.variant := by
  obtain ⟨hkdf, inputs, profiles, hvalidate, hmem⟩ := h
  obtain ⟨-, hderive⟩ := Tokenization.mem_of_validate hvalidate hmem
  obtain ⟨key, hkey, hderive⟩ := Loop.bind_eq_ok.mp hderive
  obtain ⟨_, -, hderive⟩ := Loop.bind_eq_ok.mp hderive
  obtain ⟨_, -, hderive⟩ := Loop.bind_eq_ok.mp hderive
  obtain ⟨_, -, hderive⟩ := Loop.bind_eq_ok.mp hderive
  obtain ⟨_, -, hderive⟩ := Loop.bind_eq_ok.mp hderive
  obtain ⟨_, -, hderive⟩ := Loop.bind_eq_ok.mp hderive
  obtain ⟨_, -, hderive⟩ := Loop.bind_eq_ok.mp hderive
  rw [Except.ok.injEq, Tokenization.DerivedTokenizationKeys.mk.injEq] at hderive
  exact ⟨key, requireKey_ok_iff.mp hkey, hderive.2.2.symm⟩

theorem of_mem_derivations {run : Run state} (h : d ∈ run.derivations) : d.Of state := by
  cases run with
  | fpeKey request =>
    rw [List.mem_singleton.mp h]
    trivial
  | fpeAuthKey request =>
    rw [List.mem_singleton.mp h]
    trivial
  | deterministicKey request =>
    rw [List.mem_singleton.mp h]
    trivial
  | tokenizationKeys request =>
    rw [Run.derivations] at h
    split at h
    · rename_i key hkey
      rcases List.mem_cons.mp h with rfl | h
      · trivial
      · rw [List.mem_singleton.mp h]
        exact ⟨key, hkey, rfl⟩
    · cases h
  | tagKeys family name kid context =>
    rw [Run.derivations] at h
    split at h
    · rename_i key hkey
      rw [Run.tagDerivations] at h
      split at h
      · rename_i resolved hresolved
        rcases List.mem_cons.mp h with rfl | h
        · trivial
        · rw [List.mem_singleton.mp h]
          exact ⟨key, resolved, hkey, hresolved, rfl⟩
      · cases h
    · cases h
  | wrappingKey profile loaded =>
    rw [List.mem_singleton.mp h]
    exact loaded.algorithm
  | tokenKeys profile loaded subject seed opened =>
    rcases List.mem_cons.mp h with rfl | h
    · exact opened
    · rw [List.mem_singleton.mp h]
      exact ⟨opened, loaded.algorithm⟩
  | fpeSubject newFf1 profile subject seed opened =>
    rcases List.mem_cons.mp h with rfl | h
    · exact opened
    · rw [List.mem_singleton.mp h]
      exact opened
  | deterministicSubject serde profile origin subject seed opened =>
    rw [List.mem_singleton.mp h]
    exact opened
  | subjectSymmetric parent seed kid algorithm =>
    rw [Run.derivations] at h
    split at h
    · rename_i hlength
      rw [List.mem_singleton.mp h]
      exact hlength
    · cases h

/-- The number of fields before the labels, for the salts of infos with labels. -/
def Salt.labelled : Salt → Option Nat
  | .constant (.tag _) | .constant .deterministic => some 4
  | .constant (.hmacSubkey _) => some 2
  | _ => none

theorem infoContext_labelled (d : Derivation) : d.infoContext.isSome = d.salt.labelled.isSome ∧
    ∀ n, d.salt.labelled = some n → d.fields.length = n := by
  cases d <;> exact ⟨rfl, fun n h => by cases h <;> rfl⟩

/-- The salt and the info determine the fields and the labels of the info. -/
theorem fields_of_info {text : String} (hsalt : d₁.salt = d₂.salt) (h₁ : d₁.info = .ok text) (h₂ : d₂.info = .ok text) :
    d₁.fields = d₂.fields ∧ d₁.infoContext = d₂.infoContext := by
  obtain ⟨hsome₁, hlength₁⟩ := infoContext_labelled d₁
  obtain ⟨hsome₂, hlength₂⟩ := infoContext_labelled d₂
  have hsome : d₁.infoContext.isSome = d₂.infoContext.isSome := by rw [hsome₁, hsome₂, hsalt]
  unfold Derivation.info at h₁ h₂
  cases hc₁ : d₁.infoContext with
  | none =>
    cases hc₂ : d₂.infoContext with
    | none =>
      rw [hc₁] at h₁
      rw [hc₂] at h₂
      exact ⟨buildValidatedAad_injective h₁ h₂, rfl⟩
    | some context => simp [hc₁, hc₂] at hsome
  | some context =>
    cases hc₂ : d₂.infoContext with
    | none => simp [hc₁, hc₂] at hsome
    | some context' =>
      rw [hc₁] at h₁ hsome₁
      rw [hc₂] at h₂
      obtain ⟨n, hn⟩ := Option.isSome_iff_exists.mp hsome₁.symm
      have hlength := (hlength₁ n hn).trans (hlength₂ n (hsalt ▸ hn)).symm
      obtain ⟨hfields, hcontext⟩ := buildMacDomainAad_injective hlength h₁ h₂
      exact ⟨hfields, congrArg some hcontext⟩

/-- The info has everything but the algorithm of some derivations and the context of subject keys. -/
theorem label_of_fields (h₁ : d₁.Of state) (h₂ : d₂.Of state) (hsalt : d₁.salt = d₂.salt)
    (hfields : d₁.fields = d₂.fields) (hcontext : d₁.infoContext = d₂.infoContext) : d₁.label = d₂.label ∧
    (d₁.parent = d₂.parent → d₁ = d₂) := by
  cases d₁ <;> cases d₂ <;> cases hsalt <;>
    simp only [Derivation.fields, List.cons.injEq, Prod.mk.injEq, true_and, and_true, String.reduceEq, false_and,
      and_false, reduceCtorEq] at hfields
  case tokenHash.tokenHash =>
    obtain ⟨rfl, rfl⟩ := hfields
    exact ⟨rfl, fun _ => rfl⟩
  case tokenData.tokenData =>
    obtain ⟨rfl, rfl⟩ := hfields
    obtain ⟨key, hkey, rfl⟩ := h₁
    obtain ⟨key', hkey', rfl⟩ := h₂
    cases hkey.symm.trans hkey'
    exact ⟨rfl, fun _ => rfl⟩
  case subjectWrap.subjectWrap =>
    obtain ⟨rfl, rfl⟩ := hfields
    obtain ⟨key, hkey, rfl⟩ := h₁
    obtain ⟨key', hkey', rfl⟩ := h₂
    cases hkey.symm.trans hkey'
    exact ⟨rfl, fun _ => rfl⟩
  case subjectTokenHash.subjectTokenHash =>
    obtain ⟨rfl, rfl⟩ := hfields
    exact ⟨rfl, fun _ => rfl⟩
  case subjectTokenData.subjectTokenData =>
    obtain ⟨rfl, rfl⟩ := hfields
    obtain ⟨-, key, hkey, rfl⟩ := h₁
    obtain ⟨-, key', hkey', rfl⟩ := h₂
    cases hkey.symm.trans hkey'
    exact ⟨rfl, fun _ => rfl⟩
  case fpe.fpe =>
    obtain ⟨rfl, rfl, rfl⟩ := hfields
    exact ⟨rfl, fun _ => rfl⟩
  case fpeAuth.fpeAuth =>
    obtain ⟨rfl, rfl, rfl⟩ := hfields
    exact ⟨rfl, fun _ => rfl⟩
  case subjectFpeEncryption.subjectFpeEncryption =>
    obtain ⟨rfl, rfl, rfl⟩ := hfields
    exact ⟨rfl, fun _ => rfl⟩
  case subjectFpeAuthentication.subjectFpeAuthentication =>
    obtain ⟨rfl, rfl, rfl⟩ := hfields
    exact ⟨rfl, fun _ => rfl⟩
  case tag.tag =>
    obtain ⟨rfl, rfl, rfl⟩ := hfields
    cases hcontext
    exact ⟨rfl, fun _ => rfl⟩
  case hmacSubkey.hmacSubkey =>
    -- the algorithm follows from the hash of the key
    obtain ⟨rfl, rfl⟩ := hfields
    cases hcontext
    obtain ⟨key, resolved, hkey, hresolved, rfl⟩ := h₁
    obtain ⟨key', resolved', hkey', hresolved', rfl⟩ := h₂
    cases hkey.symm.trans hkey'
    cases hresolved.symm.trans hresolved'
    exact ⟨rfl, fun _ => rfl⟩
  case deterministic.deterministic =>
    obtain ⟨rfl, rfl⟩ := hfields
    cases hcontext
    exact ⟨rfl, fun _ => rfl⟩
  case subjectDeterministic.subjectDeterministic =>
    obtain ⟨rfl, rfl⟩ := hfields
    refine ⟨rfl, fun hparent => ?_⟩
    cases hparent
    rfl
  case subjectSymmetric.subjectSymmetric =>
    obtain ⟨rfl, rfl⟩ := hfields
    exact ⟨rfl, fun _ => rfl⟩

/-- A run calls HKDF only for its derivations; and two derivations of a node with the same salt and the same info have
the same label, and are the same when they start from the same key. -/
theorem domain_separated (state : LoadedKeys) :
    (∀ (run : Run state) query, run.Asks query → ∃ d ∈ run.derivations, d.At query) ∧
    ∀ run₁ run₂ : Run state, ∀ d₁ ∈ run₁.derivations, ∀ d₂ ∈ run₂.derivations, ∀ query₁ query₂, d₁.At query₁ →
      d₂.At query₂ → query₁.salt = query₂.salt → query₁.info = query₂.info →
        d₁.label = d₂.label ∧ (d₁.parent = d₂.parent → d₁ = d₂) := by
  refine ⟨fun run query => asks_derivation, ?_⟩
  intro run₁ run₂ d₁ hd₁ d₂ hd₂ query₁ query₂ hat₁ hat₂ hsalt hinfo
  obtain ⟨hsalt₁, text₁, htext₁, hinfo₁⟩ := hat₁
  obtain ⟨hsalt₂, text₂, htext₂, hinfo₂⟩ := hat₂
  have hof₁ := of_mem_derivations hd₁
  have hof₂ := of_mem_derivations hd₂
  have hsame := salt_injective hof₁ hof₂ (hsalt₁.symm.trans (hsalt.trans hsalt₂))
  have htext : text₁ = text₂ := Utf8.encode_injective (hinfo₁.symm.trans (hinfo.trans hinfo₂))
  obtain ⟨hfields, hcontext⟩ := fields_of_info hsame htext₁ (htext ▸ htext₂)
  exact label_of_fields hof₁ hof₂ hsame hfields hcontext

end Separation

/-! ## An example -/

def exampleKey : OpsKey where
  id := "aaaaaaaaaaaaaaaaaaaaaaaaaaaaaaaaaaaaaaaaaaaaaaaaaaaaaaaaaaaaaaaa"
  aad := ""
  propertiesAad := ""
  keyMaterial := ⟨⟨"AES-256/GCM", "00"⟩, ⟨"", "", ""⟩, ⟨"", "", ""⟩, ⟨"", "", ""⟩, ⟨"", "", ""⟩, "SHA-3(256)"⟩
  properties := ⟨1, "", "", "", ⟨"active", "", ""⟩⟩

def exampleState : LoadedKeys := .fromKeys LoadedOpsKey.id [exampleKey]

def exampleRun : Run exampleState := .fpeKey ⟨exampleKey.id, "pan", "fpe-ff1-2025"⟩

def exampleQuery : HkdfQuery where
  inputKey := [0]
  salt := bytesOf "vectis:fpe:ff1:v1"
  info := bytesOf (buildAad [("profile", "pan"), ("kid", exampleKey.id), ("fpe_version", "fpe-ff1-2025")])
  length := 32

def exampleProfile : Fpe.FpeProfile :=
  ⟨"pan", "fpe-ff1-2025", "0123456789", 6, 19, "", exampleKey.id, "0123456789".toList, [], none, some [0], .stored,
    "", [], true, some [0]⟩

def exampleSeed : List UInt8 := List.replicate 32 7

def exampleSubjectRun : Run exampleState := .fpeSubject (fun _ _ => .ok ()) exampleProfile "subject" exampleSeed rfl

/-- The call for a profile's key is listed, and the two calls for a subject, which have one salt, have two infos. -/
theorem domain_separated_example : (∃ d ∈ exampleRun.derivations, d.At exampleQuery) ∧
    ∀ encryption authentication : HkdfQuery,
      (Derivation.subjectFpeEncryption exampleSeed "pan" exampleKey.id "fpe-ff1-2025").At encryption →
      (Derivation.subjectFpeAuthentication exampleSeed "pan" exampleKey.id "fpe-ff1-2025").At authentication →
      encryption.info ≠ authentication.info := by
  refine ⟨(domain_separated exampleState).1 exampleRun exampleQuery ?_, ?_⟩
  rotate_left
  · intro encryption authentication hencryption hauthentication hinfo
    have hlabel := ((domain_separated exampleState).2 exampleSubjectRun exampleSubjectRun _ (.head _) _
      (.tail _ (.head _)) encryption authentication hencryption hauthentication
        (hencryption.1.trans hauthentication.1.symm) hinfo).1
    cases hlabel
  refine ⟨fun _ => .ok [], fun query => if query = exampleQuery then .ok [1] else .ok [], ?_, ?_⟩
  · intro query hne
    exact (if_neg hne).symm
  · have hinfo : buildValidatedAad [("profile", "pan"), ("kid", exampleKey.id), ("fpe_version", "fpe-ff1-2025")] =
        .ok (buildAad [("profile", "pan"), ("kid", exampleKey.id), ("fpe_version", "fpe-ff1-2025")]) := by
      have hkid : validateKeyId exampleKey.id = .ok () := validateInternalHash_replicate (c := 'a') (by decide) "id"
      refine buildValidatedAad_ok_iff.mpr ⟨?_, rfl⟩
      simp only [List.forall_mem_cons]
      exact ⟨aadOk_of_validate (by rfl), aadOk_kid (by rfl) hkid, aadOk_of_validate (by rfl), nofun⟩
    have hcode : ∀ oracle, exampleRun.code (ofOracle oracle) = oracle exampleQuery := by
      intro oracle
      show (requireKey exampleState _ exampleKey.id >>= fun key =>
        Fpe.deriveFpeKeyForProfile (ofOracle oracle) key.symmetric.keyHex ⟨exampleKey.id, "pan", "fpe-ff1-2025"⟩) = _
      have hkey : exampleState.get exampleKey.id = some exampleKey := rfl
      rw [requireKey_ok_iff.mpr hkey]
      show Fpe.deriveFpeKeyForProfile (ofOracle oracle) "00" ⟨exampleKey.id, "pan", "fpe-ff1-2025"⟩ = _
      have hhex : hexDecode "00" = .ok [0] := rfl
      rw [Fpe.deriveFpeKeyForProfile, hhex]
      simp only [bind, Except.bind, hinfo]
      rfl
    simp only [hcode]
    intro h
    cases h

end Vectis.Io.Http.Derivations

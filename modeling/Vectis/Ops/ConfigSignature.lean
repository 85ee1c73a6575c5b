import Vectis.Core.ConfigFile
import Vectis.Core.Records
import Vectis.Ops.Message.Delivery
import Vectis.Ops.SignedTokens

/-!
# Signed configuration files

`sign_config_file` and `verify_config_file_signature` (`ops/sign.rs`) over the configuration file as it is read and
checked (`core/config_file.rs`).

- `verifyConfig_of_sign`: what is signed is accepted with every content of the same canonical text;
- `verifyConfig_signed`: what is accepted has the canonical text of a content that was signed;
- `config_signature_pins`: so a signature fixes the state that any node makes of the file.
-/

namespace Vectis.Ops.Sign

open Core.AuditChain Core.Canonical Core.Config Core.Validation Contracts Json Keys

/-! ## Texts that are hashed -/

/-- The bytes that some contents are hashed from. -/
def configInputs (serde : SerdeJson) (contents : Set String) : Set (List UInt8) :=
  {input | ∃ content ∈ contents, ∃ canonical, canonicalConfigJson serde content = .ok canonical ∧
    Utf8.encode canonical = input}

/-- The contents that the calls of a log signed. -/
def signedContents (log : Set SignCall) : Set String := {content | ∃ env, SignCall.config content env ∈ log}

variable {platform : Platform} {canonicalConfigJson : String → Res String} {initKeys : KeyMaterial}

theorem hashTextHex_ok {text hash : String} (h : hashTextHex platform text = .ok hash) :
    validateHashHexField "message_hash.hex" hash internalKeysHash = .ok () := by
  obtain ⟨digest, hdigest, h⟩ := Loop.bind_eq_ok.mp h
  cases h
  obtain ⟨hsize, hall⟩ := hexEncode_ok digest
  rw [platform.hashBytes_length _ _ hdigest] at hsize
  exact validateInternalHash_ok_iff.mpr ⟨hsize, hall⟩

/-- Without collisions, a hash is of one text. -/
theorem text_eq_of_hash {inputs : Set (List UInt8)} (hinj : Set.InjOn platform.hashBytes inputs) {s t hash : String}
    (hs : Utf8.encode s ∈ inputs) (ht : Utf8.encode t ∈ inputs) (hashS : hashTextHex platform s = .ok hash)
    (hashT : hashTextHex platform t = .ok hash) : s = t := by
  obtain ⟨digestS, hdigestS, hashS⟩ := Loop.bind_eq_ok.mp hashS
  obtain ⟨digestT, hdigestT, hashT⟩ := Loop.bind_eq_ok.mp hashT
  have hdigest : digestS = digestT := Hex.encode_injective ((Except.ok.inj hashS).trans (Except.ok.inj hashT).symm)
  exact Utf8.encode_injective (hinj hs ht (by rw [hdigestS, hdigestT, hdigest]))

/-! ## The payload -/

/-- What a configuration payload is made of. -/
structure ConfigPayload (platform : Platform) (canonicalConfigJson : String → Res String) (content : String)
    (payload : TimestampPayload) (canonical hash : String) : Prop where
  text : canonicalConfigJson content = .ok canonical
  hashed : hashTextHex platform canonical = .ok hash
  createdAt : ∃ seconds : UInt64, payload.createdAt = toString seconds.toNat
  serial : ∃ digest, digest.length = 32 ∧ payload.serial = Hex.encode digest
  info : configTokenInfo = .ok payload.info
  version : payload.version = protocolVersionV1
  tokenType : payload.tokenType = configTokenType
  kid : payload.kid = initKeysKid
  messageHash : payload.messageHash = ⟨internalKeysHash, hash⟩

theorem configPayload_ok {content : String} {env : SignEnv} {payload : TimestampPayload}
    (h : configPayload platform canonicalConfigJson content env = .ok payload) :
    ∃ canonical hash, ConfigPayload platform canonicalConfigJson content payload canonical hash := by
  obtain ⟨canonical, hcanonical, h⟩ := Loop.bind_eq_ok.mp h
  obtain ⟨hash, hhash, h⟩ := Loop.bind_eq_ok.mp h
  obtain ⟨createdAt, hcreated, h⟩ := Loop.bind_eq_ok.mp h
  obtain ⟨rng, -, h⟩ := Loop.bind_eq_ok.mp h
  obtain ⟨info, hinfo, h⟩ := Loop.bind_eq_ok.mp h
  obtain ⟨serial, hserial, h⟩ := Loop.bind_eq_ok.mp h
  cases h
  obtain ⟨seconds, -, hcreated⟩ := Loop.map_eq_ok.mp hcreated
  obtain ⟨random, -, hserial⟩ := Loop.bind_eq_ok.mp hserial
  obtain ⟨digest, hdigest, hserial⟩ := Loop.bind_eq_ok.mp hserial
  cases hserial
  exact ⟨canonical, hash, hcanonical, hhash, ⟨seconds, hcreated.symm⟩,
    ⟨digest, platform.hashBytes_length _ _ hdigest, rfl⟩, hinfo, rfl, rfl, rfl, rfl⟩

variable {content canonical hash : String} {payload : TimestampPayload}

theorem configTokenInfo_text {info : String} (h : configTokenInfo = .ok info) (field : String) :
    validateTextField field info = .ok () :=
  Message.validateTextField_buildValidated (List.cons_ne_nil _ _) h

/-- What is signed has the fields that the verification asks for. -/
theorem ConfigPayload.valid (h : ConfigPayload platform canonicalConfigJson content payload canonical hash)
    (hempty : ∃ digest, platform.hashBytes [] = .ok digest) :
    validateConfigSignaturePayload platform payload = .ok () := by
  obtain ⟨seconds, hcreated⟩ := h.createdAt
  obtain ⟨serialDigest, hlength, hserial⟩ := h.serial
  obtain ⟨digest, hdigest⟩ := hempty
  obtain ⟨hsize, hall⟩ := hexEncode_ok serialDigest
  have hserialSize : payload.serial.utf8ByteSize = digest.length * 2 := by
    rw [hserial, platform.hashBytes_length _ _ hdigest, ← hlength, Nat.mul_comm]
    exact hsize
  have hserialText : validateHashHexField "payload.serial" payload.serial internalKeysHash = .ok () := by
    rw [hserial, validateInternalHash_ok_iff]
    rw [hlength] at hsize
    exact ⟨hsize, hall⟩
  have halg : validateAllowedValue "message_hash.alg" internalKeysHash hashAlgorithms = .ok () := rfl
  have hhash : validateMessageHash payload.messageHash = .ok () := by
    rw [h.messageHash, validateMessageHash, Loop.bind_unit_eq_ok]
    exact ⟨halg, hashTextHex_ok h.hashed⟩
  unfold validateConfigSignaturePayload validateSignedPayloadFields
  simp only [Loop.bind_unit_eq_ok]
  refine ⟨by rw [h.version]; rfl, by rw [h.tokenType]; rfl, ?_, configTokenInfo_text h.info _,
    if_neg (not_not_intro h.kid), ?_, Loop.bind_eq_ok.mpr ⟨digest, hdigest, ?_⟩⟩
  · rw [hcreated]
    exact validateTextField_ok_iff.mpr (validateAadValue_ok_iff.mp (Message.validateAadValue_seconds "" seconds)).1
  · exact validateHexField_of_hash hserialText
  · rw [if_neg (not_not_intro hserialSize)]
    exact hhash

/-! ## Verification -/

/-- What `verify_config_file_signature` accepts. -/
theorem verifyConfig_ok {signatureContent : String}
    (h : verifyConfigFileSignature platform canonicalConfigJson initKeys content signatureContent = .ok ()) :
    ∃ file payload canonical hash, platform.serde.fromStrAs signatureFileCodec signatureContent = some file ∧
      verifyStrict platform.toSignLibrary timestampCodec file.signature (verifierOf initKeys) = .ok payload ∧
      validateConfigSignaturePayload platform payload = .ok () ∧ canonicalConfigJson content = .ok canonical ∧
      hashTextHex platform canonical = .ok hash ∧ payload.messageHash = ⟨internalKeysHash, hash⟩ := by
  unfold verifyConfigFileSignature at h
  split at h
  · cases h
  rename_i file hfile
  obtain ⟨payload, hverify, h⟩ := Loop.bind_eq_ok.mp h
  obtain ⟨hfields, h⟩ := Loop.bind_unit_eq_ok.mp h
  obtain ⟨info, -, h⟩ := Loop.bind_eq_ok.mp h
  obtain ⟨-, h⟩ := Loop.guard_eq_ok.mp h
  obtain ⟨canonical, hcanonical, h⟩ := Loop.bind_eq_ok.mp h
  obtain ⟨hash, hhash, h⟩ := Loop.bind_eq_ok.mp h
  obtain ⟨hsame, -⟩ := Loop.guard_eq_ok.mp h
  simp only [Bool.or_eq_true, decide_eq_true_eq, not_or, ne_eq, Decidable.not_not] at hsame
  refine ⟨file, payload, canonical, hash, hfile, Loop.mapError_eq_ok.mp hverify, hfields, hcanonical, hhash, ?_⟩
  rw [← hsame.1, ← hsame.2]

/-- What is signed is accepted with every content that has the signed canonical text. -/
theorem verifyConfig_of_sign (hmatch : Matches platform.toSignLibrary (signerOf initKeys) (verifierOf initKeys))
    (hempty : ∃ digest, platform.hashBytes [] = .ok digest) {signed content : String} {env : SignEnv}
    {file : CompactSignatureFile} (hsign : signConfigFile platform canonicalConfigJson initKeys signed env = .ok file)
    (hsame : canonicalConfigJson content = canonicalConfigJson signed) {signatureContent : String}
    (hfile : platform.serde.fromStrAs signatureFileCodec signatureContent = some file) :
    verifyConfigFileSignature platform canonicalConfigJson initKeys content signatureContent = .ok () := by
  obtain ⟨payload, hpayload, hsign⟩ := Loop.bind_eq_ok.mp hsign
  obtain ⟨rng, -, hsign⟩ := Loop.bind_eq_ok.mp hsign
  obtain ⟨signature, hsignature, hfileEq⟩ := Loop.bind_eq_ok.mp hsign
  cases hfileEq
  obtain ⟨canonical, hash, hparts⟩ := configPayload_ok hpayload
  have hverify := verify_sign hmatch (timestampCodec_plain payload) (timestampCodec_depth payload) hsignature
  unfold verifyConfigFileSignature
  simp only [hfile]
  refine Loop.bind_eq_ok.mpr ⟨payload, Loop.mapError_eq_ok.mpr hverify,
    Loop.bind_unit_eq_ok.mpr ⟨hparts.valid hempty, ?_⟩⟩
  refine Loop.bind_eq_ok.mpr ⟨_, hparts.info, ?_⟩
  rw [if_neg (not_not_intro rfl)]
  refine Loop.bind_eq_ok.mpr ⟨canonical, hsame.trans hparts.text, Loop.bind_eq_ok.mpr ⟨hash, hparts.hashed, if_neg ?_⟩⟩
  rw [hparts.messageHash]
  simp

/-- What is accepted has the canonical text of a content that a call of the log signed. -/
theorem verifyConfig_signed {lib : ConfigLibrary} (hstrict : lib.base64.Strict) {log : Set SignCall}
    (hauth : Authentic lib.toSignLibrary (verifierOf initKeys)
      (signedBy lib.toPlatform (Core.Config.canonicalConfigJson lib.serde) log)) {signatureContent : String}
    (hinj : Set.InjOn lib.hashBytes (configInputs lib.serde (insert content (signedContents log))))
    (h : verifyConfigFileSignature lib.toPlatform (Core.Config.canonicalConfigJson lib.serde) initKeys content
      signatureContent = .ok ()) :
    ∃ signed env canonical, SignCall.config signed env ∈ log ∧
      Core.Config.canonicalConfigJson lib.serde content = .ok canonical ∧
      Core.Config.canonicalConfigJson lib.serde signed = .ok canonical := by
  obtain ⟨file, payload, canonical, hash, -, hverify, hvalid, hcanonical, hhash, hmessage⟩ := verifyConfig_ok h
  have htypes : TokenKind.config.Types (timestampCodec.toValue payload) :=
    types_timestamp (validateSignedPayloadFields_type hvalid)
  obtain ⟨-, -, hsigned⟩ := verify_spelling hstrict (verifyStrict_ok hverify)
  obtain ⟨call, hmem, hsigns⟩ := hsigned _ hauth
  have hkind := kind_of_signs htypes hsigns
  cases hsigns with
  | timestamp => cases hkind
  | checkpoint => cases hkind
  | message => cases hkind
  | @config signed env payload' _ hpayload htext =>
    have hsame : payload' = payload := by
      have hspelled := congrArg (· ++ "." ++ "") (signingInput_ok htext)
      have hvalue := spelling_injective (timestampCodec_plain payload) (timestampCodec_plain payload') hspelled
      have hread := timestampCodec.fromValue_toValue payload'
      rw [← hvalue, timestampCodec.fromValue_toValue, Option.some.injEq] at hread
      exact hread.symm
    obtain ⟨canonical', hash', hparts⟩ := configPayload_ok hpayload
    have hhashes := hparts.messageHash
    rw [hsame, hmessage, MessageHash.mk.injEq] at hhashes
    have htexts : canonical = canonical' := by
      refine text_eq_of_hash hinj ⟨content, Set.mem_insert _ _, _, hcanonical, rfl⟩
        ⟨signed, Set.mem_insert_of_mem _ ⟨env, hmem⟩, _, hparts.text, rfl⟩ hhash ?_
      rw [hhashes.2]
      exact hparts.hashed
    exact ⟨signed, env, canonical, hmem, hcanonical, htexts ▸ hparts.text⟩

/-! ## The state of the file -/

/-- What is accepted is loaded as a content that was signed. -/
theorem loadConfigFile_signed {lib : ConfigLibrary} (hstrict : lib.base64.Strict) {log : Set SignCall}
    (hauth : Authentic lib.toSignLibrary (verifierOf initKeys)
      (signedBy lib.toPlatform (Core.Config.canonicalConfigJson lib.serde) log)) {signatureContent : String}
    (hinj : Set.InjOn lib.hashBytes (configInputs lib.serde (insert content (signedContents log))))
    (h : verifyConfigFileSignature lib.toPlatform (Core.Config.canonicalConfigJson lib.serde) initKeys content
      signatureContent = .ok ()) :
    ∃ signed ∈ signedContents log, ∀ defaults hooks,
      loadConfigFile lib defaults hooks (fun content => verifyConfigFileSignature lib.toPlatform
        (Core.Config.canonicalConfigJson lib.serde) initKeys content signatureContent) content =
        validateConfigContent lib defaults hooks signed := by
  obtain ⟨signed, env, canonical, hmem, hcontent, hsigned⟩ := verifyConfig_signed hstrict hauth hinj h
  refine ⟨signed, ⟨env, hmem⟩, fun defaults hooks => ?_⟩
  rw [loadConfigFile, h]
  exact validateConfigContent_eq defaults hooks hcontent hsigned

/-- The canonical text is its own canonical text, and contents with one canonical text have one outcome on every node. A
signature is accepted with every content of the canonical text that was signed; when it is accepted, the file is loaded
as the content that was signed. -/
theorem config_signature_pins (lib : ConfigLibrary) (hstrict : lib.base64.Strict) :
    (∀ content canonical, Core.Config.canonicalConfigJson lib.serde content = .ok canonical →
      Core.Config.canonicalConfigJson lib.serde canonical = .ok canonical) ∧
    (∀ content₁ content₂ canonical, Core.Config.canonicalConfigJson lib.serde content₁ = .ok canonical →
      Core.Config.canonicalConfigJson lib.serde content₂ = .ok canonical → ∀ defaults hooks,
        validateConfigContent lib defaults hooks content₁ = validateConfigContent lib defaults hooks content₂) ∧
    (∀ initKeys signed content env file signatureContent, Matches lib.toSignLibrary (signerOf initKeys)
      (verifierOf initKeys) →
      (∃ digest, lib.hashBytes [] = .ok digest) →
      signConfigFile lib.toPlatform (Core.Config.canonicalConfigJson lib.serde) initKeys signed env = .ok file →
      Core.Config.canonicalConfigJson lib.serde content = Core.Config.canonicalConfigJson lib.serde signed →
      lib.serde.fromStrAs signatureFileCodec signatureContent = some file →
      verifyConfigFileSignature lib.toPlatform (Core.Config.canonicalConfigJson lib.serde) initKeys content
        signatureContent = .ok ()) ∧
    ∀ initKeys log content signatureContent, Authentic lib.toSignLibrary (verifierOf initKeys)
        (signedBy lib.toPlatform (Core.Config.canonicalConfigJson lib.serde) log) →
      Set.InjOn lib.hashBytes (configInputs lib.serde (insert content (signedContents log))) →
      verifyConfigFileSignature lib.toPlatform (Core.Config.canonicalConfigJson lib.serde) initKeys content
        signatureContent = .ok () →
      ∃ signed ∈ signedContents log, ∀ defaults hooks,
        loadConfigFile lib defaults hooks (fun content => verifyConfigFileSignature lib.toPlatform
          (Core.Config.canonicalConfigJson lib.serde) initKeys content signatureContent) content =
          validateConfigContent lib defaults hooks signed := by
  refine ⟨fun _ _ => canonicalConfigJson_canonical, fun _ _ _ h₁ h₂ defaults hooks => validateConfigContent_eq defaults
    hooks h₁ h₂, ?_, ?_⟩
  · intro initKeys signed content env file signatureContent hmatch hempty hsign hsame hfile
    exact verifyConfig_of_sign hmatch hempty hsign hsame hfile
  · intro initKeys log content signatureContent hauth hinj h
    exact loadConfigFile_signed hstrict hauth hinj h

/-- A canonical text fixes the state that every node makes of the file, and so does a signature that is accepted:
contents of one canonical text have one outcome, and the file is loaded as a content that was signed. -/
theorem effective_config_pinned (lib : ConfigLibrary) (hstrict : lib.base64.Strict) :
    (∀ content₁ content₂ canonical, Core.Config.canonicalConfigJson lib.serde content₁ = .ok canonical →
      Core.Config.canonicalConfigJson lib.serde content₂ = .ok canonical → ∀ defaults hooks,
        validateConfigContent lib defaults hooks content₁ = validateConfigContent lib defaults hooks content₂) ∧
    (∀ content canonical, Core.Config.canonicalConfigJson lib.serde content = .ok canonical →
      Core.Config.canonicalConfigJson lib.serde canonical = .ok canonical) ∧
    ∀ initKeys log content signatureContent, Authentic lib.toSignLibrary (verifierOf initKeys)
        (signedBy lib.toPlatform (Core.Config.canonicalConfigJson lib.serde) log) →
      Set.InjOn lib.hashBytes (configInputs lib.serde (insert content (signedContents log))) →
      verifyConfigFileSignature lib.toPlatform (Core.Config.canonicalConfigJson lib.serde) initKeys content
        signatureContent = .ok () →
      ∃ signed ∈ signedContents log, ∀ defaults hooks,
        loadConfigFile lib defaults hooks (fun content => verifyConfigFileSignature lib.toPlatform
          (Core.Config.canonicalConfigJson lib.serde) initKeys content signatureContent) content =
          validateConfigContent lib defaults hooks signed := by
  refine ⟨fun _ _ _ h₁ h₂ defaults hooks => validateConfigContent_eq defaults hooks h₁ h₂,
    fun _ _ => canonicalConfigJson_canonical, ?_⟩
  intro initKeys log content signatureContent hauth hinj h
  exact loadConfigFile_signed hstrict hauth hinj h

/-! ## A signed file -/

/-- A file with one masking profile. -/
def exampleConfig : ConfigFile :=
  ⟨"v1", [], [], [], [], [], [], [], [⟨"card", Message.exampleKey.id, 0, 4, "*", 8, 32⟩], [], [], none⟩

def exampleContent : String := SerdeJson.compact.toText (configCodec.toValue exampleConfig)

/-- The same file, indented. -/
def indentedContent : String := PrettyJson.compact.toTextPretty (configCodec.toValue exampleConfig)

theorem exampleConfig_canonical : canonicalJsonV1 .compact configCodec exampleConfig = .ok exampleContent := by rfl

theorem canonicalConfigJson_example : Core.Config.canonicalConfigJson .compact exampleContent = .ok exampleContent :=
  canonicalConfigJson_ok_iff.mpr ⟨exampleConfig, parseConfigJson_canonical exampleConfig_canonical, by rfl,
    exampleConfig_canonical⟩

theorem canonicalConfigJson_indented : Core.Config.canonicalConfigJson .compact indentedContent =
    .ok exampleContent := by
  have hplain : (configCodec.toValue exampleConfig).plain = true := configShape.plain exampleConfig
  have hread := PrettyJson.compact.fromStrAs_pretty configCodec exampleConfig _ (integral_of_plain _ hplain)
    (canonicalJsonV1_unreserved exampleConfig_canonical)
    (Nat.lt_of_le_of_lt (configShape.depth_le exampleConfig) configShape_levels) (normalize_plain _ hplain)
  exact canonicalConfigJson_ok_iff.mpr ⟨exampleConfig, parseConfigJson_ok_iff.mpr hread, by rfl,
    exampleConfig_canonical⟩

/-- Only the indented text has line breaks. -/
theorem indentedContent_ne : exampleContent ≠ indentedContent := by
  intro h
  have hindented : '\n' ∈ indentedContent.toList := by
    rw [indentedContent, PrettyJson.compact, String.toList_ofList]
    exact List.mem_cons_of_mem _ List.mem_cons_self
  rw [← h, exampleContent] at hindented
  have hplain : (configCodec.toValue exampleConfig).plain = true := configShape.plain exampleConfig
  rw [SerdeJson.compact.toText_plain _ hplain, String.toList_ofList] at hindented
  exact newline_not_mem_render _ hplain hindented

def exampleSignEnv : SignEnv := ⟨.ok 4, .ok ([], []), .ok []⟩

/-- The payload that is signed. -/
def examplePayload : TimestampPayload where
  version := protocolVersionV1
  tokenType := configTokenType
  createdAt := toString (4 : UInt64).toNat
  info := buildAad [("version", protocolVersionV1), ("type", configTokenType)]
  kid := initKeysKid
  serial := Hex.encode (checksum (Utf8.encode (toString (4 : UInt64).toNat) ++ []))
  messageHash := ⟨internalKeysHash, Hex.encode (checksum (Utf8.encode exampleContent))⟩

def exampleConfigText : String := spelling examplePlatform.toSignLibrary (timestampCodec.toValue examplePayload)

/-- Libraries with which one text is signed. -/
def exampleConfigLibrary (text : String) : ConfigLibrary where
  serde := .compact
  base64 := .urlSafeNoPad
  eddsa := .recorded (· = text)
  mlDsa := .recorded (· = text)
  hashBytes input := .ok (checksum input)
  hashBytes_length := length_digest
  hkdf := Message.exampleHkdf
  aead := .ofSealings []
  agreement := Message.exampleAgreement
  kem := Message.exampleKem
  addr := Message.exampleAddr
  newFf1 _ _ := .ok ()

theorem configTokenInfo_example : configTokenInfo = .ok examplePayload.info := by rfl

theorem configPayload_example (text : String) :
    configPayload (exampleConfigLibrary text).toPlatform (Core.Config.canonicalConfigJson .compact) exampleContent
      exampleSignEnv = .ok examplePayload := by
  refine Loop.bind_eq_ok.mpr ⟨_, canonicalConfigJson_example,
    Loop.bind_eq_ok.mpr ⟨_, rfl, Loop.bind_eq_ok.mpr ⟨_, rfl, ?_⟩⟩⟩
  exact Loop.bind_eq_ok.mpr ⟨_, rfl, Loop.bind_eq_ok.mpr ⟨_, configTokenInfo_example, rfl⟩⟩

theorem examplePayload_text (serde : SerdeJson) : canonicalJsonV1 serde timestampCodec examplePayload =
    .ok (serde.toText (timestampCodec.toValue examplePayload)) := by rfl

/-- A payload of short fields is short. -/
theorem bytes_timestampPayload {payload : TimestampPayload}
    (hcreated : bytes (Value.string payload.createdAt).render ≤ 6) (hinfo : bytes (Value.string payload.info).render ≤
      130) (hkid : bytes (Value.string payload.kid).render ≤ 38)
    (hserial : bytes (Value.string payload.serial).render ≤ 258)
    (htype : bytes (Value.string payload.tokenType).render ≤ 54)
    (hversion : bytes (Value.string payload.version).render ≤ 10)
    (halg : bytes (Value.string payload.messageHash.alg).render ≤ 50)
    (hhex : bytes (Value.string payload.messageHash.hex).render ≤ 258) :
    bytes (timestampCodec.toValue payload).render ≤ 1500 := by
  have hhash : bytes (messageHashValue payload.messageHash).render ≤ 446 := by
    have h₁ := entryBytes_le (show shortKey "alg" = true by rfl) halg
    have h₂ := entryBytes_le (show shortKey "hex" = true by rfl) hhex
    refine Nat.le_trans (bytes_object _) ?_
    simp only [List.map_cons, List.map_nil, List.sum_cons, List.sum_nil]
    omega
  have h₁ := entryBytes_le (show shortKey "created_at" = true by rfl) hcreated
  have h₂ := entryBytes_le (show shortKey "info" = true by rfl) hinfo
  have h₃ := entryBytes_le (show shortKey "kid" = true by rfl) hkid
  have h₄ := entryBytes_le (show shortKey "message_hash" = true by rfl) hhash
  have h₅ := entryBytes_le (show shortKey "serial" = true by rfl) hserial
  have h₆ := entryBytes_le (show shortKey "type" = true by rfl) htype
  have h₇ := entryBytes_le (show shortKey "version" = true by rfl) hversion
  refine Nat.le_trans (bytes_object _) ?_
  simp only [List.map_cons, List.map_nil, List.sum_cons, List.sum_nil]
  omega

theorem examplePayload_bytes : bytes (timestampCodec.toValue examplePayload).render ≤ 1500 := by
  have hdigest : ∀ input, bytes (Value.string (Hex.encode (checksum input))).render ≤ 4 * 64 + 2 := by
    intro input
    obtain ⟨hsize, hall⟩ := hexEncode_ok (checksum input)
    rw [length_checksum] at hsize
    exact bytes_hex ⟨hsize, hall⟩
  have hcreated : bytes (Value.string (toString (4 : UInt64).toNat)).render ≤ 4 * 1 + 2 :=
    bytes_string (by rfl) (by decide)
  have hinfo : bytes (Value.string examplePayload.info).render ≤ 4 * 32 + 2 := bytes_string (by rfl) (by decide)
  have hkid : bytes (Value.string initKeysKid).render ≤ 4 * 9 + 2 := bytes_string (by rfl) (by decide)
  have htype : bytes (Value.string configTokenType).render ≤ 4 * 13 + 2 := bytes_string (by rfl) (by decide)
  have hversion : bytes (Value.string protocolVersionV1).render ≤ 4 * 2 + 2 := bytes_string (by rfl) (by decide)
  have halg : bytes (Value.string internalKeysHash).render ≤ 4 * 12 + 2 := bytes_string (by rfl) (by decide)
  exact bytes_timestampPayload hcreated hinfo hkid (hdigest _) htype hversion halg (hdigest _)

variable {text : String}

/-- The payload is signed where its text is the recorded one. -/
theorem signConfigFile_example (htext : text = exampleConfigText) : ∃ file,
    signConfigFile (exampleConfigLibrary text).toPlatform (Core.Config.canonicalConfigJson .compact)
      Message.exampleMaterial exampleContent exampleSignEnv = .ok file := by
  have hbytes : (SerdeJson.compact.toText (timestampCodec.toValue examplePayload)).utf8ByteSize ≤ 1500 :=
    Utf8.utf8ByteSize_ofList _ ▸ examplePayload_bytes
  have hinput : text = Base64Url.urlSafeNoPad.encode (Utf8.encode (SerdeJson.compact.toText
      (headerCodec.toValue ⟨compactSignatureVersion⟩))) ++ "." ++ Base64Url.urlSafeNoPad.encode (Utf8.encode
      (SerdeJson.compact.toText (timestampCodec.toValue examplePayload))) := htext
  have hsign : ∀ key : String, (Scheme.recorded (· = text)).sign [] key text =
      .ok (checksum (Utf8.encode (key ++ text))) := fun key =>
    if_pos (decide_eq_true rfl)
  have hlength : ∀ input, (checksum input).length ≤ 114 := fun input => by rw [length_checksum]; decide
  have hsized : Base64Sized (exampleConfigLibrary text).toSignLibrary.base64 := utf8ByteSize_base64
  have hsigned : ∃ signature, signCompactHybridPayload (exampleConfigLibrary text).toSignLibrary timestampCodec ([], [])
      examplePayload (signerOf Message.exampleMaterial) = .ok signature ∧ signature.utf8ByteSize ≤ 8600 ∧
        ∀ c ∈ signature.toList, isBase64UrlChar c = true ∨ c = '.' :=
    sign_fits_of hsized (examplePayload_text _) hbytes hinput rfl rfl (hsign _) (hsign _) (hlength _)
      ((hlength _).trans (by decide))
  obtain ⟨signature, hsignature, -⟩ := hsigned
  exact ⟨⟨signature⟩, Loop.bind_eq_ok.mpr ⟨_, configPayload_example text, Loop.bind_eq_ok.mpr ⟨_, rfl,
    Loop.bind_eq_ok.mpr ⟨_, hsignature, rfl⟩⟩⟩⟩

def exampleConfigCall : SignCall := .config exampleContent exampleSignEnv

theorem exampleConfig_authentic (verifier : HybridPublicKeys) (htext : text = exampleConfigText) :
    Authentic (exampleConfigLibrary text).toSignLibrary verifier
      (signedBy (exampleConfigLibrary text).toPlatform (Core.Config.canonicalConfigJson .compact)
        {exampleConfigCall}) := by
  refine Or.inl fun key signed signature hkey hverify => ?_
  obtain rfl : signed = text := Scheme.recorded_authentic text verifier.eddsa key signed signature hkey hverify
  refine ⟨exampleConfigCall, rfl, .config (configPayload_example signed) ?_⟩
  rw [htext]
  exact Loop.bind_eq_ok.mpr ⟨_, header_text _ _, Loop.bind_eq_ok.mpr ⟨_, examplePayload_text _, rfl⟩⟩

theorem signatureFile_text (file : CompactSignatureFile) : SerdeJson.compact.fromStrAs signatureFileCodec
    (SerdeJson.compact.toText (signatureFileCodec.toValue file)) = some file :=
  SerdeJson.compact.fromStrAs_toText _ _ (by simp [signatureFileCodec, Value.plain, plainEntries, plainEntry]) rfl
    (by simp [signatureFileCodec, Value.depth, depthEntries, depthEntry, recursionLimit])

theorem mem_signedContents {signed : String} (h : signed ∈ signedContents {exampleConfigCall}) :
    signed = exampleContent := by
  obtain ⟨env, henv⟩ := h
  exact (SignCall.config.inj (Set.mem_singleton_iff.mp henv)).1

/-- Both spellings have one canonical text. -/
theorem example_injOn (text : String) : Set.InjOn (exampleConfigLibrary text).hashBytes
    (configInputs .compact (insert indentedContent (signedContents {exampleConfigCall}))) := by
  have hone : ∀ content ∈ insert indentedContent (signedContents {exampleConfigCall}),
      Core.Config.canonicalConfigJson .compact content = .ok exampleContent := by
    rintro content (rfl | hmem)
    · exact canonicalConfigJson_indented
    · rw [mem_signedContents hmem]
      exact canonicalConfigJson_example
  rintro _ ⟨content, hcontent, canonical, hcanonical, rfl⟩ _ ⟨content', hcontent', canonical', hcanonical', rfl⟩ -
  rw [hone _ hcontent, Except.ok.injEq] at hcanonical
  rw [hone _ hcontent', Except.ok.injEq] at hcanonical'
  rw [← hcanonical, ← hcanonical']

/-- The signature of the file is accepted with the other spelling. -/
theorem verifyConfig_indented {text : String} (htext : text = exampleConfigText) : ∃ signatureContent,
    verifyConfigFileSignature (exampleConfigLibrary text).toPlatform (Core.Config.canonicalConfigJson .compact)
      Message.exampleMaterial indentedContent signatureContent = .ok () := by
  obtain ⟨file, hfile⟩ := signConfigFile_example htext
  refine ⟨SerdeJson.compact.toText (signatureFileCodec.toValue file), ?_⟩
  have hmatch : Matches (exampleConfigLibrary text).toSignLibrary (signerOf Message.exampleMaterial)
      (verifierOf Message.exampleMaterial) := ⟨Scheme.recorded_pair _ _, Scheme.recorded_pair _ _⟩
  exact verifyConfig_of_sign hmatch ⟨_, rfl⟩ hfile (canonicalConfigJson_indented.trans canonicalConfigJson_example.symm)
    (signatureFile_text file)

/-- The file is signed, and accepted with another spelling, which is loaded as what was signed. -/
theorem config_signature_pins_example : ∃ signatureContent, ∃ signed ∈ signedContents {exampleConfigCall},
    signed ≠ indentedContent ∧ ∀ defaults hooks,
      loadConfigFile (exampleConfigLibrary exampleConfigText) defaults hooks (fun content =>
        verifyConfigFileSignature (exampleConfigLibrary exampleConfigText).toPlatform
          (Core.Config.canonicalConfigJson .compact) Message.exampleMaterial content signatureContent) indentedContent =
        validateConfigContent (exampleConfigLibrary exampleConfigText) defaults hooks signed := by
  obtain ⟨text, htext⟩ : ∃ text, text = exampleConfigText := ⟨_, rfl⟩
  rw [← htext]
  obtain ⟨file, hfile⟩ := signConfigFile_example htext
  obtain ⟨-, -, hcomplete, hpins⟩ := config_signature_pins (exampleConfigLibrary text) Base64Url.urlSafeNoPad_strict
  have hverify := hcomplete Message.exampleMaterial exampleContent indentedContent exampleSignEnv file _
    ⟨Scheme.recorded_pair _ _, Scheme.recorded_pair _ _⟩ ⟨_, rfl⟩ hfile
    (canonicalConfigJson_indented.trans canonicalConfigJson_example.symm) (signatureFile_text file)
  obtain ⟨signed, hmem, hloaded⟩ := hpins _ {exampleConfigCall} _ _ (exampleConfig_authentic _ htext)
    (example_injOn text) hverify
  refine ⟨_, signed, hmem, ?_, hloaded⟩
  rw [mem_signedContents hmem]
  exact indentedContent_ne

/-- The two spellings have one outcome, and the one that was not signed is loaded as the signed one. -/
theorem effective_config_pinned_example : (∀ defaults hooks,
      validateConfigContent (exampleConfigLibrary exampleConfigText) defaults hooks indentedContent =
        validateConfigContent (exampleConfigLibrary exampleConfigText) defaults hooks exampleContent) ∧
    ∃ signatureContent, ∀ defaults hooks,
      loadConfigFile (exampleConfigLibrary exampleConfigText) defaults hooks (fun content =>
        verifyConfigFileSignature (exampleConfigLibrary exampleConfigText).toPlatform
          (Core.Config.canonicalConfigJson .compact) Message.exampleMaterial content signatureContent) indentedContent =
        validateConfigContent (exampleConfigLibrary exampleConfigText) defaults hooks exampleContent := by
  obtain ⟨text, htext⟩ : ∃ text, text = exampleConfigText := ⟨_, rfl⟩
  rw [← htext]
  obtain ⟨hsame, -, hpins⟩ := effective_config_pinned (exampleConfigLibrary text) Base64Url.urlSafeNoPad_strict
  obtain ⟨signatureContent, hverify⟩ := verifyConfig_indented htext
  obtain ⟨signed, hmem, hloaded⟩ := hpins _ {exampleConfigCall} _ _ (exampleConfig_authentic _ htext)
    (example_injOn text) hverify
  refine ⟨hsame _ _ _ canonicalConfigJson_indented canonicalConfigJson_example, signatureContent, ?_⟩
  rw [← mem_signedContents hmem]
  exact hloaded

end Vectis.Ops.Sign

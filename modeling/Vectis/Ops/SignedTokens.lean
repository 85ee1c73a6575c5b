import Vectis.Core.AuditChain.Tamper
import Vectis.Core.Aad
import Vectis.Ops.Contracts
import Vectis.Ops.KeyMaterial

/-!
# Signed tokens

Timestamps, signed configuration files and audit checkpoints are compact signatures of payloads of different types
(`ops/sign.rs`, `core/audit_chain.rs`); messages are signed as JSON (`ops/message.rs`). The same keys may sign all of
them.

- `SignCall`: the calls that sign with a key pair, and `SignCall.Signs`, the text they hand to the schemes;
- `Accepted`: a signature that one of the verifications accepts;
- `accepted_spelling`: what is accepted is the text of a call, spelled as the call spelled it;
- `compact_signatures_separated`: with the round trip, and the separation of the types.
-/

namespace Vectis.Ops.Sign

open Core.AuditChain Core.Canonical Core.Validation Contracts Json Keys

/-! ## Payloads -/

/-- `TIMESTAMP_TOKEN_TYPE`. -/
def timestampTokenType : String := "vectis-sign"

/-- `CONFIG_TOKEN_TYPE`. -/
def configTokenType : String := "vectis-config"

/-- `protocol::PROTOCOL_VERSION_V1`. -/
def protocolVersionV1 : String := "v1"

/-- `protocol::SUPPORTED_PROTOCOL_VERSIONS`. -/
def supportedProtocolVersions : List String := [protocolVersionV1]

def validateProtocolVersion (field value : String) : Res Unit :=
  validateAllowedValue field value supportedProtocolVersions

def validateMessageHash (hash : MessageHash) : Res Unit := do
  validateAllowedValue "message_hash.alg" hash.alg hashAlgorithms
  validateHashHexField "message_hash.hex" hash.hex hash.alg

/-- The time, the generator for the signatures, and the bytes drawn for the serial. -/
structure SignEnv where
  now : Res UInt64
  rng : Res (List UInt8 × List UInt8)
  random : Res (List UInt8)

variable (platform : Platform)

def createPayloadSerial (random : Res (List UInt8)) (createdAt : String) : Res String := do
  let random ← random
  let digest ← platform.hashBytes (Utf8.encode createdAt ++ random)
  .ok (Hex.encode digest)

/-- The payload of `sign_timestamp`. -/
def timestampPayload (key : OpsKey) (hash : MessageHash) (env : SignEnv) : Res TimestampPayload := do
  requireLifecycleForNewUse key.lifecycleStatus
  let createdAt ← currentTimestamp env.now
  let _ ← env.rng
  let serial ← createPayloadSerial platform env.random createdAt
  .ok ⟨protocolVersionV1, timestampTokenType, createdAt, key.aad, key.id, serial, hash⟩

structure CompactSignatureToken where
  kid : String
  signature : String
  deriving DecidableEq, Repr

def signerOf (keys : KeyMaterial) : HybridPrivateKeys := ⟨keys.eddsa.privateKeyDerHex, keys.mlDsa.privateKeyDerHex⟩

def verifierOf (keys : KeyMaterial) : HybridPublicKeys := ⟨keys.eddsa.publicKeyDerHex, keys.mlDsa.publicKeyDerHex⟩

def signTimestamp (key : OpsKey) (hash : MessageHash) (env : SignEnv) : Res CompactSignatureToken := do
  let payload ← timestampPayload platform key hash env
  let rng ← env.rng
  let signature ← signCompactHybridPayload platform.toSignLibrary timestampCodec rng payload (signerOf key.keyMaterial)
  .ok ⟨key.id, signature⟩

def configTokenInfo : Res String := buildValidatedAad [("version", protocolVersionV1), ("type", configTokenType)]

/-- `crypto::hash_text` of the internal hash, as hex. -/
def hashTextHex (text : String) : Res String := do
  let digest ← platform.hashBytes (Utf8.encode text)
  .ok (Hex.encode digest)

/-- The payload of `sign_config_file`. -/
def configPayload (canonicalConfigJson : String → Res String) (content : String) (env : SignEnv) :
    Res TimestampPayload := do
  let canonical ← canonicalConfigJson content
  let hash ← hashTextHex platform canonical
  let createdAt ← currentTimestamp env.now
  let _ ← env.rng
  let info ← configTokenInfo
  let serial ← createPayloadSerial platform env.random createdAt
  .ok ⟨protocolVersionV1, configTokenType, createdAt, info, initKeysKid, serial, ⟨internalKeysHash, hash⟩⟩

structure CompactSignatureFile where
  signature : String
  deriving DecidableEq, Repr

def signConfigFile (canonicalConfigJson : String → Res String) (initKeys : KeyMaterial) (content : String)
    (env : SignEnv) :
    Res CompactSignatureFile := do
  let payload ← configPayload platform canonicalConfigJson content env
  let rng ← env.rng
  let signature ← signCompactHybridPayload platform.toSignLibrary timestampCodec rng payload (signerOf initKeys)
  .ok ⟨signature⟩

/-! ## Verification -/

def validateSignedPayloadFields (payload : TimestampPayload) (expectedType : String) (checkKid : String → Res Unit) :
    Res Unit := do
  validateProtocolVersion "payload.version" payload.version
  validateAllowedValue "payload.type" payload.tokenType [expectedType]
  validateTextField "payload.created_at" payload.createdAt
  validateTextField "payload.info" payload.info
  checkKid payload.kid
  validateHexField "payload.serial" payload.serial
  let digest ← platform.hashBytes []
  if payload.serial.utf8ByteSize ≠ digest.length * 2 then
    .error (.invalidInput ("payload.serial must be " ++ toString (digest.length * 2) ++ " hex characters, got " ++
      toString payload.serial.utf8ByteSize))
  else validateMessageHash payload.messageHash

def validateConfigSignaturePayload (payload : TimestampPayload) : Res Unit :=
  validateSignedPayloadFields platform payload configTokenType fun kid =>
    if kid ≠ initKeysKid then .error (.invalidInput "payload.kid does not match expected signer") else .ok ()

def validateCompactTimestampPayload (payload : TimestampPayload) (expectedKid : String) : Res Unit :=
  validateSignedPayloadFields platform payload timestampTokenType fun kid =>
    if kid ≠ expectedKid then .error (.invalidInput "payload.kid does not match request kid")
    else (validateKeyId kid).mapError fun err => .invalidInput ("payload.kid is invalid: " ++ err.toText)

structure VerificationOutput where
  eddsa : String
  mlDsa : String
  valid : String
  deriving DecidableEq, Repr

def verificationOk : VerificationOutput := ⟨"ok", "ok", "ok"⟩

def verificationFailure : CompactSignatureFailure → VerificationOutput
  | .mlDsaFailed => ⟨"not_checked", "fail", "fail"⟩
  | .edDsaFailed => ⟨"fail", "ok", "fail"⟩

def verifyCompactTimestampWithLoadedKey (key : OpsKey) (token : CompactSignatureToken) : Res VerificationOutput := do
  requireLifecycleForDecryptOrVerify key.lifecycleStatus
  match ← verifyCompactHybridSignatureWithPublicKeys platform.toSignLibrary timestampCodec token.signature
    (verifierOf key.keyMaterial) with
  | .valid payload =>
    validateCompactTimestampPayload platform payload token.kid
    if payload.info ≠ key.aad then .error (.invalidInput "payload.info does not match loaded key aad")
      else .ok verificationOk
  | .invalid failure => .ok (verificationFailure failure)

def verifyCompactTimestampWithPeerKeys (token : CompactSignatureToken) (peer : HybridPublicKeys) :
    Res VerificationOutput := do
  match ← verifyCompactHybridSignatureWithPublicKeys platform.toSignLibrary timestampCodec token.signature peer with
  | .valid payload =>
    validateCompactTimestampPayload platform payload token.kid
    .ok verificationOk
  | .invalid failure => .ok (verificationFailure failure)

def signatureFileCodec : Codec CompactSignatureFile where
  toValue file := .object [("signature", .string file.signature)]
  fromValue
    | .object [("signature", .string signature)] => some ⟨signature⟩
    | _ => none
  fromValue_toValue _ := rfl

def verifyConfigFileSignature (canonicalConfigJson : String → Res String) (initKeys : KeyMaterial)
    (content signatureContent : String) : Res Unit :=
  match platform.serde.fromStrAs signatureFileCodec signatureContent with
  | none => .error (.invalidInput "unsupported config signature format; run 'vectis config sign'")
  | some file => do
    let payload ← (verifyStrict platform.toSignLibrary timestampCodec file.signature (verifierOf initKeys)).mapError
      fun _ =>
      .invalidSignature "config signature verification failed"
    validateConfigSignaturePayload platform payload
    let info ← configTokenInfo
    if payload.info ≠ info then .error (.invalidInput "config signature payload.info does not match config token")
    else do
      let canonical ← canonicalConfigJson content
      let hash ← hashTextHex platform canonical
      if payload.messageHash.alg ≠ internalKeysHash || payload.messageHash.hex ≠ hash then
        .error (.vectis (.configSignatureStale "config signature message_hash does not match config content"))
      else .ok ()

/-! ## Calls that sign -/

variable {T : Type}

/-- The text that both schemes sign. -/
def signingInput (lib : SignLibrary) (codec : Codec T) (payload : T) : Res String := do
  let header ← canonicalJsonV1 lib.serde headerCodec ⟨compactSignatureVersion⟩
  let payload ← canonicalJsonV1 lib.serde codec payload
  .ok (lib.base64.encode (Utf8.encode header) ++ "." ++ lib.base64.encode (Utf8.encode payload))

inductive TokenKind
  | timestamp
  | config
  | checkpoint
  deriving DecidableEq, Repr

def TokenKind.type : TokenKind → String
  | .timestamp => timestampTokenType
  | .config => configTokenType
  | .checkpoint => checkpointType

/-- The calls that may sign with one key pair. -/
inductive SignCall
  | timestamp (key : OpsKey) (hash : MessageHash) (env : SignEnv)
  | config (content : String) (env : SignEnv)
  | checkpoint (state : AuditChainState) (now : Res UInt64)
  | message (payload : ProtectedMessagePayload)

def SignCall.kind : SignCall → Option TokenKind
  | .timestamp _ _ _ => some .timestamp
  | .config _ _ => some .config
  | .checkpoint _ _ => some .checkpoint
  | .message _ => none

variable (canonicalConfigJson : String → Res String)

/-- The text that a call hands to the signature schemes. -/
inductive SignCall.Signs : SignCall → String → Prop
  | timestamp {key hash env payload text} (hpayload : timestampPayload platform key hash env = .ok payload)
    (htext : signingInput platform.toSignLibrary timestampCodec payload = .ok text) : Signs
      (.timestamp key hash env) text
  | config {content env payload text} (hpayload : configPayload platform canonicalConfigJson content env = .ok payload)
    (htext : signingInput platform.toSignLibrary timestampCodec payload = .ok text) : Signs (.config content env) text
  | checkpoint {state now createdAt text} (hnow : currentTimestamp now = .ok createdAt)
    (htext : signingInput platform.toSignLibrary payloadCodec (checkpointPayload state createdAt) = .ok text) :
    Signs (.checkpoint state now) text
  | message {payload text} (htext : canonicalJsonV1 platform.serde protectedMessageCodec payload = .ok text) :
    Signs (.message payload) text

/-- The compact signature that a call returns, under any keys. -/
inductive SignCall.Returns : SignCall → String → Prop
  | timestamp {key hash env token} (h : signTimestamp platform key hash env = .ok token) :
    Returns (.timestamp key hash env) token.signature
  | config {initKeys content env file} (h : signConfigFile platform canonicalConfigJson initKeys content env =
      .ok file) :
    Returns (.config content env) file.signature
  | checkpoint {state signer env payload line signature}
    (h : buildCheckpoint platform state signer env = .ok (payload, line))
    (hline : canonicalJsonV1 platform.serde checkpointLineCodec ⟨checkpointVersion, signature⟩ = .ok line) :
    Returns (.checkpoint state env.now) signature

/-- A compact signature that one of the verifications accepts under the public keys. -/
inductive Accepted : TokenKind → String → HybridPublicKeys → Prop
  | loaded {key token output} (h : verifyCompactTimestampWithLoadedKey platform key token = .ok output)
    (hvalid : output.valid = "ok") : Accepted .timestamp token.signature (verifierOf key.keyMaterial)
  | peer {token peer output} (h : verifyCompactTimestampWithPeerKeys platform token peer = .ok output)
    (hvalid : output.valid = "ok") : Accepted .timestamp token.signature peer
  | config {initKeys content signatureContent file}
    (hfile : platform.serde.fromStrAs signatureFileCodec signatureContent = some file)
    (h : verifyConfigFileSignature platform canonicalConfigJson initKeys content signatureContent = .ok ()) :
    Accepted .config file.signature (verifierOf initKeys)
  | checkpoint {verifier line payload} (h : verifyCheckpoint platform verifier line = .ok payload) :
    Accepted .checkpoint line.signature verifier

/-! ## Ideal schemes -/

/-- `decode` accepts one spelling of the bytes. -/
def Base64Url.Strict (base64 : Base64Url) : Prop := ∀ text bytes, base64.decode text = some bytes →
  base64.encode bytes = text

theorem Base64Url.urlSafeNoPad_strict : Base64Url.urlSafeNoPad.Strict := by
  intro text bytes h
  have henc := Base64.encode_of_decode h
  show String.ofList (Base64.encode bytes) = text
  rw [henc, String.ofList_toList]

/-- Signatures verify only on texts that the owner of the key signed. -/
def Scheme.Authentic (scheme : Scheme) (publicDerHex : String) (signed : Set String) : Prop :=
  ∀ key text signature, scheme.loadPublicKeyDerHex publicDerHex = .ok key →
  scheme.verify key text signature = .ok true →
    text ∈ signed

/-- One authentic scheme is enough. -/
def Authentic (lib : SignLibrary) (verifier : HybridPublicKeys) (signed : Set String) : Prop :=
  lib.eddsa.Authentic verifier.eddsa signed ∨ lib.mlDsa.Authentic verifier.mlDsa signed

/-- The texts that the calls signed. -/
def signedBy (log : Set SignCall) : Set String := {text | ∃ call ∈ log, call.Signs platform canonicalConfigJson text}

/-! ## Spellings -/

variable {platform canonicalConfigJson} {lib : SignLibrary} {codec : Codec T} {payload : T}

/-- The signing input of a payload that is this value. -/
def spelling (lib : SignLibrary) (value : Value) : String :=
  lib.base64.encode (Utf8.encode (lib.serde.toText (headerCodec.toValue ⟨compactSignatureVersion⟩))) ++ "." ++
    lib.base64.encode (Utf8.encode (lib.serde.toText value))

theorem signingInput_ok {text : String} (h : signingInput lib codec payload = .ok text) :
    text = spelling lib (codec.toValue payload) := by
  obtain ⟨header, hheader, h⟩ := Loop.bind_eq_ok.mp h
  obtain ⟨body, hbody, h⟩ := Loop.bind_eq_ok.mp h
  rw [← Except.ok.inj h, canonicalJsonV1_ok hheader, canonicalJsonV1_ok hbody]
  rfl

theorem dot_not_mem_encode (bytes : List UInt8) : '.' ∉ (lib.base64.encode bytes).toList := fun hc =>
  (base64UrlChar_safe (List.all_eq_true.mp (lib.base64.alphabet bytes) '.' hc)).2.2.2 rfl

/-- What stands before a first separator is determined. -/
theorem append_cons_inj : ∀ {a a' rest rest' : List Char}, '.' ∉ a → '.' ∉ a' → a ++ '.' :: rest = a' ++ '.' :: rest' →
    a = a' ∧ rest = rest'
  | [], [], _, _, _, _, h => ⟨rfl, (List.cons.inj h).2⟩
  | [], c :: a', _, _, _, ha', h => absurd ((List.cons.inj h).1 ▸ List.mem_cons_self) ha'
  | c :: a, [], _, _, ha, _, h => absurd ((List.cons.inj h).1 ▸ List.mem_cons_self) ha
  | c :: a, c' :: a', _, _, ha, ha', h => by
    obtain ⟨hc, h⟩ := List.cons.inj h
    obtain ⟨htail, hrest⟩ := append_cons_inj (fun hmem => ha (List.mem_cons_of_mem _ hmem))
      (fun hmem => ha' (List.mem_cons_of_mem _ hmem)) h
    exact ⟨by rw [hc, htail], hrest⟩

/-- Two segments are read off a text that begins with them. -/
theorem segments_eq {a b a' b' rest rest' : List Char} (ha : '.' ∉ a) (hb : '.' ∉ b) (ha' : '.' ∉ a') (hb' : '.' ∉ b')
    (h : a ++ '.' :: (b ++ '.' :: rest) = a' ++ '.' :: (b' ++ '.' :: rest')) : a = a' ∧ b = b' := by
  obtain ⟨hfirst, hrest⟩ := append_cons_inj ha ha' h
  exact ⟨hfirst, (append_cons_inj hb hb' hrest).1⟩

theorem encode_injective {bytes bytes' : List UInt8} (h : lib.base64.encode bytes = lib.base64.encode bytes') :
    bytes = bytes' := by
  have hdecode := lib.base64.decode_encode bytes
  rw [h, lib.base64.decode_encode] at hdecode
  exact (Option.some.inj hdecode).symm

/-- Signatures that begin with the spellings of two values are of one value. -/
theorem spelling_injective {value value' : Value} {rest rest' : String} (hplain : value.plain = true)
    (hplain' : value'.plain = true) (h : spelling lib value ++ "." ++ rest = spelling lib value' ++ "." ++ rest') :
    value = value' := by
  have hlist := congrArg String.toList h
  simp only [spelling, String.toList_append, List.append_assoc] at hlist
  have hbody := (segments_eq (dot_not_mem_encode _) (dot_not_mem_encode _) (dot_not_mem_encode _) (dot_not_mem_encode _)
    hlist).2
  exact toText_injective hplain hplain' (Utf8.encode_injective (encode_injective (String.toList_injective hbody)))

/-- What is signed begins with the spelling of the payload. -/
theorem sign_spelling {rng : List UInt8 × List UInt8} {signer : HybridPrivateKeys} {signature : String}
    (h : signCompactHybridPayload lib codec rng payload signer = .ok signature) :
    ∃ rest, signature = spelling lib (codec.toValue payload) ++ "." ++ rest := by
  obtain ⟨header, hheader, h⟩ := Loop.bind_eq_ok.mp h
  obtain ⟨body, hbody, h⟩ := Loop.bind_eq_ok.mp h
  obtain ⟨eddsaKey, heddsaKey, h⟩ := Loop.bind_eq_ok.mp h
  obtain ⟨mlDsaKey, hmlDsaKey, h⟩ := Loop.bind_eq_ok.mp h
  obtain ⟨eddsaSig, heddsaSig, h⟩ := Loop.bind_eq_ok.mp h
  obtain ⟨mlDsaSig, hmlDsaSig, h⟩ := Loop.bind_eq_ok.mp h
  simp only at h
  split at h
  · cases h
  · rw [← Except.ok.inj h, canonicalJsonV1_ok hheader, canonicalJsonV1_ok hbody]
    exact ⟨lib.base64.encode eddsaSig ++ "." ++ lib.base64.encode mlDsaSig,
      by simp only [spelling, String.append_assoc]⟩

theorem parseCanonical_ok {bytes : List UInt8} (h : parseCanonicalCompactSegment lib codec bytes = .ok payload) :
    ∃ text, canonicalJsonV1 lib.serde codec payload = .ok text ∧ bytes = Utf8.encode text := by
  unfold parseCanonicalCompactSegment at h
  split at h
  · cases h
  · obtain ⟨text, htext, h⟩ := Loop.bind_eq_ok.mp h
    split at h
    · cases h
    · rename_i hbytes
      cases h
      exact ⟨text, htext, (Classical.not_not.mp hbytes).symm⟩

theorem decodeCompactSegment_ok {segment : String} {bytes : List UInt8}
    (h : decodeCompactSegment lib segment = .ok bytes) :
    lib.base64.decode segment = some bytes := by
  unfold decodeCompactSegment at h
  split at h
  · rename_i hdecode
    rw [hdecode, Except.ok.inj h]
  · cases h

/-- A text that is split begins with its first two segments. -/
theorem splitCompactSignature_ok {signature : String} {parts : CompactSignatureParts}
    (h : splitCompactSignature lib signature = .ok parts) :
    (∃ rest, signature = parts.header ++ "." ++ parts.payload ++ "." ++ rest) ∧
    lib.base64.decode parts.header = some parts.headerBytes ∧
    lib.base64.decode parts.payload = some parts.payloadBytes := by
  unfold splitCompactSignature at h
  split at h
  · cases h
  split at h
  · rename_i header body eddsa mlDsa hsplit
    split at h
    · cases h
    obtain ⟨headerBytes, hheader, h⟩ := Loop.bind_eq_ok.mp h
    obtain ⟨bodyBytes, hbody, h⟩ := Loop.bind_eq_ok.mp h
    obtain ⟨eddsaBytes, -, h⟩ := Loop.bind_eq_ok.mp h
    obtain ⟨mlDsaBytes, -, h⟩ := Loop.bind_eq_ok.mp h
    cases h
    refine ⟨⟨String.ofList (eddsa ++ '.' :: mlDsa), String.toList_injective ?_⟩, decodeCompactSegment_ok hheader,
      decodeCompactSegment_ok hbody⟩
    have hjoin : ['.'].intercalate (signature.toList.splitOn '.') = signature.toList := List.intercalate_splitOn '.'
    rw [splitDots] at hsplit
    rw [hsplit] at hjoin
    simp [← hjoin, List.intercalate]
  · cases h

/-- What is verified begins with the spelling of the payload, which both schemes accepted. -/
theorem verify_spelling (hstrict : lib.base64.Strict) {verifier : HybridPublicKeys} {signature : String}
    (h : verifyCompactHybridSignatureWithPublicKeys lib codec signature verifier = .ok (.valid payload)) :
    signingInput lib codec payload = .ok (spelling lib (codec.toValue payload)) ∧
    (∃ rest, signature = spelling lib (codec.toValue payload) ++ "." ++ rest) ∧
    ∀ signed, Authentic lib verifier signed → spelling lib (codec.toValue payload) ∈ signed := by
  obtain ⟨parts, hparts, h⟩ := Loop.bind_eq_ok.mp h
  obtain ⟨mlDsaKey, hmlDsaKey, h⟩ := Loop.bind_eq_ok.mp h
  obtain ⟨mlDsaOk, hmlDsa, h⟩ := Loop.bind_eq_ok.mp h
  split at h
  · cases h
  rename_i hmlDsaOk
  obtain ⟨eddsaKey, heddsaKey, h⟩ := Loop.bind_eq_ok.mp h
  obtain ⟨eddsaOk, heddsa, h⟩ := Loop.bind_eq_ok.mp h
  split at h
  · cases h
  rename_i heddsaOk
  obtain ⟨header, hheader, h⟩ := Loop.bind_eq_ok.mp h
  split at h
  · cases h
  rename_i hversion
  obtain ⟨body, hbody, h⟩ := Loop.bind_eq_ok.mp h
  cases h
  obtain ⟨headerText, hheaderText, hheaderBytes⟩ := parseCanonical_ok hheader
  obtain ⟨bodyText, hbodyText, hbodyBytes⟩ := parseCanonical_ok hbody
  obtain ⟨⟨rest, hsignature⟩, hheaderSeg, hbodySeg⟩ := splitCompactSignature_ok hparts
  obtain rfl : header = ⟨compactSignatureVersion⟩ := by
    cases header
    exact congrArg CompactSignatureHeader.mk (Classical.not_not.mp hversion)
  have hinput : parts.header ++ "." ++ parts.payload = spelling lib (codec.toValue payload) := by
    rw [← hstrict _ _ hheaderSeg, ← hstrict _ _ hbodySeg, hheaderBytes, hbodyBytes, canonicalJsonV1_ok hheaderText,
      canonicalJsonV1_ok hbodyText]
    rfl
  refine ⟨?_, ⟨rest, hinput ▸ hsignature⟩, fun signed hauth => ?_⟩
  · rw [signingInput, hheaderText, hbodyText, canonicalJsonV1_ok hheaderText, canonicalJsonV1_ok hbodyText]
    rfl
  · rw [← hinput]
    rcases hauth with hauth | hauth
    · exact hauth _ _ _ heddsaKey (heddsa.trans (by simpa using heddsaOk))
    · exact hauth _ _ _ hmlDsaKey (hmlDsa.trans (by simpa using hmlDsaOk))

/-! ## Types -/

/-- A payload of the kind, as JSON. -/
def TokenKind.Types (kind : TokenKind) (value : Value) : Prop :=
  value.plain = true ∧ value.get "type" = some (.string kind.type)

theorem types_timestamp {kind : TokenKind} {payload : TimestampPayload} (h : payload.tokenType = kind.type) :
    kind.Types (timestampCodec.toValue payload) :=
  ⟨timestampCodec_plain payload, by rw [← h]; rfl⟩

theorem types_checkpoint {payload : AuditCheckpointPayload} (h : payload.tokenType = checkpointType) :
    TokenKind.checkpoint.Types (payloadCodec.toValue payload) :=
  ⟨payloadCodec_plain payload, by rw [TokenKind.type, ← h]; rfl⟩

theorem type_injective : ∀ {kind kind' : TokenKind}, kind.type = kind'.type → kind = kind' := by
  intro kind kind' h
  cases kind <;> cases kind' <;> first | rfl | exact absurd h (by decide)

theorem TokenKind.Types.kind_eq {kind kind' : TokenKind} {value : Value} (h : kind.Types value)
    (h' : kind'.Types value) :
    kind = kind' := by
  have htype := h.2
  rw [h'.2, Option.some.injEq, Value.string.injEq] at htype
  exact type_injective htype.symm

theorem timestampPayload_type {key : OpsKey} {hash : MessageHash} {env : SignEnv} {payload : TimestampPayload}
    (h : timestampPayload platform key hash env = .ok payload) : payload.tokenType = timestampTokenType := by
  obtain ⟨-, h⟩ := Loop.bind_unit_eq_ok.mp h
  obtain ⟨createdAt, -, h⟩ := Loop.bind_eq_ok.mp h
  obtain ⟨rng, -, h⟩ := Loop.bind_eq_ok.mp h
  obtain ⟨serial, -, h⟩ := Loop.bind_eq_ok.mp h
  rw [← Except.ok.inj h]

theorem configPayload_type {content : String} {env : SignEnv} {payload : TimestampPayload}
    (h : configPayload platform canonicalConfigJson content env = .ok payload) :
    payload.tokenType = configTokenType := by
  obtain ⟨canonical, -, h⟩ := Loop.bind_eq_ok.mp h
  obtain ⟨hash, -, h⟩ := Loop.bind_eq_ok.mp h
  obtain ⟨createdAt, -, h⟩ := Loop.bind_eq_ok.mp h
  obtain ⟨rng, -, h⟩ := Loop.bind_eq_ok.mp h
  obtain ⟨info, -, h⟩ := Loop.bind_eq_ok.mp h
  obtain ⟨serial, -, h⟩ := Loop.bind_eq_ok.mp h
  rw [← Except.ok.inj h]

/-- A call that signs a token spells a payload of its kind. -/
theorem signs_spelling {call : SignCall} {text : String} {kind : TokenKind}
    (h : call.Signs platform canonicalConfigJson text) (hkind : call.kind = some kind) :
    ∃ value, kind.Types value ∧ text = spelling platform.toSignLibrary value := by
  cases h with
  | timestamp hpayload htext =>
    cases hkind
    exact ⟨_, types_timestamp (timestampPayload_type hpayload), signingInput_ok htext⟩
  | config hpayload htext =>
    cases hkind
    exact ⟨_, types_timestamp (configPayload_type hpayload), signingInput_ok htext⟩
  | checkpoint hnow htext =>
    cases hkind
    exact ⟨_, types_checkpoint rfl, signingInput_ok htext⟩
  | message htext => cases hkind

/-- A signature that a call returns begins with the spelling of a payload of its kind. -/
theorem returns_spelling {call : SignCall} {signature : String}
    (h : call.Returns platform canonicalConfigJson signature) :
    ∃ kind value rest, call.kind = some kind ∧ kind.Types value ∧
      signature = spelling platform.toSignLibrary value ++ "." ++ rest := by
  cases h with
  | timestamp h =>
    obtain ⟨payload, hpayload, h⟩ := Loop.bind_eq_ok.mp h
    obtain ⟨rng, -, h⟩ := Loop.bind_eq_ok.mp h
    obtain ⟨signature, hsign, h⟩ := Loop.bind_eq_ok.mp h
    obtain ⟨rest, hrest⟩ := sign_spelling hsign
    cases h
    exact ⟨.timestamp, _, rest, rfl, types_timestamp (timestampPayload_type hpayload), hrest⟩
  | config h =>
    obtain ⟨payload, hpayload, h⟩ := Loop.bind_eq_ok.mp h
    obtain ⟨rng, -, h⟩ := Loop.bind_eq_ok.mp h
    obtain ⟨signature, hsign, h⟩ := Loop.bind_eq_ok.mp h
    obtain ⟨rest, hrest⟩ := sign_spelling hsign
    cases h
    exact ⟨.config, _, rest, rfl, types_timestamp (configPayload_type hpayload), hrest⟩
  | checkpoint h hline =>
    obtain ⟨seconds, rng, signature', rfl, hsign, hline', -⟩ := buildCheckpoint_ok h
    have htext := (canonicalJsonV1_ok hline).symm.trans (canonicalJsonV1_ok hline')
    have hvalue := toText_injective (checkpointLineCodec_plain _) (checkpointLineCodec_plain _) htext
    have hsame := checkpointLineCodec.fromValue_toValue ⟨checkpointVersion, signature⟩
    rw [hvalue, checkpointLineCodec.fromValue_toValue, Option.some.injEq, AuditCheckpointLine.mk.injEq] at hsame
    obtain ⟨rest, hrest⟩ := sign_spelling hsign
    exact ⟨.checkpoint, _, rest, rfl, types_checkpoint rfl, hsame.2 ▸ hrest⟩

theorem validateSignedPayloadFields_type {payload : TimestampPayload} {expectedType : String} {checkKid : String →
    Res Unit} (h : validateSignedPayloadFields platform payload expectedType checkKid = .ok ()) : payload.tokenType =
      expectedType := by
  obtain ⟨-, h⟩ := Loop.bind_unit_eq_ok.mp h
  obtain ⟨htype, h⟩ := Loop.bind_unit_eq_ok.mp h
  exact List.mem_singleton.mp (validateAllowedValue_mem htype)

theorem verifyStrict_ok {signature : String} {verifier : HybridPublicKeys}
    (h : verifyStrict lib codec signature verifier = .ok payload) :
    verifyCompactHybridSignatureWithPublicKeys lib codec signature verifier = .ok (.valid payload) := by
  obtain ⟨result, hresult, h⟩ := Loop.bind_eq_ok.mp h
  rw [hresult]
  cases result with
  | valid payload' =>
    cases h
    rfl
  | invalid failure => cases failure <;> cases h

/-- What a verification accepts has a valid payload of its kind. -/
theorem accepted_payload {kind : TokenKind} {signature : String} {verifier : HybridPublicKeys}
    (h : Accepted platform canonicalConfigJson kind signature verifier) :
    (∃ payload, payload.tokenType = kind.type ∧
      verifyCompactHybridSignatureWithPublicKeys platform.toSignLibrary timestampCodec signature verifier =
        .ok (.valid payload)) ∨
    kind = .checkpoint ∧ ∃ payload, payload.tokenType = checkpointType ∧
      verifyCompactHybridSignatureWithPublicKeys platform.toSignLibrary payloadCodec signature verifier =
        .ok (.valid payload) := by
  cases h with
  | loaded h hvalid =>
    obtain ⟨-, h⟩ := Loop.bind_unit_eq_ok.mp h
    obtain ⟨result, hresult, h⟩ := Loop.bind_eq_ok.mp h
    cases result with
    | valid payload =>
      obtain ⟨hfields, -⟩ := Loop.bind_unit_eq_ok.mp h
      exact Or.inl ⟨payload, validateSignedPayloadFields_type hfields, hresult⟩
    | invalid failure =>
      cases h
      cases failure <;> exact absurd hvalid (by decide)
  | peer h hvalid =>
    obtain ⟨result, hresult, h⟩ := Loop.bind_eq_ok.mp h
    cases result with
    | valid payload =>
      obtain ⟨hfields, -⟩ := Loop.bind_unit_eq_ok.mp h
      exact Or.inl ⟨payload, validateSignedPayloadFields_type hfields, hresult⟩
    | invalid failure =>
      cases h
      cases failure <;> exact absurd hvalid (by decide)
  | config hfile h =>
    unfold verifyConfigFileSignature at h
    rw [hfile] at h
    obtain ⟨payload, hverify, h⟩ := Loop.bind_eq_ok.mp h
    obtain ⟨hfields, -⟩ := Loop.bind_unit_eq_ok.mp h
    exact Or.inl ⟨payload, validateSignedPayloadFields_type hfields, verifyStrict_ok (Loop.mapError_eq_ok.mp hverify)⟩
  | checkpoint h =>
    obtain ⟨-, h⟩ := Loop.guard_eq_ok.mp h
    obtain ⟨payload, hverify, h⟩ := Loop.bind_eq_ok.mp h
    obtain ⟨hfields, -⟩ := Loop.bind_unit_eq_ok.mp h
    obtain ⟨hfields, -⟩ := Loop.guard_eq_ok.mp hfields
    simp only [Bool.or_eq_true, decide_eq_true_eq, not_or, Classical.not_not] at hfields
    exact Or.inr ⟨rfl, payload, hfields.1.1.2, verifyStrict_ok (Loop.mapError_eq_ok.mp hverify)⟩

/-- What a verification accepts begins with the spelling of a payload of its kind, and that text was signed. -/
theorem accepted_spelling (hstrict : platform.base64.Strict) {kind : TokenKind} {signature : String}
    {verifier : HybridPublicKeys} (h : Accepted platform canonicalConfigJson kind signature verifier) :
    ∃ value rest, kind.Types value ∧ signature = spelling platform.toSignLibrary value ++ "." ++ rest ∧
      ∀ signed, Authentic platform.toSignLibrary verifier signed → spelling platform.toSignLibrary value ∈ signed := by
  rcases accepted_payload h with ⟨payload, htype, hverify⟩ | ⟨rfl, payload, htype, hverify⟩
  · obtain ⟨-, ⟨rest, hrest⟩, hsigned⟩ := verify_spelling hstrict hverify
    exact ⟨_, rest, types_timestamp htype, hrest, hsigned⟩
  · obtain ⟨-, ⟨rest, hrest⟩, hsigned⟩ := verify_spelling hstrict hverify
    exact ⟨_, rest, types_checkpoint htype, hrest, hsigned⟩

/-! ## Messages -/

/-- The text of a message begins with a brace, a signing input with a character of base64url or a dot. -/
theorem message_ne_spelling {message : ProtectedMessagePayload} {value : Value} :
    lib.serde.toText (protectedMessageCodec.toValue message) ≠ spelling lib value := by
  intro h
  rw [lib.serde.toText_plain _ (protectedMessageCodec_plain message)] at h
  have hlist := congrArg String.toList h
  obtain ⟨rest, hrest⟩ : ∃ rest, (protectedMessageCodec.toValue message).render = '\x7b' :: rest := ⟨_, rfl⟩
  rw [String.toList_ofList, hrest, spelling, String.toList_append, String.toList_append] at hlist
  generalize hheader : (lib.base64.encode (Utf8.encode
    (lib.serde.toText (headerCodec.toValue ⟨compactSignatureVersion⟩)))).toList = header at hlist
  cases header with
  | nil => exact absurd (List.cons.inj hlist).1 (by decide)
  | cons c header =>
    have hsafe := List.all_eq_true.mp (lib.base64.alphabet _) c (hheader ▸ List.mem_cons_self)
    rw [← (List.cons.inj hlist).1] at hsafe
    exact absurd hsafe (by decide)

/-- A spelling was signed by a call for a token. -/
theorem token_of_signs {call : SignCall} {value : Value}
    (h : call.Signs platform canonicalConfigJson (spelling platform.toSignLibrary value)) :
    ∃ kind, call.kind = some kind := by
  cases h with
  | timestamp => exact ⟨_, rfl⟩
  | config => exact ⟨_, rfl⟩
  | checkpoint => exact ⟨_, rfl⟩
  | message htext => exact absurd (canonicalJsonV1_ok htext).symm message_ne_spelling

/-! ## Separation -/

variable (platform canonicalConfigJson)

/-- The signature is the spelling of the payload that a call of the log signed, with two signatures after it. -/
def SpelledBy (log : Set SignCall) (codec : Codec T) (payload : T) (signature : String) : Prop :=
  ∃ call ∈ log, ∃ kind text rest, call.kind = some kind ∧ call.Signs platform canonicalConfigJson text ∧
    signingInput platform.toSignLibrary codec payload = .ok text ∧ signature = text ++ "." ++ rest

/-- The signature begins with a text that a call of this kind signed, and that no call of another kind signs. -/
def OnlySignedAs (log : Set SignCall) (kind : TokenKind) (signature : String) : Prop :=
  ∃ text rest, signature = text ++ "." ++ rest ∧
    (∃ call ∈ log, call.kind = some kind ∧ call.Signs platform canonicalConfigJson text) ∧
    ∀ call : SignCall, call.Signs platform canonicalConfigJson text → call.kind = some kind

variable {platform canonicalConfigJson}

theorem spelledBy_of_verify (hstrict : platform.base64.Strict) {verifier : HybridPublicKeys} {log : Set SignCall}
    (hauth : Authentic platform.toSignLibrary verifier (signedBy platform canonicalConfigJson log)) {signature : String}
    (h : verifyStrict platform.toSignLibrary codec signature verifier = .ok payload) :
    SpelledBy platform canonicalConfigJson log codec payload signature := by
  obtain ⟨hinput, ⟨rest, hrest⟩, hsigned⟩ := verify_spelling hstrict (verifyStrict_ok h)
  obtain ⟨call, hmem, hsigns⟩ := hsigned _ hauth
  obtain ⟨kind, hkind⟩ := token_of_signs hsigns
  exact ⟨call, hmem, kind, _, rest, hkind, hsigns, hinput, hrest⟩

/-- A spelling of a payload of one kind is signed by calls of this kind only. -/
theorem kind_of_signs {kind : TokenKind} {value : Value} (htypes : kind.Types value) {call : SignCall}
    (h : call.Signs platform canonicalConfigJson (spelling platform.toSignLibrary value)) : call.kind = some kind := by
  obtain ⟨kind', hkind'⟩ := token_of_signs h
  obtain ⟨value', htypes', htext⟩ := signs_spelling h hkind'
  have hsame : spelling platform.toSignLibrary value ++ "." ++ "" = spelling platform.toSignLibrary value' ++ "." ++
      "" := by
    rw [htext]
  obtain rfl := spelling_injective htypes.1 htypes'.1 hsame
  rw [hkind', htypes'.kind_eq htypes]

theorem onlySignedAs_of_accepted (hstrict : platform.base64.Strict) {verifier : HybridPublicKeys} {log : Set SignCall}
    (hauth : Authentic platform.toSignLibrary verifier (signedBy platform canonicalConfigJson log)) {kind : TokenKind}
    {signature : String} (h : Accepted platform canonicalConfigJson kind signature verifier) :
    OnlySignedAs platform canonicalConfigJson log kind signature := by
  obtain ⟨value, rest, htypes, hrest, hsigned⟩ := accepted_spelling hstrict h
  obtain ⟨call, hmem, hsigns⟩ := hsigned _ hauth
  exact ⟨_, rest, hrest, ⟨call, hmem, kind_of_signs htypes hsigns, hsigns⟩, fun _ => kind_of_signs htypes⟩

/-- A signature that a call returned is accepted as a token of the call's kind only, whoever holds the keys. -/
theorem kind_of_returns (hstrict : platform.base64.Strict) {call : SignCall} {kind : TokenKind} {signature : String}
    {verifier : HybridPublicKeys} (hreturns : call.Returns platform canonicalConfigJson signature)
    (h : Accepted platform canonicalConfigJson kind signature verifier) : call.kind = some kind := by
  obtain ⟨kind', value', rest', hkind', htypes', hrest'⟩ := returns_spelling hreturns
  obtain ⟨value, rest, htypes, hrest, -⟩ := accepted_spelling hstrict h
  obtain rfl : value' = value := spelling_injective htypes'.1 htypes.1 (hrest'.symm.trans hrest)
  rw [hkind', htypes'.kind_eq htypes]

/-- Signatures of all payloads are verified as what was signed, in one spelling, and each kind of token only as that
kind. No message is signed as a token. -/
theorem compact_signatures_separated (hstrict : platform.base64.Strict) :
    (∀ signer verifier, Matches platform.toSignLibrary signer verifier →
      (∀ rng payload signature, signCompactHybridPayload platform.toSignLibrary timestampCodec rng payload signer =
        .ok signature → verifyStrict platform.toSignLibrary timestampCodec signature verifier = .ok payload) ∧
      ∀ rng payload signature, signCompactHybridPayload platform.toSignLibrary payloadCodec rng payload signer =
        .ok signature → verifyStrict platform.toSignLibrary payloadCodec signature verifier = .ok payload) ∧
    (∀ verifier log, Authentic platform.toSignLibrary verifier (signedBy platform canonicalConfigJson log) →
      (∀ {T : Type} (codec : Codec T) (payload : T) signature, verifyStrict platform.toSignLibrary codec signature
        verifier = .ok payload → SpelledBy platform canonicalConfigJson log codec payload signature) ∧
      ∀ kind signature, Accepted platform canonicalConfigJson kind signature verifier →
        OnlySignedAs platform canonicalConfigJson log kind signature) ∧
    (∀ (call : SignCall) kind signature verifier, call.Returns platform canonicalConfigJson signature →
      Accepted platform canonicalConfigJson kind signature verifier → call.kind = some kind) ∧
    ∀ {T : Type} (codec : Codec T) (payload : T) message text input,
      canonicalJsonV1 platform.serde protectedMessageCodec message = .ok text →
        signingInput platform.toSignLibrary codec payload = .ok input → text ≠ input := by
  refine ⟨fun signer verifier hmatch => ⟨?_, ?_⟩, fun verifier log hauth => ⟨?_, ?_⟩, ?_, ?_⟩
  · intro rng payload signature h
    exact verify_sign hmatch (timestampCodec_plain payload) (timestampCodec_depth payload) h
  · intro rng payload signature h
    exact verify_sign hmatch (payloadCodec_plain payload) (payloadCodec_depth payload) h
  · intro T codec payload signature h
    exact spelledBy_of_verify hstrict hauth h
  · intro kind signature h
    exact onlySignedAs_of_accepted hstrict hauth h
  · intro call kind signature verifier hreturns h
    exact kind_of_returns hstrict hreturns h
  · intro T codec payload message text input htext hinput
    rw [canonicalJsonV1_ok htext, signingInput_ok hinput]
    exact message_ne_spelling

/-! ## An example -/

/-- A scheme that signs some texts and verifies no others. -/
def Scheme.recorded (signed : String → Bool) : Scheme where
  PrivateKey := String
  PublicKey := String
  loadPrivateKeyDerHex key := .ok key
  loadPublicKeyDerHex key := .ok key
  sign _ key message :=
    if signed message then .ok (checksum (Utf8.encode (key ++ message))) else .error (.other "cannot sign message")
  verify key message signature := .ok (signed message && signature = checksum (Utf8.encode (key ++ message)))

theorem Scheme.recorded_pair (signed : String → Bool) (key : String) : (Scheme.recorded signed).Pair key key := by
  refine ⟨key, rfl, fun privateKey hkey rng message signature hsign => ?_⟩
  cases hkey
  simp only [Scheme.recorded] at hsign
  split at hsign
  · rename_i hsigned
    cases hsign
    exact ⟨List.ne_nil_of_length_pos (by rw [length_checksum]; decide), by simp [Scheme.recorded, hsigned]⟩
  · cases hsign

theorem Scheme.recorded_authentic (text key : String) : (Scheme.recorded (· = text)).Authentic key {text} := by
  intro _ message signature _ hverify
  simp only [Scheme.recorded, Except.ok.injEq, Bool.and_eq_true, decide_eq_true_eq] at hverify
  exact hverify.1

/-- The platform of the examples, where one text is signed. -/
def recordedPlatform (text : String) : Platform where
  serde := .compact
  base64 := .urlSafeNoPad
  eddsa := .recorded (· = text)
  mlDsa := .recorded (· = text)
  hashBytes := examplePlatform.hashBytes
  hashBytes_length := examplePlatform.hashBytes_length

def exampleCall : SignCall := .checkpoint (.new exampleRandom) (.ok 4)

def exampleText : String :=
  spelling examplePlatform.toSignLibrary (payloadCodec.toValue (checkpointPayload (.new exampleRandom)
    (toString (4 : UInt64).toNat)))

theorem signingInput_recorded (text : String) (payload : AuditCheckpointPayload) :
    signingInput (recordedPlatform text).toSignLibrary payloadCodec payload =
      .ok (spelling examplePlatform.toSignLibrary (payloadCodec.toValue payload)) := by
  rw [signingInput, header_text, payload_text]
  rfl

theorem exampleCall_signs (canonicalConfigJson : String → Res String) :
    exampleCall.Signs (recordedPlatform exampleText) canonicalConfigJson exampleText :=
  .checkpoint rfl (signingInput_recorded _ _)

theorem example_authentic (canonicalConfigJson : String → Res String) (verifier : HybridPublicKeys) :
    Authentic (recordedPlatform exampleText).toSignLibrary verifier
      (signedBy (recordedPlatform exampleText) canonicalConfigJson {exampleCall}) := by
  refine Or.inl fun key text signature hkey hverify => ?_
  obtain rfl := Scheme.recorded_authentic _ _ _ _ _ hkey hverify
  exact ⟨exampleCall, rfl, exampleCall_signs canonicalConfigJson⟩

/-- A short payload is signed. -/
theorem sign_recorded {text : String} {payload : AuditCheckpointPayload} {signer : HybridPrivateKeys}
    (hbytes : (SerdeJson.compact.toText (payloadCodec.toValue payload)).utf8ByteSize ≤ 1500)
    (htext : text = spelling examplePlatform.toSignLibrary (payloadCodec.toValue payload)) :
    ∃ signature, signCompactHybridPayload (recordedPlatform text).toSignLibrary payloadCodec ([], []) payload signer =
      .ok signature := by
  have hheaderBytes : (SerdeJson.compact.toText (headerCodec.toValue ⟨compactSignatureVersion⟩)).utf8ByteSize ≤ 200 :=
    Utf8.utf8ByteSize_ofList _ ▸ header_bytes
  have hinput : text = Base64Url.urlSafeNoPad.encode (Utf8.encode (SerdeJson.compact.toText
      (headerCodec.toValue ⟨compactSignatureVersion⟩))) ++ "." ++ Base64Url.urlSafeNoPad.encode (Utf8.encode
      (SerdeJson.compact.toText (payloadCodec.toValue payload))) := htext
  obtain ⟨signature, hsignature⟩ : ∃ signature, signature = _ := ⟨_, rfl⟩
  obtain ⟨hsize, -⟩ := keyedSignature signer hheaderBytes hbytes hinput hsignature
  refine ⟨signature, ?_⟩
  simp only [signCompactHybridPayload, recordedPlatform, header_text, payload_text, ← hinput, Scheme.recorded,
    decide_true, if_true, ← hsignature, bind, Except.bind]
  exact if_neg (Nat.not_lt.mpr (Nat.le_trans hsize (by decide)))

/-- A signed checkpoint is verified, and is a checkpoint only. -/
theorem compact_signatures_separated_example : ∃ signature,
    verifyStrict (recordedPlatform exampleText).toSignLibrary payloadCodec signature exampleVerifier =
      .ok (checkpointPayload (.new exampleRandom) (toString (4 : UInt64).toNat)) ∧
    OnlySignedAs (recordedPlatform exampleText) .ok {exampleCall} .checkpoint signature := by
  have hbytes : (SerdeJson.compact.toText (payloadCodec.toValue
      (checkpointPayload (.new exampleRandom) (toString (4 : UInt64).toNat)))).utf8ByteSize ≤ 1500 :=
    Utf8.utf8ByteSize_ofList _ ▸ payload_bytes (stateOk_new _) 4
  obtain ⟨signature, hsign⟩ := @sign_recorded _ _ exampleSigner hbytes (show exampleText = _ from rfl)
  have hmatch : Matches (recordedPlatform exampleText).toSignLibrary exampleSigner exampleVerifier :=
    ⟨Scheme.recorded_pair _ _, Scheme.recorded_pair _ _⟩
  obtain ⟨hround, hspelled, -⟩ := @compact_signatures_separated (recordedPlatform exampleText) .ok
    Base64Url.urlSafeNoPad_strict
  refine ⟨signature, (hround _ _ hmatch).2 _ _ _ hsign, (hspelled exampleVerifier _ (example_authentic _ _)).2 _ _ ?_⟩
  exact .checkpoint (verifyCheckpoint_build hmatch (stateOk_new _) hsign)

end Vectis.Ops.Sign

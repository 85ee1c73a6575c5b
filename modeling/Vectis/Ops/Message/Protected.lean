import Vectis.Ops.Message.Envelopes
import Vectis.Ops.SignedTokens

/-!
# Protected messages

A message to another node (`ops/message.rs`): encrypted under a key that both nodes derive from a key agreement and an
encapsulated key, signed by the sender with two schemes, and opened by the recipient, which encrypts it again under its
own symmetric key.

- `createMessageEnvelope`: the envelope that the sender builds;
- `processReceivedMessage`: what the recipient does with an envelope.

Key agreement, key encapsulation and signatures are parameters (`MessageLibrary`).
-/

namespace Vectis.Ops.Message

open Vectis.Core Vectis.Core.Validation Vectis.Core.Profiles Vectis.Core.Crypto Vectis.Core.Canonical Vectis.Ops.Keys
open Vectis.Core.Tokenization Vectis.Ops.Contracts Vectis.Ops.Sign
open Vectis.Core.AuditChain (Platform currentTimestamp)

/-! ## The library -/

/-- Key agreement with keys of `X25519` and `X448`. -/
structure KeyAgreement where
  PrivateKey : Type
  createPrivateKey : (rng : List UInt8) → (algorithm : String) → Res PrivateKey
  publicKey : PrivateKey → Res (List UInt8)
  loadPrivateKeyDerHex : String → Res PrivateKey
  agreeKey : PrivateKey → List UInt8 → Res (List UInt8)

structure KemEncapsulation where
  sharedKey : List UInt8
  encapsulatedKey : List UInt8

/-- Key encapsulation with ML-KEM: a salt and the size of the shared key. -/
structure Kem where
  PrivateKey : Type
  PublicKey : Type
  loadPrivateKeyDerHex : String → Res PrivateKey
  loadPublicKeyDerHex : String → Res PublicKey
  encapsulate : (rng : List UInt8) → PublicKey → List UInt8 → Nat → Res KemEncapsulation
  decapsulate : PrivateKey → List UInt8 → List UInt8 → Nat → Res (List UInt8)

structure MessageLibrary extends Platform where
  hkdf : Hkdf
  aead : Aead
  agreement : KeyAgreement
  kem : Kem

/-! ## Data -/

/-- `PROTECTED_MESSAGE_TYPE`. -/
def protectedMessageType : String := "protected-message"

/-- `HYBRID_SECRET_SIZE_BYTES`. -/
def hybridSecretSizeBytes : Nat := 32

structure PublicDerKey where
  alg : String
  publicKeyDerHex : String
  deriving DecidableEq, Repr

structure PublicRawKey where
  alg : String
  publicKeyHex : String
  deriving DecidableEq, Repr

/-- `PublicKeys` and `PeerPublicKeys`. -/
structure PublicKeys where
  eddsa : PublicDerKey
  xecdh : PublicRawKey
  mlDsa : PublicDerKey
  mlKem : PublicDerKey
  deriving DecidableEq, Repr

/-- `RemotePublicKeys`, with the keys of its `PublicKeysOutput`. -/
structure RemotePublicKeys where
  host : String
  kid : String
  loadedAt : String
  info : String
  keys : PublicKeys
  deriving DecidableEq, Repr

structure SignatureBlock where
  alg : String
  sig : String
  deriving DecidableEq, Repr

/-- `TimestampSignatures`. -/
structure MessageSignatures where
  eddsa : SignatureBlock
  mlDsa : SignatureBlock
  deriving DecidableEq, Repr

structure ProtectedMessageToken where
  version : String
  payload : ProtectedMessagePayload
  signatures : MessageSignatures
  deriving DecidableEq, Repr

structure SendMessageInput where
  recipientKid : String
  message : String
  deriving DecidableEq, Repr

/-- The fields of `AppConfig` that a sender reads. -/
structure SenderConfig where
  publicAddr : String
  protocolVersion : String
  deriving DecidableEq, Repr

/-- What the generator of one envelope draws, in order. -/
structure EnvelopeDraws where
  ephemeral : List UInt8
  mlKemSalt : Res (List UInt8)
  encapsulation : List UInt8
  hkdfSalt : Res (List UInt8)
  nonce : Nat → Res (List UInt8)
  signatures : List UInt8 × List UInt8

structure EnvelopeEnv where
  now : Res UInt64
  rng : Res EnvelopeDraws

/-! ## Keys and associated data -/

def hybridKemAlg (xecdhAlg mlKemAlg : String) : String := xecdhAlg ++ "+" ++ mlKemAlg

def messageAadFields (version createdAt senderHost senderKid recipientKid kemAlg cipherAlg : String) : AadFields :=
  [("version", version), ("type", protectedMessageType), ("created_at", createdAt), ("sender_host", senderHost),
    ("sender_kid", senderKid), ("recipient_kid", recipientKid), ("kem_alg", kemAlg), ("cipher_alg", cipherAlg)]

def buildMessageAad (version createdAt senderHost senderKid recipientKid kemAlg cipherAlg : String) : Res String :=
  buildValidatedAad (messageAadFields version createdAt senderHost senderKid recipientKid kemAlg cipherAlg)

def deriveMessageKey (hkdf : Hkdf) (xecdhSharedKey mlKemSharedKey salt aad : List UInt8) (keySizeBytes : Nat) :
    Res (List UInt8) :=
  hkdf (xecdhSharedKey ++ mlKemSharedKey) salt (bytesOf "Vectis protected-message v1:" ++ aad) keySizeBytes

/-! ## Public keys of other nodes -/

section PublicKeys

variable (lib : MessageLibrary) (addr : AddrLibrary)

def validateDerPublicKeyHex {PublicKey : Type} (load : String → Res PublicKey) (field hex : String) : Res PublicKey :=
  (load hex).mapError fun err => .invalidInput (field ++ " is not a valid public key: " ++ err.toText)

def validateXKeyAgreementPublicKeyHex (field algorithm hex : String) : Res (List UInt8) := do
  let publicKey ← hexDecode hex
  let expectedSize ← match algorithm with
    | "X25519" => .ok 32
    | "X448" => .ok 56
    | _ => .error (.invalidInput (field ++ " algorithm is not supported"))
  if publicKey.length ≠ expectedSize then
    .error (.invalidInput (field ++ " must be " ++ toString expectedSize ++ " bytes for " ++ algorithm ++ ", got " ++
      toString publicKey.length))
  else .ok publicKey

/-- A key encapsulated under a random salt, to try the public key. -/
def validateMlKemPublicKeyHex (trial : Res (List UInt8 × List UInt8)) (field hex : String) (size : Nat) : Res Unit := do
  let publicKey ← validateDerPublicKeyHex lib.kem.loadPublicKeyDerHex field hex
  let (salt, rng) ← trial
  let _ ← (lib.kem.encapsulate rng publicKey salt size).mapError fun err =>
    .invalidInput (field ++ " cannot encapsulate: " ++ err.toText)
  .ok ()

def eddsaAlgorithms : List String := ["Ed25519", "Ed448"]

def xecdhAlgorithms : List String := ["X25519", "X448"]

def mlDsaAlgorithms : List String := ["ML-DSA-44", "ML-DSA-65", "ML-DSA-87"]

def mlKemAlgorithms : List String := ["ML-KEM-512", "ML-KEM-768", "ML-KEM-1024"]

def validateRemotePublicKeyMaterial (trial : Res (List UInt8 × List UInt8)) (keys : PublicKeys) : Res Unit := do
  let _ ← validateDerPublicKeyHex lib.eddsa.loadPublicKeyDerHex "remote.keys.eddsa.public_key_der_hex"
    keys.eddsa.publicKeyDerHex
  let _ ← validateXKeyAgreementPublicKeyHex "remote.keys.xecdh.public_key_hex" keys.xecdh.alg keys.xecdh.publicKeyHex
  let _ ← validateDerPublicKeyHex lib.mlDsa.loadPublicKeyDerHex "remote.keys.ml-dsa.public_key_der_hex"
    keys.mlDsa.publicKeyDerHex
  validateMlKemPublicKeyHex lib trial "remote.keys.ml-kem.public_key_der_hex" keys.mlKem.publicKeyDerHex
    hybridSecretSizeBytes

def validateRemotePublicKeys (trial : Res (List UInt8 × List UInt8)) (remote : RemotePublicKeys) : Res Unit := do
  let _ ← validateHostPort addr "remote.host" remote.host
  parseKeyId remote.kid
  validateTextField "remote.info" remote.info
  validateAllowedValue "remote.keys.eddsa.alg" remote.keys.eddsa.alg eddsaAlgorithms
  validateHexField "remote.keys.eddsa.public_key_der_hex" remote.keys.eddsa.publicKeyDerHex
  validateAllowedValue "remote.keys.xecdh.alg" remote.keys.xecdh.alg xecdhAlgorithms
  validateHexField "remote.keys.xecdh.public_key_hex" remote.keys.xecdh.publicKeyHex
  validateAllowedValue "remote.keys.ml-dsa.alg" remote.keys.mlDsa.alg mlDsaAlgorithms
  validateHexField "remote.keys.ml-dsa.public_key_der_hex" remote.keys.mlDsa.publicKeyDerHex
  validateAllowedValue "remote.keys.ml-kem.alg" remote.keys.mlKem.alg mlKemAlgorithms
  validateHexField "remote.keys.ml-kem.public_key_der_hex" remote.keys.mlKem.publicKeyDerHex
  validateRemotePublicKeyMaterial lib trial remote.keys

def peerPublicKeysInfo (kid : String) : Res String :=
  buildValidatedAad [("version", protocolVersionV1), ("type", "peer-public-keys"), ("kid", kid)]

def remotePublicKeysFromPeer (now : Res UInt64) (trial : Res (List UInt8 × List UInt8)) (host kid : String)
    (peer : PublicKeys) : Res RemotePublicKeys := do
  let info ← peerPublicKeysInfo kid
  let loadedAt ← currentTimestamp now
  let remote : RemotePublicKeys := ⟨host, kid, loadedAt, info, peer⟩
  validateRemotePublicKeys lib addr trial remote
  .ok remote

end PublicKeys

/-! ## Signatures -/

section Envelope

variable (lib : MessageLibrary) (addr : AddrLibrary)

def signMessagePayload (rng : List UInt8 × List UInt8) (senderKey : OpsKey) (payload : ProtectedMessagePayload) :
    Res MessageSignatures := do
  let text ← canonicalJsonV1 lib.serde protectedMessageCodec payload
  let eddsa := senderKey.keyMaterial.eddsa
  let mlDsa := senderKey.keyMaterial.mlDsa
  let eddsaPrivateKey ← lib.eddsa.loadPrivateKeyDerHex eddsa.privateKeyDerHex
  let mlDsaPrivateKey ← lib.mlDsa.loadPrivateKeyDerHex mlDsa.privateKeyDerHex
  let eddsaSignature ← lib.eddsa.sign rng.1 eddsaPrivateKey text
  let mlDsaSignature ← lib.mlDsa.sign rng.2 mlDsaPrivateKey text
  .ok ⟨⟨eddsa.variant, Hex.encode eddsaSignature⟩, ⟨mlDsa.variant, Hex.encode mlDsaSignature⟩⟩

def verifyMessageSignatures (sender : RemotePublicKeys) (envelope : ProtectedMessageToken) : Res Unit :=
  if envelope.signatures.eddsa.alg ≠ sender.keys.eddsa.alg then
    .error (.invalidInput "signatures.eddsa.alg does not match sender public key")
  else if envelope.signatures.mlDsa.alg ≠ sender.keys.mlDsa.alg then
    .error (.invalidInput "signatures.ml-dsa.alg does not match sender public key")
  else do
    let text ← canonicalJsonV1 lib.serde protectedMessageCodec envelope.payload
    let eddsaPublicKey ← (lib.eddsa.loadPublicKeyDerHex sender.keys.eddsa.publicKeyDerHex).mapError fun _ =>
      .invalidInput "sender eddsa public key is invalid"
    let mlDsaPublicKey ← (lib.mlDsa.loadPublicKeyDerHex sender.keys.mlDsa.publicKeyDerHex).mapError fun _ =>
      .invalidInput "sender ml-dsa public key is invalid"
    let eddsaSignature ← decodeHexField "signatures.eddsa.sig" envelope.signatures.eddsa.sig
    let mlDsaSignature ← decodeHexField "signatures.ml-dsa.sig" envelope.signatures.mlDsa.sig
    let eddsaValid ← (lib.eddsa.verify eddsaPublicKey text eddsaSignature).mapError fun _ =>
      .invalidInput "message eddsa signature is malformed"
    let mlDsaValid ← (lib.mlDsa.verify mlDsaPublicKey text mlDsaSignature).mapError fun _ =>
      .invalidInput "message ml-dsa signature is malformed"
    if !eddsaValid || !mlDsaValid then .error (.invalidInput "message signatures are invalid") else .ok ()

/-! ## Sending -/

def validateSendMessageInput (input : SendMessageInput) : Res Unit := do
  parseKeyId input.recipientKid
  validateTextField "message" input.message

/-- The payload that `create_message_envelope` signs, with the text it encrypted. -/
def messagePayload (config : SenderConfig) (senderKey : OpsKey) (recipient : RemotePublicKeys) (message : String)
    (env : EnvelopeEnv) : Res (EnvelopeDraws × ProtectedMessagePayload) := do
  let createdAt ← currentTimestamp env.now
  let kemAlg := hybridKemAlg recipient.keys.xecdh.alg recipient.keys.mlKem.alg
  let cipher ← requireCipher (.invalidInput "sender symmetric algorithm is not supported") senderKey.symmetric.variant
  let rng ← env.rng
  let aad ← buildMessageAad config.protocolVersion createdAt config.publicAddr senderKey.id recipient.kid kemAlg
    cipher.algorithm
  let ephemeralPrivateKey ← lib.agreement.createPrivateKey rng.ephemeral recipient.keys.xecdh.alg
  let ephemeralPublicKey ← lib.agreement.publicKey ephemeralPrivateKey
  let recipientXecdhPublicKey ← hexDecode recipient.keys.xecdh.publicKeyHex
  let xecdhSharedKey ← lib.agreement.agreeKey ephemeralPrivateKey recipientXecdhPublicKey
  let mlKemPublicKey ← lib.kem.loadPublicKeyDerHex recipient.keys.mlKem.publicKeyDerHex
  let mlKemSalt ← rng.mlKemSalt
  let mlKem ← lib.kem.encapsulate rng.encapsulation mlKemPublicKey mlKemSalt hybridSecretSizeBytes
  let hkdfSalt ← rng.hkdfSalt
  let messageKey ← deriveMessageKey lib.hkdf xecdhSharedKey mlKem.sharedKey hkdfSalt (Utf8.encode aad)
    cipher.keySizeBytes
  let nonce ← rng.nonce cipher.nonceSizeBytes
  let ciphertext ← lib.aead.encrypt cipher.algorithm (Utf8.encode message) messageKey nonce (Utf8.encode aad)
  .ok (rng, {
    version := protocolVersionV1
    tokenType := protectedMessageType
    createdAt
    sender := ⟨config.publicAddr, senderKey.id⟩
    recipientKid := recipient.kid
    kem := ⟨kemAlg, Hex.encode ephemeralPublicKey, Hex.encode mlKem.encapsulatedKey, Hex.encode mlKemSalt,
      Hex.encode hkdfSalt⟩
    cipher := ⟨cipher.algorithm, Hex.encode nonce, aad, Hex.encode ciphertext⟩ })

def createMessageEnvelope (config : SenderConfig) (senderKey : OpsKey) (recipient : RemotePublicKeys) (message : String)
    (env : EnvelopeEnv) : Res ProtectedMessageToken := do
  let (rng, payload) ← messagePayload lib config senderKey recipient message env
  let signatures ← signMessagePayload lib rng.signatures senderKey payload
  .ok ⟨protocolVersionV1, payload, signatures⟩

structure PreparedSendMessage where
  senderKey : OpsKey
  input : SendMessageInput

def prepareSendMessage (state : LoadedKeys) (senderKid : String) (input : SendMessageInput) :
    Res PreparedSendMessage := do
  parseKeyId senderKid
  validateSendMessageInput input
  let senderKey ← getLoadedKey state senderKid
  requireLifecycleForNewUse senderKey.lifecycleStatus
  .ok ⟨senderKey, input⟩

/-- The envelope that `send_message` posts to the host of the route, whose keys are tried twice. -/
def sendMessageEnvelope (config : SenderConfig) (prepared : PreparedSendMessage) (host : String) (peer : PublicKeys)
    (now : Res UInt64) (trials : Res (List UInt8 × List UInt8) × Res (List UInt8 × List UInt8)) (env : EnvelopeEnv) :
    Res ProtectedMessageToken := do
  let recipient ← remotePublicKeysFromPeer lib addr now trials.1 host prepared.input.recipientKid peer
  validateRemotePublicKeys lib addr trials.2 recipient
  createMessageEnvelope lib config prepared.senderKey recipient prepared.input.message env

/-! ## Receiving -/

def validateMessageEnvelope (envelope : ProtectedMessageToken) : Res Unit := do
  validateProtocolVersion "version" envelope.version
  validateProtocolVersion "payload.version" envelope.payload.version
  if envelope.version ≠ envelope.payload.version then
    .error (.invalidInput "envelope version does not match signed payload version")
  else do
    validateAllowedValue "payload.type" envelope.payload.tokenType [protectedMessageType]
    validateTextField "payload.created_at" envelope.payload.createdAt
    let _ ← validateHostPort addr "payload.sender.host" envelope.payload.sender.host
    parseKeyId envelope.payload.sender.kid
    parseKeyId envelope.payload.recipientKid
    validateAllowedValue "payload.cipher.alg" envelope.payload.cipher.alg symmetricAlgorithms
    validateTextField "payload.cipher.aad" envelope.payload.cipher.aad
    validateHexField "payload.cipher.ct" envelope.payload.cipher.ct
    validateHexField "payload.cipher.nonce" envelope.payload.cipher.nonce
    validateTextField "payload.kem.alg" envelope.payload.kem.alg
    validateHexField "payload.kem.xecdh_ephemeral_public" envelope.payload.kem.xecdhEphemeralPublic
    validateHexField "payload.kem.ml_kem_ciphertext" envelope.payload.kem.mlKemCiphertext
    validateHexField "payload.kem.ml_kem_salt" envelope.payload.kem.mlKemSalt
    validateHexField "payload.kem.hkdf_salt" envelope.payload.kem.hkdfSalt
    validateAllowedValue "signatures.eddsa.alg" envelope.signatures.eddsa.alg eddsaAlgorithms
    validateHexField "signatures.eddsa.sig" envelope.signatures.eddsa.sig
    validateAllowedValue "signatures.ml-dsa.alg" envelope.signatures.mlDsa.alg mlDsaAlgorithms
    validateHexField "signatures.ml-dsa.sig" envelope.signatures.mlDsa.sig
    let expectedAad ← buildMessageAad envelope.version envelope.payload.createdAt envelope.payload.sender.host
      envelope.payload.sender.kid envelope.payload.recipientKid envelope.payload.kem.alg envelope.payload.cipher.alg
    if envelope.payload.cipher.aad ≠ expectedAad then
      .error (.invalidInput "payload.cipher.aad does not match protected message metadata")
    else .ok ()

def validateMessageEnvelopeForRecipient (recipientKey : OpsKey) (envelope : ProtectedMessageToken) : Res Unit := do
  validateMessageEnvelope addr envelope
  if envelope.payload.recipientKid ≠ recipientKey.id then
    .error (.invalidInput "payload.recipient.kid does not match loaded recipient key")
  else if envelope.payload.kem.alg ≠
      hybridKemAlg recipientKey.keyMaterial.xecdh.variant recipientKey.keyMaterial.mlKem.variant then
    .error (.invalidInput "payload.kem.alg does not match recipient key algorithms")
  else do
    let cipher ← requireCipher (.invalidInput "payload.cipher.alg is not supported") envelope.payload.cipher.alg
    if envelope.payload.cipher.nonce.utf8ByteSize ≠ cipher.nonceSizeBytes * 2 then
      .error (.invalidInput "payload.cipher.nonce length does not match cipher algorithm")
    else .ok ()

def openMessageCipher (recipientKey : OpsKey) (envelope : ProtectedMessageToken) : Res String := do
  let payload := envelope.payload
  let xecdhPrivateKey ← lib.agreement.loadPrivateKeyDerHex recipientKey.keyMaterial.xecdh.privateKeyDerHex
  let ephemeralPublicKey ← decodeHexField "message.kem.xecdh_ephemeral_public" payload.kem.xecdhEphemeralPublic
  let xecdhSharedKey ← (lib.agreement.agreeKey xecdhPrivateKey ephemeralPublicKey).mapError fun _ =>
    .invalidInput "message key agreement material is invalid"
  let mlKemPrivateKey ← lib.kem.loadPrivateKeyDerHex recipientKey.keyMaterial.mlKem.privateKeyDerHex
  let mlKemCiphertext ← decodeHexField "message.kem.ml_kem_ciphertext" payload.kem.mlKemCiphertext
  let mlKemSalt ← decodeHexField "message.kem.ml_kem_salt" payload.kem.mlKemSalt
  let mlKemSharedKey ← (lib.kem.decapsulate mlKemPrivateKey mlKemCiphertext mlKemSalt hybridSecretSizeBytes).mapError
    fun _ =>
    .invalidInput "message key encapsulation material is invalid"
  let hkdfSalt ← decodeHexField "message.kem.hkdf_salt" payload.kem.hkdfSalt
  let cipher ← requireCipher (.invalidInput "message cipher algorithm is not supported") payload.cipher.alg
  let messageKey ← deriveMessageKey lib.hkdf xecdhSharedKey mlKemSharedKey hkdfSalt (Utf8.encode payload.cipher.aad)
    cipher.keySizeBytes
  let nonce ← decodeHexField "message.cipher.nonce" payload.cipher.nonce
  let ciphertext ← decodeHexField "message.cipher.ct" payload.cipher.ct
  let plaintext ← (lib.aead.decrypt payload.cipher.alg ciphertext messageKey nonce
    (Utf8.encode payload.cipher.aad)).mapError fun _ => .invalidInput "message authentication failed"
  decryptedMessageString plaintext

def localSource (envelope : ProtectedMessageToken) : LocalSource :=
  ⟨envelope.version, envelope.payload.sender.kid, envelope.payload.createdAt⟩

structure PreparedReceiveMessage where
  recipientKey : OpsKey
  envelope : ProtectedMessageToken

def prepareReceiveMessage (state : LoadedKeys) (envelope : ProtectedMessageToken) : Res PreparedReceiveMessage := do
  validateMessageEnvelope addr envelope
  let recipientKey ← getLoadedKey state envelope.payload.recipientKid
  requireLifecycleForDecryptOrVerify recipientKey.lifecycleStatus
  .ok ⟨recipientKey, envelope⟩

def processReceivedMessage (trial : Res (List UInt8 × List UInt8)) (nonce : Res (List UInt8))
    (prepared : PreparedReceiveMessage) (sender : RemotePublicKeys) :
    Res (ProtectedMessageToken × LocalCipherOutput) := do
  validateMessageEnvelopeForRecipient addr prepared.recipientKey prepared.envelope
  validateRemotePublicKeys lib addr trial sender
  verifyMessageSignatures lib sender prepared.envelope
  let plaintext ← openMessageCipher lib prepared.recipientKey prepared.envelope
  let localCipher ← encryptLocalMessage lib.aead nonce prepared.recipientKey plaintext (localSource prepared.envelope)
  .ok (prepared.envelope, localCipher)

/-- `deliver_message_to_final_app`: the delivery has the fields of a request to decrypt it. -/
def finalAppDelivery (timestamp : Res String) (envelope : ProtectedMessageToken) (localCipher : LocalCipherOutput) :
    Res DecryptMessageInput := do
  let timestamp ← timestamp
  .ok ⟨envelope.payload.sender.host, envelope.payload.sender.kid, timestamp,
    ⟨localCipher.ct, localCipher.nonce, localCipher.aad, localCipher.alg⟩⟩

end Envelope

/-! ## What a call computes -/

section Run

variable {lib : MessageLibrary} {config : SenderConfig} {senderKey : OpsKey} {recipient : RemotePublicKeys}
  {message : String} {env : EnvelopeEnv}

/-- The intermediate values of `create_message_envelope`. -/
structure EnvelopeRun (lib : MessageLibrary) where
  createdAt : String
  cipher : SymmetricCipherSpec
  rng : EnvelopeDraws
  aad : String
  ephemeralPrivateKey : lib.agreement.PrivateKey
  ephemeralPublicKey : List UInt8
  recipientXecdhPublicKey : List UInt8
  xecdhSharedKey : List UInt8
  mlKemPublicKey : lib.kem.PublicKey
  mlKemSalt : List UInt8
  mlKem : KemEncapsulation
  hkdfSalt : List UInt8
  messageKey : List UInt8
  nonce : List UInt8
  ciphertext : List UInt8

def EnvelopeRun.payload (run : EnvelopeRun lib) (config : SenderConfig) (senderKey : OpsKey)
    (recipient : RemotePublicKeys) :
    ProtectedMessagePayload where
  version := protocolVersionV1
  tokenType := protectedMessageType
  createdAt := run.createdAt
  sender := ⟨config.publicAddr, senderKey.id⟩
  recipientKid := recipient.kid
  kem := ⟨hybridKemAlg recipient.keys.xecdh.alg recipient.keys.mlKem.alg, Hex.encode run.ephemeralPublicKey,
    Hex.encode run.mlKem.encapsulatedKey, Hex.encode run.mlKemSalt, Hex.encode run.hkdfSalt⟩
  cipher := ⟨run.cipher.algorithm, Hex.encode run.nonce, run.aad, Hex.encode run.ciphertext⟩

/-- The values are the ones that the call computed, in its order. -/
structure EnvelopeRun.Of (run : EnvelopeRun lib) (config : SenderConfig) (senderKey : OpsKey)
    (recipient : RemotePublicKeys) (message : String) (env : EnvelopeEnv) : Prop where
  createdAt : currentTimestamp env.now = .ok run.createdAt
  cipher : symmetricCipher senderKey.symmetric.variant = some run.cipher
  rng : env.rng = .ok run.rng
  aad : buildMessageAad config.protocolVersion run.createdAt config.publicAddr senderKey.id recipient.kid
    (hybridKemAlg recipient.keys.xecdh.alg recipient.keys.mlKem.alg) run.cipher.algorithm = .ok run.aad
  ephemeralPrivateKey : lib.agreement.createPrivateKey run.rng.ephemeral recipient.keys.xecdh.alg =
    .ok run.ephemeralPrivateKey
  ephemeralPublicKey : lib.agreement.publicKey run.ephemeralPrivateKey = .ok run.ephemeralPublicKey
  recipientXecdhPublicKey : hexDecode recipient.keys.xecdh.publicKeyHex = .ok run.recipientXecdhPublicKey
  xecdhSharedKey : lib.agreement.agreeKey run.ephemeralPrivateKey run.recipientXecdhPublicKey = .ok run.xecdhSharedKey
  mlKemPublicKey : lib.kem.loadPublicKeyDerHex recipient.keys.mlKem.publicKeyDerHex = .ok run.mlKemPublicKey
  mlKemSalt : run.rng.mlKemSalt = .ok run.mlKemSalt
  mlKem : lib.kem.encapsulate run.rng.encapsulation run.mlKemPublicKey run.mlKemSalt hybridSecretSizeBytes =
    .ok run.mlKem
  hkdfSalt : run.rng.hkdfSalt = .ok run.hkdfSalt
  messageKey : deriveMessageKey lib.hkdf run.xecdhSharedKey run.mlKem.sharedKey run.hkdfSalt (Utf8.encode run.aad)
    run.cipher.keySizeBytes = .ok run.messageKey
  nonce : run.rng.nonce run.cipher.nonceSizeBytes = .ok run.nonce
  ciphertext : lib.aead.encrypt run.cipher.algorithm (Utf8.encode message) run.messageKey run.nonce
    (Utf8.encode run.aad) = .ok run.ciphertext

theorem messagePayload_ok_iff {rng : EnvelopeDraws} {payload : ProtectedMessagePayload} :
    messagePayload lib config senderKey recipient message env = .ok (rng, payload) ↔
      ∃ run : EnvelopeRun lib, run.Of config senderKey recipient message env ∧ run.rng = rng ∧
        run.payload config senderKey recipient = payload := by
  constructor
  · intro h
    obtain ⟨createdAt, hcreatedAt, h⟩ := Loop.bind_eq_ok.mp h
    obtain ⟨cipher, hcipher, h⟩ := Loop.bind_eq_ok.mp h
    obtain ⟨draws, hrng, h⟩ := Loop.bind_eq_ok.mp h
    obtain ⟨aad, haad, h⟩ := Loop.bind_eq_ok.mp h
    obtain ⟨ephemeral, hephemeral, h⟩ := Loop.bind_eq_ok.mp h
    obtain ⟨ephemeralPublic, hephemeralPublic, h⟩ := Loop.bind_eq_ok.mp h
    obtain ⟨recipientXecdh, hrecipientXecdh, h⟩ := Loop.bind_eq_ok.mp h
    obtain ⟨xecdhShared, hxecdhShared, h⟩ := Loop.bind_eq_ok.mp h
    obtain ⟨mlKemPublic, hmlKemPublic, h⟩ := Loop.bind_eq_ok.mp h
    obtain ⟨mlKemSalt, hmlKemSalt, h⟩ := Loop.bind_eq_ok.mp h
    obtain ⟨mlKem, hmlKem, h⟩ := Loop.bind_eq_ok.mp h
    obtain ⟨hkdfSalt, hhkdfSalt, h⟩ := Loop.bind_eq_ok.mp h
    obtain ⟨messageKey, hmessageKey, h⟩ := Loop.bind_eq_ok.mp h
    obtain ⟨nonce, hnonce, h⟩ := Loop.bind_eq_ok.mp h
    obtain ⟨ciphertext, hciphertext, h⟩ := Loop.bind_eq_ok.mp h
    cases h
    exact ⟨⟨createdAt, cipher, _, aad, ephemeral, ephemeralPublic, recipientXecdh, xecdhShared, mlKemPublic,
      mlKemSalt, mlKem, hkdfSalt, messageKey, nonce, ciphertext⟩, ⟨hcreatedAt, requireCipher_ok_iff.mp hcipher, hrng,
      haad, hephemeral,
      hephemeralPublic, hrecipientXecdh, hxecdhShared, hmlKemPublic, hmlKemSalt, hmlKem, hhkdfSalt, hmessageKey, hnonce,
      hciphertext⟩, rfl, rfl⟩
  · rintro ⟨run, hrun, rfl, rfl⟩
    unfold messagePayload
    simp only [hrun.createdAt, requireCipher_ok_iff.mpr hrun.cipher, hrun.rng, hrun.aad, hrun.ephemeralPrivateKey,
      hrun.ephemeralPublicKey, hrun.recipientXecdhPublicKey, hrun.xecdhSharedKey, hrun.mlKemPublicKey, hrun.mlKemSalt,
      hrun.mlKem, hrun.hkdfSalt, hrun.messageKey, hrun.nonce, hrun.ciphertext, bind, Except.bind]
    rfl

/-- An envelope is the payload of a run with its signatures. -/
theorem createMessageEnvelope_ok_iff {token : ProtectedMessageToken} :
    createMessageEnvelope lib config senderKey recipient message env = .ok token ↔
      ∃ run : EnvelopeRun lib, run.Of config senderKey recipient message env ∧ token.version = protocolVersionV1 ∧
        token.payload = run.payload config senderKey recipient ∧
        signMessagePayload lib run.rng.signatures senderKey token.payload = .ok token.signatures := by
  constructor
  · intro h
    obtain ⟨⟨rng, payload⟩, hpayload, h⟩ := Loop.bind_eq_ok.mp h
    obtain ⟨signatures, hsignatures, h⟩ := Loop.bind_eq_ok.mp h
    cases h
    obtain ⟨run, hrun, rfl, rfl⟩ := messagePayload_ok_iff.mp hpayload
    exact ⟨run, hrun, rfl, rfl, hsignatures⟩
  · obtain ⟨version, payload, signatures⟩ := token
    rintro ⟨run, hrun, hversion, hpayload, hsignatures⟩
    have hcall := messagePayload_ok_iff.mpr ⟨run, hrun, rfl, hpayload.symm⟩
    simp only at hversion hsignatures
    simp only [createMessageEnvelope, hcall, hsignatures, hversion, bind, Except.bind]

/-- What is opened was decrypted from the ciphertext of the payload, under its nonce and associated data. -/
theorem openMessageCipher_ok {recipientKey : OpsKey} {envelope : ProtectedMessageToken} {plaintext : String}
    (h : openMessageCipher lib recipientKey envelope = .ok plaintext) : ∃ ciphertext messageKey nonce,
      Hex.decode envelope.payload.cipher.ct = some ciphertext ∧
      lib.aead.decrypt envelope.payload.cipher.alg ciphertext messageKey nonce
        (Utf8.encode envelope.payload.cipher.aad) = .ok (Utf8.encode plaintext) := by
  obtain ⟨xecdhPrivateKey, -, h⟩ := Loop.bind_eq_ok.mp h
  obtain ⟨ephemeralPublicKey, -, h⟩ := Loop.bind_eq_ok.mp h
  obtain ⟨xecdhSharedKey, -, h⟩ := Loop.bind_eq_ok.mp h
  obtain ⟨mlKemPrivateKey, -, h⟩ := Loop.bind_eq_ok.mp h
  obtain ⟨mlKemCiphertext, -, h⟩ := Loop.bind_eq_ok.mp h
  obtain ⟨mlKemSalt, -, h⟩ := Loop.bind_eq_ok.mp h
  obtain ⟨mlKemSharedKey, -, h⟩ := Loop.bind_eq_ok.mp h
  obtain ⟨hkdfSalt, -, h⟩ := Loop.bind_eq_ok.mp h
  obtain ⟨cipher, -, h⟩ := Loop.bind_eq_ok.mp h
  obtain ⟨messageKey, -, h⟩ := Loop.bind_eq_ok.mp h
  obtain ⟨nonce, -, h⟩ := Loop.bind_eq_ok.mp h
  obtain ⟨ciphertext, hciphertext, h⟩ := Loop.bind_eq_ok.mp h
  obtain ⟨bytes, hbytes, h⟩ := Loop.bind_eq_ok.mp h
  refine ⟨ciphertext, messageKey, nonce, decodeHexField_ok_iff.mp hciphertext, ?_⟩
  rw [Utf8.encode_of_decode (decryptedMessageString_ok_iff.mp h)]
  exact Loop.mapError_eq_ok.mp hbytes

/-- What `process_received_message` has checked when it succeeds. -/
structure Received (lib : MessageLibrary) (addr : AddrLibrary) (recipientKey : OpsKey) (sender : RemotePublicKeys)
    (nonce : Res (List UInt8)) (envelope : ProtectedMessageToken) (plaintext : String)
    (localCipher : LocalCipherOutput) :
    Prop where
  valid : validateMessageEnvelopeForRecipient addr recipientKey envelope = .ok ()
  recipient : envelope.payload.recipientKid = recipientKey.id
  signatures : verifyMessageSignatures lib sender envelope = .ok ()
  opened : openMessageCipher lib recipientKey envelope = .ok plaintext
  stored : encryptLocalMessage lib.aead nonce recipientKey plaintext (localSource envelope) = .ok localCipher

theorem processReceivedMessage_ok {addr : AddrLibrary} {trial : Res (List UInt8 × List UInt8)}
    {nonce : Res (List UInt8)} {recipientKey : OpsKey} {envelope : ProtectedMessageToken} {sender : RemotePublicKeys}
    {received : ProtectedMessageToken} {localCipher : LocalCipherOutput}
    (h : processReceivedMessage lib addr trial nonce ⟨recipientKey, envelope⟩ sender = .ok (received, localCipher)) :
    received = envelope ∧ ∃ plaintext, Received lib addr recipientKey sender nonce envelope plaintext localCipher := by
  rw [processReceivedMessage, Loop.bind_unit_eq_ok, Loop.bind_unit_eq_ok, Loop.bind_unit_eq_ok] at h
  obtain ⟨henvelope, -, hsignatures, h⟩ := h
  obtain ⟨plaintext, hopened, h⟩ := Loop.bind_eq_ok.mp h
  obtain ⟨_, hstored, h⟩ := Loop.bind_eq_ok.mp h
  cases h
  have hrecipient := henvelope
  rw [validateMessageEnvelopeForRecipient, Loop.bind_unit_eq_ok, Loop.guard_eq_ok] at hrecipient
  exact ⟨rfl, plaintext, henvelope, Decidable.not_not.mp hrecipient.2.1, hsignatures, hopened, hstored⟩

theorem remotePublicKeysFromPeer_ok {addr : AddrLibrary} {now : Res UInt64} {trial : Res (List UInt8 × List UInt8)}
    {host kid : String} {peer : PublicKeys} {remote : RemotePublicKeys}
    (h : remotePublicKeysFromPeer lib addr now trial host kid peer = .ok remote) :
    remote.kid = kid ∧ remote.keys = peer ∧ validateRemotePublicKeys lib addr trial remote = .ok () := by
  obtain ⟨info, -, h⟩ := Loop.bind_eq_ok.mp h
  obtain ⟨loadedAt, -, h⟩ := Loop.bind_eq_ok.mp h
  rw [Loop.bind_unit_eq_ok] at h
  cases h.2
  exact ⟨rfl, rfl, h.1⟩

theorem canonicalJsonV1_payload (serde : SerdeJson) (payload : ProtectedMessagePayload) :
    canonicalJsonV1 serde protectedMessageCodec payload = .ok (serde.toText (protectedMessageCodec.toValue payload)) :=
      rfl

end Run

/-! ## Two nodes -/

/-- A scheme for examples with signatures of a size. -/
def sizedScheme (size : Nat) : Scheme where
  PrivateKey := String
  PublicKey := String
  loadPrivateKeyDerHex key := .ok key
  loadPublicKeyDerHex key := .ok key
  sign _ key message := .ok (checksum (Utf8.encode (key ++ message)) ++ List.replicate (size - 32) 0)
  verify key message signature := .ok (signature = checksum (Utf8.encode (key ++ message)) ++ List.replicate
    (size - 32) 0)

def exampleAgreement : KeyAgreement where
  PrivateKey := List UInt8
  createPrivateKey _ _ := .ok (List.replicate 32 5)
  publicKey key := .ok key
  loadPrivateKeyDerHex := hexDecode
  agreeKey key publicKey := .ok (List.zipWith (· + ·) key publicKey)

def exampleKem : Kem where
  PrivateKey := String
  PublicKey := String
  loadPrivateKeyDerHex key := .ok key
  loadPublicKeyDerHex key := .ok key
  encapsulate _ _ _ size := .ok ⟨List.replicate size 9, List.replicate 768 1⟩
  decapsulate _ _ _ size := .ok (List.replicate size 9)

def exampleLibrary (aead : Aead) : MessageLibrary where
  serde := .compact
  base64 := .urlSafeNoPad
  eddsa := sizedScheme 64
  mlDsa := sizedScheme 2420
  hashBytes input := .ok (checksum input)
  hashBytes_length := length_digest
  hkdf := exampleHkdf
  aead
  agreement := exampleAgreement
  kem := exampleKem

def exampleAddr : AddrLibrary where
  isSocketAddr value := value = "127.0.0.1:3000"
  isIpAddr _ := false
  parseDomainName _ := .error "not a domain name"

def exampleXecdhHex : String := "0303030303030303030303030303030303030303030303030303030303030303"

def exampleMaterial : KeyMaterial where
  symmetric := ⟨"AES-128/GCM", "00000000000000000000000000000000"⟩
  eddsa := ⟨"Ed25519", "01", "01"⟩
  xecdh := ⟨"X25519", exampleXecdhHex, exampleXecdhHex⟩
  mlDsa := ⟨"ML-DSA-44", "02", "02"⟩
  mlKem := ⟨"ML-KEM-512", "04", "04"⟩
  hashVariant := "SHA-3(256)"

def senderKey : OpsKey where
  id := "aaaaaaaaaaaaaaaaaaaaaaaaaaaaaaaaaaaaaaaaaaaaaaaaaaaaaaaaaaaaaaaa"
  aad := ""
  propertiesAad := ""
  keyMaterial := exampleMaterial
  properties := ⟨1, "", "", "", ⟨"active", "", ""⟩⟩

def recipientKey : OpsKey := { senderKey with id := "bbbbbbbbbbbbbbbbbbbbbbbbbbbbbbbbbbbbbbbbbbbbbbbbbbbbbbbbbbbbbbbb" }

def examplePeer : PublicKeys where
  eddsa := ⟨"Ed25519", "01"⟩
  xecdh := ⟨"X25519", exampleXecdhHex⟩
  mlDsa := ⟨"ML-DSA-44", "02"⟩
  mlKem := ⟨"ML-KEM-512", "04"⟩

def exampleConfig : SenderConfig := ⟨"127.0.0.1:3000", "v1"⟩

/-- The registered keys of a node. -/
def exampleRemote (kid : String) : RemotePublicKeys where
  host := "127.0.0.1:3000"
  kid
  loadedAt := toString (0 : Nat)
  info := buildAad [("version", protocolVersionV1), ("type", "peer-public-keys"), ("kid", kid)]
  keys := examplePeer

def exampleDraws : EnvelopeDraws where
  ephemeral := []
  mlKemSalt := .ok (List.replicate 32 6)
  encapsulation := []
  hkdfSalt := .ok (List.replicate 32 7)
  nonce size := .ok (List.replicate size 8)
  signatures := ([], [])

def exampleEnv : EnvelopeEnv := ⟨.ok 0, .ok exampleDraws⟩

def exampleAad : String :=
  buildAad (messageAadFields "v1" (toString (0 : Nat)) "127.0.0.1:3000" senderKey.id recipientKey.id "X25519+ML-KEM-512"
    "AES-128/GCM")

def exampleRun (aead : Aead) (ciphertext : List UInt8) : EnvelopeRun (exampleLibrary aead) where
  createdAt := toString (0 : Nat)
  cipher := ⟨"AES-128/GCM", 16, 12⟩
  rng := exampleDraws
  aad := exampleAad
  ephemeralPrivateKey := (List.replicate 32 5 : List UInt8)
  ephemeralPublicKey := List.replicate 32 5
  recipientXecdhPublicKey := List.replicate 32 3
  xecdhSharedKey := List.zipWith (· + ·) (List.replicate 32 5) (List.replicate 32 3)
  mlKemPublicKey := "04"
  mlKemSalt := List.replicate 32 6
  mlKem := ⟨List.replicate 32 9, List.replicate 768 1⟩
  hkdfSalt := List.replicate 32 7
  messageKey := List.replicate 16 0
  nonce := List.replicate 12 8
  ciphertext

def examplePayload (ciphertext : List UInt8) : ProtectedMessagePayload :=
  (exampleRun (.ofSealings []) ciphertext).payload exampleConfig senderKey (exampleRemote recipientKey.id)

def exampleText (ciphertext : List UInt8) : String :=
  SerdeJson.compact.toText (protectedMessageCodec.toValue (examplePayload ciphertext))

def exampleSignature (size : Nat) (key : String) (ciphertext : List UInt8) : String :=
  Hex.encode (checksum (Utf8.encode (key ++ exampleText ciphertext)) ++ List.replicate (size - 32) 0)

def exampleToken (ciphertext : List UInt8) : ProtectedMessageToken where
  version := protocolVersionV1
  payload := examplePayload ciphertext
  signatures := ⟨⟨"Ed25519", exampleSignature 64 "01" ciphertext⟩, ⟨"ML-DSA-44", exampleSignature 2420 "02" ciphertext⟩⟩

theorem senderKey_id (field : String) : validateHashHexField field senderKey.id internalKeysHash = .ok () :=
  validateInternalHash_replicate (c := 'a') (by decide) field

theorem recipientKey_id (field : String) : validateHashHexField field recipientKey.id internalKeysHash = .ok () :=
  validateInternalHash_replicate (c := 'b') (by decide) field

theorem build_exampleAad : buildMessageAad "v1" (toString (0 : Nat)) "127.0.0.1:3000" senderKey.id recipientKey.id
    "X25519+ML-KEM-512" "AES-128/GCM" = .ok exampleAad := by
  refine buildValidatedAad_ok_iff.mpr ⟨?_, rfl⟩
  simp only [messageAadFields, List.forall_mem_cons]
  exact ⟨aadOk_of_validate (by rfl), aadOk_of_validate (by rfl), aadOk_of_validate (by rfl),
    aadOk_of_validate (by rfl), aadOk_kid (by rfl) (senderKey_id _), aadOk_kid (by rfl) (recipientKey_id _),
    aadOk_of_validate (by rfl), aadOk_of_validate (by rfl), nofun⟩

/-- The envelope of a message, whatever its length. -/
theorem createMessageEnvelope_example {aead : Aead} {message : String} {ciphertext : List UInt8}
    (h : aead.encrypt "AES-128/GCM" (Utf8.encode message) (List.replicate 16 0) (List.replicate 12 8)
      (Utf8.encode exampleAad) = .ok ciphertext) :
    createMessageEnvelope (exampleLibrary aead) exampleConfig senderKey (exampleRemote recipientKey.id) message
      exampleEnv = .ok (exampleToken ciphertext) := by
  have hhex : hexDecode exampleXecdhHex = .ok (List.replicate 32 3) := by rfl
  exact createMessageEnvelope_ok_iff.mpr ⟨exampleRun aead ciphertext, ⟨rfl, rfl, rfl, build_exampleAad, rfl, rfl, hhex,
    rfl, rfl, rfl, rfl, rfl, rfl, rfl, h⟩, rfl, rfl, rfl⟩

theorem validateRemotePublicKeyMaterial_example (aead : Aead) :
    validateRemotePublicKeyMaterial (exampleLibrary aead) (.ok ([], [])) examplePeer = .ok () := by
  have hraw : validateXKeyAgreementPublicKeyHex "remote.keys.xecdh.public_key_hex" examplePeer.xecdh.alg
      examplePeer.xecdh.publicKeyHex = .ok (List.replicate 32 3) := by rfl
  unfold validateRemotePublicKeyMaterial
  rw [hraw]
  rfl

/-- The keys of a node with a valid id are accepted. -/
theorem validateRemotePublicKeys_peer {lib : MessageLibrary} {addr : AddrLibrary}
    {trial : Res (List UInt8 × List UInt8)} {host kid loadedAt info : String}
    (hhost : ∃ value, validateHostPort addr "remote.host" host = .ok value)
    (hkid : parseKeyId kid = .ok ()) (hinfo : validateTextField "remote.info" info = .ok ())
    (hmaterial : validateRemotePublicKeyMaterial lib trial examplePeer = .ok ()) :
    validateRemotePublicKeys lib addr trial ⟨host, kid, loadedAt, info, examplePeer⟩ = .ok () := by
  obtain ⟨value, hhost⟩ := hhost
  have hkeys : validateAllowedValue "remote.keys.eddsa.alg" "Ed25519" eddsaAlgorithms = .ok () ∧
      validateHexField "remote.keys.eddsa.public_key_der_hex" "01" = .ok () ∧
      validateAllowedValue "remote.keys.xecdh.alg" "X25519" xecdhAlgorithms = .ok () ∧
      validateHexField "remote.keys.xecdh.public_key_hex" exampleXecdhHex = .ok () ∧
      validateAllowedValue "remote.keys.ml-dsa.alg" "ML-DSA-44" mlDsaAlgorithms = .ok () ∧
      validateHexField "remote.keys.ml-dsa.public_key_der_hex" "02" = .ok () ∧
      validateAllowedValue "remote.keys.ml-kem.alg" "ML-KEM-512" mlKemAlgorithms = .ok () ∧
      validateHexField "remote.keys.ml-kem.public_key_der_hex" "04" = .ok () := by decide
  simp only [examplePeer] at hmaterial ⊢
  simp only [validateRemotePublicKeys, hhost, hkid, hinfo, hkeys, hmaterial, bind, Except.bind]

theorem peerPublicKeysInfo_example : peerPublicKeysInfo recipientKey.id = .ok (exampleRemote recipientKey.id).info := by
  refine buildValidatedAad_ok_iff.mpr ⟨?_, rfl⟩
  simp only [List.forall_mem_cons]
  exact ⟨aadOk_of_validate (by rfl), aadOk_of_validate (by rfl), aadOk_kid (by rfl) (recipientKey_id _), nofun⟩

theorem validateRemote_recipient (aead : Aead) :
    validateRemotePublicKeys (exampleLibrary aead) exampleAddr (.ok ([], [])) (exampleRemote recipientKey.id) =
    .ok () :=
  validateRemotePublicKeys_peer ⟨"127.0.0.1:3000", by rfl⟩ (recipientKey_id "id")
    (validateTextField_buildValidated (List.cons_ne_nil _ _) peerPublicKeysInfo_example)
    (validateRemotePublicKeyMaterial_example aead)

theorem remotePublicKeys_example (aead : Aead) : remotePublicKeysFromPeer (exampleLibrary aead) exampleAddr (.ok 0)
    (.ok ([], [])) "127.0.0.1:3000" recipientKey.id examplePeer = .ok (exampleRemote recipientKey.id) := by
  unfold remotePublicKeysFromPeer
  exact Loop.bind_eq_ok.mpr ⟨_, peerPublicKeysInfo_example, Loop.bind_eq_ok.mpr ⟨toString (0 : Nat), rfl,
    Loop.bind_eq_ok.mpr ⟨(), validateRemote_recipient aead, rfl⟩⟩⟩

end Vectis.Ops.Message

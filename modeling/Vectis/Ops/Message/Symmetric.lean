import Vectis.Core.Hosts
import Vectis.Core.Subjects
import Vectis.Ops.KeyMaterial

/-!
# Local symmetric envelopes

Messages encrypted under the symmetric key of an operational key, or under the key of a subject, and received messages
that are stored under the key of their recipient (`ops/message.rs`).
-/

namespace Vectis.Ops.Message

open Vectis.Core Core.Validation Core.Profiles Core.Crypto Core.Canonical Core.Tokenization Core.Subjects Ops.Keys

/-! ## Data -/

/-- `protocol::PROTOCOL_VERSION_V1`. -/
def protocolVersionV1 : String := "v1"

/-- `config::INTERNAL_MESSAGE_PLAINTEXT_MAX_SIZE`. -/
def internalMessagePlaintextMaxSize : Nat := 1024 * 1024 - 1024

/-- `InternalMessageCipher` and `DecryptMessageCipher`. -/
structure MessageCipherText where
  ctx : String
  nonce : String
  aad : String
  variant : String
  deriving DecidableEq, Repr

structure InternalMessageOutput where
  timestamp : String
  kid : String
  subject : Option String
  message : MessageCipherText
  deriving DecidableEq, Repr

structure DecryptMessageInput where
  senderHost : String
  senderKid : String
  timestamp : String
  message : MessageCipherText
  deriving DecidableEq, Repr

structure LocalCipherOutput where
  alg : String
  nonce : String
  aad : String
  ct : String
  deriving DecidableEq, Repr

structure SubjectMaterial where
  origin : TokenizationProfile
  subject : String
  envelope : String
  deriving DecidableEq, Repr

/-- `PreparedInternalEncryptMessage`. -/
structure PreparedInternalEncryptMessage where
  key : OpsKey
  plaintext : String
  subject : Option SubjectMaterial

/-- `PreparedInternalDecryptMessage`. -/
structure PreparedInternalDecryptMessage where
  key : OpsKey
  input : InternalMessageOutput
  subject : Option SubjectMaterial

structure PreparedDecryptMessage where
  recipientKey : OpsKey
  input : DecryptMessageInput

/-! ## Associated data -/

def buildInternalMessageAad (kid timestamp cipherAlg : String) : Res String :=
  buildValidatedAad [("version", protocolVersionV1), ("type", "internal-message"), ("kid", kid),
    ("timestamp", timestamp), ("cipher_alg", cipherAlg)]

def buildSubjectSymmetricAad (kid subject timestamp algorithm : String) : Res String :=
  buildValidatedAad [("version", "v1"), ("type", "subject-symmetric"), ("kid", kid), ("subject", subject),
    ("timestamp", timestamp), ("cipher_alg", algorithm)]

def buildStoredProtectedMessageAad (version senderKid recipientKid sourceCreatedAt cipherAlg : String) : Res String :=
  buildValidatedAad [("version", version), ("type", "stored-protected-message"), ("sender_kid", senderKid),
    ("recipient_kid", recipientKid), ("source_created_at", sourceCreatedAt), ("cipher_alg", cipherAlg)]

/-! ## Keys -/

def subjectMaterial (key : OpsKey) (origin : TokenizationProfile) (subject envelope : String) :
    Res SubjectMaterial := do
  validateSubject subject
  if origin.kid ≠ key.id ∨ origin.subjectMode ≠ .stored then .error (.internal "stored subject seed is invalid")
  else .ok ⟨origin, subject, envelope⟩

def unsupportedVariant : DynError := .invalidInput "message.variant is not supported"

def unsupportedInternal : DynError := .invalidInput "internal message symmetric algorithm is not supported"

def subjectSymmetricInfo (kid algorithm : String) : Res String :=
  buildValidatedAad [("purpose", "subject-symmetric-encryption"), ("kid", kid), ("cipher_alg", algorithm),
    ("version", "v1")]

def deriveSubjectSymmetricKey (hkdf : Hkdf) (parent seed : List UInt8) (kid algorithm : String) : Res (List UInt8) := do
  parseKeyId kid
  let cipher ← requireCipher unsupportedVariant algorithm
  if parent.length ≠ cipher.keySizeBytes ∨ seed.length ≠ subjectSeedBytes then
    .error (.internal "invalid subject symmetric key material")
  else
    let info ← subjectSymmetricInfo kid cipher.algorithm
    hkdf parent seed (bytesOf info) cipher.keySizeBytes

section Operations

variable (hkdf : Hkdf) (aead : Aead) (serde : SerdeJson)

/-- The key of the subject, or the parent key. -/
def internalKeyFrom (parent : List UInt8) (kid algorithm : String) : Option SubjectMaterial → Res (List UInt8)
  | none => .ok parent
  | some material => do
    let seed ← openAuthenticatedSeed hkdf aead serde material.origin material.subject material.envelope
    deriveSubjectSymmetricKey hkdf parent seed kid algorithm

def internalKey (key : OpsKey) (subject : Option SubjectMaterial) : Res (List UInt8) := do
  let cipher ← requireCipher unsupportedInternal key.symmetric.variant
  validateSymmetricKey "internal message symmetric key" key.symmetric.keyHex cipher.keySizeBytes
  let parent ← hexDecode key.symmetric.keyHex
  internalKeyFrom hkdf aead serde parent key.id cipher.algorithm subject

/-! ## Encryption -/

def internalAad (kid timestamp algorithm : String) : Option SubjectMaterial → Res String
  | some material => buildSubjectSymmetricAad kid material.subject timestamp algorithm
  | none => buildInternalMessageAad kid timestamp algorithm

/-- The timestamp and the nonce are what `current_timestamp` and `random_bytes` give. -/
def encryptInternalMessage (timestamp : Res String) (nonce : Res (List UInt8))
    (prepared : PreparedInternalEncryptMessage) :
    Res InternalMessageOutput := do
  let timestamp ← timestamp
  let cipher ← requireCipher unsupportedInternal prepared.key.symmetric.variant
  validateSymmetricKey "internal message symmetric key" prepared.key.symmetric.keyHex cipher.keySizeBytes
  let key ← internalKey hkdf aead serde prepared.key prepared.subject
  let nonce ← nonce
  let aad ← internalAad prepared.key.id timestamp cipher.algorithm prepared.subject
  let ciphertext ← aead.encrypt cipher.algorithm (Utf8.encode prepared.plaintext) key nonce (Utf8.encode aad)
  .ok ⟨timestamp, prepared.key.id, prepared.subject.map SubjectMaterial.subject,
    ⟨Hex.encode ciphertext, Hex.encode nonce, aad, cipher.algorithm⟩⟩

/-- The version, the sender and the time of the received envelope. -/
structure LocalSource where
  version : String
  senderKid : String
  createdAt : String
  deriving DecidableEq, Repr

def encryptLocalMessage (nonce : Res (List UInt8)) (recipientKey : OpsKey) (plaintext : String) (source : LocalSource) :
    Res LocalCipherOutput := do
  let cipher ← requireCipher (.invalidInput "recipient symmetric algorithm is not supported")
    recipientKey.symmetric.variant
  validateSymmetricKey "recipient symmetric key" recipientKey.symmetric.keyHex cipher.keySizeBytes
  let key ← hexDecode recipientKey.symmetric.keyHex
  let nonce ← nonce
  let aad ← buildStoredProtectedMessageAad source.version source.senderKid recipientKey.id source.createdAt
    cipher.algorithm
  let ciphertext ← aead.encrypt cipher.algorithm (Utf8.encode plaintext) key nonce (Utf8.encode aad)
  .ok ⟨cipher.algorithm, Hex.encode nonce, aad, Hex.encode ciphertext⟩

/-! ## Decryption -/

def decryptedMessageString (bytes : List UInt8) : Res String :=
  match Utf8.decode bytes with
  | some text => .ok text
  | none => .error (.invalidInput "decrypted message is not valid UTF-8")

/-- `hex::decode` of a field of the message. -/
def decodeHexField (field text : String) : Res (List UInt8) :=
  match Hex.decode text with
  | some bytes => .ok bytes
  | none => .error (.invalidInput (field ++ " is not valid hex"))

/-- The end of both decryptions: the nonce and the ciphertext from hex, and the text that they open to. -/
def openCipherText (algorithm : String) (key : List UInt8) (message : MessageCipherText) : Res String := do
  let nonce ← decodeHexField "message.nonce" message.nonce
  let ciphertext ← decodeHexField "message.ctx" message.ctx
  let plaintext ← (aead.decrypt algorithm ciphertext key nonce (Utf8.encode message.aad)).mapError fun _ =>
    .invalidInput "message authentication failed"
  decryptedMessageString plaintext

def decryptMessage (prepared : PreparedDecryptMessage) : Res String := do
  let input := prepared.input
  let aad ← parseAadFields input.message.aad
  let senderKid ← aadField aad "sender_kid"
  let recipientKid ← aadField aad "recipient_kid"
  let cipherAlg ← aadField aad "cipher_alg"
  if input.senderKid ≠ senderKid then .error (.invalidInput "sender_kid does not match message aad")
  else if prepared.recipientKey.id ≠ recipientKid then .error (.invalidInput "recipient key does not match message aad")
  else if input.message.variant ≠ cipherAlg then
    .error (.invalidInput "message.variant does not match message aad cipher_alg")
  else if input.message.variant ≠ prepared.recipientKey.symmetric.variant then
    .error (.invalidInput "message.variant does not match recipient symmetric key")
  else
    let cipher ← requireCipher unsupportedVariant input.message.variant
    validateSymmetricKey "recipient symmetric key" prepared.recipientKey.symmetric.keyHex cipher.keySizeBytes
    let key ← hexDecode prepared.recipientKey.symmetric.keyHex
    openCipherText aead cipher.algorithm key input.message

def decryptInternalMessage (prepared : PreparedInternalDecryptMessage) : Res String := do
  let input := prepared.input
  if input.subject ≠ prepared.subject.map SubjectMaterial.subject then
    .error (.invalidInput "subject symmetric context is required")
  else
    let key ← internalKey hkdf aead serde prepared.key prepared.subject
    let aad ← parseAadFields input.message.aad
    let kid ← aadField aad "kid"
    let timestamp ← aadField aad "timestamp"
    let cipherAlg ← aadField aad "cipher_alg"
    if input.kid ≠ kid then .error (.invalidInput "kid does not match internal message aad")
    else if input.timestamp ≠ timestamp then .error (.invalidInput "timestamp does not match internal message aad")
    else if input.message.variant ≠ cipherAlg then
      .error (.invalidInput "message.variant does not match internal message aad cipher_alg")
    else if input.message.variant ≠ prepared.key.symmetric.variant then
      .error (.invalidInput "message.variant does not match internal symmetric key")
    else
      let cipher ← requireCipher unsupportedVariant input.message.variant
      validateSymmetricKey "internal message symmetric key" prepared.key.symmetric.keyHex cipher.keySizeBytes
      openCipherText aead cipher.algorithm key input.message

end Operations

/-! ## Validation -/

/-- The checks of the ciphertext, before its associated data is read. -/
def validateCipherText (message : MessageCipherText) : Res Unit := do
  validateHexField "message.ctx" message.ctx
  validateHexField "message.nonce" message.nonce
  validateTextField "message.aad" message.aad
  validateAllowedValue "message.variant" message.variant symmetricAlgorithms
  let cipher ← requireCipher unsupportedVariant message.variant
  if message.nonce.utf8ByteSize ≠ cipher.nonceSizeBytes * 2 then
    .error (.invalidInput "message.nonce length does not match message.variant")
  else .ok ()

def validateDecryptMessageInput (addr : AddrLibrary) (input : DecryptMessageInput) : Res Unit := do
  let _ ← validateHostPort addr "sender_host" input.senderHost
  parseKeyId input.senderKid
  validateTextField "timestamp" input.timestamp
  validateCipherText input.message
  let aad ← parseAadFields input.message.aad
  let kind ← aadField aad "type"
  validateAllowedValue "message.aad.type" kind ["stored-protected-message"]
  let senderKid ← aadField aad "sender_kid"
  parseKeyId senderKid
  let recipientKid ← aadField aad "recipient_kid"
  parseKeyId recipientKid
  let sourceCreatedAt ← aadField aad "source_created_at"
  validateTextField "message.aad.source_created_at" sourceCreatedAt
  let cipherAlg ← aadField aad "cipher_alg"
  validateAllowedValue "message.aad.cipher_alg" cipherAlg symmetricAlgorithms

def validateInternalEncryptMessageInput (plaintext : String) : Res Unit := do
  validateTextField "plaintext" plaintext
  if plaintext.utf8ByteSize > internalMessagePlaintextMaxSize then
    .error (.invalidInput ("plaintext exceeds maximum allowed size: " ++ toString internalMessagePlaintextMaxSize ++
      " bytes"))
  else .ok ()

/-- The associated data of a message of a subject is the expected text. -/
def validateSubjectAad (input : InternalMessageOutput) : Res Unit :=
  match input.subject with
  | none => .ok ()
  | some subject => do
    validateSubject subject
    let expected ← buildSubjectSymmetricAad input.kid subject input.timestamp input.message.variant
    if input.message.aad ≠ expected then .error (.invalidInput "subject symmetric aad does not match envelope")
      else .ok ()

def internalType (subject : Option String) : String :=
  if subject.isSome then "subject-symmetric" else "internal-message"

def validateInternalDecryptMessageInput (input : InternalMessageOutput) : Res Unit := do
  parseKeyId input.kid
  validateTextField "timestamp" input.timestamp
  validateCipherText input.message
  let aad ← parseAadFields input.message.aad
  validateSubjectAad input
  let kind ← aadField aad "type"
  validateAllowedValue "message.aad.type" kind [internalType input.subject]
  let kid ← aadField aad "kid"
  parseKeyId kid
  let timestamp ← aadField aad "timestamp"
  validateTextField "message.aad.timestamp" timestamp
  let cipherAlg ← aadField aad "cipher_alg"
  validateAllowedValue "message.aad.cipher_alg" cipherAlg symmetricAlgorithms

/-! ## Preparation -/

def prepareDecryptMessage (addr : AddrLibrary) (state : LoadedKeys) (input : DecryptMessageInput) :
    Res PreparedDecryptMessage := do
  validateDecryptMessageInput addr input
  let aad ← parseAadFields input.message.aad
  let recipientKid ← aadField aad "recipient_kid"
  let recipientKey ← getLoadedKey state recipientKid
  requireLifecycleForDecryptOrVerify recipientKey.lifecycleStatus
  .ok ⟨recipientKey, input⟩

def prepareInternalEncryptMessage (state : LoadedKeys) (kid plaintext : String) :
    Res PreparedInternalEncryptMessage := do
  parseKeyId kid
  validateInternalEncryptMessageInput plaintext
  let key ← getLoadedKey state kid
  requireLifecycleForNewUse key.lifecycleStatus
  .ok ⟨key, plaintext, none⟩

def prepareInternalDecryptMessage (state : LoadedKeys) (input : InternalMessageOutput) :
    Res PreparedInternalDecryptMessage := do
  validateInternalDecryptMessageInput input
  let key ← getLoadedKey state input.kid
  requireLifecycleForDecryptOrVerify key.lifecycleStatus
  .ok ⟨key, input, none⟩

/-- The origin, the subject and the envelope of its seed. -/
structure SubjectSource where
  origin : TokenizationProfile
  subject : String
  envelope : String

def PreparedInternalEncryptMessage.withSubject (prepared : PreparedInternalEncryptMessage) (source : SubjectSource) :
    Res PreparedInternalEncryptMessage := do
  let material ← subjectMaterial prepared.key source.origin source.subject source.envelope
  .ok { prepared with subject := some material }

def PreparedInternalDecryptMessage.withSubject (prepared : PreparedInternalDecryptMessage) (source : SubjectSource) :
    Res PreparedInternalDecryptMessage :=
  if prepared.input.subject ≠ some source.subject then .error (.invalidInput "subject does not match symmetric context")
  else do
    let material ← subjectMaterial prepared.key source.origin source.subject source.envelope
    .ok { prepared with subject := some material }

end Vectis.Ops.Message

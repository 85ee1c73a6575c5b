import Vectis.Core.Crypto
import Vectis.Core.Envelope
import Vectis.Core.Profiles
import Vectis.Core.Records
import Vectis.Ops.SignedTokens

/-!
# Key files and signatures of artifacts

`ops/slh_dsa.rs`: a private key is stored encrypted under a key of the node, a public key as it is, and a signature is a
text of three base64url segments. Creating keys, signing and verifying, with what each of them has done when it
succeeds:

- `create_ok`, `loadPrivate_ok_iff`, `loadPublic_ok_iff`: the values that go into a file, and those that come out of
  one;
- `sign_ok_iff`, `verify_ok_iff`: the signing input, and what it is verified against.
-/

namespace Vectis.Ops.SlhDsa

open Core.AuditChain Core.Canonical Core.Crypto Core.Profiles Core.Validation Contracts Json Keys Sign

/-! ## The library -/

/-- A signature scheme with its keys in DER (`core/crypto.rs`). -/
structure DerScheme where
  PrivateKey : Type
  PublicKey : Type
  createPrivateKey : List UInt8 → Res PrivateKey
  publicKey : PrivateKey → Res PublicKey
  privateKeyDer : PrivateKey → Res (List UInt8)
  publicKeyDer : PublicKey → Res (List UInt8)
  loadPrivateKeyDer : List UInt8 → Res PrivateKey
  loadPublicKeyDer : List UInt8 → Res PublicKey
  sign : List UInt8 → PrivateKey → List UInt8 → Res (List UInt8)
  verify : PublicKey → List UInt8 → List UInt8 → Res Bool

def DerScheme.loadPrivateKeyDerHex (scheme : DerScheme) (hex : String) : Res scheme.PrivateKey := do
  let der ← hexDecode hex
  scheme.loadPrivateKeyDer der

def DerScheme.loadPublicKeyDerHex (scheme : DerScheme) (hex : String) : Res scheme.PublicKey := do
  let der ← hexDecode hex
  scheme.loadPublicKeyDer der

/-- The public key of a private one, as hex. -/
def DerScheme.publicKeyDerHex (scheme : DerScheme) (key : scheme.PrivateKey) : Res String := do
  let publicKey ← scheme.publicKey key
  let der ← scheme.publicKeyDer publicKey
  .ok (Hex.encode der)

/-- A hash function of the library, and what it makes of a whole input: the pieces do not matter. -/
structure HashFunction where
  State : Type
  new : Res State
  update : State → List UInt8 → Res State
  finish : State → Res (List UInt8)
  digest : List UInt8 → Res (List UInt8)
  digest_eq : ∀ chunks : List (List UInt8), (do
    let state ← new
    let state ← chunks.foldlM update state
    finish state) = digest chunks.flatten

/-- The loop of `hash_reader` (`core/crypto.rs`), over what the calls of `read` return. -/
def HashFunction.readLoop (hash : HashFunction) : hash.State → List (Res (List UInt8)) → Res hash.State
  | state, [] => .ok state
  | state, read :: reads => do
    let bytes ← read
    -- nothing read is the end of the file
    if bytes = [] then .ok state
    else do
      let state ← hash.update state bytes
      hash.readLoop state reads

def HashFunction.hashReader (hash : HashFunction) (reads : List (Res (List UInt8))) : Res (List UInt8) := do
  let state ← hash.new
  let state ← hash.readLoop state reads
  hash.finish state

structure SlhLibrary where
  serde : SerdeJson
  pretty : PrettyJson serde
  base64 : Base64Url
  scheme : DerScheme
  aead : Aead
  hkdf : Hkdf
  hashBytes : List UInt8 → Res (List UInt8)
  hashBytes_length : ∀ input digest, hashBytes input = .ok digest → digest.length = 32
  artifactHasher : HashFunction
  artifactHasher_length : ∀ content digest, artifactHasher.digest content = .ok digest → digest.length = 64

/-! ## Files -/

/-- `PRIVATE_FILE_VERSION`. -/
def privateFileVersion : String := "vectis-slh-private-key-v1"

/-- `PUBLIC_FILE_VERSION`. -/
def publicFileVersion : String := "vectis-slh-public-key-v1"

/-- `SIGNATURE_VERSION`. -/
def signatureVersion : String := "vectis-slh-dsa-signature-v1"

/-- `PAYLOAD_VERSION`. -/
def payloadVersion : String := "v1"

/-- `ARTIFACT_TYPE`. -/
def artifactType : String := "vectis-artifact"

/-- `PUBLIC_KEY_TYPE`. -/
def publicKeyType : String := "slh-dsa-public-key"

/-- `PRIVATE_KEY_TYPE`. -/
def privateKeyType : String := "slh-dsa-private-key"

/-- `SIGNATURE_INFO`. -/
def signatureInfo : String := "version=v1;type=vectis-artifact"

/-- `config::INTERNAL_SLH_DSA_VARIANT`. -/
def internalSlhDsaVariant : String := "SLH-DSA-SHAKE-256s"

/-- `config::INTERNAL_SLH_DSA_ARTIFACT_HASH`. -/
def internalSlhDsaArtifactHash : String := "SHA-3(512)"

/-- `config::INTERNAL_KEYS_CIPHER`. -/
def internalKeysCipher : String := "AES-256/GCM"

/-- `config::INTERNAL_KEYS_KEY_SIZE_BYTES`. -/
def internalKeysKeySizeBytes : Nat := 32

/-- `config::INTERNAL_KEYS_NONCE_SIZE_BYTES`. -/
def internalKeysNonceSizeBytes : Nat := 12

/-- `config::INTERNAL_ROOT_KEY_HKDF_SALT`. -/
def internalRootKeyHkdfSalt : List UInt8 := Utf8.encode "vectis/internal-keys/v1"

/-- `config::SLH_DSA_FILE_KEY_INFO`. -/
def slhDsaFileKeyInfo : List UInt8 := Utf8.encode "vectis/slh-dsa-file-key/v1"

/-- `config::SLH_DSA_PRIVATE_FILE_MAX_SIZE_BYTES`. -/
def slhDsaPrivateFileMaxSizeBytes : Nat := 64 * 1024

/-- `config::SLH_DSA_PUBLIC_FILE_MAX_SIZE_BYTES`. -/
def slhDsaPublicFileMaxSizeBytes : Nat := 64 * 1024

/-- `config::SLH_DSA_SIGNATURE_FILE_MAX_SIZE_BYTES`. -/
def slhDsaSignatureFileMaxSizeBytes : Nat := 128 * 1024

structure PrivateFile where
  version : String
  kid : String
  algorithm : String
  createdAt : String
  keyEnc : String
  deriving DecidableEq, Repr

structure PrivatePayload where
  version : String
  kid : String
  algorithm : String
  privateKeyDerHex : String
  publicKeyDerHex : String
  createdAt : String
  deriving DecidableEq, Repr

structure PublicFile where
  version : String
  kid : String
  algorithm : String
  publicKeyDerHex : String
  createdAt : String
  deriving DecidableEq, Repr

structure SignatureHeader where
  algorithm : String
  version : String
  deriving DecidableEq, Repr

structure ArtifactPayload where
  version : String
  type : String
  kid : String
  createdAt : String
  info : String
  messageHash : MessageHash
  deriving DecidableEq, Repr

def text (key : String) : Json.Field String := .required key .string

def privateFileShape : Shape PrivateFile :=
  .record ((Fields.cons (text "algorithm") <| .cons (text "created_at") <| .cons (text "key_enc") <| .cons
    (text "kid") <| .cons (text "version") .nil).map
    (fun t => (t.algorithm, t.createdAt, t.keyEnc, t.kid, t.version, ()))
    (fun (algorithm, createdAt, keyEnc, kid, version, _) => ⟨version, kid, algorithm, createdAt, keyEnc⟩) fun _ =>
      rfl) true
    (by decide)

def privatePayloadShape : Shape PrivatePayload :=
  .record ((Fields.cons (text "algorithm") <| .cons (text "created_at") <| .cons (text "kid") <|
    .cons (text "private_key_der_hex") <| .cons (text "public_key_der_hex") <| .cons (text "version") .nil).map
    (fun t => (t.algorithm, t.createdAt, t.kid, t.privateKeyDerHex, t.publicKeyDerHex, t.version, ()))
    (fun (algorithm, createdAt, kid, privateHex, publicHex, version, _) =>
      ⟨version, kid, algorithm, privateHex, publicHex, createdAt⟩) fun _ => rfl) true (by decide)

def publicFileShape : Shape PublicFile :=
  .record ((Fields.cons (text "algorithm") <| .cons (text "created_at") <| .cons (text "kid") <|
    .cons (text "public_key_der_hex") <| .cons (text "version") .nil).map
    (fun t => (t.algorithm, t.createdAt, t.kid, t.publicKeyDerHex, t.version, ()))
    (fun (algorithm, createdAt, kid, publicHex, version, _) => ⟨version, kid, algorithm, publicHex, createdAt⟩) fun _ =>
      rfl)
    true (by decide)

def signatureHeaderShape : Shape SignatureHeader :=
  .record ((Fields.cons (text "algorithm") <| .cons (text "version") .nil).map
    (fun t => (t.algorithm, t.version, ())) (fun (algorithm, version, _) => ⟨algorithm, version⟩) fun _ => rfl) true
    (by decide)

def messageHashShape : Shape MessageHash :=
  .record ((Fields.cons (text "alg") <| .cons (text "hex") .nil).map
    (fun t => (t.alg, t.hex, ())) (fun (alg, hex, _) => ⟨alg, hex⟩) fun _ => rfl) true (by decide)

def artifactPayloadShape : Shape ArtifactPayload :=
  .record ((Fields.cons (text "created_at") <| .cons (text "info") <| .cons (text "kid") <|
    .cons (.required "message_hash" messageHashShape) <| .cons (text "type") <| .cons (text "version") .nil).map
    (fun t => (t.createdAt, t.info, t.kid, t.messageHash, t.type, t.version, ()))
    (fun (createdAt, info, kid, hash, type, version, _) => ⟨version, type, kid, createdAt, info, hash⟩) fun _ =>
      rfl) true
    (by decide)

/-- The fields of a private file as they are written. -/
def PrivateFile.tree (file : PrivateFile) : Value :=
  .object [("version", .string file.version), ("kid", .string file.kid), ("algorithm", .string file.algorithm),
    ("created_at", .string file.createdAt), ("key_enc", .string file.keyEnc)]

/-- The fields of a public file as they are written. -/
def PublicFile.tree (file : PublicFile) : Value :=
  .object [("version", .string file.version), ("kid", .string file.kid), ("algorithm", .string file.algorithm),
    ("public_key_der_hex", .string file.publicKeyDerHex), ("created_at", .string file.createdAt)]

theorem PrivateFile.normalize_tree (file : PrivateFile) :
    file.tree.normalize = (codecOf privateFileShape).toValue file := by
  simp (disch := decide) only [PrivateFile.tree, Value.normalize, normalizeEntries, normalizeEntry, insertEntry_nil,
    insertEntry_first, insertEntry_later]
  rfl

theorem PublicFile.normalize_tree (file : PublicFile) :
    file.tree.normalize = (codecOf publicFileShape).toValue file := by
  simp (disch := decide) only [PublicFile.tree, Value.normalize, normalizeEntries, normalizeEntry, insertEntry_nil,
    insertEntry_first, insertEntry_later]
  rfl

/-! ## Keys of files -/

section Operations

variable (lib : SlhLibrary)

/-- The material that a key id is the hash of. -/
def keyMaterialValue (publicKeyDerHex : String) : Value :=
  .object [("algorithm", .string internalSlhDsaVariant), ("public_key_der_hex", .string publicKeyDerHex),
    ("type", .string publicKeyType), ("version", .string payloadVersion)]

def keyId (publicKeyDerHex : String) : Res String := do
  let canonical ← canonicalJson lib.serde (keyMaterialValue publicKeyDerHex)
  let digest ← lib.hashBytes (Utf8.encode canonical)
  .ok (Hex.encode digest)

def deriveFileKey (symmetricKeyHex : String) : Res (List UInt8) := do
  validateSymmetricKey "init symmetric key" symmetricKeyHex internalKeysKeySizeBytes
  let root ← hexDecode symmetricKeyHex
  lib.hkdf root internalRootKeyHkdfSalt slhDsaFileKeyInfo internalKeysKeySizeBytes

def privateKeyFields (kid createdAt : String) : AadFields :=
  [("version", payloadVersion), ("type", privateKeyType), ("kid", kid), ("algorithm", internalSlhDsaVariant),
    ("cipher", internalKeysCipher), ("created_at", createdAt)]

def privateKeyAad (kid createdAt : String) : Res String := buildValidatedAad (privateKeyFields kid createdAt)

def encryptPayload (payload : PrivatePayload) (key : List UInt8) (aad : String) (nonce : Res (Vector UInt8 12)) :
    Res String := do
  let plaintext := lib.serde.toText ((codecOf privatePayloadShape).toValue payload)
  let nonce ← nonce
  let ciphertext ← lib.aead.encrypt internalKeysCipher (Utf8.encode plaintext) key nonce.toList (Utf8.encode aad)
  .ok (envelopeText ciphertext nonce.toList (Utf8.encode aad))

/-! ## Operations -/

structure CreateOutput where
  kid : String
  algorithm : String
  deriving DecidableEq, Repr

/-- The generator, the clock, and the bytes drawn for the nonce. -/
structure CreateEnv where
  rng : Res (List UInt8)
  now : Res UInt64
  nonce : Res (Vector UInt8 12)

def create (symmetricKeyHex : String) (env : CreateEnv) : Res (CreateOutput × String × String) := do
  let rng ← env.rng
  let privateKey ← lib.scheme.createPrivateKey rng
  let publicKey ← lib.scheme.publicKey privateKey
  let privateDer ← lib.scheme.privateKeyDer privateKey
  let publicDer ← lib.scheme.publicKeyDer publicKey
  let publicKeyDerHex := Hex.encode publicDer
  let kid ← keyId lib publicKeyDerHex
  let createdAt ← currentTimestamp env.now
  let payload : PrivatePayload :=
    ⟨payloadVersion, kid, internalSlhDsaVariant, Hex.encode privateDer, publicKeyDerHex, createdAt⟩
  let key ← deriveFileKey lib symmetricKeyHex
  let aad ← privateKeyAad kid createdAt
  let keyEnc ← encryptPayload lib payload key aad env.nonce
  let privateFile : PrivateFile := ⟨privateFileVersion, kid, internalSlhDsaVariant, createdAt, keyEnc⟩
  let publicFile : PublicFile := ⟨publicFileVersion, kid, internalSlhDsaVariant, publicKeyDerHex, createdAt⟩
  .ok (⟨kid, internalSlhDsaVariant⟩, lib.pretty.toTextPretty privateFile.tree, lib.pretty.toTextPretty publicFile.tree)

def validatePrivateFileStructure (file : PrivateFile) : Res Unit := do
  if file.version ≠ privateFileVersion || file.algorithm ≠ internalSlhDsaVariant then
    .error (.invalidInput "SLH-DSA private key file version or algorithm is not supported")
  else do
    validateHexField "SLH-DSA private key kid" file.kid
    validateTextField "SLH-DSA private key created_at" file.createdAt

def validatePrivateFile (file : PrivateFile) : Res Unit := do
  validatePrivateFileStructure file
  validateHashHexField "SLH-DSA private key kid" file.kid internalKeysHash

structure LoadedPrivateKey where
  kid : String
  privateKey : lib.scheme.PrivateKey

/-- The checks of a decrypted payload. -/
def validatePrivatePayload (file : PrivateFile) (payload : PrivatePayload) : Res Unit :=
  if payload.version ≠ payloadVersion || payload.kid ≠ file.kid || payload.algorithm ≠ file.algorithm ||
      payload.createdAt ≠ file.createdAt then
    .error (.invalidInput "SLH-DSA private key metadata does not match payload")
  else do
    validateHexField "SLH-DSA private key private_key_der_hex" payload.privateKeyDerHex
    validateHexField "SLH-DSA private key public_key_der_hex" payload.publicKeyDerHex

def decryptPayload (key : List UInt8) (envelope : DecodedBase64Envelope) : Res PrivatePayload := do
  let bytes ← lib.aead.decrypt internalKeysCipher envelope.ciphertext key envelope.nonce envelope.aad
  match Utf8.decode bytes with
  | none => .error (.invalidInput "SLH-DSA private key payload is not valid UTF-8")
  | some plaintext =>
    match lib.serde.fromStrAs (codecOf privatePayloadShape) plaintext with
    | none => .error (.invalidInput "SLH-DSA private key payload contains invalid JSON")
    | some payload => .ok payload

/-- The checks and the decryption of a parsed private file. -/
def openPrivateFile (symmetricKeyHex : String) (file : PrivateFile) : Res (LoadedPrivateKey lib) := do
  validatePrivateFile file
  let key ← deriveFileKey lib symmetricKeyHex
  let aad ← privateKeyAad file.kid file.createdAt
  let envelope ← decodeBase64StandardEnvelope "SLH-DSA private key key_enc" file.keyEnc slhDsaPrivateFileMaxSizeBytes
    internalKeysNonceSizeBytes
  if !constantTimeEq envelope.aad (Utf8.encode aad) then
    .error (.invalidInput "SLH-DSA private key AAD does not match metadata")
  else do
    let payload ← decryptPayload lib key envelope
    validatePrivatePayload file payload
    let privateKey ← (lib.scheme.loadPrivateKeyDerHex payload.privateKeyDerHex).mapError fun _ =>
      .invalidInput "SLH-DSA private key DER is invalid"
    let derivedHex ← lib.scheme.publicKeyDerHex privateKey
    if !constantTimeEq (Utf8.encode derivedHex) (Utf8.encode payload.publicKeyDerHex) then
      .error (.invalidInput "SLH-DSA private key public key binding is invalid")
    else do
      let kid ← keyId lib derivedHex
      if kid ≠ file.kid then .error (.invalidInput "SLH-DSA private key public key binding is invalid")
      else .ok ⟨file.kid, privateKey⟩

def loadPrivate (symmetricKeyHex content : String) : Res (LoadedPrivateKey lib) :=
  match lib.serde.fromStrAs (codecOf privateFileShape) content with
  | none => .error (.invalidInput "SLH-DSA private key file contains invalid JSON")
  | some file => openPrivateFile lib symmetricKeyHex file

def validatePublicFile (file : PublicFile) : Res Unit := do
  if file.version ≠ publicFileVersion || file.algorithm ≠ internalSlhDsaVariant then
    .error (.invalidInput "SLH-DSA public key file version or algorithm is not supported")
  else do
    validateHexField "SLH-DSA public key kid" file.kid
    validateHexField "SLH-DSA public key public_key_der_hex" file.publicKeyDerHex
    validateTextField "SLH-DSA public key created_at" file.createdAt

structure LoadedPublicKey where
  kid : String
  publicKey : lib.scheme.PublicKey

def openPublicFile (file : PublicFile) : Res (LoadedPublicKey lib) := do
  validatePublicFile file
  let kid ← keyId lib file.publicKeyDerHex
  if kid ≠ file.kid then .error (.invalidInput "SLH-DSA public key kid does not match public key")
  else do
    let publicKey ← (lib.scheme.loadPublicKeyDerHex file.publicKeyDerHex).mapError fun _ =>
      .invalidInput "SLH-DSA public key DER is invalid"
    .ok ⟨file.kid, publicKey⟩

def loadPublic (content : String) : Res (LoadedPublicKey lib) :=
  if content.utf8ByteSize > slhDsaPublicFileMaxSizeBytes then
    .error (.invalidInput "SLH-DSA public key file exceeds maximum size")
  else
    match lib.serde.fromStrAs (codecOf publicFileShape) content with
    | none => .error (.invalidInput "SLH-DSA public key file contains invalid JSON")
    | some file => openPublicFile lib file

/-- The file of an artifact: whether it is a regular file, and what is read from it, once it is open. -/
structure Artifact where
  isFile : Res Bool
  reads : Res (List (Res (List UInt8)))

/-- What is read before the end of a file. -/
def chunks : List (Res (List UInt8)) → Res (List (List UInt8))
  | [] => .ok []
  | read :: reads => do
    let bytes ← read
    if bytes = [] then .ok []
    else do
      let rest ← chunks reads
      .ok (bytes :: rest)

def Artifact.content (artifact : Artifact) : Res (List UInt8) := do
  let reads ← artifact.reads
  let chunks ← chunks reads
  .ok chunks.flatten

def artifactHash (artifact : Artifact) : Res String := do
  let isFile ← artifact.isFile
  if !isFile then .error (.invalidInput "SLH-DSA artifact input must be a regular file")
  else do
    let reads ← artifact.reads
    let digest ← lib.artifactHasher.hashReader reads
    .ok (Hex.encode digest)

structure SignOutput where
  kid : String
  algorithm : String
  messageHashAlg : String
  messageHash : String
  deriving DecidableEq, Repr

structure VerifyOutput where
  valid : Bool
  kid : String
  algorithm : String
  messageHashAlg : String
  messageHash : String
  deriving DecidableEq, Repr

structure CompactParts where
  header : String
  payload : String
  headerBytes : List UInt8
  payloadBytes : List UInt8
  signatureBytes : List UInt8

def malformed : DynError := .invalidSignature "SLH-DSA signature is malformed"

def decodeSegment (segment : List Char) : Res (List UInt8) :=
  match lib.base64.decode (String.ofList segment) with
  | some bytes => .ok bytes
  | none => .error (.invalidSignature "SLH-DSA signature contains invalid base64url")

def splitSegments : List (List Char) → Res CompactParts
  | [header, payload, signature] =>
    if header.isEmpty || payload.isEmpty || signature.isEmpty then .error malformed
    else do
      let headerBytes ← decodeSegment lib header
      let payloadBytes ← decodeSegment lib payload
      let signatureBytes ← decodeSegment lib signature
      .ok ⟨String.ofList header, String.ofList payload, headerBytes, payloadBytes, signatureBytes⟩
  | _ => .error malformed

def splitCompactSignature (signature : String) : Res CompactParts :=
  if signature.isEmpty || signature.utf8ByteSize > slhDsaSignatureFileMaxSizeBytes || !signature.toList.all isAscii ||
      signature.toList.any isWhitespace || signature.toList.any isControl then .error malformed
  else splitSegments lib (splitDots signature)

def validateCompactSignatureEncoding (signature : String) : Res Unit := do
  let _ ← splitCompactSignature lib signature
  .ok ()

def signatureHeader : SignatureHeader := ⟨internalSlhDsaVariant, signatureVersion⟩

def artifactPayload (kid createdAt hash : String) : ArtifactPayload :=
  ⟨payloadVersion, artifactType, kid, createdAt, signatureInfo, ⟨internalSlhDsaArtifactHash, hash⟩⟩

/-- The header and the payload in base64url. -/
def signingInput (payload : ArtifactPayload) : Res String := do
  let header ← canonicalJsonV1 lib.serde (codecOf signatureHeaderShape) signatureHeader
  let payload ← canonicalJsonV1 lib.serde (codecOf artifactPayloadShape) payload
  .ok (lib.base64.encode (Utf8.encode header) ++ "." ++ lib.base64.encode (Utf8.encode payload))

/-- The clock and the generator for the signature. -/
structure ArtifactEnv where
  now : Res UInt64
  rng : Res (List UInt8)

def sign (symmetricKeyHex privateFileContent : String) (artifact : Artifact) (env : ArtifactEnv) :
    Res (SignOutput × String) := do
  let loaded ← loadPrivate lib symmetricKeyHex privateFileContent
  let hash ← artifactHash lib artifact
  let createdAt ← currentTimestamp env.now
  let input ← signingInput lib (artifactPayload loaded.kid createdAt hash)
  let rng ← env.rng
  let signature ← lib.scheme.sign rng loaded.privateKey (Utf8.encode input)
  let compact := input ++ "." ++ lib.base64.encode signature
  validateCompactSignatureEncoding lib compact
  .ok (⟨loaded.kid, internalSlhDsaVariant, internalSlhDsaArtifactHash, hash⟩, compact)

def parseCanonicalSegment {T : Type} (codec : Codec T) (bytes : List UInt8) : Res T :=
  match (Utf8.decode bytes).bind (lib.serde.fromStrAs codec) with
  | none => .error (.invalidSignature "SLH-DSA signature contains invalid JSON")
  | some value => do
    let canonical ← canonicalJsonV1 lib.serde codec value
    if Utf8.encode canonical ≠ bytes then .error (.invalidSignature "SLH-DSA signature JSON is not canonical")
    else .ok value

def validateArtifactPayload (payload : ArtifactPayload) (kid : String) : Res Unit := do
  if payload.version ≠ payloadVersion || payload.type ≠ artifactType || payload.kid ≠ kid ||
      payload.info ≠ signatureInfo || payload.messageHash.alg ≠ internalSlhDsaArtifactHash then
    .error (.invalidSignature "SLH-DSA signature payload is not supported")
  else do
    validateTextField "SLH-DSA signature created_at" payload.createdAt
    validateHashHexField "SLH-DSA signature message_hash.hex" payload.messageHash.hex internalSlhDsaArtifactHash

def verify (publicFileContent : String) (artifact : Artifact) (signature : String) : Res VerifyOutput := do
  let loaded ← loadPublic lib publicFileContent
  let parts ← splitCompactSignature lib signature
  let input := parts.header ++ "." ++ parts.payload
  let valid ← lib.scheme.verify loaded.publicKey (Utf8.encode input) parts.signatureBytes
  if !valid then .error (.invalidSignature "SLH-DSA signature verification failed")
  else do
    let header ← parseCanonicalSegment lib (codecOf signatureHeaderShape) parts.headerBytes
    if header.version ≠ signatureVersion || header.algorithm ≠ internalSlhDsaVariant then
      .error (.invalidSignature "SLH-DSA signature header is not supported")
    else do
      let payload ← parseCanonicalSegment lib (codecOf artifactPayloadShape) parts.payloadBytes
      validateArtifactPayload payload loaded.kid
      let hash ← artifactHash lib artifact
      if !constantTimeEq (Utf8.encode hash) (Utf8.encode payload.messageHash.hex) then
        .error (.invalidSignature "artifact hash does not match SLH-DSA signature")
      else .ok ⟨true, loaded.kid, internalSlhDsaVariant, internalSlhDsaArtifactHash, hash⟩

end Operations

/-! ## Ids and hashes -/

variable {lib : SlhLibrary}

/-- The bytes that the id of a public key is the hash of. -/
def keyInput (lib : SlhLibrary) (publicKeyDerHex : String) : List UInt8 :=
  Utf8.encode (lib.serde.toText (keyMaterialValue publicKeyDerHex))

theorem keyMaterial_plain (hex : String) : (keyMaterialValue hex).plain = true := by
  simp [keyMaterialValue, Value.plain, plainEntries, plainEntry]
  decide

theorem keyInput_injective {hex hex' : String} (h : keyInput lib hex = keyInput lib hex') : hex = hex' := by
  have hvalue := toText_injective (keyMaterial_plain hex) (keyMaterial_plain hex') (Utf8.encode_injective h)
  simpa [keyMaterialValue] using hvalue

theorem keyId_ok_iff {hex kid : String} :
    keyId lib hex = .ok kid ↔ ∃ digest, lib.hashBytes (keyInput lib hex) = .ok digest ∧ kid = Hex.encode digest := by
  have hcanonical : canonicalJson lib.serde (keyMaterialValue hex) = .ok (lib.serde.toText (keyMaterialValue hex)) := by
    rw [canonicalJson, normalize_plain _ (keyMaterial_plain hex)]
    rfl
  rw [keyId, hcanonical]
  simp only [Loop.bind_eq_ok, keyInput, Except.ok.injEq, exists_eq_left']
  exact exists_congr fun _ => and_congr_right fun _ => eq_comm

theorem HashFunction.readLoop_ok_iff {hash : HashFunction} {state final : hash.State}
    {reads : List (Res (List UInt8))} :
    hash.readLoop state reads = .ok final ↔ ∃ read, chunks reads = .ok read ∧
    read.foldlM hash.update state = .ok final := by
  induction reads generalizing state with
  | nil => simp [readLoop, chunks, pure, Except.pure]
  | cons read reads ih =>
    cases read with
    | error e => simp [readLoop, chunks, bind, Except.bind]
    | ok bytes =>
      simp only [readLoop, chunks, bind, Except.bind]
      split
      · simp [pure, Except.pure]
      · change (hash.update state bytes >>= fun next => hash.readLoop next reads) = .ok final ↔
          ∃ read, (chunks reads >>= fun rest => .ok (bytes :: rest)) = .ok read ∧
          read.foldlM hash.update state = .ok final
        simp only [Loop.bind_eq_ok, ih]
        constructor
        · rintro ⟨next, hnext, rest, hrest, hfinal⟩
          exact ⟨bytes :: rest, ⟨rest, hrest, rfl⟩, Loop.bind_eq_ok.mpr ⟨next, hnext, hfinal⟩⟩
        · rintro ⟨read, ⟨rest, hrest, hread⟩, hfinal⟩
          cases hread
          obtain ⟨next, hnext, hfinal⟩ := Loop.bind_eq_ok.mp hfinal
          exact ⟨next, hnext, rest, hrest, hfinal⟩

/-- The pieces of a file are hashed as its content. -/
theorem HashFunction.hashReader_ok_iff {hash : HashFunction} {reads : List (Res (List UInt8))} {digest : List UInt8} :
    hash.hashReader reads = .ok digest ↔ ∃ read, chunks reads = .ok read ∧ hash.digest read.flatten = .ok digest := by
  simp only [hashReader, ← hash.digest_eq, Loop.bind_eq_ok, readLoop_ok_iff]
  constructor
  · rintro ⟨state, hstate, final, ⟨read, hread, hfold⟩, hfinal⟩
    exact ⟨read, hread, state, hstate, final, hfold, hfinal⟩
  · rintro ⟨read, hread, state, hstate, final, hfold, hfinal⟩
    exact ⟨state, hstate, final, ⟨read, hread, hfold⟩, hfinal⟩

theorem artifactHash_ok_iff {artifact : Artifact} {hash : String} : artifactHash lib artifact = .ok hash ↔
    artifact.isFile = .ok true ∧ ∃ content digest, artifact.content = .ok content ∧
      lib.artifactHasher.digest content = .ok digest ∧ hash = Hex.encode digest := by
  unfold artifactHash
  rw [Loop.bind_eq_ok]
  constructor
  · rintro ⟨isFile, hfile, h⟩
    obtain ⟨hregular, h⟩ := Loop.guard_eq_ok.mp h
    obtain ⟨reads, hreads, h⟩ := Loop.bind_eq_ok.mp h
    obtain ⟨digest, hdigest, h⟩ := Loop.bind_eq_ok.mp h
    obtain ⟨read, hread, hdigest⟩ := HashFunction.hashReader_ok_iff.mp hdigest
    simp only [Bool.not_eq_true', Bool.not_eq_false] at hregular
    exact ⟨hregular ▸ hfile, _, digest, Loop.bind_eq_ok.mpr ⟨reads, hreads, Loop.bind_eq_ok.mpr ⟨read, hread, rfl⟩⟩,
      hdigest, (Except.ok.inj h).symm⟩
  · rintro ⟨hfile, content, digest, hcontent, hdigest, rfl⟩
    obtain ⟨reads, hreads, hcontent⟩ := Loop.bind_eq_ok.mp hcontent
    obtain ⟨read, hread, hcontent⟩ := Loop.bind_eq_ok.mp hcontent
    cases hcontent
    refine ⟨true, hfile, ?_⟩
    rw [if_neg (by simp)]
    exact Loop.bind_eq_ok.mpr ⟨reads, hreads,
      Loop.bind_eq_ok.mpr ⟨digest, HashFunction.hashReader_ok_iff.mpr ⟨read, hread, hdigest⟩, rfl⟩⟩

/-! ## Creation -/

/-- The values of a creation. -/
structure Creation (lib : SlhLibrary) where
  rng : List UInt8
  privateKey : lib.scheme.PrivateKey
  publicKey : lib.scheme.PublicKey
  privateDer : List UInt8
  publicDer : List UInt8
  kid : String
  seconds : UInt64
  key : List UInt8
  nonce : Vector UInt8 12
  ciphertext : List UInt8

namespace Creation

variable (c : Creation lib)

def createdAt : String := toString c.seconds.toNat

def publicKeyDerHex : String := Hex.encode c.publicDer

def payload : PrivatePayload :=
  ⟨payloadVersion, c.kid, internalSlhDsaVariant, Hex.encode c.privateDer, c.publicKeyDerHex, c.createdAt⟩

def aad : String := buildAad (privateKeyFields c.kid c.createdAt)

def plaintext : List UInt8 := Utf8.encode (lib.serde.toText ((codecOf privatePayloadShape).toValue c.payload))

def privateFile : PrivateFile :=
  ⟨privateFileVersion, c.kid, internalSlhDsaVariant, c.createdAt,
    envelopeText c.ciphertext c.nonce.toList (Utf8.encode c.aad)⟩

def publicFile : PublicFile :=
  ⟨publicFileVersion, c.kid, internalSlhDsaVariant, c.publicKeyDerHex, c.createdAt⟩

/-- The encryption of the payload. -/
def sealing : Sealing := ⟨internalKeysCipher, c.key, c.nonce.toList, Utf8.encode c.aad, c.plaintext, c.ciphertext⟩

def result : CreateOutput × String × String :=
  (⟨c.kid, internalSlhDsaVariant⟩, lib.pretty.toTextPretty c.privateFile.tree,
    lib.pretty.toTextPretty c.publicFile.tree)

/-- They are those of a call. -/
structure Of (symmetricKeyHex : String) (env : CreateEnv) : Prop where
  rng : env.rng = .ok c.rng
  privateKey : lib.scheme.createPrivateKey c.rng = .ok c.privateKey
  publicKey : lib.scheme.publicKey c.privateKey = .ok c.publicKey
  privateDer : lib.scheme.privateKeyDer c.privateKey = .ok c.privateDer
  publicDer : lib.scheme.publicKeyDer c.publicKey = .ok c.publicDer
  kid : keyId lib c.publicKeyDerHex = .ok c.kid
  now : env.now = .ok c.seconds
  key : deriveFileKey lib symmetricKeyHex = .ok c.key
  aad : privateKeyAad c.kid c.createdAt = .ok c.aad
  nonce : env.nonce = .ok c.nonce
  sealing : c.sealing.By lib.aead

end Creation

theorem create_ok {symmetricKeyHex : String} {env : CreateEnv} {result : CreateOutput × String × String}
    (h : create lib symmetricKeyHex env = .ok result) : ∃ c : Creation lib, c.Of symmetricKeyHex env ∧
    result = c.result := by
  obtain ⟨rng, hrng, h⟩ := Loop.bind_eq_ok.mp h
  obtain ⟨privateKey, hprivate, h⟩ := Loop.bind_eq_ok.mp h
  obtain ⟨publicKey, hpublic, h⟩ := Loop.bind_eq_ok.mp h
  obtain ⟨privateDer, hprivateDer, h⟩ := Loop.bind_eq_ok.mp h
  obtain ⟨publicDer, hpublicDer, h⟩ := Loop.bind_eq_ok.mp h
  obtain ⟨kid, hkid, h⟩ := Loop.bind_eq_ok.mp h
  obtain ⟨createdAt, hcreated, h⟩ := Loop.bind_eq_ok.mp h
  obtain ⟨key, hkey, h⟩ := Loop.bind_eq_ok.mp h
  obtain ⟨aad, haad, h⟩ := Loop.bind_eq_ok.mp h
  obtain ⟨keyEnc, hkeyEnc, h⟩ := Loop.bind_eq_ok.mp h
  obtain ⟨nonce, hnonce, hkeyEnc⟩ := Loop.bind_eq_ok.mp hkeyEnc
  obtain ⟨ciphertext, hciphertext, hkeyEnc⟩ := Loop.bind_eq_ok.mp hkeyEnc
  cases h
  cases hkeyEnc
  obtain ⟨seconds, hnow, rfl⟩ := Loop.map_eq_ok.mp hcreated
  obtain rfl := (buildValidatedAad_ok_iff.mp haad).2
  exact ⟨⟨rng, privateKey, publicKey, privateDer, publicDer, kid, seconds, key, nonce, ciphertext⟩,
    ⟨hrng, hprivate, hpublic, hprivateDer, hpublicDer, hkid, hnow, hkey, haad, hnonce, hciphertext⟩, rfl⟩

theorem create_of {symmetricKeyHex : String} {env : CreateEnv} {c : Creation lib} (h : c.Of symmetricKeyHex env) :
    create lib symmetricKeyHex env = .ok c.result := by
  have hcreated : currentTimestamp env.now = .ok c.createdAt := Loop.map_eq_ok.mpr ⟨_, h.now, rfl⟩
  refine Loop.bind_eq_ok.mpr ⟨_, h.rng, Loop.bind_eq_ok.mpr ⟨_, h.privateKey, Loop.bind_eq_ok.mpr ⟨_, h.publicKey, ?_⟩⟩⟩
  refine Loop.bind_eq_ok.mpr ⟨_, h.privateDer, Loop.bind_eq_ok.mpr ⟨_, h.publicDer, Loop.bind_eq_ok.mpr ⟨_, h.kid, ?_⟩⟩⟩
  refine Loop.bind_eq_ok.mpr ⟨_, hcreated, Loop.bind_eq_ok.mpr ⟨_, h.key, Loop.bind_eq_ok.mpr ⟨_, h.aad, ?_⟩⟩⟩
  exact Loop.bind_eq_ok.mpr ⟨_, Loop.bind_eq_ok.mpr ⟨_, h.nonce, Loop.bind_eq_ok.mpr ⟨_, h.sealing, rfl⟩⟩, rfl⟩

/-! ## Loading -/

/-- What a private file was opened to. -/
structure OpenedPrivate (lib : SlhLibrary) (symmetricKeyHex : String) (file : PrivateFile)
    (loaded : LoadedPrivateKey lib) (key : List UInt8) (envelope : DecodedBase64Envelope) (payload : PrivatePayload) :
    Prop where
  valid : validatePrivateFile file = .ok ()
  derived : deriveFileKey lib symmetricKeyHex = .ok key
  decoded : decodeBase64StandardEnvelope "SLH-DSA private key key_enc" file.keyEnc slhDsaPrivateFileMaxSizeBytes
    internalKeysNonceSizeBytes = .ok envelope
  aad : ∃ aad, privateKeyAad file.kid file.createdAt = .ok aad ∧ envelope.aad = Utf8.encode aad
  decrypted : decryptPayload lib key envelope = .ok payload
  checked : validatePrivatePayload file payload = .ok ()
  privateKey : lib.scheme.loadPrivateKeyDerHex payload.privateKeyDerHex = .ok loaded.privateKey
  publicKey : lib.scheme.publicKeyDerHex loaded.privateKey = .ok payload.publicKeyDerHex
  kid : keyId lib payload.publicKeyDerHex = .ok file.kid
  loadedKid : loaded.kid = file.kid

theorem openPrivateFile_ok_iff {symmetricKeyHex : String} {file : PrivateFile} {loaded : LoadedPrivateKey lib} :
    openPrivateFile lib symmetricKeyHex file = .ok loaded ↔
      ∃ key envelope payload, OpenedPrivate lib symmetricKeyHex file loaded key envelope payload := by
  constructor
  · intro h
    obtain ⟨hvalid, h⟩ := Loop.bind_unit_eq_ok.mp h
    obtain ⟨key, hkey, h⟩ := Loop.bind_eq_ok.mp h
    obtain ⟨aad, haad, h⟩ := Loop.bind_eq_ok.mp h
    obtain ⟨envelope, henvelope, h⟩ := Loop.bind_eq_ok.mp h
    obtain ⟨hsame, h⟩ := Loop.guard_eq_ok.mp h
    obtain ⟨payload, hpayload, h⟩ := Loop.bind_eq_ok.mp h
    obtain ⟨hchecked, h⟩ := Loop.bind_unit_eq_ok.mp h
    obtain ⟨privateKey, hprivate, h⟩ := Loop.bind_eq_ok.mp h
    obtain ⟨derivedHex, hderived, h⟩ := Loop.bind_eq_ok.mp h
    obtain ⟨hbound, h⟩ := Loop.guard_eq_ok.mp h
    obtain ⟨kid, hkid, h⟩ := Loop.bind_eq_ok.mp h
    obtain ⟨hsameKid, h⟩ := Loop.guard_eq_ok.mp h
    cases h
    simp only [Bool.not_eq_true', Bool.not_eq_false, constantTimeEq_iff] at hsame hbound
    obtain rfl := Utf8.encode_injective hbound
    obtain rfl : kid = file.kid := Decidable.not_not.mp hsameKid
    exact ⟨key, envelope, payload, hvalid, hkey, henvelope, ⟨aad, haad, hsame⟩, hpayload, hchecked,
      Loop.mapError_eq_ok.mp hprivate, hderived, hkid, rfl⟩
  · rintro ⟨key, envelope, payload, h⟩
    obtain ⟨aad, haad, hsame⟩ := h.aad
    refine Loop.bind_unit_eq_ok.mpr ⟨h.valid, Loop.bind_eq_ok.mpr ⟨key, h.derived, Loop.bind_eq_ok.mpr ⟨aad, haad,
      Loop.bind_eq_ok.mpr ⟨envelope, h.decoded, Loop.guard_eq_ok.mpr ⟨?_, ?_⟩⟩⟩⟩⟩
    · simp [constantTimeEq_iff.mpr hsame]
    refine Loop.bind_eq_ok.mpr ⟨payload, h.decrypted, Loop.bind_unit_eq_ok.mpr ⟨h.checked, Loop.bind_eq_ok.mpr
      ⟨_, Loop.mapError_eq_ok.mpr h.privateKey, Loop.bind_eq_ok.mpr ⟨_, h.publicKey, Loop.guard_eq_ok.mpr ⟨?_, ?_⟩⟩⟩⟩⟩
    · simp [constantTimeEq_iff.mpr rfl]
    refine Loop.bind_eq_ok.mpr ⟨_, h.kid, Loop.guard_eq_ok.mpr ⟨not_not_intro rfl, ?_⟩⟩
    rw [← h.loadedKid]

theorem loadPrivate_ok_iff {symmetricKeyHex content : String} {loaded : LoadedPrivateKey lib} :
    loadPrivate lib symmetricKeyHex content = .ok loaded ↔
      ∃ file, lib.serde.fromStrAs (codecOf privateFileShape) content = some file ∧
      openPrivateFile lib symmetricKeyHex file = .ok loaded := by
  unfold loadPrivate
  cases lib.serde.fromStrAs (codecOf privateFileShape) content with
  | none => simp
  | some file => simp

theorem openPublicFile_ok_iff {file : PublicFile} {loaded : LoadedPublicKey lib} :
    openPublicFile lib file = .ok loaded ↔
    validatePublicFile file = .ok () ∧ keyId lib file.publicKeyDerHex = .ok file.kid ∧
      lib.scheme.loadPublicKeyDerHex file.publicKeyDerHex = .ok loaded.publicKey ∧ loaded.kid = file.kid := by
  constructor
  · intro h
    obtain ⟨hvalid, h⟩ := Loop.bind_unit_eq_ok.mp h
    obtain ⟨kid, hkid, h⟩ := Loop.bind_eq_ok.mp h
    obtain ⟨hsame, h⟩ := Loop.guard_eq_ok.mp h
    obtain ⟨publicKey, hpublic, h⟩ := Loop.bind_eq_ok.mp h
    cases h
    obtain rfl : kid = file.kid := Decidable.not_not.mp hsame
    exact ⟨hvalid, hkid, Loop.mapError_eq_ok.mp hpublic, rfl⟩
  · rintro ⟨hvalid, hkid, hpublic, hloaded⟩
    refine Loop.bind_unit_eq_ok.mpr ⟨hvalid, Loop.bind_eq_ok.mpr ⟨_, hkid,
      Loop.guard_eq_ok.mpr ⟨not_not_intro rfl, ?_⟩⟩⟩
    refine Loop.bind_eq_ok.mpr ⟨_, Loop.mapError_eq_ok.mpr hpublic, ?_⟩
    rw [← hloaded]

theorem loadPublic_ok_iff {content : String} {loaded : LoadedPublicKey lib} : loadPublic lib content = .ok loaded ↔
    content.utf8ByteSize ≤ slhDsaPublicFileMaxSizeBytes ∧
      ∃ file, lib.serde.fromStrAs (codecOf publicFileShape) content = some file ∧
      openPublicFile lib file = .ok loaded := by
  unfold loadPublic
  rw [Loop.guard_eq_ok, Nat.not_lt]
  cases lib.serde.fromStrAs (codecOf publicFileShape) content with
  | none => simp
  | some file => simp

/-! ## Signatures -/

/-- The signing input of a payload. -/
def inputOf (lib : SlhLibrary) (payload : ArtifactPayload) : String :=
  lib.base64.encode (Utf8.encode (lib.serde.toText ((codecOf signatureHeaderShape).toValue signatureHeader))) ++ "." ++
    lib.base64.encode (Utf8.encode (lib.serde.toText ((codecOf artifactPayloadShape).toValue payload)))

theorem canonical_header (serde : SerdeJson) : canonicalJsonV1 serde (codecOf signatureHeaderShape) signatureHeader =
    .ok (serde.toText ((codecOf signatureHeaderShape).toValue signatureHeader)) := rfl

/-- The value of a payload. -/
theorem artifactPayload_value (payload : ArtifactPayload) : (codecOf artifactPayloadShape).toValue payload =
    .object [("created_at", .string payload.createdAt), ("info", .string payload.info), ("kid", .string payload.kid),
      ("message_hash", .object [("alg", .string payload.messageHash.alg), ("hex", .string payload.messageHash.hex)]),
      ("type", .string payload.type), ("version", .string payload.version)] := rfl

theorem canonical_payload (serde : SerdeJson) (payload : ArtifactPayload) :
    canonicalJsonV1 serde (codecOf artifactPayloadShape) payload =
      .ok (serde.toText ((codecOf artifactPayloadShape).toValue payload)) := by
  rw [canonicalJsonV1, artifactPayload_value]
  rfl

theorem dot_not_mem (base64 : Base64Url) (bytes : List UInt8) : '.' ∉ (base64.encode bytes).toList := fun hc =>
  (base64UrlChar_safe (List.all_eq_true.mp (base64.alphabet bytes) '.' hc)).2.2.2 rfl

theorem base64_injective {base64 : Base64Url} {bytes bytes' : List UInt8}
    (h : base64.encode bytes = base64.encode bytes') :
    bytes = bytes' := by
  have hdecode := base64.decode_encode bytes
  rw [h, base64.decode_encode] at hdecode
  exact (Option.some.inj hdecode).symm

theorem signingInput_eq (payload : ArtifactPayload) : signingInput lib payload = .ok (inputOf lib payload) := by
  rw [signingInput, canonical_header, canonical_payload]
  rfl

/-- Inputs with something after them are of one payload. -/
theorem inputOf_injective {payload payload' : ArtifactPayload} {rest rest' : String}
    (h : inputOf lib payload ++ "." ++ rest = inputOf lib payload' ++ "." ++ rest') : payload = payload' := by
  have hlist := congrArg String.toList h
  simp only [inputOf, String.toList_append, List.append_assoc] at hlist
  have hbody := (segments_eq (dot_not_mem _ _) (dot_not_mem _ _) (dot_not_mem _ _) (dot_not_mem _ _) hlist).2
  have htext := Utf8.encode_injective (base64_injective (String.toList_injective hbody))
  exact codecOf_injective (toText_injective (codecOf_plain _ payload) (codecOf_plain _ payload') htext)

theorem sign_ok_iff {symmetricKeyHex content text : String} {artifact : Artifact} {env : ArtifactEnv}
    {output : SignOutput} :
    sign lib symmetricKeyHex content artifact env = .ok (output, text) ↔
      ∃ (loaded : LoadedPrivateKey lib) (hash createdAt : String) (rng signature : List UInt8),
        loadPrivate lib symmetricKeyHex content = .ok loaded ∧ artifactHash lib artifact = .ok hash ∧
        currentTimestamp env.now = .ok createdAt ∧ env.rng = .ok rng ∧
        lib.scheme.sign rng loaded.privateKey (Utf8.encode (inputOf lib (artifactPayload loaded.kid createdAt hash))) =
          .ok signature ∧
        text = inputOf lib (artifactPayload loaded.kid createdAt hash) ++ "." ++ lib.base64.encode signature ∧
        validateCompactSignatureEncoding lib text = .ok () ∧
        output = ⟨loaded.kid, internalSlhDsaVariant, internalSlhDsaArtifactHash, hash⟩ := by
  constructor
  · intro h
    obtain ⟨loaded, hloaded, h⟩ := Loop.bind_eq_ok.mp h
    obtain ⟨hash, hhash, h⟩ := Loop.bind_eq_ok.mp h
    obtain ⟨createdAt, hcreated, h⟩ := Loop.bind_eq_ok.mp h
    obtain ⟨input, hinput, h⟩ := Loop.bind_eq_ok.mp h
    obtain ⟨rng, hrng, h⟩ := Loop.bind_eq_ok.mp h
    obtain ⟨signature, hsignature, h⟩ := Loop.bind_eq_ok.mp h
    obtain ⟨hvalid, h⟩ := Loop.bind_unit_eq_ok.mp h
    rw [signingInput_eq] at hinput
    cases hinput
    cases h
    exact ⟨loaded, hash, createdAt, rng, signature, hloaded, hhash, hcreated, hrng, hsignature, rfl, hvalid, rfl⟩
  · rintro ⟨loaded, hash, createdAt, rng, signature, hloaded, hhash, hcreated, hrng, hsignature, rfl, hvalid, rfl⟩
    refine Loop.bind_eq_ok.mpr ⟨loaded, hloaded, Loop.bind_eq_ok.mpr ⟨hash, hhash, Loop.bind_eq_ok.mpr ⟨createdAt,
      hcreated, Loop.bind_eq_ok.mpr ⟨_, signingInput_eq _, Loop.bind_eq_ok.mpr ⟨rng, hrng,
        Loop.bind_eq_ok.mpr ⟨signature, hsignature, Loop.bind_unit_eq_ok.mpr ⟨hvalid, rfl⟩⟩⟩⟩⟩⟩⟩

/-- What is verified: the parts of the text, the payload and the hash. -/
theorem verify_ok_iff {content text : String} {artifact : Artifact} {output : VerifyOutput} :
    verify lib content artifact text = .ok output ↔
      ∃ (loaded : LoadedPublicKey lib) (parts : CompactParts) (payload : ArtifactPayload),
        loadPublic lib content = .ok loaded ∧ splitCompactSignature lib text = .ok parts ∧
        lib.scheme.verify loaded.publicKey (Utf8.encode (parts.header ++ "." ++ parts.payload)) parts.signatureBytes =
          .ok true ∧
        parseCanonicalSegment lib (codecOf signatureHeaderShape) parts.headerBytes = .ok signatureHeader ∧
        parseCanonicalSegment lib (codecOf artifactPayloadShape) parts.payloadBytes = .ok payload ∧
        validateArtifactPayload payload loaded.kid = .ok () ∧ artifactHash lib artifact = .ok payload.messageHash.hex ∧
        output = ⟨true, loaded.kid, internalSlhDsaVariant, internalSlhDsaArtifactHash, payload.messageHash.hex⟩ := by
  constructor
  · intro h
    obtain ⟨loaded, hloaded, h⟩ := Loop.bind_eq_ok.mp h
    obtain ⟨parts, hparts, h⟩ := Loop.bind_eq_ok.mp h
    obtain ⟨valid, hverify, h⟩ := Loop.bind_eq_ok.mp h
    obtain ⟨hvalid, h⟩ := Loop.guard_eq_ok.mp h
    obtain ⟨header, hheader, h⟩ := Loop.bind_eq_ok.mp h
    obtain ⟨hversion, h⟩ := Loop.guard_eq_ok.mp h
    obtain ⟨payload, hpayload, h⟩ := Loop.bind_eq_ok.mp h
    obtain ⟨hfields, h⟩ := Loop.bind_unit_eq_ok.mp h
    obtain ⟨hash, hhash, h⟩ := Loop.bind_eq_ok.mp h
    obtain ⟨hsame, h⟩ := Loop.guard_eq_ok.mp h
    cases h
    simp only [Bool.not_eq_true', Bool.not_eq_false] at hvalid
    simp only [Bool.not_eq_true', Bool.not_eq_false, constantTimeEq_iff] at hsame
    obtain rfl := Utf8.encode_injective hsame
    simp only [Bool.or_eq_true, decide_eq_true_eq, not_or, ne_eq, Decidable.not_not] at hversion
    obtain ⟨algorithm, version⟩ := header
    obtain ⟨rfl, rfl⟩ := hversion
    exact ⟨loaded, parts, payload, hloaded, hparts, hvalid ▸ hverify, hheader, hpayload, hfields, hhash, rfl⟩
  · rintro ⟨loaded, parts, payload, hloaded, hparts, hverify, hheader, hpayload, hfields, hhash, rfl⟩
    refine Loop.bind_eq_ok.mpr ⟨loaded, hloaded, Loop.bind_eq_ok.mpr ⟨parts, hparts, Loop.bind_eq_ok.mpr ⟨true, hverify,
      Loop.guard_eq_ok.mpr ⟨by simp, Loop.bind_eq_ok.mpr ⟨_, hheader,
        Loop.guard_eq_ok.mpr ⟨by simp [signatureHeader], ?_⟩⟩⟩⟩⟩⟩
    refine Loop.bind_eq_ok.mpr ⟨payload, hpayload, Loop.bind_unit_eq_ok.mpr ⟨hfields, Loop.bind_eq_ok.mpr ⟨_, hhash,
      Loop.guard_eq_ok.mpr ⟨?_, rfl⟩⟩⟩⟩
    simp [constantTimeEq_iff.mpr rfl]

end Vectis.Ops.SlhDsa

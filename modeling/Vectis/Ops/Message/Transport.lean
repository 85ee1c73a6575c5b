import Vectis.Ops.Message.Protected

/-!
# Sizes of messages

Bodies of requests are bounded (`INTERNAL_HTTP_MAX_SIZE`). A ciphertext is written in hex, which doubles it, and wrapped
in an envelope with keys and signatures.

- `bytes_token`: the size of the envelope of a message, which is linear in the size of the message;
- `bytes_delivery`: the size of the request that decrypts what the recipient stored;
- `internal_fits`: messages of `encrypt_internal_message` are bounded, and so are their envelopes;
- `message_transport_iff`: a message that is sent has no bound of its own. Its envelope fits exactly when the message
  leaves room for the envelope around it.
-/

namespace Vectis.Ops.Message

open Vectis.Core Vectis.Core.Validation Vectis.Core.Profiles Vectis.Core.Crypto Vectis.Core.Canonical Vectis.Ops.Keys
open Vectis.Core.Tokenization Vectis.Core.Subjects Vectis.Ops.Contracts Vectis.Ops.Sign Json
open Vectis.Core.AuditChain (currentTimestamp)

/-! ## Bodies -/

/-- `config::INTERNAL_HTTP_MAX_SIZE`. -/
def internalHttpMaxSize : Nat := 2 * 1024 * 1024

/-- The body of `serde_json::to_vec`, with the fields in the order of the source. -/
def signatureBlockBody (block : SignatureBlock) : Value :=
  .object [("alg", .string block.alg), ("sig", .string block.sig)]

def payloadBody (payload : ProtectedMessagePayload) : Value :=
  .object [("version", .string payload.version), ("type", .string payload.tokenType),
    ("created_at", .string payload.createdAt),
    ("sender", .object [("host", .string payload.sender.host), ("kid", .string payload.sender.kid)]),
    ("recipient", .object [("kid", .string payload.recipientKid)]),
    ("kem", .object [("alg", .string payload.kem.alg),
      ("xecdh_ephemeral_public", .string payload.kem.xecdhEphemeralPublic),
      ("ml_kem_ciphertext", .string payload.kem.mlKemCiphertext), ("ml_kem_salt", .string payload.kem.mlKemSalt),
      ("hkdf_salt", .string payload.kem.hkdfSalt)]),
    ("cipher", .object [("alg", .string payload.cipher.alg), ("nonce", .string payload.cipher.nonce),
      ("aad", .string payload.cipher.aad), ("ct", .string payload.cipher.ct)])]

def tokenBody (token : ProtectedMessageToken) : Value :=
  .object [("version", .string token.version), ("payload", payloadBody token.payload),
    ("signatures", .object [("eddsa", signatureBlockBody token.signatures.eddsa),
      ("ml-dsa", signatureBlockBody token.signatures.mlDsa)])]

def cipherTextBody (message : MessageCipherText) : Value :=
  .object [("ctx", .string message.ctx), ("nonce", .string message.nonce), ("aad", .string message.aad),
    ("variant", .string message.variant)]

def decryptBody (input : DecryptMessageInput) : Value :=
  .object [("sender_host", .string input.senderHost), ("sender_kid", .string input.senderKid),
    ("timestamp", .string input.timestamp), ("message", cipherTextBody input.message)]

/-- The subject is left out when there is none. -/
def subjectEntry : Option String → List (String × Value)
  | none => []
  | some subject => [("subject", .string subject)]

def internalBody (output : InternalMessageOutput) : Value :=
  .object (("timestamp", .string output.timestamp) :: ("kid", .string output.kid) ::
    (subjectEntry output.subject ++ [("message", cipherTextBody output.message)]))

/-- The body is within the limit of the receiver. -/
def Fits (body : Value) : Prop := bytes body.render ≤ internalHttpMaxSize

/-! ## Sizes of texts -/

theorem entryBytes_string (key text : String) :
    entryBytes (key, .string text) = textBytes key + textBytes text + 6 := by
  simp only [entryBytes, Value.render, bytes_renderString_eq]
  omega

theorem entryBytes_object (key : String) (entry : String × Value) (entries : List (String × Value)) :
    entryBytes (key, .object (entry :: entries)) = textBytes key + ((entry :: entries).map entryBytes).sum + 5 := by
  simp only [entryBytes, bytes_object_eq, bytes_renderString_eq]
  omega

theorem hexdigit_written {c : Char} (h : isAsciiHexdigit c = true) : escapeChar c = [c] ∧ c.utf8Size = 1 := by
  have hall : ∀ n : Fin 128, isAsciiHexdigit (Char.ofNat n) = true →
      escapeChar (Char.ofNat n) = [Char.ofNat n] ∧ (Char.ofNat n).utf8Size = 1 := by decide
  have hlt : c.toNat < 128 := Nat.lt_succ_of_le (UInt32.le_iff_toNat_le.mp (isAscii_of_hexdigit h))
  have hc := hall ⟨c.toNat, hlt⟩
  rw [Char.ofNat_toNat] at hc
  exact hc h

theorem textBytes_hexdigits {text : String} (h : text.toList.all isAsciiHexdigit = true) :
    textBytes text = text.utf8ByteSize := by
  have hall := List.all_eq_true.mp h
  rw [textBytes_plain fun c hc => hexdigit_written (hall c hc), ← String.length_toList,
    Utf8.utf8ByteSize_ascii fun c hc => isAscii_of_hexdigit (hall c hc)]

theorem textBytes_hexEncode (data : List UInt8) : textBytes (Hex.encode data) = 2 * data.length := by
  rw [textBytes_hexdigits (List.all_eq_true.mpr fun c hc => hexdigit_encode hc), utf8ByteSize_hexEncode]

theorem textBytes_kid {kid : String} (h : parseKeyId kid = .ok ()) : textBytes kid = 64 := by
  obtain ⟨hsize, hhex⟩ := validateInternalHash_ok_iff.mp h
  rw [textBytes_hexdigits hhex, hsize]

theorem textBytes_seconds (seconds : UInt64) : textBytes (toString seconds.toNat) ≤ 20 := by
  have htext : (toString seconds.toNat).toList = Nat.toDigits 10 seconds.toNat := by simp [toString, Nat.repr]
  have hdigits : ∀ c ∈ Nat.toDigits 10 seconds.toNat, isAsciiHexdigit c = true := by
    intro c hc
    have hdigit := toDigits_isDigit c hc
    simp only [Char.isDigit, Bool.and_eq_true, decide_eq_true_eq] at hdigit
    simp only [isAsciiHexdigit, isAsciiDigit, Bool.or_eq_true, Bool.and_eq_true, decide_eq_true_eq]
    exact Or.inl (Or.inl hdigit)
  rw [textBytes_plain fun c hc => hexdigit_written (hdigits c (htext ▸ hc)), ← String.length_toList, htext]
  exact (Nat.length_toDigits_le_iff (by decide) (by decide)).mpr (Nat.lt_trans seconds.toNat_lt (by decide))

theorem textBytes_timestamp {now : Res UInt64} {text : String} (h : currentTimestamp now = .ok text) :
    textBytes text ≤ 20 := by
  obtain ⟨seconds, -, rfl⟩ := Loop.map_eq_ok.mp h
  exact textBytes_seconds seconds

/-- Associated data is its keys and values, with a character after each of them but the last. -/
theorem textBytes_buildAad : ∀ (field : String × String) (fields : AadFields),
    textBytes (buildAad (field :: fields)) + 1 = ((field :: fields).map fun f => textBytes f.1 + textBytes f.2 + 2).sum
  | (key, value), [] => by
    have heq : bytes (escapeChar '=') = 1 := by decide
    simp only [textBytes, buildAad, String.toList_ofList, List.map_cons, List.map_nil, List.intercalate_singleton,
      aadPart, List.flatMap_append, List.flatMap_cons, bytes_append, heq, List.sum_cons, List.sum_nil]
    omega
  | (key, value), next :: fields => by
    have ih := textBytes_buildAad next fields
    have heq : bytes (escapeChar '=') = 1 := by decide
    have hsemi : bytes (escapeChar ';') = 1 := by decide
    have hsplit : (buildAad ((key, value) :: next :: fields)).toList
        = key.toList ++ '=' :: value.toList ++ ';' :: (buildAad (next :: fields)).toList := by
      simp [buildAad, aadPart, List.intercalate]
    rw [List.map_cons, List.sum_cons, ← ih]
    simp only [textBytes, hsplit, List.flatMap_append, List.flatMap_cons, bytes_append, heq, hsemi]
    omega

/-! ## Sizes of bodies -/

theorem bytes_cipherTextEntries (message : MessageCipherText) : entryBytes ("message", cipherTextBody message) =
    54 + textBytes message.ctx + textBytes message.nonce + textBytes message.aad + textBytes message.variant := by
  have hkeys : textBytes "message" = 7 ∧ textBytes "ctx" = 3 ∧ textBytes "nonce" = 5 ∧ textBytes "aad" = 3 ∧
      textBytes "variant" = 7 := by decide
  simp only [cipherTextBody, entryBytes_object, entryBytes_string, hkeys, List.map_cons, List.map_nil, List.sum_cons,
    List.sum_nil]
  omega

theorem bytes_decryptBody (input : DecryptMessageInput) : bytes (decryptBody input).render =
    103 + textBytes input.senderHost + textBytes input.senderKid + textBytes input.timestamp + textBytes
      input.message.ctx + textBytes input.message.nonce + textBytes input.message.aad + textBytes
      input.message.variant := by
  have hkeys : textBytes "sender_host" = 11 ∧ textBytes "sender_kid" = 10 ∧ textBytes "timestamp" = 9 := by decide
  simp only [decryptBody, bytes_object_eq, entryBytes_string, bytes_cipherTextEntries, hkeys, List.map_cons,
    List.map_nil, List.sum_cons, List.sum_nil]
  omega

theorem bytes_subjectEntry {subject : Option String} (h : ∀ text ∈ subject, validateSubject text = .ok ()) :
    ((subjectEntry subject).map entryBytes).sum ≤ 77 := by
  cases subject with
  | none => simp [subjectEntry]
  | some text =>
    obtain ⟨hsize, hhex⟩ := validateSubject_ok (h text rfl)
    have hkey : textBytes "subject" = 7 := by decide
    simp only [subjectEntry, List.map_cons, List.map_nil, List.sum_cons, List.sum_nil, entryBytes_string, hkey,
      textBytes_hexdigits hhex, hsize]
    omega

theorem bytes_internalBody (output : InternalMessageOutput) : bytes (internalBody output).render =
    79 + ((subjectEntry output.subject).map entryBytes).sum + textBytes output.timestamp + textBytes output.kid +
      textBytes output.message.ctx + textBytes output.message.nonce + textBytes output.message.aad +
      textBytes output.message.variant := by
  have hkeys : textBytes "timestamp" = 9 ∧ textBytes "kid" = 3 := by decide
  simp only [internalBody, bytes_object_eq, entryBytes_string, bytes_cipherTextEntries, hkeys, List.map_cons,
    List.map_nil, List.map_append, List.sum_append, List.sum_cons, List.sum_nil]
  omega

def payloadTexts (payload : ProtectedMessagePayload) : List String :=
  [payload.version, payload.tokenType, payload.createdAt, payload.sender.host, payload.sender.kid, payload.recipientKid,
    payload.kem.alg, payload.kem.xecdhEphemeralPublic, payload.kem.mlKemCiphertext, payload.kem.mlKemSalt,
    payload.kem.hkdfSalt, payload.cipher.alg, payload.cipher.nonce, payload.cipher.aad, payload.cipher.ct]

theorem bytes_payloadEntry (payload : ProtectedMessagePayload) : entryBytes ("payload", payloadBody payload) =
    252 + ((payloadTexts payload).map textBytes).sum := by
  have hkeys : textBytes "payload" = 7 ∧ textBytes "version" = 7 ∧ textBytes "type" = 4 ∧ textBytes "created_at" = 10 ∧
      textBytes "sender" = 6 ∧ textBytes "host" = 4 ∧ textBytes "kid" = 3 ∧ textBytes "recipient" = 9 := by decide
  have hkem : textBytes "kem" = 3 ∧ textBytes "alg" = 3 ∧ textBytes "xecdh_ephemeral_public" = 22 ∧
      textBytes "ml_kem_ciphertext" = 17 ∧ textBytes "ml_kem_salt" = 11 ∧ textBytes "hkdf_salt" = 9 := by decide
  have hcipher : textBytes "cipher" = 6 ∧ textBytes "nonce" = 5 ∧ textBytes "aad" = 3 ∧ textBytes "ct" = 2 := by decide
  simp only [payloadBody, payloadTexts, entryBytes_object, entryBytes_string, hkeys, hkem, hcipher, List.map_cons,
    List.map_nil, List.sum_cons, List.sum_nil]
  omega

theorem bytes_tokenBody (token : ProtectedMessageToken) : bytes (tokenBody token).render =
    338 + textBytes token.version + ((payloadTexts token.payload).map textBytes).sum +
      textBytes token.signatures.eddsa.alg + textBytes token.signatures.eddsa.sig + textBytes
      token.signatures.mlDsa.alg +
      textBytes token.signatures.mlDsa.sig := by
  have hkeys : textBytes "version" = 7 ∧ textBytes "signatures" = 10 ∧ textBytes "eddsa" = 5 ∧ textBytes "ml-dsa" = 6 ∧
      textBytes "alg" = 3 ∧ textBytes "sig" = 3 := by decide
  simp only [tokenBody, signatureBlockBody, bytes_object_eq, bytes_payloadEntry, entryBytes_object, entryBytes_string,
    hkeys, List.map_cons, List.map_nil, List.sum_cons, List.sum_nil]
  omega

/-! ## Sizes of associated data -/

theorem buildValidatedAad_bytes {field : String × String} {fields : AadFields} {aad : String}
    (h : buildValidatedAad (field :: fields) = .ok aad) :
    textBytes aad + 1 = ((field :: fields).map fun f => textBytes f.1 + textBytes f.2 + 2).sum := by
  rw [← (buildValidatedAad_ok_iff.mp h).2]
  exact textBytes_buildAad field fields

theorem bytes_messageAad {version createdAt senderHost senderKid recipientKid kemAlg cipherAlg aad : String}
    (h : buildMessageAad version createdAt senderHost senderKid recipientKid kemAlg cipherAlg = .ok aad) :
      textBytes aad = 104 + textBytes version + textBytes createdAt + textBytes senderHost + textBytes
        senderKid + textBytes recipientKid + textBytes kemAlg + textBytes cipherAlg := by
  have hbytes := buildValidatedAad_bytes h
  have hkeys : textBytes "version" = 7 ∧ textBytes "type" = 4 ∧ textBytes protectedMessageType = 17 ∧
      textBytes "created_at" = 10 ∧ textBytes "sender_host" = 11 ∧ textBytes "sender_kid" = 10 ∧
      textBytes "recipient_kid" = 13 ∧ textBytes "kem_alg" = 7 ∧ textBytes "cipher_alg" = 10 := by decide
  simp only [hkeys, List.map_cons, List.map_nil, List.sum_cons, List.sum_nil] at hbytes
  omega

theorem bytes_storedAad {version senderKid recipientKid sourceCreatedAt cipherAlg aad : String}
    (h : buildStoredProtectedMessageAad version senderKid recipientKid sourceCreatedAt cipherAlg = .ok aad) :
      textBytes aad = 96 + textBytes version + textBytes senderKid + textBytes recipientKid + textBytes
        sourceCreatedAt + textBytes cipherAlg := by
  have hbytes := buildValidatedAad_bytes h
  have hkeys : textBytes "version" = 7 ∧ textBytes "type" = 4 ∧ textBytes "stored-protected-message" = 24 ∧
      textBytes "sender_kid" = 10 ∧ textBytes "recipient_kid" = 13 ∧ textBytes "source_created_at" = 17 ∧
      textBytes "cipher_alg" = 10 := by decide
  simp only [hkeys, List.map_cons, List.map_nil, List.sum_cons, List.sum_nil] at hbytes
  omega

theorem bytes_internalAad {kid timestamp algorithm aad : String} {subject : Option SubjectMaterial}
    (hsubject : ∀ material ∈ subject, validateSubject material.subject = .ok ())
    (h : internalAad kid timestamp algorithm subject = .ok aad) :
    textBytes aad ≤ 134 + textBytes kid + textBytes timestamp + textBytes algorithm := by
  have hkeys : textBytes "version" = 7 ∧ textBytes "type" = 4 ∧ textBytes "kid" = 3 ∧ textBytes "timestamp" = 9 ∧
      textBytes "cipher_alg" = 10 ∧ textBytes "v1" = 2 ∧ textBytes protocolVersionV1 = 2 := by decide
  have htypes : textBytes "internal-message" = 16 ∧ textBytes "subject-symmetric" = 17 ∧
      textBytes "subject" = 7 := by decide
  cases subject with
  | none =>
    have hbytes := buildValidatedAad_bytes h
    simp only [hkeys, htypes, List.map_cons, List.map_nil, List.sum_cons, List.sum_nil] at hbytes
    omega
  | some material =>
    have hbytes := buildValidatedAad_bytes h
    obtain ⟨hsize, hhex⟩ := validateSubject_ok (hsubject material rfl)
    simp only [hkeys, htypes, textBytes_hexdigits hhex, hsize, List.map_cons, List.map_nil, List.sum_cons,
      List.sum_nil] at hbytes
    omega

/-! ## Internal messages -/

theorem textBytes_algorithm {algorithm : String} {cipher : SymmetricCipherSpec}
    (h : symmetricCipher algorithm = some cipher) :
    textBytes cipher.algorithm ≤ 16 ∧ cipher.nonceSizeBytes ≤ 24 := by
  unfold symmetricCipher at h
  split at h <;> cases h <;> decide

section Internal

variable {hkdf : Hkdf} {aead : Aead} {serde : SerdeJson}

theorem InternalEncryption.Ran.plaintext_le {e : InternalEncryption} (h : e.Ran hkdf aead serde) :
    e.plaintext.utf8ByteSize ≤ internalMessagePlaintextMaxSize := by
  obtain ⟨first, hfirst, -⟩ := Loop.bind_eq_ok.mp h.prepared
  rw [prepareInternalEncryptMessage, Loop.bind_unit_eq_ok, Loop.bind_unit_eq_ok, validateInternalEncryptMessageInput,
    Loop.bind_unit_eq_ok, Loop.guard_eq_ok] at hfirst
  exact Nat.le_of_not_lt hfirst.2.1.2.1

/-- What `encrypt_internal_message` returns can be sent back to be decrypted. -/
theorem internal_fits (haead : aead.Tagged) {e : InternalEncryption} (h : e.Ran hkdf aead serde) {now : Res UInt64}
    (hnow : currentTimestamp now = .ok e.timestamp) : Fits (internalBody e.output) := by
  obtain ⟨cipher, key, ciphertext, hparts⟩ := h.parts
  have hprepared := h.isPrepared
  have hplaintext := h.plaintext_le
  have hkid := textBytes_kid hprepared.kid
  have htime := textBytes_timestamp hnow
  obtain ⟨halgorithm, hnonceMax⟩ := textBytes_algorithm hparts.supported
  have hsubject : ∀ material ∈ e.prepared.subject, validateSubject material.subject = .ok () := fun material hm =>
    (hprepared.subject material hm).1
  have haad := bytes_internalAad hsubject ((internalAad_eq _ _ _ _).trans hparts.built)
  have hlength := haead.encrypt _ _ _ _ _ _ hparts.encrypted
  rw [Utf8.length_encode, hprepared.plaintext, tagSizeBytes] at hlength
  have hvariant : e.output.message.variant = cipher.algorithm := by rw [hparts.output]
  have hnonce := h.nonce cipher (by
    rw [hvariant, (symmetricCipher_some hparts.supported).1]
    exact hparts.supported)
  have hentry : ((subjectEntry (e.prepared.subject.map SubjectMaterial.subject)).map entryBytes).sum ≤ 77 := by
    refine bytes_subjectEntry fun text htext => ?_
    obtain ⟨material, hm, rfl⟩ := Option.map_eq_some_iff.mp htext
    exact hsubject material hm
  rw [Fits, bytes_internalBody, hparts.output]
  simp only [textBytes_hexEncode]
  unfold internalMessagePlaintextMaxSize at hplaintext
  unfold internalHttpMaxSize
  omega

end Internal

/-! ## Messages to other nodes -/

/-- The sizes of what the library makes with a key: signatures, ephemeral keys and encapsulated keys. -/
structure MessageSizes where
  eddsaSignature : (privateKeyDerHex : String) → Nat
  mlDsaSignature : (privateKeyDerHex : String) → Nat
  ephemeralKey : (algorithm : String) → Nat
  mlKemCiphertext : (publicKeyDerHex : String) → Nat

structure MessageSizes.Laws (sizes : MessageSizes) (lib : MessageLibrary) : Prop where
  eddsa : ∀ hex key rng text signature, lib.eddsa.loadPrivateKeyDerHex hex = .ok key →
    lib.eddsa.sign rng key text = .ok signature → signature.length = sizes.eddsaSignature hex
  mlDsa : ∀ hex key rng text signature, lib.mlDsa.loadPrivateKeyDerHex hex = .ok key →
    lib.mlDsa.sign rng key text = .ok signature → signature.length = sizes.mlDsaSignature hex
  ephemeral : ∀ rng algorithm key publicKey, lib.agreement.createPrivateKey rng algorithm = .ok key →
    lib.agreement.publicKey key = .ok publicKey → publicKey.length = sizes.ephemeralKey algorithm
  mlKem : ∀ hex key rng salt size encapsulation, lib.kem.loadPublicKeyDerHex hex = .ok key →
    lib.kem.encapsulate rng key salt size = .ok encapsulation →
      encapsulation.encapsulatedKey.length = sizes.mlKemCiphertext hex

/-- `random_bytes_with_rng` gives as many bytes as it is asked for. -/
structure EnvelopeDraws.Sized (draws : EnvelopeDraws) : Prop where
  mlKemSalt : ∀ salt, draws.mlKemSalt = .ok salt → salt.length = 32
  hkdfSalt : ∀ salt, draws.hkdfSalt = .ok salt → salt.length = 32
  nonce : ∀ size nonce, draws.nonce size = .ok nonce → nonce.length = size

/-- The bytes of the nonce of the cipher of the key. -/
def nonceBytes (key : OpsKey) : Nat :=
  ((symmetricCipher key.symmetric.variant).map SymmetricCipherSpec.nonceSizeBytes).getD 0

/-- What an envelope has besides its ciphertext: names and punctuation, texts that stand in it twice (once in the
associated data), and hex of keys, salts, the nonce and signatures. -/
def envelopeOverhead (sizes : MessageSizes) (config : SenderConfig) (senderKey : OpsKey) (recipientKid : String)
    (peer : PublicKeys) (createdAt : String) : Nat :=
  463 + textBytes config.protocolVersion + textBytes senderKey.keyMaterial.eddsa.variant +
    textBytes senderKey.keyMaterial.mlDsa.variant +
    2 * (textBytes createdAt + textBytes config.publicAddr + textBytes senderKey.id + textBytes recipientKid +
      textBytes (hybridKemAlg peer.xecdh.alg peer.mlKem.alg) + textBytes senderKey.symmetric.variant) +
    2 * (sizes.ephemeralKey peer.xecdh.alg + sizes.mlKemCiphertext peer.mlKem.publicKeyDerHex + 64 + nonceBytes
      senderKey + sizes.eddsaSignature senderKey.keyMaterial.eddsa.privateKeyDerHex +
      sizes.mlDsaSignature senderKey.keyMaterial.mlDsa.privateKeyDerHex)

section Envelope

variable {lib : MessageLibrary} {addr : AddrLibrary} {sizes : MessageSizes} {config : SenderConfig} {senderKey : OpsKey}
  {recipient : RemotePublicKeys} {message : String} {env : EnvelopeEnv} {envelope : ProtectedMessageToken}

theorem bytes_signatures (hsizes : sizes.Laws lib) {rng : List UInt8 × List UInt8} {payload : ProtectedMessagePayload}
    {signatures : MessageSignatures} (h : signMessagePayload lib rng senderKey payload = .ok signatures) :
    textBytes signatures.eddsa.alg + textBytes signatures.eddsa.sig + textBytes signatures.mlDsa.alg +
        textBytes signatures.mlDsa.sig =
      textBytes senderKey.keyMaterial.eddsa.variant + textBytes senderKey.keyMaterial.mlDsa.variant +
        2 * (sizes.eddsaSignature senderKey.keyMaterial.eddsa.privateKeyDerHex +
          sizes.mlDsaSignature senderKey.keyMaterial.mlDsa.privateKeyDerHex) := by
  obtain ⟨text, -, h⟩ := Loop.bind_eq_ok.mp h
  obtain ⟨eddsaKey, heddsaKey, h⟩ := Loop.bind_eq_ok.mp h
  obtain ⟨mlDsaKey, hmlDsaKey, h⟩ := Loop.bind_eq_ok.mp h
  obtain ⟨eddsa, heddsa, h⟩ := Loop.bind_eq_ok.mp h
  obtain ⟨mlDsa, hmlDsa, h⟩ := Loop.bind_eq_ok.mp h
  cases h
  simp only [textBytes_hexEncode, hsizes.eddsa _ _ _ _ _ heddsaKey heddsa, hsizes.mlDsa _ _ _ _ _ hmlDsaKey hmlDsa]
  omega

/-- The size of an envelope is twice the size of its ciphertext, and what stands around it. -/
theorem bytes_token (haead : lib.aead.Tagged) (hsizes : sizes.Laws lib) {seconds : UInt64}
    (h : createMessageEnvelope lib config senderKey recipient message env = .ok envelope) (hnow : env.now = .ok seconds)
    (hdraws : ∀ draws, env.rng = .ok draws → draws.Sized) : bytes (tokenBody envelope).render =
      2 * (message.utf8ByteSize + tagSizeBytes) +
        envelopeOverhead sizes config senderKey recipient.kid recipient.keys (toString seconds.toNat) := by
  obtain ⟨run, hrun, hversion, hpayload, hsign⟩ := createMessageEnvelope_ok_iff.mp h
  have hsignatures := bytes_signatures hsizes hsign
  have hdraws := hdraws _ hrun.rng
  have haad := bytes_messageAad hrun.aad
  have hciphertext := haead.encrypt _ _ _ _ _ _ hrun.ciphertext
  rw [Utf8.length_encode] at hciphertext
  have hephemeral := hsizes.ephemeral _ _ _ _ hrun.ephemeralPrivateKey hrun.ephemeralPublicKey
  have hmlKem := hsizes.mlKem _ _ _ _ _ _ hrun.mlKemPublicKey hrun.mlKem
  have hsalts := And.intro (hdraws.mlKemSalt _ hrun.mlKemSalt) (hdraws.hkdfSalt _ hrun.hkdfSalt)
  have hnonce := hdraws.nonce _ _ hrun.nonce
  have hnonceBytes : nonceBytes senderKey = run.cipher.nonceSizeBytes := by simp [nonceBytes, hrun.cipher]
  have hcreated : run.createdAt = toString seconds.toNat := by
    have hclock := hrun.createdAt
    rw [hnow] at hclock
    exact (Except.ok.inj hclock).symm
  have hconstants : textBytes protocolVersionV1 = 2 ∧ textBytes protectedMessageType = 17 := by decide
  rw [(symmetricCipher_some hrun.cipher).1] at haad
  rw [bytes_tokenBody, hversion, hpayload]
  simp only [payloadTexts, EnvelopeRun.payload, textBytes_hexEncode, (symmetricCipher_some hrun.cipher).1, hconstants,
    List.map_cons, List.map_nil, List.sum_cons, List.sum_nil]
  unfold envelopeOverhead
  rw [hnonceBytes, ← hcreated]
  omega

theorem encryptLocalMessage_ok {aead : Aead} {nonce : Res (List UInt8)} {recipientKey : OpsKey} {plaintext : String}
    {source : LocalSource} {output : LocalCipherOutput}
    (h : encryptLocalMessage aead nonce recipientKey plaintext source = .ok output) : ∃ cipher drawn ciphertext,
      symmetricCipher recipientKey.symmetric.variant = some cipher ∧ nonce = .ok drawn ∧
      buildStoredProtectedMessageAad source.version source.senderKid recipientKey.id source.createdAt cipher.algorithm =
        .ok output.aad ∧
      (∃ key, aead.encrypt cipher.algorithm (Utf8.encode plaintext) key drawn (Utf8.encode output.aad) =
        .ok ciphertext) ∧
      output.alg = cipher.algorithm ∧ output.nonce = Hex.encode drawn ∧ output.ct = Hex.encode ciphertext := by
  obtain ⟨cipher, hcipher, h⟩ := Loop.bind_eq_ok.mp h
  rw [Loop.bind_unit_eq_ok] at h
  obtain ⟨-, h⟩ := h
  obtain ⟨key, -, h⟩ := Loop.bind_eq_ok.mp h
  obtain ⟨drawn, hdrawn, h⟩ := Loop.bind_eq_ok.mp h
  obtain ⟨aad, haad, h⟩ := Loop.bind_eq_ok.mp h
  obtain ⟨ciphertext, hciphertext, h⟩ := Loop.bind_eq_ok.mp h
  cases h
  exact ⟨cipher, drawn, ciphertext, requireCipher_ok_iff.mp hcipher, hdrawn, haad, ⟨key, hciphertext⟩, rfl, rfl, rfl⟩

/-- A request to decrypt what the recipient has stored is smaller than the envelope. -/
theorem bytes_delivery (haead : lib.aead.Tagged) (h : createMessageEnvelope lib config senderKey recipient message env =
    .ok envelope) (hdraws : ∀ draws, env.rng = .ok draws → draws.Sized) {trial : Res (List UInt8 × List UInt8)} {nonce :
    Res (List UInt8)}
    {recipientKey : OpsKey} {sender : RemotePublicKeys} {localCipher : LocalCipherOutput} {now : Res UInt64}
    {delivery : DecryptMessageInput}
    (hnonce : ∀ drawn, nonce = .ok drawn → ∀ cipher ∈ symmetricCipher recipientKey.symmetric.variant,
      drawn.length = cipher.nonceSizeBytes)
    (hprocess : processReceivedMessage lib addr trial nonce ⟨recipientKey, envelope⟩ sender =
      .ok (envelope, localCipher))
    (hdelivery : finalAppDelivery (currentTimestamp now) envelope localCipher = .ok delivery) :
    bytes (decryptBody delivery).render ≤ bytes (tokenBody envelope).render := by
  obtain ⟨run, hrun, hversion, hpayload, -⟩ := createMessageEnvelope_ok_iff.mp h
  obtain ⟨-, plaintext, hreceived⟩ := processReceivedMessage_ok hprocess
  obtain ⟨cipher, drawn, ciphertext, hcipher, hdrawn, haad, ⟨key, hencrypted⟩, hlocal⟩ :=
    encryptLocalMessage_ok hreceived.stored
  obtain ⟨timestamp, htimestamp, hdelivery⟩ := Loop.bind_eq_ok.mp hdelivery
  cases hdelivery
  obtain ⟨halgorithm, hnonceMax⟩ := textBytes_algorithm hcipher
  have hnonceSize := hnonce drawn hdrawn cipher hcipher
  have htime := textBytes_timestamp htimestamp
  have hdraws := hdraws _ hrun.rng
  have hsalts := And.intro (hdraws.mlKemSalt _ hrun.mlKemSalt) (hdraws.hkdfSalt _ hrun.hkdfSalt)
  have hmessageAad := bytes_messageAad hrun.aad
  have hstoredAad := bytes_storedAad haad
  have hlength : ciphertext.length = run.ciphertext.length := by
    obtain ⟨opened, messageKey, nonce', hct, hdecrypted⟩ := openMessageCipher_ok hreceived.opened
    rw [hpayload, EnvelopeRun.payload, Hex.decode_encode] at hct
    cases hct
    rw [haead.encrypt _ _ _ _ _ _ hencrypted, haead.decrypt _ _ _ _ _ _ hdecrypted]
  have hconstants : textBytes protocolVersionV1 = 2 ∧ textBytes protectedMessageType = 17 := by decide
  rw [bytes_decryptBody, bytes_tokenBody, hversion, hpayload]
  rw [← hreceived.recipient, localSource, hversion, hpayload] at hstoredAad
  simp only [payloadTexts, EnvelopeRun.payload, hlocal, textBytes_hexEncode, hconstants, List.map_cons, List.map_nil,
    List.sum_cons, List.sum_nil] at hstoredAad ⊢
  omega

end Envelope

/-! ## Requests to send -/

def sendMessageCodec : Codec SendMessageInput where
  toValue input := .object [("message", .string input.message), ("recipient_kid", .string input.recipientKid)]
  fromValue
    | .object [("message", .string message), ("recipient_kid", .string recipientKid)] => some ⟨recipientKid, message⟩
    | _ => none
  fromValue_toValue _ := rfl

/-- A request to send a message, and the envelope that was built for it. -/
structure Sending where
  state : LoadedKeys
  senderKid : String
  body : List UInt8
  input : SendMessageInput
  prepared : PreparedSendMessage
  config : SenderConfig
  host : String
  peer : PublicKeys
  now : Res UInt64
  trials : Res (List UInt8 × List UInt8) × Res (List UInt8 × List UInt8)
  seconds : UInt64
  rng : Res EnvelopeDraws
  envelope : ProtectedMessageToken

/-- The server accepted the request and built the envelope. -/
structure Sending.Ran (lib : MessageLibrary) (addr : AddrLibrary) (s : Sending) : Prop where
  body : s.body.length ≤ internalHttpMaxSize
  read : (Utf8.decode s.body).bind (lib.serde.fromStrAs sendMessageCodec) = some s.input
  prepared : prepareSendMessage s.state s.senderKid s.input = .ok s.prepared
  envelope : sendMessageEnvelope lib addr s.config s.prepared s.host s.peer s.now s.trials ⟨.ok s.seconds, s.rng⟩ =
    .ok s.envelope
  draws : ∀ draws, s.rng = .ok draws → draws.Sized

/-- The envelope is within the limit of the recipient, and so is the request to decrypt what the recipient delivers. -/
structure Sending.Transported (lib : MessageLibrary) (addr : AddrLibrary) (s : Sending) : Prop where
  envelope : Fits (tokenBody s.envelope)
  delivery : ∀ trial nonce recipientKey sender localCipher now delivery,
    (∀ drawn, nonce = .ok drawn → ∀ cipher ∈ symmetricCipher recipientKey.symmetric.variant,
      drawn.length = cipher.nonceSizeBytes) →
    processReceivedMessage lib addr trial nonce ⟨recipientKey, s.envelope⟩ sender = .ok (s.envelope, localCipher) →
    finalAppDelivery (currentTimestamp now) s.envelope localCipher = .ok delivery → Fits (decryptBody delivery)

/-- The message leaves room for what stands around its ciphertext. -/
def Sending.HasRoom (sizes : MessageSizes) (s : Sending) : Prop :=
  2 * (s.input.message.utf8ByteSize + tagSizeBytes) +
    envelopeOverhead sizes s.config s.prepared.senderKey s.input.recipientKid s.peer (toString s.seconds.toNat) ≤
      internalHttpMaxSize

variable {lib : MessageLibrary} {addr : AddrLibrary} {sizes : MessageSizes}

theorem prepareSendMessage_ok {state : LoadedKeys} {senderKid : String} {input : SendMessageInput}
    {prepared : PreparedSendMessage} (h : prepareSendMessage state senderKid input = .ok prepared) :
    prepared.input = input := by
  rw [prepareSendMessage, Loop.bind_unit_eq_ok, Loop.bind_unit_eq_ok] at h
  obtain ⟨-, -, h⟩ := h
  obtain ⟨key, -, h⟩ := Loop.bind_eq_ok.mp h
  rw [Loop.bind_unit_eq_ok] at h
  cases h.2
  rfl

theorem sendMessageEnvelope_ok {config : SenderConfig} {prepared : PreparedSendMessage} {host : String}
    {peer : PublicKeys} {now : Res UInt64} {trials : Res (List UInt8 × List UInt8) × Res (List UInt8 × List UInt8)}
    {env : EnvelopeEnv}
    {envelope : ProtectedMessageToken}
    (h : sendMessageEnvelope lib addr config prepared host peer now trials env = .ok envelope) :
    ∃ recipient : RemotePublicKeys, recipient.kid = prepared.input.recipientKid ∧ recipient.keys = peer ∧
      createMessageEnvelope lib config prepared.senderKey recipient prepared.input.message env = .ok envelope := by
  obtain ⟨recipient, hrecipient, h⟩ := Loop.bind_eq_ok.mp h
  rw [Loop.bind_unit_eq_ok] at h
  obtain ⟨hkid, hkeys, -⟩ := remotePublicKeysFromPeer_ok hrecipient
  exact ⟨recipient, hkid, hkeys, h.2⟩

/-- The envelope fits exactly when the message leaves room for it. -/
theorem Sending.Ran.fits_iff (haead : lib.aead.Tagged) (hsizes : sizes.Laws lib) {s : Sending} (h : s.Ran lib addr) :
    Fits (tokenBody s.envelope) ↔ s.HasRoom sizes := by
  obtain ⟨recipient, hkid, hkeys, hcreated⟩ := sendMessageEnvelope_ok h.envelope
  have htoken := bytes_token haead hsizes hcreated rfl h.draws
  rw [hkid, hkeys, prepareSendMessage_ok h.prepared] at htoken
  rw [Fits, HasRoom, htoken]

/-- Then the request to decrypt it fits, too. -/
theorem Sending.Ran.transported_iff (haead : lib.aead.Tagged) (hsizes : sizes.Laws lib) {s : Sending}
    (h : s.Ran lib addr) :
    s.Transported lib addr ↔ s.HasRoom sizes := by
  obtain ⟨recipient, -, -, hcreated⟩ := sendMessageEnvelope_ok h.envelope
  have hfits := h.fits_iff haead hsizes
  refine ⟨fun htransported => hfits.mp htransported.envelope, fun hroom => ⟨hfits.mpr hroom, ?_⟩⟩
  intro trial nonce recipientKey sender localCipher now delivery hnonce hprocess hdelivery
  exact Nat.le_trans (bytes_delivery haead hcreated h.draws hnonce hprocess hdelivery) (hfits.mpr hroom)

/-- Messages to other nodes stay within the limits exactly when they leave room for their envelopes; internal messages
always do. -/
theorem message_transport_iff (haead : lib.aead.Tagged) (hsizes : sizes.Laws lib) :
    (∀ s : Sending, s.Ran lib addr → (s.Transported lib addr ↔ s.HasRoom sizes)) ∧
    ∀ (e : InternalEncryption) (now : Res UInt64), e.Ran lib.hkdf lib.aead lib.serde →
      currentTimestamp now = .ok e.timestamp → Fits (internalBody e.output) :=
  ⟨fun _ h => h.transported_iff haead hsizes, fun _ _ h hnow => internal_fits haead h hnow⟩

/-! ## An example -/

/-- A cipher with an empty tag. -/
def paddedAead : Aead where
  encrypt _ plaintext _ _ _ := .ok (plaintext ++ List.replicate tagSizeBytes 0)
  decrypt _ ciphertext _ _ _ :=
    if ciphertext.length < tagSizeBytes then .error (.other "too short")
      else .ok (ciphertext.take (ciphertext.length - tagSizeBytes))

theorem paddedAead_tagged : paddedAead.Tagged where
  encrypt := by
    rintro _ plaintext _ _ _ ciphertext ⟨⟩
    rw [List.length_append, List.length_replicate]
  decrypt := by
    intro _ ciphertext _ _ _ plaintext h
    obtain ⟨hsize, h⟩ := Loop.guard_eq_ok.mp h
    cases h
    rw [List.length_take]
    omega

def exampleSizes : MessageSizes := ⟨fun _ => 64, fun _ => 2420, fun _ => 32, fun _ => 768⟩

theorem exampleSizes_laws (aead : Aead) : exampleSizes.Laws (exampleLibrary aead) where
  eddsa := by
    rintro hex key rng text signature - ⟨⟩
    rw [List.length_append, length_checksum, List.length_replicate]
    rfl
  mlDsa := by
    rintro hex key rng text signature - ⟨⟩
    rw [List.length_append, length_checksum, List.length_replicate]
    rfl
  ephemeral := by
    rintro rng algorithm key publicKey ⟨⟩ ⟨⟩
    rfl
  mlKem := by
    rintro hex key rng salt size encapsulation - ⟨⟩
    exact List.length_replicate

theorem exampleDraws_sized : exampleDraws.Sized where
  mlKemSalt := by
    rintro salt ⟨⟩
    rfl
  hkdfSalt := by
    rintro salt ⟨⟩
    rfl
  nonce := by
    rintro size nonce ⟨⟩
    exact List.length_replicate

/-- A message of one letter, again and again. -/
def letters (n : Nat) : String := String.ofList (List.replicate n 'a')

theorem letters_chars {n : Nat} {c : Char} (h : c ∈ (letters n).toList) : c = 'a' := by
  rw [letters, String.toList_ofList] at h
  exact List.eq_of_mem_replicate h

theorem utf8ByteSize_letters (n : Nat) : (letters n).utf8ByteSize = n := by
  rw [Utf8.utf8ByteSize_ascii fun c hc => letters_chars hc
    ▸ by decide, letters, String.toList_ofList, List.length_replicate]

theorem textBytes_letters (n : Nat) : textBytes (letters n) = n := by
  have hletters : (letters n).toList.all isAsciiHexdigit = true :=
    List.all_eq_true.mpr fun c hc => letters_chars hc ▸ by decide
  rw [textBytes_hexdigits hletters, utf8ByteSize_letters]

theorem validateTextField_letters {n : Nat} (h : 0 < n) : validateTextField "message" (letters n) = .ok () := by
  have hmem : 'a' ∈ (letters n).toList := by
    rw [letters, String.toList_ofList]
    exact List.mem_replicate.mpr ⟨Nat.ne_of_gt h, rfl⟩
  rw [validateTextField_ok_iff]
  refine ⟨List.all_eq_false.mpr ⟨'a', hmem, by decide⟩, List.any_eq_false.mpr fun c hc => ?_⟩
  rw [letters_chars hc]
  decide

def exampleSending (n : Nat) : Sending where
  state := .fromKeys LoadedOpsKey.id [senderKey]
  senderKid := senderKey.id
  body := Utf8.encode (SerdeJson.compact.toText (sendMessageCodec.toValue ⟨recipientKey.id, letters n⟩))
  input := ⟨recipientKey.id, letters n⟩
  prepared := ⟨senderKey, ⟨recipientKey.id, letters n⟩⟩
  config := exampleConfig
  host := "127.0.0.1:3000"
  peer := examplePeer
  now := .ok 0
  trials := (.ok ([], []), .ok ([], []))
  seconds := 0
  rng := .ok exampleDraws
  envelope := exampleToken (Utf8.encode (letters n) ++ List.replicate tagSizeBytes 0)

theorem sendMessageCodec_plain (input : SendMessageInput) : (sendMessageCodec.toValue input).plain = true := by
  simp [sendMessageCodec, Value.plain, plainEntries, plainEntry]
  rfl

theorem length_exampleBody (n : Nat) : (exampleSending n).body.length = n + 97 := by
  have hkeys : textBytes "message" = 7 ∧ textBytes "recipient_kid" = 13 ∧ textBytes recipientKey.id = 64 := by
    decide +kernel
  rw [exampleSending, Utf8.length_encode, SerdeJson.toText_plain _ _ (sendMessageCodec_plain _),
    Utf8.utf8ByteSize_ofList]
  show bytes (sendMessageCodec.toValue ⟨recipientKey.id, letters n⟩).render = n + 97
  simp only [sendMessageCodec, bytes_object_eq, entryBytes_string, textBytes_letters, hkeys, List.map_cons,
    List.map_nil, List.sum_cons, List.sum_nil]
  omega

/-- Every such message whose body is within the limit is accepted, and its envelope is built. -/
theorem exampleSending_ran {n : Nat} (hpos : 0 < n) (hbody : n + 97 ≤ internalHttpMaxSize) :
    (exampleSending n).Ran (exampleLibrary paddedAead) exampleAddr := by
  refine ⟨(length_exampleBody n).symm ▸ hbody, ?_, ?_, ?_, ?_⟩
  · rw [exampleSending, Utf8.decode_encode]
    exact SerdeJson.compact.fromStrAs_toText sendMessageCodec _ (sendMessageCodec_plain _) rfl
      (by simp [sendMessageCodec, Value.depth, depthEntries, depthEntry, recursionLimit])
  · have hsender : parseKeyId senderKey.id = .ok () := senderKey_id "id"
    have hrecipient : parseKeyId recipientKey.id = .ok () := recipientKey_id "id"
    have hkey : getLoadedKey (.fromKeys LoadedOpsKey.id [senderKey]) senderKey.id = .ok senderKey :=
      getLoadedKey_ok_iff.mpr ⟨hsender, rfl⟩
    have hlifecycle : requireLifecycleForNewUse senderKey.lifecycleStatus = .ok () := by rfl
    simp only [exampleSending, prepareSendMessage, validateSendMessageInput, hsender, hrecipient, hkey, hlifecycle,
      validateTextField_letters hpos, bind, Except.bind]
  · have hcreated := @createMessageEnvelope_example paddedAead (letters n) _ rfl
    unfold sendMessageEnvelope
    exact Loop.bind_eq_ok.mpr ⟨_, remotePublicKeys_example paddedAead,
      Loop.bind_eq_ok.mpr ⟨(), validateRemote_recipient paddedAead, hcreated⟩⟩
  · rintro draws ⟨⟩
    exact exampleDraws_sized

/-- A message of five letters stays within the limits. -/
theorem message_transport_example : (exampleSending 5).Ran (exampleLibrary paddedAead) exampleAddr ∧
    (exampleSending 5).Transported (exampleLibrary paddedAead) exampleAddr := by
  have hran := exampleSending_ran (n := 5) (by decide) (by decide)
  have hroom : (exampleSending 5).HasRoom exampleSizes := by
    unfold Sending.HasRoom
    decide
  exact ⟨hran, ((message_transport_iff paddedAead_tagged (exampleSizes_laws paddedAead)).1 _ hran).mpr hroom⟩

/-- A message of 1100000 letters is accepted, and its envelope is too large for the recipient. -/
theorem long_message_outgrows : (exampleSending 1100000).Ran (exampleLibrary paddedAead) exampleAddr ∧
    ¬ Fits (tokenBody (exampleSending 1100000).envelope) ∧
    ¬ (exampleSending 1100000).Transported (exampleLibrary paddedAead) exampleAddr := by
  have hran := exampleSending_ran (n := 1100000) (by decide) (by decide)
  have hroom : ¬ (exampleSending 1100000).HasRoom exampleSizes := by
    unfold Sending.HasRoom
    have hsize : (exampleSending 1100000).input.message.utf8ByteSize = 1100000 := utf8ByteSize_letters 1100000
    rw [hsize, tagSizeBytes, internalHttpMaxSize]
    omega
  have hlaws := exampleSizes_laws paddedAead
  exact ⟨hran, fun hfits => hroom ((hran.fits_iff paddedAead_tagged hlaws).mp hfits), fun htransported =>
    hroom ((hran.transported_iff paddedAead_tagged hlaws).mp htransported)⟩

end Vectis.Ops.Message

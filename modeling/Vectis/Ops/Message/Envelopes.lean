import Vectis.Core.SubjectSeeds
import Vectis.Ops.Message.Symmetric

/-!
# Envelopes stay where they were made

The messages that a node has encrypted under its symmetric keys, in three families of associated data, and the seeds of
its subjects, over an ideal cipher (`Aead.Ideal`).

- `Sent`: what was encrypted, and `ledger`: the encryptions that were made;
- `opened_internal`, `opened_stored`: what is decrypted was encrypted in the same family, with the same data;
- `decrypt_encrypted`: what was encrypted is decrypted;
- `envelopes_bound`: all of it.
-/

namespace Vectis.Ops.Message

open Vectis.Core Core.Validation Core.Profiles Core.Crypto Core.Canonical Core.Tokenization Core.Subjects Ops.Keys

/-! ## Requests -/

/-- The request to encrypt, for the subject of the source when there is one. -/
def prepareInternalEncrypt (state : LoadedKeys) (kid plaintext : String) (source : Option SubjectSource) :
    Res PreparedInternalEncryptMessage := do
  let prepared ← prepareInternalEncryptMessage state kid plaintext
  match source with
  | none => .ok prepared
  | some source => prepared.withSubject source

/-- The request to decrypt. -/
def prepareInternalDecrypt (state : LoadedKeys) (input : InternalMessageOutput) (source : Option SubjectSource) :
    Res PreparedInternalDecryptMessage := do
  let prepared ← prepareInternalDecryptMessage state input
  match source with
  | none => .ok prepared
  | some source => prepared.withSubject source

/-! ## What was encrypted -/

structure InternalEncryption where
  state : LoadedKeys
  kid : String
  plaintext : String
  source : Option SubjectSource
  timestamp : String
  nonce : List UInt8
  prepared : PreparedInternalEncryptMessage
  output : InternalMessageOutput

structure LocalEncryption where
  recipientKey : OpsKey
  plaintext : String
  source : LocalSource
  nonce : List UInt8
  output : LocalCipherOutput

structure SeedCreation where
  profile : TokenizationProfile
  subject : String
  seed : List UInt8
  nonce : List UInt8
  envelope : String

/-- The messages, the stored messages and the seeds. -/
structure Sent where
  internal : Set InternalEncryption
  stored : Set LocalEncryption
  seeds : Set SeedCreation

/-- The fields of the associated data of an internal message. -/
def internalFields (kid timestamp algorithm : String) : Option SubjectMaterial → AadFields
  | some material => [("version", "v1"), ("type", "subject-symmetric"), ("kid", kid), ("subject", material.subject),
      ("timestamp", timestamp), ("cipher_alg", algorithm)]
  | none => [("version", protocolVersionV1), ("type", "internal-message"), ("kid", kid), ("timestamp", timestamp),
      ("cipher_alg", algorithm)]

/-- The fields of the associated data of a stored message. -/
def storedFields (source : LocalSource) (recipientKid algorithm : String) : AadFields :=
  [("version", source.version), ("type", "stored-protected-message"), ("sender_kid", source.senderKid),
    ("recipient_kid", recipientKid), ("source_created_at", source.createdAt), ("cipher_alg", algorithm)]

section Ledger

variable (hkdf : Hkdf) (aead : Aead) (serde : SerdeJson)

/-- The encryption took place, with a nonce of the size that `random_bytes` is asked for. -/
structure InternalEncryption.Ran (e : InternalEncryption) : Prop where
  wellFormed : e.state.WellFormed LoadedOpsKey.id
  prepared : prepareInternalEncrypt e.state e.kid e.plaintext e.source = .ok e.prepared
  encrypted : encryptInternalMessage hkdf aead serde (.ok e.timestamp) (.ok e.nonce) e.prepared = .ok e.output
  nonce : ∀ cipher ∈ symmetricCipher e.output.message.variant, e.nonce.length = cipher.nonceSizeBytes

def LocalEncryption.Ran (e : LocalEncryption) : Prop :=
  encryptLocalMessage aead (.ok e.nonce) e.recipientKey e.plaintext e.source = .ok e.output

def SeedCreation.Ran (e : SeedCreation) : Prop :=
  createSeed hkdf aead serde e.profile e.subject (.ok e.seed) (.ok e.nonce) = .ok e.envelope

structure Sent.Ran (sent : Sent) : Prop where
  internal : ∀ e ∈ sent.internal, e.Ran hkdf aead serde
  stored : ∀ e ∈ sent.stored, e.Ran aead
  seeds : ∀ e ∈ sent.seeds, e.Ran hkdf aead serde

def InternalEncryption.Seals (e : InternalEncryption) (s : Sealing) : Prop :=
  ∃ key ciphertext, internalKey hkdf aead serde e.prepared.key e.prepared.subject = .ok key ∧
    e.output.message.ctx = Hex.encode ciphertext ∧
    s = ⟨e.output.message.variant, key, e.nonce, Utf8.encode e.output.message.aad, Utf8.encode e.prepared.plaintext,
      ciphertext⟩

def LocalEncryption.Seals (e : LocalEncryption) (s : Sealing) : Prop :=
  ∃ key ciphertext, hexDecode e.recipientKey.symmetric.keyHex = .ok key ∧ e.output.ct = Hex.encode ciphertext ∧
    s = ⟨e.output.alg, key, e.nonce, Utf8.encode e.output.aad, Utf8.encode e.plaintext, ciphertext⟩

def SeedCreation.Seals (e : SeedCreation) (s : Sealing) : Prop :=
  ∃ key aad ciphertext, wrappingKey hkdf e.profile = .ok key ∧ seedAad e.profile e.subject = .ok aad ∧
    e.envelope = envelopeText ciphertext e.nonce (Utf8.encode aad) ∧
    s = ⟨e.profile.cipherAlgorithm, key, e.nonce, Utf8.encode aad,
      Utf8.encode (serde.toText (seedPayloadCodec.toValue (Hex.encode e.seed))), ciphertext⟩

/-- All encryptions that were made. -/
def Sent.ledger (sent : Sent) : Set Sealing :=
  {s | (∃ e ∈ sent.internal, e.Seals hkdf aead serde s) ∨ (∃ e ∈ sent.stored, e.Seals s) ∨
    ∃ e ∈ sent.seeds, e.Seals hkdf serde s}

/-- The calls of HKDF for the key of the subject. -/
def subjectQueries (key : OpsKey) (subject : Option SubjectMaterial) : Set HkdfQuery :=
  {q | ∃ material ∈ subject, ∃ cipher parent seed info, symmetricCipher key.symmetric.variant = some cipher ∧
    hexDecode key.symmetric.keyHex = .ok parent ∧
    openAuthenticatedSeed hkdf aead serde material.origin material.subject material.envelope = .ok seed ∧
    subjectSymmetricInfo key.id cipher.algorithm = .ok info ∧ q = ⟨parent, seed, bytesOf info, cipher.keySizeBytes⟩}

/-- Those of the encryptions, and of this decryption. -/
def Sent.asked (sent : Sent) (prepared : PreparedInternalDecryptMessage) : Set HkdfQuery :=
  {q | q ∈ subjectQueries hkdf aead serde prepared.key prepared.subject ∨
    ∃ e ∈ sent.internal, q ∈ subjectQueries hkdf aead serde e.prepared.key e.prepared.subject}

/-- What an encryption that took place has computed. -/
structure InternalEncryption.Parts (e : InternalEncryption) (cipher : SymmetricCipherSpec)
    (key ciphertext : List UInt8) :
    Prop where
  supported : symmetricCipher e.prepared.key.symmetric.variant = some cipher
  sized : validateSymmetricKey "internal message symmetric key" e.prepared.key.symmetric.keyHex cipher.keySizeBytes =
    .ok ()
  keyed : internalKey hkdf aead serde e.prepared.key e.prepared.subject = .ok key
  built : buildValidatedAad (internalFields e.prepared.key.id e.timestamp cipher.algorithm e.prepared.subject) =
    .ok e.output.message.aad
  encrypted : aead.encrypt cipher.algorithm (Utf8.encode e.prepared.plaintext) key e.nonce
    (Utf8.encode e.output.message.aad) = .ok ciphertext
  output : e.output = ⟨e.timestamp, e.prepared.key.id, e.prepared.subject.map SubjectMaterial.subject,
    ⟨Hex.encode ciphertext, Hex.encode e.nonce, e.output.message.aad, cipher.algorithm⟩⟩

end Ledger

variable {hkdf : Hkdf} {aead : Aead} {serde : SerdeJson}

/-! ## What the encryptions seal -/

theorem internalAad_eq (kid timestamp algorithm : String) (subject : Option SubjectMaterial) :
    internalAad kid timestamp algorithm subject = buildValidatedAad
    (internalFields kid timestamp algorithm subject) := by
  cases subject <;> rfl

theorem InternalEncryption.Ran.parts {e : InternalEncryption} (h : e.Ran hkdf aead serde) :
    ∃ cipher key ciphertext, e.Parts hkdf aead serde cipher key ciphertext := by
  obtain ⟨timestamp, htime, hrun⟩ := Loop.bind_eq_ok.mp h.encrypted
  cases htime
  obtain ⟨cipher, hcipher, hrun⟩ := Loop.bind_eq_ok.mp hrun
  rw [Loop.bind_unit_eq_ok] at hrun
  obtain ⟨hsymmetric, hrun⟩ := hrun
  obtain ⟨key, hkey, hrun⟩ := Loop.bind_eq_ok.mp hrun
  obtain ⟨nonce, hnonce, hrun⟩ := Loop.bind_eq_ok.mp hrun
  cases hnonce
  obtain ⟨aad, haad, hrun⟩ := Loop.bind_eq_ok.mp hrun
  obtain ⟨ciphertext, hciphertext, hrun⟩ := Loop.bind_eq_ok.mp hrun
  have houtput := (Except.ok.inj hrun).symm
  rw [internalAad_eq] at haad
  refine ⟨cipher, key, ciphertext, requireCipher_ok_iff.mp hcipher, hsymmetric, hkey, ?_, ?_, ?_⟩
  · rw [houtput]
    exact haad
  · rw [houtput]
    exact hciphertext
  · rw [houtput]

/-- The key of a subject comes from its seed. -/
theorem internalKey_of_seed {key : OpsKey} {material : SubjectMaterial} {cipher : SymmetricCipherSpec}
    {parent seed derived : List UInt8} (hcipher : symmetricCipher key.symmetric.variant = some cipher)
    (hsized : validateSymmetricKey "internal message symmetric key" key.symmetric.keyHex cipher.keySizeBytes = .ok ())
    (hparent : hexDecode key.symmetric.keyHex = .ok parent)
    (hseed : openAuthenticatedSeed hkdf aead serde material.origin material.subject material.envelope = .ok seed)
    (hderived : deriveSubjectSymmetricKey hkdf parent seed key.id cipher.algorithm = .ok derived) :
    internalKey hkdf aead serde key (some material) = .ok derived :=
  Loop.bind_eq_ok.mpr ⟨cipher, requireCipher_ok_iff.mpr hcipher, Loop.bind_unit_eq_ok.mpr ⟨hsized,
    Loop.bind_eq_ok.mpr ⟨parent, hparent, Loop.bind_eq_ok.mpr ⟨seed, hseed, hderived⟩⟩⟩⟩

/-- An encryption returns what the cipher made. -/
theorem encryptInternalMessage_of {prepared : PreparedInternalEncryptMessage} {cipher : SymmetricCipherSpec}
    {timestamp aad : String} {nonce key ciphertext : List UInt8}
    (hcipher : symmetricCipher prepared.key.symmetric.variant = some cipher)
    (hsized : validateSymmetricKey "internal message symmetric key" prepared.key.symmetric.keyHex
      cipher.keySizeBytes = .ok ())
    (hkey : internalKey hkdf aead serde prepared.key prepared.subject = .ok key)
    (haad : buildValidatedAad (internalFields prepared.key.id timestamp cipher.algorithm prepared.subject) = .ok aad)
    (hencrypt : aead.encrypt cipher.algorithm (Utf8.encode prepared.plaintext) key nonce (Utf8.encode aad) =
      .ok ciphertext) :
    encryptInternalMessage hkdf aead serde (.ok timestamp) (.ok nonce) prepared =
      .ok ⟨timestamp, prepared.key.id, prepared.subject.map SubjectMaterial.subject,
        ⟨Hex.encode ciphertext, Hex.encode nonce, aad, cipher.algorithm⟩⟩ := by
  rw [← internalAad_eq] at haad
  refine Loop.bind_eq_ok.mpr ⟨_, rfl, Loop.bind_eq_ok.mpr ⟨cipher, requireCipher_ok_iff.mpr hcipher, ?_⟩⟩
  refine Loop.bind_unit_eq_ok.mpr ⟨hsized, Loop.bind_eq_ok.mpr ⟨key, hkey, Loop.bind_eq_ok.mpr ⟨nonce, rfl, ?_⟩⟩⟩
  exact Loop.bind_eq_ok.mpr ⟨aad, haad, Loop.bind_eq_ok.mpr ⟨ciphertext, hencrypt, rfl⟩⟩

theorem encryptLocalMessage_of {recipientKey : OpsKey} {source : LocalSource} {plaintext aad : String}
    {cipher : SymmetricCipherSpec} {nonce key ciphertext : List UInt8}
    (hcipher : symmetricCipher recipientKey.symmetric.variant = some cipher)
    (hsized : validateSymmetricKey "recipient symmetric key" recipientKey.symmetric.keyHex cipher.keySizeBytes =
      .ok ())
    (hkey : hexDecode recipientKey.symmetric.keyHex = .ok key)
    (haad : buildValidatedAad (storedFields source recipientKey.id cipher.algorithm) = .ok aad)
    (hencrypt : aead.encrypt cipher.algorithm (Utf8.encode plaintext) key nonce (Utf8.encode aad) = .ok ciphertext) :
    encryptLocalMessage aead (.ok nonce) recipientKey plaintext source =
      .ok ⟨cipher.algorithm, Hex.encode nonce, aad, Hex.encode ciphertext⟩ := by
  refine Loop.bind_eq_ok.mpr ⟨cipher, requireCipher_ok_iff.mpr hcipher, Loop.bind_unit_eq_ok.mpr ⟨hsized, ?_⟩⟩
  refine Loop.bind_eq_ok.mpr ⟨key, hkey, Loop.bind_eq_ok.mpr ⟨nonce, rfl, ?_⟩⟩
  exact Loop.bind_eq_ok.mpr ⟨aad, haad, Loop.bind_eq_ok.mpr ⟨ciphertext, hencrypt, rfl⟩⟩

theorem InternalEncryption.Parts.seals {e : InternalEncryption} {cipher : SymmetricCipherSpec}
    {key ciphertext : List UInt8} (h : e.Parts hkdf aead serde cipher key ciphertext) :
    e.Seals hkdf aead serde ⟨cipher.algorithm, key, e.nonce, Utf8.encode e.output.message.aad,
      Utf8.encode e.prepared.plaintext, ciphertext⟩ := by
  have hvariant : e.output.message.variant = cipher.algorithm := by rw [h.output]
  have hctx : e.output.message.ctx = Hex.encode ciphertext := by rw [h.output]
  exact ⟨key, ciphertext, h.keyed, hctx, by rw [hvariant]⟩

/-- The one encryption of an internal message. -/
theorem InternalEncryption.Parts.eq_of_seals {e : InternalEncryption} {cipher : SymmetricCipherSpec}
    {key ciphertext : List UInt8} {s : Sealing} (h : e.Parts hkdf aead serde cipher key ciphertext)
    (hs : e.Seals hkdf aead serde s) : s = ⟨cipher.algorithm, key, e.nonce, Utf8.encode e.output.message.aad,
      Utf8.encode e.prepared.plaintext, ciphertext⟩ := by
  obtain ⟨key', ciphertext', hkey, hctx, rfl⟩ := hs
  have hvariant : e.output.message.variant = cipher.algorithm := by rw [h.output]
  have hctx' : e.output.message.ctx = Hex.encode ciphertext := by rw [h.output]
  rw [h.keyed] at hkey
  cases hkey
  cases Hex.encode_injective (hctx'.symm.trans hctx)
  rw [hvariant]

theorem LocalEncryption.Ran.parts {e : LocalEncryption} (h : e.Ran aead) : ∃ key ciphertext,
    hexDecode e.recipientKey.symmetric.keyHex = .ok key ∧
    buildValidatedAad (storedFields e.source e.recipientKey.id e.output.alg) = .ok e.output.aad ∧
    e.output = ⟨e.output.alg, Hex.encode e.nonce, e.output.aad, Hex.encode ciphertext⟩ := by
  obtain ⟨cipher, -, h⟩ := Loop.bind_eq_ok.mp h
  rw [Loop.bind_unit_eq_ok] at h
  obtain ⟨-, h⟩ := h
  obtain ⟨key, hkey, h⟩ := Loop.bind_eq_ok.mp h
  obtain ⟨nonce, hnonce, h⟩ := Loop.bind_eq_ok.mp h
  cases hnonce
  obtain ⟨aad, haad, h⟩ := Loop.bind_eq_ok.mp h
  obtain ⟨ciphertext, -, h⟩ := Loop.bind_eq_ok.mp h
  have houtput := (Except.ok.inj h).symm
  refine ⟨key, ciphertext, hkey, ?_, ?_⟩
  · rw [houtput]
    exact haad
  · rw [houtput]

/-! ## What the decryptions have checked -/

theorem decodeHexField_ok_iff {field text : String} {bytes : List UInt8} :
    decodeHexField field text = .ok bytes ↔ Hex.decode text = some bytes := by
  unfold decodeHexField
  cases Hex.decode text <;> simp

theorem decryptedMessageString_ok_iff {bytes : List UInt8} {text : String} :
    decryptedMessageString bytes = .ok text ↔ Utf8.decode bytes = some text := by
  unfold decryptedMessageString
  cases Utf8.decode bytes <;> simp

/-- The cipher has opened the message. -/
structure Opened (aead : Aead) (algorithm : String) (key : List UInt8) (message : MessageCipherText)
    (plaintext : String) (nonce ciphertext : List UInt8) : Prop where
  hexNonce : Hex.decode message.nonce = some nonce
  hexCtx : Hex.decode message.ctx = some ciphertext
  decrypt : aead.decrypt algorithm ciphertext key nonce (Utf8.encode message.aad) = .ok (Utf8.encode plaintext)

theorem openCipherText_ok_iff {algorithm plaintext : String} {key : List UInt8} {message : MessageCipherText} :
    openCipherText aead algorithm key message = .ok plaintext ↔
      ∃ nonce ciphertext, Opened aead algorithm key message plaintext nonce ciphertext := by
  unfold openCipherText
  simp only [Loop.bind_eq_ok, decodeHexField_ok_iff, Loop.mapError_eq_ok, decryptedMessageString_ok_iff]
  constructor
  · rintro ⟨nonce, hnonce, ciphertext, hciphertext, bytes, hdecrypt, htext⟩
    exact ⟨nonce, ciphertext, hnonce, hciphertext, by rw [Utf8.encode_of_decode htext, hdecrypt]⟩
  · rintro ⟨nonce, ciphertext, hopened⟩
    exact ⟨nonce, hopened.hexNonce, ciphertext, hopened.hexCtx, _, hopened.decrypt, Utf8.decode_encode plaintext⟩

/-- The accepted decryption of an internal message. -/
structure InternalOpened (hkdf : Hkdf) (aead : Aead) (serde : SerdeJson) (prepared : PreparedInternalDecryptMessage)
    (input : InternalMessageOutput) (plaintext : String) (fields : AadFields) (key nonce ciphertext : List UInt8) :
    Prop where
  subject : input.subject = prepared.subject.map SubjectMaterial.subject
  subjectAad : validateSubjectAad input = .ok ()
  aad : parseAadFields input.message.aad = .ok fields
  kind : aadField fields "type" = .ok (internalType input.subject)
  kid : aadField fields "kid" = .ok input.kid
  timestamp : aadField fields "timestamp" = .ok input.timestamp
  cipherAlg : aadField fields "cipher_alg" = .ok input.message.variant
  keyed : internalKey hkdf aead serde prepared.key prepared.subject = .ok key
  opened : Opened aead input.message.variant key input.message plaintext nonce ciphertext

theorem prepareInternalDecrypt_ok {state : LoadedKeys} {input : InternalMessageOutput} {source : Option SubjectSource}
    {prepared : PreparedInternalDecryptMessage} (h : prepareInternalDecrypt state input source = .ok prepared) :
    validateInternalDecryptMessageInput input = .ok () ∧ prepared.input = input := by
  obtain ⟨first, hfirst, h⟩ := Loop.bind_eq_ok.mp h
  rw [prepareInternalDecryptMessage, Loop.bind_unit_eq_ok] at hfirst
  obtain ⟨hvalid, hfirst⟩ := hfirst
  obtain ⟨key, -, hfirst⟩ := Loop.bind_eq_ok.mp hfirst
  rw [Loop.bind_unit_eq_ok] at hfirst
  cases hfirst.2
  refine ⟨hvalid, ?_⟩
  cases source with
  | none =>
    cases h
    rfl
  | some source =>
    unfold PreparedInternalDecryptMessage.withSubject at h
    obtain ⟨-, h⟩ := Loop.guard_eq_ok.mp h
    obtain ⟨material, -, h⟩ := Loop.bind_eq_ok.mp h
    cases h
    rfl

theorem decryptInternal_ok {state : LoadedKeys} {input : InternalMessageOutput} {source : Option SubjectSource}
    {prepared : PreparedInternalDecryptMessage} {plaintext : String}
    (hprepared : prepareInternalDecrypt state input source = .ok prepared)
    (h : decryptInternalMessage hkdf aead serde prepared = .ok plaintext) :
    ∃ fields key nonce ciphertext, InternalOpened hkdf aead serde prepared input plaintext fields key nonce
    ciphertext := by
  obtain ⟨hvalid, rfl⟩ := prepareInternalDecrypt_ok hprepared
  unfold validateInternalDecryptMessageInput at hvalid
  simp only [Loop.bind_unit_eq_ok] at hvalid
  obtain ⟨-, -, -, hvalid⟩ := hvalid
  obtain ⟨fields, hfields, hvalid⟩ := Loop.bind_eq_ok.mp hvalid
  rw [Loop.bind_unit_eq_ok] at hvalid
  obtain ⟨hsubjectAad, hvalid⟩ := hvalid
  obtain ⟨kind, hkind, hvalid⟩ := Loop.bind_eq_ok.mp hvalid
  rw [Loop.bind_unit_eq_ok] at hvalid
  obtain ⟨hallowed, -⟩ := hvalid
  rw [List.mem_singleton.mp (validateAllowedValue_mem hallowed)] at hkind
  unfold decryptInternalMessage at h
  obtain ⟨hsubject, h⟩ := Loop.guard_eq_ok.mp h
  obtain ⟨key, hkey, h⟩ := Loop.bind_eq_ok.mp h
  obtain ⟨fields', hfields', h⟩ := Loop.bind_eq_ok.mp h
  rw [hfields] at hfields'
  cases hfields'
  obtain ⟨kid, hkid, h⟩ := Loop.bind_eq_ok.mp h
  obtain ⟨timestamp, htimestamp, h⟩ := Loop.bind_eq_ok.mp h
  obtain ⟨cipherAlg, hcipherAlg, h⟩ := Loop.bind_eq_ok.mp h
  simp only [Loop.guard_eq_ok, ne_eq, Decidable.not_not] at h hsubject
  obtain ⟨rfl, rfl, rfl, -, h⟩ := h
  obtain ⟨cipher, hcipher, h⟩ := Loop.bind_eq_ok.mp h
  rw [Loop.bind_unit_eq_ok] at h
  rw [(symmetricCipher_some (requireCipher_ok_iff.mp hcipher)).1] at h
  obtain ⟨nonce, ciphertext, hopened⟩ := openCipherText_ok_iff.mp h.2
  exact ⟨fields, key, nonce, ciphertext, hsubject, hsubjectAad, hfields, hkind, hkid, htimestamp, hcipherAlg, hkey,
    hopened⟩

/-- The accepted decryption of a stored message. -/
structure StoredOpened (aead : Aead) (prepared : PreparedDecryptMessage) (input : DecryptMessageInput)
    (plaintext : String) (fields : AadFields) (key nonce ciphertext : List UInt8) : Prop where
  aad : parseAadFields input.message.aad = .ok fields
  kind : aadField fields "type" = .ok "stored-protected-message"
  senderKid : aadField fields "sender_kid" = .ok input.senderKid
  recipientKid : aadField fields "recipient_kid" = .ok prepared.recipientKey.id
  opened : Opened aead input.message.variant key input.message plaintext nonce ciphertext

theorem decryptStored_ok {addr : AddrLibrary} {state : LoadedKeys} {input : DecryptMessageInput}
    {prepared : PreparedDecryptMessage} {plaintext : String} (hprepared : prepareDecryptMessage addr state input =
      .ok prepared)
    (h : decryptMessage aead prepared = .ok plaintext) :
    ∃ fields key nonce ciphertext, StoredOpened aead prepared input plaintext fields key nonce ciphertext := by
  rw [prepareDecryptMessage, Loop.bind_unit_eq_ok] at hprepared
  obtain ⟨hvalid, hprepared⟩ := hprepared
  obtain ⟨fields, hfields, hprepared⟩ := Loop.bind_eq_ok.mp hprepared
  obtain ⟨recipientKid, -, hprepared⟩ := Loop.bind_eq_ok.mp hprepared
  obtain ⟨recipientKey, -, hprepared⟩ := Loop.bind_eq_ok.mp hprepared
  rw [Loop.bind_unit_eq_ok] at hprepared
  obtain rfl := (Except.ok.inj hprepared.2).symm
  obtain ⟨host, -, hvalid⟩ := Loop.bind_eq_ok.mp hvalid
  simp only [Loop.bind_unit_eq_ok] at hvalid
  obtain ⟨-, -, -, hvalid⟩ := hvalid
  obtain ⟨fields', hfields', hvalid⟩ := Loop.bind_eq_ok.mp hvalid
  rw [hfields] at hfields'
  cases hfields'
  obtain ⟨kind, hkind, hvalid⟩ := Loop.bind_eq_ok.mp hvalid
  rw [Loop.bind_unit_eq_ok] at hvalid
  obtain ⟨hallowed, -⟩ := hvalid
  rw [List.mem_singleton.mp (validateAllowedValue_mem hallowed)] at hkind
  unfold decryptMessage at h
  obtain ⟨fields', hfields', h⟩ := Loop.bind_eq_ok.mp h
  rw [hfields] at hfields'
  cases hfields'
  obtain ⟨senderKid, hsender, h⟩ := Loop.bind_eq_ok.mp h
  obtain ⟨recipient, hrecipient, h⟩ := Loop.bind_eq_ok.mp h
  obtain ⟨cipherAlg, -, h⟩ := Loop.bind_eq_ok.mp h
  simp only [Loop.guard_eq_ok, ne_eq, Decidable.not_not] at h
  obtain ⟨rfl, rfl, -, -, h⟩ := h
  obtain ⟨cipher, hcipher, h⟩ := Loop.bind_eq_ok.mp h
  rw [Loop.bind_unit_eq_ok] at h
  obtain ⟨key, -, h⟩ := Loop.bind_eq_ok.mp h.2
  rw [(symmetricCipher_some (requireCipher_ok_iff.mp hcipher)).1] at h
  obtain ⟨nonce, ciphertext, hopened⟩ := openCipherText_ok_iff.mp h
  exact ⟨fields, key, nonce, ciphertext, hfields, hkind, hsender, hrecipient, hopened⟩

/-! ## The fields of what was opened -/

/-- The fields that are read are those of the encryption. -/
theorem fields_eq {aad aad' : String} {fields fields' : AadFields} (hread : parseAadFields aad = .ok fields)
    (hbuilt : buildValidatedAad fields' = .ok aad') (hsame : Utf8.encode aad = Utf8.encode aad') :
    fields = fields' ∧ aad = aad' := by
  have haad := Utf8.encode_injective hsame
  refine ⟨buildValidatedAad_injective (build_parseAadFields hread) ?_, haad⟩
  rw [hbuilt, haad]

theorem aadField_type_internal {kid timestamp algorithm : String} {subject : Option SubjectMaterial} :
    aadField (internalFields kid timestamp algorithm subject) "type" =
      .ok (internalType (subject.map SubjectMaterial.subject)) := by
  cases subject <;> rfl

theorem aadField_kid_internal {kid timestamp algorithm : String} {subject : Option SubjectMaterial} :
    aadField (internalFields kid timestamp algorithm subject) "kid" = .ok kid := by
  cases subject <;> rfl

theorem aadField_timestamp_internal {kid timestamp algorithm : String} {subject : Option SubjectMaterial} :
    aadField (internalFields kid timestamp algorithm subject) "timestamp" = .ok timestamp := by
  cases subject <;> rfl

theorem aadField_cipherAlg_internal {kid timestamp algorithm : String} {subject : Option SubjectMaterial} :
    aadField (internalFields kid timestamp algorithm subject) "cipher_alg" = .ok algorithm := by
  cases subject <;> rfl

/-- The type of an internal message is none of the other types. -/
theorem internalType_ne (subject : Option String) :
    internalType subject ≠ "stored-protected-message" ∧ internalType subject ≠ "subject-seed" := by
  cases subject <;> simp [internalType]

/-- The associated data has this type. -/
def Typed (s : Sealing) (kind : String) : Prop :=
  ∃ aad fields, s.aad = Utf8.encode aad ∧ buildValidatedAad fields = .ok aad ∧ aadField fields "type" = .ok kind

theorem Typed.unique {s : Sealing} {kind kind' : String} (h : Typed s kind) (h' : Typed s kind') : kind = kind' := by
  obtain ⟨aad, fields, haad, hbuilt, hkind⟩ := h
  obtain ⟨aad', fields', haad', hbuilt', hkind'⟩ := h'
  obtain rfl := Utf8.encode_injective (haad.symm.trans haad')
  rw [buildValidatedAad_injective hbuilt hbuilt', hkind'] at hkind
  exact (Except.ok.inj hkind).symm

theorem InternalEncryption.Ran.typed {e : InternalEncryption} (h : e.Ran hkdf aead serde) {s : Sealing}
    (hs : e.Seals hkdf aead serde s) : Typed s (internalType e.output.subject) := by
  obtain ⟨cipher, key, ciphertext, hparts⟩ := h.parts
  refine ⟨e.output.message.aad, _, ?_, hparts.built, ?_⟩
  · rw [hparts.eq_of_seals hs]
  · rw [aadField_type_internal, hparts.output]

theorem LocalEncryption.Ran.typed {e : LocalEncryption} (h : e.Ran aead) {s : Sealing} (hs : e.Seals s) :
    Typed s "stored-protected-message" := by
  obtain ⟨key, ciphertext, -, hbuilt, -⟩ := h.parts
  obtain ⟨key', ciphertext', -, -, rfl⟩ := hs
  exact ⟨e.output.aad, _, rfl, hbuilt, rfl⟩

theorem InternalEncryption.Ran.sealing {e : InternalEncryption} (h : e.Ran hkdf aead serde) :
    ∃ s, e.Seals hkdf aead serde s ∧ Hex.decode e.output.message.ctx = some s.ciphertext := by
  obtain ⟨cipher, key, ciphertext, hparts⟩ := h.parts
  refine ⟨_, hparts.seals, ?_⟩
  rw [hparts.output]
  exact Hex.decode_encode ciphertext

theorem LocalEncryption.Ran.sealing {e : LocalEncryption} (h : e.Ran aead) :
    ∃ s, e.Seals s ∧ Hex.decode e.output.ct = some s.ciphertext := by
  obtain ⟨key, ciphertext, hkey, -, houtput⟩ := h.parts
  refine ⟨_, ⟨key, ciphertext, hkey, by rw [houtput], rfl⟩, ?_⟩
  rw [houtput]
  exact Hex.decode_encode ciphertext

theorem SeedCreation.Seals.typed {e : SeedCreation} {s : Sealing} (hs : e.Seals hkdf serde s) :
    Typed s "subject-seed" := by
  obtain ⟨key, aad, ciphertext, -, haad, -, rfl⟩ := hs
  rw [seedAad, Loop.bind_unit_eq_ok] at haad
  exact ⟨aad, _, rfl, haad.2, rfl⟩

section Opened

variable {sent : Sent} {s : Sealing}

theorem internal_mem_ledger {e : InternalEncryption} (he : e ∈ sent.internal) (hs : e.Seals hkdf aead serde s) :
    s ∈ sent.ledger hkdf aead serde := .inl ⟨e, he, hs⟩

theorem stored_mem_ledger {e : LocalEncryption} (he : e ∈ sent.stored) (hs : e.Seals s) :
    s ∈ sent.ledger hkdf aead serde := .inr (.inl ⟨e, he, hs⟩)

/-- Ciphertexts of different types are different. -/
theorem kinds_apart (hideal : aead.Ideal (sent.ledger hkdf aead serde)) {t : Sealing} {kind kind' : String}
    (hs : s ∈ sent.ledger hkdf aead serde) (ht : t ∈ sent.ledger hkdf aead serde) (hkind : Typed s kind)
    (hkind' : Typed t kind') (hne : kind ≠ kind') : s.ciphertext ≠ t.ciphertext := by
  intro hsame
  rw [hideal.distinct s hs t ht hsame] at hkind
  exact hne (hkind.unique hkind')

/-- What was sealed with the type of internal messages is one. -/
theorem internal_of_typed (hran : sent.Ran hkdf aead serde) (hs : s ∈ sent.ledger hkdf aead serde)
    {subject : Option String} (htype : Typed s (internalType subject)) :
    ∃ e ∈ sent.internal, e.Seals hkdf aead serde s := by
  rcases hs with hs | ⟨e, he, hseals⟩ | ⟨e, -, hseals⟩
  · exact hs
  · exact absurd (htype.unique ((hran.stored e he).typed hseals)) (internalType_ne subject).1
  · exact absurd (htype.unique hseals.typed) (internalType_ne subject).2

/-- What was sealed with the type of stored messages is one. -/
theorem stored_of_typed (hran : sent.Ran hkdf aead serde) (hs : s ∈ sent.ledger hkdf aead serde)
    (htype : Typed s "stored-protected-message") : ∃ e ∈ sent.stored, e.Seals s := by
  rcases hs with ⟨e, he, hseals⟩ | hs | ⟨e, -, hseals⟩
  · exact absurd (((hran.internal e he).typed hseals).unique htype) (internalType_ne _).1
  · exact hs
  · exact absurd (hseals.typed.unique htype) (by decide)

end Opened

/-- The same envelope, up to the case of hex digits. -/
structure SameEnvelope (input output : InternalMessageOutput) : Prop where
  kid : input.kid = output.kid
  subject : input.subject = output.subject
  timestamp : input.timestamp = output.timestamp
  variant : input.message.variant = output.message.variant
  aad : input.message.aad = output.message.aad
  nonce : Hex.lower input.message.nonce = Hex.lower output.message.nonce
  ctx : Hex.lower input.message.ctx = Hex.lower output.message.ctx

/-- The type and the fields determine the subject. -/
theorem subject_eq {input : InternalMessageOutput} {kid timestamp algorithm : String} {subject : Option SubjectMaterial}
    (hsubjectAad : validateSubjectAad input = .ok ())
    (hbuilt : buildValidatedAad (internalFields kid timestamp algorithm subject) = .ok input.message.aad)
    (htype : internalType input.subject = internalType (subject.map SubjectMaterial.subject)) :
    input.subject = subject.map SubjectMaterial.subject := by
  cases hinput : input.subject with
  | none =>
    cases subject with
    | none => rfl
    | some material =>
      rw [hinput] at htype
      exact absurd htype (by simp [internalType])
  | some name =>
    rw [hinput] at htype
    cases subject with
    | none => exact absurd htype (by simp [internalType])
    | some material =>
      unfold validateSubjectAad at hsubjectAad
      rw [hinput] at hsubjectAad
      simp only [Loop.bind_unit_eq_ok] at hsubjectAad
      obtain ⟨expected, hexpected, hsame⟩ := Loop.bind_eq_ok.mp hsubjectAad.2
      obtain ⟨hsame, -⟩ := Loop.guard_eq_ok.mp hsame
      rw [← Decidable.not_not.mp hsame] at hexpected
      have hfields := buildValidatedAad_injective hexpected hbuilt
      simp only [internalFields, List.cons.injEq, Prod.mk.injEq] at hfields
      rw [Option.map_some, hfields.2.2.2.1.2]

/-- An internal message that is opened was sent. -/
theorem opened_internal {sent : Sent} (hran : sent.Ran hkdf aead serde)
    (hideal : aead.Ideal (sent.ledger hkdf aead serde)) {prepared : PreparedInternalDecryptMessage}
    {input : InternalMessageOutput} {plaintext : String} {fields : AadFields}
    {key nonce ciphertext : List UInt8}
    (h : InternalOpened hkdf aead serde prepared input plaintext fields key nonce ciphertext) :
    ∃ e ∈ sent.internal, SameEnvelope input e.output ∧ e.prepared.plaintext = plaintext ∧
      internalKey hkdf aead serde e.prepared.key e.prepared.subject = .ok key ∧
      e.Seals hkdf aead serde
        ⟨input.message.variant, key, nonce, Utf8.encode input.message.aad, Utf8.encode plaintext, ciphertext⟩ := by
  have hs := hideal.authentic _ _ _ _ _ _ h.opened.decrypt
  obtain ⟨e, he, hseals⟩ := internal_of_typed hran hs ⟨_, _, rfl, build_parseAadFields h.aad, h.kind⟩
  obtain ⟨cipher, key', ciphertext', hparts⟩ := (hran.internal e he).parts
  have hsealing := hparts.eq_of_seals hseals
  simp only [Sealing.mk.injEq] at hsealing
  obtain ⟨hvariant, rfl, rfl, haad, hplaintext, rfl⟩ := hsealing
  obtain ⟨hfields, haad⟩ := fields_eq h.aad hparts.built haad
  have hkind := h.kind
  have hkid := h.kid
  have htimestamp := h.timestamp
  rw [hfields, aadField_type_internal] at hkind
  rw [hfields, aadField_kid_internal] at hkid
  rw [hfields, aadField_timestamp_internal] at htimestamp
  have hbuilt := hparts.built
  rw [← haad] at hbuilt
  have hsubject := subject_eq h.subjectAad hbuilt (Except.ok.inj hkind).symm
  refine ⟨e, he, ⟨?_, ?_, ?_, ?_, haad, ?_, ?_⟩, (Utf8.encode_injective hplaintext).symm, hparts.keyed, hseals⟩
  · rw [hparts.output, Except.ok.inj hkid]
  · rw [hparts.output, hsubject]
  · rw [hparts.output, Except.ok.inj htimestamp]
  · rw [hparts.output, hvariant]
  · rw [hparts.output]
    exact (Hex.lower_eq_iff h.opened.hexNonce (Hex.decode_encode _)).mpr rfl
  · rw [hparts.output]
    exact (Hex.lower_eq_iff h.opened.hexCtx (Hex.decode_encode _)).mpr rfl

/-- A stored message that is opened was sent. -/
theorem opened_stored {sent : Sent} (hran : sent.Ran hkdf aead serde)
    (hideal : aead.Ideal (sent.ledger hkdf aead serde)) {prepared : PreparedDecryptMessage}
    {input : DecryptMessageInput} {plaintext : String} {fields : AadFields}
    {key nonce ciphertext : List UInt8} (h : StoredOpened aead prepared input plaintext fields key nonce ciphertext) :
    ∃ e ∈ sent.stored, e.recipientKey.id = prepared.recipientKey.id ∧ e.source.senderKid = input.senderKid ∧
      e.plaintext = plaintext ∧ input.message.aad = e.output.aad ∧
      Hex.lower input.message.nonce = Hex.lower e.output.nonce ∧
      Hex.lower input.message.ctx = Hex.lower e.output.ct ∧
      e.Seals ⟨input.message.variant, key, nonce, Utf8.encode input.message.aad, Utf8.encode plaintext,
        ciphertext⟩ := by
  have hs := hideal.authentic _ _ _ _ _ _ h.opened.decrypt
  obtain ⟨e, he, hseals⟩ := stored_of_typed hran hs ⟨_, _, rfl, build_parseAadFields h.aad, h.kind⟩
  obtain ⟨key', ciphertext', -, hbuilt, houtput⟩ := (hran.stored e he).parts
  have hseals' := hseals
  obtain ⟨key'', ciphertext'', -, hct, hsealing⟩ := hseals'
  simp only [Sealing.mk.injEq] at hsealing
  obtain ⟨-, -, rfl, haad, hplaintext, rfl⟩ := hsealing
  obtain ⟨hfields, haad⟩ := fields_eq h.aad hbuilt haad
  have hsender := h.senderKid
  have hrecipient := h.recipientKid
  rw [hfields] at hsender hrecipient
  refine ⟨e, he, Except.ok.inj hrecipient, Except.ok.inj hsender, (Utf8.encode_injective hplaintext).symm, haad, ?_, ?_,
    hseals⟩
  · rw [houtput]
    exact (Hex.lower_eq_iff h.opened.hexNonce (Hex.decode_encode _)).mpr rfl
  · rw [hct]
    exact (Hex.lower_eq_iff h.opened.hexCtx (Hex.decode_encode _)).mpr rfl

/-! ## Seeds -/

/-- The key of a subject is one of the calls of HKDF, with the seed as salt. -/
theorem internalKey_subject {key : OpsKey} {material : SubjectMaterial} {output : List UInt8}
    (h : internalKey hkdf aead serde key (some material) = .ok output) :
    ∃ q ∈ subjectQueries hkdf aead serde key (some material),
      openAuthenticatedSeed hkdf aead serde material.origin material.subject material.envelope = .ok q.salt ∧
      hkdf q.inputKey q.salt q.info q.length = .ok output := by
  obtain ⟨cipher, hcipher, h⟩ := Loop.bind_eq_ok.mp h
  rw [requireCipher_ok_iff] at hcipher
  rw [Loop.bind_unit_eq_ok] at h
  obtain ⟨parent, hparent, h⟩ := Loop.bind_eq_ok.mp h.2
  obtain ⟨seed, hseed, h⟩ := Loop.bind_eq_ok.mp h
  rw [deriveSubjectSymmetricKey, Loop.bind_unit_eq_ok] at h
  obtain ⟨cipher', hcipher', h⟩ := Loop.bind_eq_ok.mp h.2
  rw [(symmetricCipher_some hcipher).1, requireCipher_ok_iff, hcipher] at hcipher'
  cases hcipher'
  obtain ⟨-, h⟩ := Loop.guard_eq_ok.mp h
  obtain ⟨info, hinfo, h⟩ := Loop.bind_eq_ok.mp h
  exact ⟨⟨parent, seed, bytesOf info, cipher.keySizeBytes⟩,
    ⟨material, rfl, cipher, parent, seed, info, hcipher, hparent, hseed, hinfo, rfl⟩, hseed, h⟩

/-- The key is that of the encryption, so the seed is. -/
theorem seed_eq {sent : Sent} {prepared : PreparedInternalDecryptMessage} {e : InternalEncryption}
    (he : e ∈ sent.internal) (hdistinct : Distinct hkdf (sent.asked hkdf aead serde prepared)) {key : List UInt8}
    {now sealed : SubjectMaterial}
    (hnow : prepared.subject = some now) (hsealed : e.prepared.subject = some sealed)
    (hkey : internalKey hkdf aead serde prepared.key prepared.subject = .ok key)
    (hkey' : internalKey hkdf aead serde e.prepared.key e.prepared.subject = .ok key) :
    ∃ seed, openAuthenticatedSeed hkdf aead serde now.origin now.subject now.envelope = .ok seed ∧
      openAuthenticatedSeed hkdf aead serde sealed.origin sealed.subject sealed.envelope = .ok seed := by
  rw [hnow] at hkey
  rw [hsealed] at hkey'
  obtain ⟨q, hq, hseed, hout⟩ := internalKey_subject hkey
  obtain ⟨r, hr, hseed', hout'⟩ := internalKey_subject hkey'
  rw [← hnow] at hq
  rw [← hsealed] at hr
  have heq := hdistinct q (.inl hq) r (.inr ⟨e, he, hr⟩) key hout hout'
  exact ⟨q.salt, hseed, by rw [heq, hseed']⟩

/-! ## Envelopes that are opened again -/

/-- The key and the subject of an encryption. -/
structure InternalEncryption.Prepared (e : InternalEncryption) : Prop where
  kid : parseKeyId e.prepared.key.id = .ok ()
  lifecycle : requireLifecycleForNewUse e.prepared.key.lifecycleStatus = .ok ()
  plaintext : e.prepared.plaintext = e.plaintext
  subject : ∀ material ∈ e.prepared.subject, validateSubject material.subject = .ok () ∧
    material.origin.kid = e.prepared.key.id

theorem InternalEncryption.Ran.isPrepared {e : InternalEncryption} (h : e.Ran hkdf aead serde) : e.Prepared := by
  obtain ⟨first, hfirst, hsource⟩ := Loop.bind_eq_ok.mp h.prepared
  rw [prepareInternalEncryptMessage, Loop.bind_unit_eq_ok, Loop.bind_unit_eq_ok] at hfirst
  obtain ⟨hkid, -, hfirst⟩ := hfirst
  obtain ⟨key, hkey, hfirst⟩ := Loop.bind_eq_ok.mp hfirst
  rw [Loop.bind_unit_eq_ok] at hfirst
  obtain ⟨hlifecycle, hfirst⟩ := hfirst
  cases hfirst
  rw [← h.wellFormed.id_eq (getLoadedKey_ok_iff.mp hkey).2] at hkid
  have hgoal : ∀ subject, e.prepared = ⟨key, e.plaintext, subject⟩ →
      (∀ material ∈ subject, validateSubject material.subject = .ok () ∧ material.origin.kid = key.id) →
      e.Prepared := by
    intro subject hprepared hsubject
    refine ⟨?_, ?_, ?_, ?_⟩ <;> rw [hprepared]
    · exact hkid
    · exact hlifecycle
    · exact hsubject
  cases hs : e.source with
  | none =>
    rw [hs] at hsource
    exact hgoal none (Except.ok.inj hsource).symm (by simp)
  | some source =>
    rw [hs] at hsource
    obtain ⟨material, hmaterial, hsource⟩ := Loop.bind_eq_ok.mp hsource
    refine hgoal (some material) (Except.ok.inj hsource).symm ?_
    rw [subjectMaterial, Loop.bind_unit_eq_ok] at hmaterial
    obtain ⟨hsubject, hmaterial⟩ := hmaterial
    obtain ⟨horigin, hmaterial⟩ := Loop.guard_eq_ok.mp hmaterial
    cases hmaterial
    simp only [not_or, Decidable.not_not] at horigin
    intro found hfound
    cases hfound
    exact ⟨hsubject, horigin.1⟩

theorem requireLifecycle_decrypt {status : String} (h : requireLifecycleForNewUse status = .ok ()) :
    requireLifecycleForDecryptOrVerify status = .ok () := by
  unfold requireLifecycleForNewUse at h
  split at h
  · rfl
  · cases h
  · cases h

/-- A text of the algorithms is a text field. -/
theorem validateAllowedValue_algorithm {field value : String} (h : value ∈ symmetricAlgorithms) :
    validateAllowedValue field value symmetricAlgorithms = .ok () := by
  have htext : ∀ value ∈ symmetricAlgorithms, value.toList.all isWhitespace = false ∧
      value.toList.any isControl = false := by
    decide
  rw [validateAllowedValue, Loop.bind_unit_eq_ok, Loop.check_eq_ok]
  exact ⟨validateTextField_ok_iff.mpr (htext value h), h, rfl⟩

theorem nonceSizeBytes_pos {algorithm : String} {cipher : SymmetricCipherSpec}
    (h : symmetricCipher algorithm = some cipher) : 0 < cipher.nonceSizeBytes := by
  unfold symmetricCipher at h
  split at h <;> cases h <;> decide

theorem validateTextField_buildValidated {field aad : String} {fields : AadFields} (hne : fields ≠ [])
    (h : buildValidatedAad fields = .ok aad) : validateTextField field aad = .ok () := by
  obtain ⟨hok, rfl⟩ := buildValidatedAad_ok_iff.mp h
  cases fields with
  | nil => exact absurd rfl hne
  | cons first fields => exact validateTextField_buildAad hok field

theorem internalFields_ne_nil (kid timestamp algorithm : String) (subject : Option SubjectMaterial) :
    internalFields kid timestamp algorithm subject ≠ [] := by
  cases subject <;> exact List.cons_ne_nil _ _

theorem timestamp_mem_internalFields (kid timestamp algorithm : String) (subject : Option SubjectMaterial) :
    ("timestamp", timestamp) ∈ internalFields kid timestamp algorithm subject := by
  cases subject <;> simp [internalFields]

theorem validateAllowedValue_type {field : String} (subject : Option String) :
    validateAllowedValue field (internalType subject) [internalType subject] = .ok () := by
  have htext : ∀ kind ∈ ["subject-symmetric", "internal-message"],
      kind.toList.all isWhitespace = false ∧ kind.toList.any isControl = false := by decide
  have hmem : internalType subject ∈ ["subject-symmetric", "internal-message"] := by
    cases subject <;> simp [internalType]
  rw [validateAllowedValue, Loop.bind_unit_eq_ok, Loop.check_eq_ok]
  exact ⟨validateTextField_ok_iff.mpr (htext _ hmem), List.mem_singleton_self _, rfl⟩

theorem validateSubjectAad_encrypted {e : InternalEncryption} (hprepared : e.Prepared) {cipher : SymmetricCipherSpec}
    {key ciphertext : List UInt8} (hparts : e.Parts hkdf aead serde cipher key ciphertext) :
    validateSubjectAad e.output = .ok () := by
  have hbuilt := hparts.built
  rw [hparts.output]
  cases hsubject : e.prepared.subject with
  | none => rfl
  | some material =>
    rw [hsubject] at hbuilt
    unfold validateSubjectAad
    simp only [Option.map_some, Loop.bind_unit_eq_ok]
    refine ⟨(hprepared.subject material hsubject).1, Loop.bind_eq_ok.mpr ⟨_, hbuilt, ?_⟩⟩
    rw [if_neg (not_not_intro rfl)]

/-- What was encrypted passes the checks of decryption. -/
theorem validate_encrypted {e : InternalEncryption} (hran : e.Ran hkdf aead serde) {cipher : SymmetricCipherSpec}
    {key ciphertext : List UInt8} (hparts : e.Parts hkdf aead serde cipher key ciphertext) (hct : ciphertext ≠ []) :
    validateInternalDecryptMessageInput e.output = .ok () := by
  have hprepared := hran.isPrepared
  obtain ⟨halg, hmem⟩ := symmetricCipher_some hparts.supported
  rw [← halg] at hmem
  have hsupported : symmetricCipher cipher.algorithm = some cipher := by rw [halg, hparts.supported]
  have hnonce : e.nonce.length = cipher.nonceSizeBytes := by
    refine hran.nonce cipher ?_
    rw [hparts.output]
    exact hsupported
  have hpos := nonceSizeBytes_pos hsupported
  have htimestamp : ∀ field, validateTextField field e.timestamp = .ok () := by
    intro field
    have hok := (buildValidatedAad_ok_iff.mp hparts.built).1 _ (timestamp_mem_internalFields _ _ _ _)
    exact validateTextField_ok_iff.mpr (validateAadValue_ok_iff.mp (hok.value "")).1
  have hne := internalFields_ne_nil e.prepared.key.id e.timestamp cipher.algorithm e.prepared.subject
  have hread := parseAadFields_build hne hparts.built
  have haad : validateTextField "message.aad" e.output.message.aad = .ok () :=
    validateTextField_buildValidated hne hparts.built
  have hcipherText : validateCipherText e.output.message = .ok () := by
    unfold validateCipherText
    simp only [Loop.bind_unit_eq_ok]
    rw [haad, hparts.output]
    refine ⟨validateHexField_encode hct, validateHexField_encode (List.ne_nil_of_length_pos (by omega)), rfl,
      validateAllowedValue_algorithm hmem, Loop.bind_eq_ok.mpr ⟨cipher, requireCipher_ok_iff.mpr hsupported, ?_⟩⟩
    rw [if_neg]
    rw [utf8ByteSize_hexEncode, hnonce]
    omega
  have hsubject : validateSubjectAad e.output = .ok () := validateSubjectAad_encrypted hprepared hparts
  unfold validateInternalDecryptMessageInput
  simp only [Loop.bind_unit_eq_ok]
  refine ⟨?_, ?_, hcipherText, Loop.bind_eq_ok.mpr ⟨_, hread, ?_⟩⟩
  · rw [hparts.output]
    exact hprepared.kid
  · rw [hparts.output]
    exact htimestamp _
  · rw [Loop.bind_unit_eq_ok]
    refine ⟨hsubject, Loop.bind_eq_ok.mpr ⟨_, aadField_type_internal, Loop.bind_unit_eq_ok.mpr ⟨?_, ?_⟩⟩⟩
    · rw [hparts.output]
      exact validateAllowedValue_type _
    · simp only [aadField_kid_internal, aadField_timestamp_internal, aadField_cipherAlg_internal, bind, Except.bind,
        hprepared.kid, htimestamp, validateAllowedValue_algorithm hmem]

/-- The key of the message is still loaded, for decryption, and the seed of its subject is the same. -/
structure InternalEncryption.Unchanged (hkdf : Hkdf) (aead : Aead) (serde : SerdeJson) (e : InternalEncryption)
    (state : LoadedKeys) (now : OpsKey) (source : Option SubjectSource) : Prop where
  loaded : state.get e.output.kid = some now
  id : now.id = e.prepared.key.id
  symmetric : now.symmetric = e.prepared.key.symmetric
  lifecycle : now.lifecycleStatus = e.prepared.key.lifecycleStatus ∨
    requireLifecycleForDecryptOrVerify now.lifecycleStatus = .ok ()
  subject : source.map SubjectSource.subject = e.prepared.subject.map SubjectMaterial.subject
  seed : ∀ material ∈ e.prepared.subject, ∀ given ∈ source, given.origin.kid = material.origin.kid ∧
    given.origin.subjectMode = .stored ∧ openAuthenticatedSeed hkdf aead serde given.origin given.subject
      given.envelope = openAuthenticatedSeed hkdf aead serde material.origin material.subject material.envelope

/-- The subject of a decryption with this source. -/
def SubjectSource.material (source : SubjectSource) : SubjectMaterial :=
  ⟨source.origin, source.subject, source.envelope⟩

theorem prepare_encrypted {e : InternalEncryption} {state : LoadedKeys} {now : OpsKey} {source : Option SubjectSource}
    (hprepared : e.Prepared) (hsubject : e.output.subject = e.prepared.subject.map SubjectMaterial.subject)
    (hkid : e.output.kid = e.prepared.key.id) (hvalid : validateInternalDecryptMessageInput e.output = .ok ())
    (h : e.Unchanged hkdf aead serde state now source) :
    prepareInternalDecrypt state e.output source = .ok ⟨now, e.output, source.map SubjectSource.material⟩ := by
  have hlifecycle : requireLifecycleForDecryptOrVerify now.lifecycleStatus = .ok () := by
    rcases h.lifecycle with hsame | hallowed
    · rw [hsame]
      exact requireLifecycle_decrypt hprepared.lifecycle
    · exact hallowed
  have hloaded : getLoadedKey state e.output.kid = .ok now :=
    getLoadedKey_ok_iff.mpr ⟨by rw [hkid]; exact hprepared.kid, h.loaded⟩
  have hfirst : prepareInternalDecryptMessage state e.output = .ok ⟨now, e.output, none⟩ := by
    unfold prepareInternalDecryptMessage
    simp only [hvalid, hloaded, hlifecycle, bind, Except.bind]
  rw [prepareInternalDecrypt, hfirst]
  cases source with
  | none => rfl
  | some given =>
    have hgiven := h.subject
    cases hmaterial : e.prepared.subject with
    | none =>
      rw [hmaterial] at hgiven
      cases hgiven
    | some material =>
      rw [hmaterial] at hgiven hsubject
      obtain ⟨horigin, hmode, -⟩ := h.seed material hmaterial given rfl
      obtain ⟨hvalidSubject, hkidOrigin⟩ := hprepared.subject material hmaterial
      have hname : given.subject = material.subject := Option.some.inj hgiven
      show PreparedInternalDecryptMessage.withSubject _ given = _
      unfold PreparedInternalDecryptMessage.withSubject
      rw [if_neg (by rw [hsubject, hname]; exact not_not_intro rfl)]
      simp only [subjectMaterial, hname, hvalidSubject, bind, Except.bind]
      rw [if_neg (by simp [horigin, hkidOrigin, h.id, hmode])]
      simp [SubjectSource.material, hname]

/-- The key of the encryption. -/
theorem internalKey_unchanged {e : InternalEncryption} {state : LoadedKeys} {now : OpsKey}
    {source : Option SubjectSource} (h : e.Unchanged hkdf aead serde state now source) :
    internalKey hkdf aead serde now (source.map SubjectSource.material) =
      internalKey hkdf aead serde e.prepared.key e.prepared.subject := by
  unfold internalKey
  rw [h.symmetric, h.id]
  have hfrom : ∀ parent algorithm,
      internalKeyFrom hkdf aead serde parent e.prepared.key.id algorithm (source.map SubjectSource.material) =
        internalKeyFrom hkdf aead serde parent e.prepared.key.id algorithm e.prepared.subject := by
    intro parent algorithm
    have hgiven := h.subject
    cases hsource : source with
    | none =>
      rw [hsource] at hgiven
      rw [Option.map_eq_none_iff.mp hgiven.symm]
      rfl
    | some given =>
      cases hmaterial : e.prepared.subject with
      | none =>
        rw [hsource, hmaterial] at hgiven
        cases hgiven
      | some material =>
        simp only [Option.map_some, internalKeyFrom, SubjectSource.material]
        rw [(h.seed material hmaterial given hsource).2.2]
  simp only [hfrom]

/-- A message that was sent is decrypted while its key and its seed are the same. -/
theorem decrypt_encrypted {sent : Sent} (hran : sent.Ran hkdf aead serde)
    (hideal : aead.Ideal (sent.ledger hkdf aead serde)) {e : InternalEncryption} (he : e ∈ sent.internal)
    {state : LoadedKeys} {now : OpsKey} {source : Option SubjectSource}
    (h : e.Unchanged hkdf aead serde state now source) :
    ∃ prepared, prepareInternalDecrypt state e.output source = .ok prepared ∧
      decryptInternalMessage hkdf aead serde prepared = .ok e.plaintext := by
  have hrun := hran.internal e he
  obtain ⟨cipher, key, ciphertext, hparts⟩ := hrun.parts
  have hprepared := hrun.isPrepared
  have hledger := internal_mem_ledger he hparts.seals
  have hopens := hideal.opens _ hledger
  have hlength := hideal.length _ hledger
  have hct : ciphertext ≠ [] := List.ne_nil_of_length_pos (by simp only [tagSizeBytes] at hlength; omega)
  have hsubject : e.output.subject = e.prepared.subject.map SubjectMaterial.subject := by rw [hparts.output]
  have hkid : e.output.kid = e.prepared.key.id := by rw [hparts.output]
  refine ⟨_, prepare_encrypted hprepared hsubject hkid (validate_encrypted hrun hparts hct) h, ?_⟩
  have hread := parseAadFields_build (internalFields_ne_nil _ _ _ _) hparts.built
  obtain ⟨halg, -⟩ := symmetricCipher_some hparts.supported
  have hmaterial : e.output.subject = (source.map SubjectSource.material).map SubjectMaterial.subject := by
    rw [hsubject, ← h.subject, Option.map_map]
    rfl
  have hopen : openCipherText aead cipher.algorithm key e.output.message = .ok e.plaintext := by
    refine openCipherText_ok_iff.mpr ⟨e.nonce, ciphertext, ?_, ?_, ?_⟩
    · rw [hparts.output]
      exact Hex.decode_encode _
    · rw [hparts.output]
      exact Hex.decode_encode _
    · rw [← hprepared.plaintext]
      exact hopens
  have hkey : internalKey hkdf aead serde now (source.map SubjectSource.material) = .ok key := by
    rw [internalKey_unchanged h, hparts.keyed]
  have htimestamp : e.output.timestamp = e.timestamp := by rw [hparts.output]
  have hvariant : e.output.message.variant = cipher.algorithm := by rw [hparts.output]
  have hnow : now.symmetric.variant = cipher.algorithm := by rw [h.symmetric, halg]
  have hcipher : requireCipher unsupportedVariant cipher.algorithm = .ok cipher :=
    requireCipher_ok_iff.mpr (by rw [halg, hparts.supported])
  have hsized := hparts.sized
  rw [← h.symmetric] at hsized
  unfold decryptInternalMessage
  rw [if_neg (not_not_intro hmaterial)]
  simp only [hkey, hread, aadField_kid_internal, aadField_timestamp_internal, aadField_cipherAlg_internal, bind,
    Except.bind, hkid, htimestamp, hvariant, hnow, ne_eq, not_true_eq_false, if_false, hcipher, hsized, hopen]

/-! ## All of it -/

/-- An internal message is decrypted only as it was encrypted, a stored one only as it was stored, a ciphertext of one
kind is never accepted as the other, and what was encrypted is decrypted again. -/
theorem envelopes_bound {sent : Sent} (hran : sent.Ran hkdf aead serde)
    (hideal : aead.Ideal (sent.ledger hkdf aead serde)) :
    (∀ state input source prepared plaintext, prepareInternalDecrypt state input source = .ok prepared →
      Distinct hkdf (sent.asked hkdf aead serde prepared) → decryptInternalMessage hkdf aead serde prepared =
      .ok plaintext →
      ∃ e ∈ sent.internal, SameEnvelope input e.output ∧ e.plaintext = plaintext ∧
        ∀ now ∈ prepared.subject, ∃ sealed ∈ e.prepared.subject, ∃ seed,
          openAuthenticatedSeed hkdf aead serde now.origin now.subject now.envelope = .ok seed ∧
          openAuthenticatedSeed hkdf aead serde sealed.origin sealed.subject sealed.envelope = .ok seed) ∧
    (∀ addr state input prepared plaintext, prepareDecryptMessage addr state input = .ok prepared →
      decryptMessage aead prepared = .ok plaintext →
      ∃ e ∈ sent.stored, e.recipientKey.id = prepared.recipientKey.id ∧ e.source.senderKid = input.senderKid ∧
        e.plaintext = plaintext ∧ input.message.aad = e.output.aad ∧
        Hex.lower input.message.nonce = Hex.lower e.output.nonce ∧
        Hex.lower input.message.ctx = Hex.lower e.output.ct) ∧
    (∀ state input source prepared plaintext, prepareInternalDecrypt state input source = .ok prepared →
      decryptInternalMessage hkdf aead serde prepared = .ok plaintext →
      ∀ e ∈ sent.stored, Hex.lower input.message.ctx ≠ Hex.lower e.output.ct) ∧
    (∀ addr state input prepared plaintext, prepareDecryptMessage addr state input = .ok prepared →
      decryptMessage aead prepared = .ok plaintext →
      ∀ e ∈ sent.internal, Hex.lower input.message.ctx ≠ Hex.lower e.output.message.ctx) ∧
    ∀ e ∈ sent.internal, ∀ state now source, e.Unchanged hkdf aead serde state now source →
      ∃ prepared, prepareInternalDecrypt state e.output source = .ok prepared ∧
        decryptInternalMessage hkdf aead serde prepared = .ok e.plaintext := by
  refine ⟨?_, ?_, ?_, ?_, fun e he state now source => decrypt_encrypted hran hideal he⟩
  · intro state input source prepared plaintext hprepared hdistinct h
    obtain ⟨fields, key, nonce, ciphertext, hopened⟩ := decryptInternal_ok hprepared h
    obtain ⟨e, he, hsame, hplaintext, hkey, -⟩ := opened_internal hran hideal hopened
    refine ⟨e, he, hsame, (hran.internal e he).isPrepared.plaintext.symm.trans hplaintext, ?_⟩
    intro now hnow
    obtain ⟨cipher, key', ciphertext', hparts⟩ := (hran.internal e he).parts
    have hsubject := hopened.subject.symm.trans hsame.subject
    rw [hparts.output, Option.mem_def.mp hnow] at hsubject
    obtain ⟨sealed, hsealed, -⟩ := Option.map_eq_some_iff.mp hsubject.symm
    exact ⟨sealed, hsealed, seed_eq he hdistinct hnow hsealed hopened.keyed hkey⟩
  · intro addr state input prepared plaintext hprepared h
    obtain ⟨fields, key, nonce, ciphertext, hopened⟩ := decryptStored_ok hprepared h
    obtain ⟨e, he, hrecipient, hsender, hplaintext, haad, hnonce, hctx, -⟩ := opened_stored hran hideal hopened
    exact ⟨e, he, hrecipient, hsender, hplaintext, haad, hnonce, hctx⟩
  · intro state input source prepared plaintext hprepared h e he hctx
    obtain ⟨fields, key, nonce, ciphertext, hopened⟩ := decryptInternal_ok hprepared h
    obtain ⟨e', he', -, -, -, hseals'⟩ := opened_internal hran hideal hopened
    obtain ⟨s, hseals, hhex⟩ := (hran.stored e he).sealing
    exact kinds_apart hideal (internal_mem_ledger he' hseals') (stored_mem_ledger he hseals)
      ((hran.internal e' he').typed hseals') ((hran.stored e he).typed hseals) (internalType_ne _).1
      ((Hex.lower_eq_iff hopened.opened.hexCtx hhex).mp hctx)
  · intro addr state input prepared plaintext hprepared h e he hctx
    obtain ⟨fields, key, nonce, ciphertext, hopened⟩ := decryptStored_ok hprepared h
    obtain ⟨e', he', -, -, -, -, -, -, hseals'⟩ := opened_stored hran hideal hopened
    obtain ⟨s, hseals, hhex⟩ := (hran.internal e he).sealing
    exact kinds_apart hideal (internal_mem_ledger he hseals) (stored_mem_ledger he' hseals')
      ((hran.internal e he).typed hseals) ((hran.stored e' he').typed hseals') (internalType_ne _).1
      ((Hex.lower_eq_iff hopened.opened.hexCtx hhex).mp hctx).symm

/-! ## An example -/

def exampleKey : OpsKey where
  id := "aaaaaaaaaaaaaaaaaaaaaaaaaaaaaaaaaaaaaaaaaaaaaaaaaaaaaaaaaaaaaaaa"
  aad := ""
  propertiesAad := ""
  keyMaterial := ⟨⟨"AES-128/GCM", "00000000000000000000000000000000"⟩, ⟨"", "", ""⟩, ⟨"", "", ""⟩, ⟨"", "", ""⟩,
    ⟨"", "", ""⟩, "SHA-3(256)"⟩
  properties := ⟨1, "", "", "", ⟨"active", "", ""⟩⟩

def exampleState : LoadedKeys := .fromKeys LoadedOpsKey.id [exampleKey]

def exampleNonce : List UInt8 := List.replicate 12 7

def internalText : String := buildAad (internalFields exampleKey.id "t" "AES-128/GCM" none)

def exampleSource : LocalSource := ⟨"v1", exampleKey.id, "s"⟩

def storedText : String := buildAad (storedFields exampleSource exampleKey.id "AES-128/GCM")

def internalSealing : Sealing where
  algorithm := "AES-128/GCM"
  key := List.replicate 16 0
  nonce := exampleNonce
  aad := Utf8.encode internalText
  plaintext := Utf8.encode "hi"
  ciphertext := List.replicate 18 1

def storedSealing : Sealing where
  algorithm := "AES-128/GCM"
  key := List.replicate 16 0
  nonce := exampleNonce
  aad := Utf8.encode storedText
  plaintext := Utf8.encode "lo"
  ciphertext := List.replicate 18 2

def exampleAead : Aead := .ofSealings [internalSealing, storedSealing]

def exampleInternal : InternalEncryption where
  state := exampleState
  kid := exampleKey.id
  plaintext := "hi"
  source := none
  timestamp := "t"
  nonce := exampleNonce
  prepared := ⟨exampleKey, "hi", none⟩
  output := ⟨"t", exampleKey.id, none, ⟨Hex.encode (List.replicate 18 1), Hex.encode exampleNonce, internalText,
    "AES-128/GCM"⟩⟩

def exampleStored : LocalEncryption where
  recipientKey := exampleKey
  plaintext := "lo"
  source := exampleSource
  nonce := exampleNonce
  output := ⟨"AES-128/GCM", Hex.encode exampleNonce, storedText, Hex.encode (List.replicate 18 2)⟩

def exampleSent : Sent := ⟨{exampleInternal}, {exampleStored}, ∅⟩

def exampleHkdf : Hkdf := fun _ _ _ length => .ok (List.replicate length 0)

theorem exampleKey_id (field : String) : validateHashHexField field exampleKey.id internalKeysHash = .ok () :=
  validateInternalHash_replicate (c := 'a') (by decide) field

theorem build_internalText :
    buildValidatedAad (internalFields exampleKey.id "t" "AES-128/GCM" none) = .ok internalText := by
  refine buildValidatedAad_ok_iff.mpr ⟨?_, rfl⟩
  simp only [internalFields, List.forall_mem_cons]
  exact ⟨aadOk_of_validate (by rfl), aadOk_of_validate (by rfl),
    aadOk_kid (by rfl) (exampleKey_id _), aadOk_of_validate (by rfl),
    aadOk_of_validate (by rfl), nofun⟩

theorem build_storedText :
    buildValidatedAad (storedFields exampleSource exampleKey.id "AES-128/GCM") = .ok storedText := by
  refine buildValidatedAad_ok_iff.mpr ⟨?_, rfl⟩
  simp only [storedFields, exampleSource, List.forall_mem_cons]
  exact ⟨aadOk_of_validate (by rfl), aadOk_of_validate (by rfl),
    aadOk_kid (by rfl) (exampleKey_id _), aadOk_kid (by rfl) (exampleKey_id _),
    aadOk_of_validate (by rfl), aadOk_of_validate (by rfl), nofun⟩

theorem exampleKey_symmetric (field : String) : validateSymmetricKey field exampleKey.symmetric.keyHex 16 = .ok () :=
  validateSymmetricKey_ok_iff.mpr ⟨validateHexField_ok_iff.mpr (by decide), by decide⟩

theorem hexDecode_exampleKey : hexDecode exampleKey.symmetric.keyHex = .ok (List.replicate 16 0) := by rfl

theorem internalKey_example (hkdf : Hkdf) (aead : Aead) :
    internalKey hkdf aead .compact exampleKey none = .ok (List.replicate 16 0) := by
  unfold internalKey
  rw [show requireCipher unsupportedInternal exampleKey.symmetric.variant = .ok ⟨"AES-128/GCM", 16, 12⟩ from rfl]
  simp only [bind, Except.bind, exampleKey_symmetric, hexDecode_exampleKey, internalKeyFrom]

theorem exampleInternal_seals (hkdf : Hkdf) : exampleInternal.Seals hkdf exampleAead .compact internalSealing := by
  refine ⟨List.replicate 16 0, List.replicate 18 1, internalKey_example hkdf exampleAead, rfl, ?_⟩
  simp only [internalSealing, exampleInternal]

theorem exampleStored_seals : exampleStored.Seals storedSealing := by
  refine ⟨List.replicate 16 0, List.replicate 18 2, hexDecode_exampleKey, rfl, ?_⟩
  simp only [storedSealing, exampleStored]

theorem mem_exampleLedger (hkdf : Hkdf) (s : Sealing) :
    s ∈ exampleSent.ledger hkdf exampleAead .compact ↔ s ∈ [internalSealing, storedSealing] := by
  simp only [List.mem_cons, List.not_mem_nil, or_false]
  constructor
  · rintro (⟨e, rfl, key, ciphertext, hkey, hctx, rfl⟩ | ⟨e, rfl, key, ciphertext, hkey, hctx, rfl⟩ | ⟨e, he, -⟩)
    · simp only [exampleInternal, internalKey_example, Except.ok.injEq] at hkey
      rw [← hkey, ← Hex.encode_injective hctx]
      left
      simp only [internalSealing, exampleInternal]
    · simp only [exampleStored, hexDecode_exampleKey, Except.ok.injEq] at hkey
      rw [← hkey, ← Hex.encode_injective hctx]
      right
      simp only [storedSealing, exampleStored]
    · exact he.elim
  · rintro (rfl | rfl)
    · exact .inl ⟨exampleInternal, rfl, exampleInternal_seals hkdf⟩
    · exact .inr (.inl ⟨exampleStored, rfl, exampleStored_seals⟩)

theorem exampleAead_ideal (hkdf : Hkdf) : exampleAead.Ideal (exampleSent.ledger hkdf exampleAead .compact) := by
  have hplaintext : internalSealing.plaintext ≠ storedSealing.plaintext := by decide
  have hciphertext : internalSealing.ciphertext ≠ storedSealing.ciphertext := by decide
  refine Aead.ideal_ofSealings (mem_exampleLedger hkdf) ?_ ?_ ?_
  · simp [hplaintext, hplaintext.symm]
  · simp [hciphertext, hciphertext.symm]
  · decide

/-- With a cipher that makes this encryption. -/
theorem encrypt_exampleInternal (hkdf : Hkdf) {aead : Aead} (h : internalSealing.By aead) :
    encryptInternalMessage hkdf aead .compact (.ok "t") (.ok exampleNonce) ⟨exampleKey, "hi", none⟩ =
      .ok exampleInternal.output := by
  rw [Sealing.By, internalSealing] at h
  dsimp only at h
  have hrun := @encryptInternalMessage_of hkdf aead .compact ⟨exampleKey, "hi", none⟩ ⟨"AES-128/GCM", 16, 12⟩ "t" _
    exampleNonce _ _ rfl (exampleKey_symmetric _) (internalKey_example hkdf aead) build_internalText h
  rw [hrun]
  simp only [exampleInternal, Option.map_none]

theorem encrypt_exampleStored {aead : Aead} (h : storedSealing.By aead) :
    encryptLocalMessage aead (.ok exampleNonce) exampleKey "lo" exampleSource = .ok exampleStored.output := by
  rw [Sealing.By, storedSealing] at h
  dsimp only at h
  have hrun := @encryptLocalMessage_of aead exampleKey exampleSource "lo" _ ⟨"AES-128/GCM", 16, 12⟩ exampleNonce _ _ rfl
    (exampleKey_symmetric _) hexDecode_exampleKey build_storedText h
  rw [hrun]
  simp only [exampleStored]

theorem exampleSent_ran (hkdf : Hkdf) : exampleSent.Ran hkdf exampleAead .compact := by
  have hideal := exampleAead_ideal hkdf
  refine ⟨?_, ?_, fun e he => he.elim⟩
  · rintro e rfl
    refine ⟨KeysDbState.wellFormed_fromKeys _, ?_, ?_, ?_⟩
    · have hkid : parseKeyId exampleKey.id = .ok () := exampleKey_id "id"
      have hinput : validateInternalEncryptMessageInput "hi" = .ok () := by rfl
      have hkey : getLoadedKey exampleState exampleKey.id = .ok exampleKey := getLoadedKey_ok_iff.mpr ⟨hkid, rfl⟩
      show prepareInternalEncrypt exampleState exampleKey.id "hi" none = .ok ⟨exampleKey, "hi", none⟩
      unfold prepareInternalEncrypt prepareInternalEncryptMessage
      simp only [hkid, hinput, hkey, bind, Except.bind]
      rfl
    · exact encrypt_exampleInternal hkdf (hideal.sealed _ ((mem_exampleLedger hkdf _).mpr List.mem_cons_self))
    · intro cipher hcipher
      cases hcipher
      rfl
  · rintro e rfl
    exact encrypt_exampleStored
      (hideal.sealed _ ((mem_exampleLedger hkdf _).mpr (List.mem_cons_of_mem _ List.mem_cons_self)))

/-! ### With a subject -/

def exampleSeed : List UInt8 := List.replicate 32 3

def seedNonce : List UInt8 := List.replicate 12 4

def seedCiphertext : List UInt8 := 3 :: List.replicate ((Utf8.encode (seedText .compact exampleSeed)).length + 15) 0

def seedSealing : Sealing where
  algorithm := "AES-128/GCM"
  key := List.replicate 16 0
  nonce := seedNonce
  aad := Utf8.encode (buildAad (seedFields seedExampleProfile seedExampleKid))
  plaintext := Utf8.encode (seedText .compact exampleSeed)
  ciphertext := seedCiphertext

def exampleSeedCreation : SeedCreation where
  profile := seedExampleProfile
  subject := seedExampleKid
  seed := exampleSeed
  nonce := seedNonce
  envelope := seedEnvelope seedExampleProfile seedExampleKid seedCiphertext seedNonce

def subjectMaterialExample : SubjectMaterial := ⟨seedExampleProfile, seedExampleKid, exampleSeedCreation.envelope⟩

def subjectText : String := buildAad (internalFields exampleKey.id "t" "AES-128/GCM" (some subjectMaterialExample))

def subjectSealing : Sealing where
  algorithm := "AES-128/GCM"
  key := List.replicate 16 0
  nonce := exampleNonce
  aad := Utf8.encode subjectText
  plaintext := Utf8.encode "mi"
  ciphertext := List.replicate 18 4

def exampleSubjectInternal : InternalEncryption where
  state := exampleState
  kid := exampleKey.id
  plaintext := "mi"
  source := some ⟨seedExampleProfile, seedExampleKid, exampleSeedCreation.envelope⟩
  timestamp := "t"
  nonce := exampleNonce
  prepared := ⟨exampleKey, "mi", some subjectMaterialExample⟩
  output := ⟨"t", exampleKey.id, some seedExampleKid,
    ⟨Hex.encode (List.replicate 18 4), Hex.encode exampleNonce, subjectText, "AES-128/GCM"⟩⟩

def subjectSent : Sent := ⟨{exampleSubjectInternal}, ∅, {exampleSeedCreation}⟩

def subjectAead : Aead := .ofSealings [subjectSealing, seedSealing]

theorem subjectAead_ideal {ledger : Set Sealing} (hledger : ∀ s, s ∈ ledger ↔ s ∈ [subjectSealing, seedSealing]) :
    subjectAead.Ideal ledger := by
  have hnonce : subjectSealing.nonce ≠ seedSealing.nonce := by decide
  have hciphertext : subjectSealing.ciphertext ≠ seedSealing.ciphertext := by
    intro h
    exact absurd (show some (4 : UInt8) = some 3 from congrArg List.head? h) (by decide)
  have hplaintext : (Utf8.encode "mi").length = 2 := by decide
  refine Aead.ideal_ofSealings hledger ?_ ?_ ?_
  · simp [hnonce, hnonce.symm]
  · simp [hciphertext, hciphertext.symm]
  · have hlength : seedCiphertext.length = (Utf8.encode (seedText .compact exampleSeed)).length + 16 := by
      rw [seedCiphertext, List.length_cons, List.length_replicate]
    simp [subjectSealing, seedSealing, tagSizeBytes, hplaintext, hlength]

theorem wrappingKey_example : wrappingKey exampleHkdf seedExampleProfile = .ok (List.replicate 16 0) := by
  obtain ⟨info, hinfo⟩ := @keyInfo_ok _ seedExampleProfile_ok "subject-wrap"
    (aadOk_of_validate (by rfl))
  exact Loop.bind_eq_ok.mpr ⟨⟨"AES-128/GCM", 16, 12⟩, rfl, Loop.bind_eq_ok.mpr ⟨info, hinfo, rfl⟩⟩

theorem length_seedCiphertext : 16 ≤ seedCiphertext.length ∧ seedCiphertext.length ≤ 416 := by
  have hsize := size_seedText .compact (show exampleSeed.length = subjectSeedBytes from rfl)
  rw [seedCiphertext, List.length_cons, List.length_replicate]
  omega

theorem seedCipher : symmetricCipher seedExampleProfile.cipherAlgorithm = some ⟨"AES-128/GCM", 16, 12⟩ := rfl

/-- With a cipher that opens this encryption. -/
theorem openAuthenticatedSeed_example {aead : Aead} (h : aead.decrypt seedSealing.algorithm seedSealing.ciphertext
      seedSealing.key seedSealing.nonce seedSealing.aad = .ok seedSealing.plaintext) :
    openAuthenticatedSeed exampleHkdf aead .compact seedExampleProfile seedExampleKid exampleSeedCreation.envelope =
      .ok exampleSeed := by
  dsimp only [seedSealing] at h
  have hinner : openSeedInner exampleHkdf aead .compact seedExampleProfile seedExampleKid
      (seedEnvelope seedExampleProfile seedExampleKid seedCiphertext seedNonce) = .ok exampleSeed := by
    refine openSeedInner_envelope seedExampleProfile_ok seedExampleSubject_ok seedCipher wrappingKey_example
      List.length_replicate List.length_replicate length_seedCiphertext.1 length_seedCiphertext.2 ?_
    rwa [show seedExampleProfile.cipherAlgorithm = "AES-128/GCM" from rfl]
  exact Loop.mapError_eq_ok.mpr hinner

theorem seed_example : openAuthenticatedSeed exampleHkdf subjectAead .compact seedExampleProfile seedExampleKid
    exampleSeedCreation.envelope = .ok exampleSeed := by
  have hideal := @subjectAead_ideal {s | s ∈ [subjectSealing, seedSealing]} fun _ => Iff.rfl
  exact openAuthenticatedSeed_example
    (hideal.opens seedSealing (List.mem_cons_of_mem _ (List.mem_singleton.mpr rfl)))

theorem createSeed_example {aead : Aead} (h : seedSealing.By aead) :
    createSeed exampleHkdf aead .compact seedExampleProfile seedExampleKid (.ok exampleSeed) (.ok seedNonce) =
      .ok exampleSeedCreation.envelope := by
  rw [Sealing.By, seedSealing] at h
  dsimp only at h
  refine createSeed_of seedExampleProfile_ok seedExampleSubject_ok seedCipher wrappingKey_example List.length_replicate
    length_seedCiphertext.1 length_seedCiphertext.2 ?_
  rwa [show seedExampleProfile.cipherAlgorithm = "AES-128/GCM" from rfl]

theorem subjectSymmetricInfo_example : ∃ info, subjectSymmetricInfo exampleKey.id "AES-128/GCM" = .ok info := by
  refine ⟨_, buildValidatedAad_ok_iff.mpr ⟨?_, rfl⟩⟩
  simp only [List.forall_mem_cons]
  exact ⟨aadOk_of_validate (by rfl), aadOk_kid (by rfl) (exampleKey_id _),
    aadOk_of_validate (by rfl), aadOk_of_validate (by rfl), nofun⟩

theorem deriveSubjectSymmetricKey_example : deriveSubjectSymmetricKey exampleHkdf (List.replicate 16 0) exampleSeed
    exampleKey.id "AES-128/GCM" = .ok (List.replicate 16 0) := by
  obtain ⟨info, hinfo⟩ := subjectSymmetricInfo_example
  have hkid : parseKeyId exampleKey.id = .ok () := exampleKey_id "id"
  have hcipher : requireCipher unsupportedVariant "AES-128/GCM" = .ok ⟨"AES-128/GCM", 16, 12⟩ := rfl
  have hsizes : ¬((List.replicate 16 (0 : UInt8)).length ≠ 16 ∨ exampleSeed.length ≠ subjectSeedBytes) := by decide
  unfold deriveSubjectSymmetricKey
  simp only [hkid, hcipher, bind, Except.bind]
  rw [if_neg hsizes]
  simp only [hinfo, exampleHkdf]

theorem internalKey_material : internalKey exampleHkdf subjectAead .compact exampleKey (some subjectMaterialExample) =
    .ok (List.replicate 16 0) :=
  internalKey_of_seed rfl (exampleKey_symmetric _) hexDecode_exampleKey seed_example deriveSubjectSymmetricKey_example

theorem exampleSubjectInternal_seals : exampleSubjectInternal.Seals exampleHkdf subjectAead .compact
    subjectSealing := by
  refine ⟨List.replicate 16 0, List.replicate 18 4, internalKey_material, rfl, ?_⟩
  simp only [subjectSealing, exampleSubjectInternal]

theorem exampleSeedAad : seedAad seedExampleProfile seedExampleKid =
    .ok (buildAad (seedFields seedExampleProfile seedExampleKid)) :=
  seedAad_ok seedExampleProfile_ok seedExampleSubject_ok

theorem exampleSeedCreation_seals : exampleSeedCreation.Seals exampleHkdf .compact seedSealing := by
  refine ⟨List.replicate 16 0, _, seedCiphertext, wrappingKey_example, exampleSeedAad, rfl, ?_⟩
  simp only [seedSealing, seedText, exampleSeedCreation]
  rfl

theorem mem_subjectLedger (s : Sealing) :
    s ∈ subjectSent.ledger exampleHkdf subjectAead .compact ↔ s ∈ [subjectSealing, seedSealing] := by
  simp only [List.mem_cons, List.not_mem_nil, or_false]
  constructor
  · rintro (⟨e, rfl, key, ciphertext, hkey, hctx, rfl⟩ | ⟨e, he, -⟩ | ⟨e, rfl, key, aad, ciphertext, hkey, haad,
      henvelope, rfl⟩)
    · left
      obtain rfl := Except.ok.inj (internalKey_material.symm.trans hkey)
      rw [← Hex.encode_injective hctx]
      simp only [subjectSealing, exampleSubjectInternal]
    · exact he.elim
    · right
      obtain rfl := Except.ok.inj (wrappingKey_example.symm.trans hkey)
      obtain rfl := Except.ok.inj (exampleSeedAad.symm.trans haad)
      rw [← ciphertext_of_envelopeText henvelope]
      simp only [seedSealing, seedText, exampleSeedCreation]
      rfl
  · rintro (rfl | rfl)
    · exact .inl ⟨exampleSubjectInternal, rfl, exampleSubjectInternal_seals⟩
    · exact .inr (.inr ⟨exampleSeedCreation, rfl, exampleSeedCreation_seals⟩)

theorem build_subjectText :
    buildValidatedAad (internalFields exampleKey.id "t" "AES-128/GCM" (some subjectMaterialExample)) =
    .ok subjectText := by
  refine buildValidatedAad_ok_iff.mpr ⟨?_, rfl⟩
  simp only [internalFields, List.forall_mem_cons]
  exact ⟨aadOk_of_validate (by rfl), aadOk_of_validate (by rfl),
    aadOk_kid (by rfl) (exampleKey_id _), aadOk_subject seedExampleSubject_ok,
    aadOk_of_validate (by rfl), aadOk_of_validate (by rfl), nofun⟩

theorem encrypt_exampleSubject {aead : Aead} (h : subjectSealing.By aead)
    (hkey : internalKey exampleHkdf aead .compact exampleKey (some subjectMaterialExample) =
      .ok (List.replicate 16 0)) :
    encryptInternalMessage exampleHkdf aead .compact (.ok "t") (.ok exampleNonce)
      ⟨exampleKey, "mi", some subjectMaterialExample⟩ = .ok exampleSubjectInternal.output := by
  rw [Sealing.By, subjectSealing] at h
  dsimp only at h
  have hrun := @encryptInternalMessage_of exampleHkdf aead .compact ⟨exampleKey, "mi", some subjectMaterialExample⟩
    ⟨"AES-128/GCM", 16, 12⟩ "t" _ exampleNonce _ _ rfl (exampleKey_symmetric _) hkey build_subjectText h
  rw [hrun]
  simp only [exampleSubjectInternal, Option.map_some, subjectMaterialExample]

theorem subjectSent_ran : subjectSent.Ran exampleHkdf subjectAead .compact := by
  have hideal := @subjectAead_ideal _ mem_subjectLedger
  refine ⟨?_, fun e he => he.elim, ?_⟩
  · rintro e rfl
    refine ⟨KeysDbState.wellFormed_fromKeys _, ?_, ?_, ?_⟩
    · have hkid : parseKeyId exampleKey.id = .ok () := exampleKey_id "id"
      have hinput : validateInternalEncryptMessageInput "mi" = .ok () := by rfl
      have hkey : getLoadedKey exampleState exampleKey.id = .ok exampleKey := getLoadedKey_ok_iff.mpr ⟨hkid, rfl⟩
      have hmaterial : subjectMaterial exampleKey seedExampleProfile seedExampleKid exampleSeedCreation.envelope =
          .ok subjectMaterialExample := by
        rw [subjectMaterial, seedExampleSubject_ok]
        rfl
      show prepareInternalEncrypt exampleState exampleKey.id "mi"
        (some ⟨seedExampleProfile, seedExampleKid, exampleSeedCreation.envelope⟩) = .ok ⟨exampleKey, "mi",
          some subjectMaterialExample⟩
      unfold prepareInternalEncrypt prepareInternalEncryptMessage
      simp only [hkid, hinput, hkey, bind, Except.bind]
      show PreparedInternalEncryptMessage.withSubject ⟨exampleKey, "mi", none⟩ _ = _
      simp only [PreparedInternalEncryptMessage.withSubject, hmaterial, bind, Except.bind]
    · exact encrypt_exampleSubject (hideal.sealed _ ((mem_subjectLedger _).mpr List.mem_cons_self)) internalKey_material
    · intro cipher hcipher
      cases hcipher
      rfl
  · rintro e rfl
    exact createSeed_example (hideal.sealed _ ((mem_subjectLedger _).mpr (List.mem_cons_of_mem _ List.mem_cons_self)))

/-- A message and a stored message under one key: the message is decrypted, and never as a stored message. A message for
a subject is decrypted with the seed of the subject. -/
theorem envelopes_bound_example :
    (∃ prepared, prepareInternalDecrypt exampleState exampleInternal.output none = .ok prepared ∧
      decryptInternalMessage exampleHkdf exampleAead .compact prepared = .ok "hi") ∧
    (∀ addr state input prepared plaintext, prepareDecryptMessage addr state input = .ok prepared →
      decryptMessage exampleAead prepared = .ok plaintext →
      Hex.lower input.message.ctx ≠ Hex.lower exampleInternal.output.message.ctx) ∧
    ∃ prepared, prepareInternalDecrypt exampleState exampleSubjectInternal.output
        (some ⟨seedExampleProfile, seedExampleKid, exampleSeedCreation.envelope⟩) = .ok prepared ∧
      decryptInternalMessage exampleHkdf subjectAead .compact prepared = .ok "mi" := by
  obtain ⟨-, -, -, hstored, hopens⟩ := envelopes_bound (exampleSent_ran exampleHkdf) (exampleAead_ideal exampleHkdf)
  obtain ⟨-, -, -, -, hsubject⟩ := envelopes_bound subjectSent_ran (subjectAead_ideal mem_subjectLedger)
  refine ⟨hopens exampleInternal rfl exampleState exampleKey none ⟨rfl, rfl, rfl, .inl rfl, rfl, ?_⟩, ?_,
    hsubject exampleSubjectInternal rfl exampleState exampleKey _ ⟨rfl, rfl, rfl, .inl rfl, rfl, ?_⟩⟩
  · intro material hmaterial
    cases hmaterial
  · intro addr state input prepared plaintext hprepared h
    exact hstored addr state input prepared plaintext hprepared h exampleInternal rfl
  · intro material hmaterial given hgiven
    cases hmaterial
    cases hgiven
    exact ⟨rfl, rfl, rfl⟩

end Vectis.Ops.Message

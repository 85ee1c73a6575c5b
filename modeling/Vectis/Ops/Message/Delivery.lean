import Vectis.Core.HostPort
import Vectis.Ops.Message.Protected

/-!
# Delivery of protected messages

What a recipient accepts was sent to it, and what is sent to it is accepted. The primitives are ideal: a signature
verifies only on what the owner of the key signed (`Sign.Authentic`), the cipher opens only what was sealed
(`Aead.Ideal`), and key agreement and encapsulation give both sides one key (`KeyAgreement.Pair`, `Kem.Pair`).

- `receive_authentic`: an accepted envelope has the payload of a call of `create_message_envelope`, by the holder of the
  keys registered for its sender, and the message of that call is what is stored;
- `send_complete`: an envelope between nodes that know each other's keys is built, accepted and opened;
- `protected_delivery`: both.
-/

namespace Vectis.Ops.Message

open Vectis.Core Vectis.Core.Validation Vectis.Core.Profiles Vectis.Core.Crypto Vectis.Core.Canonical Vectis.Ops.Keys
open Vectis.Core.Tokenization Vectis.Ops.Contracts Vectis.Ops.Sign
open Vectis.Core.AuditChain (Platform currentTimestamp)

/-! ## Receiving an envelope -/

/-- What `receive_endpoint` is given besides the envelope. -/
structure ReceiveEnv where
  publicKeysFor : String → Option PublicKeys
  state : LoadedKeys
  now : Res UInt64
  trials : Res (List UInt8 × List UInt8) × Res (List UInt8 × List UInt8)
  nonce : Res (List UInt8)

/-- `receive_endpoint` up to the delivery: the keys of the sender are the registered ones of its kid. -/
def receiveMessage (lib : MessageLibrary) (addr : AddrLibrary) (env : ReceiveEnv) (envelope : ProtectedMessageToken) :
    Res (OpsKey × LocalCipherOutput) := do
  validateKeyId envelope.payload.recipientKid
  let prepared ← prepareReceiveMessage addr env.state envelope
  match env.publicKeysFor envelope.payload.sender.kid with
  | none => .error (.forbidden "sender kid is not a registered peer with public keys in the signed config")
  | some peer =>
    let sender ← remotePublicKeysFromPeer lib addr env.now env.trials.1 envelope.payload.sender.host
      envelope.payload.sender.kid peer
    let (_, localCipher) ← processReceivedMessage lib addr env.trials.2 env.nonce prepared sender
    .ok (prepared.recipientKey, localCipher)

/-! ## Calls that send -/

/-- A call of `create_message_envelope`. -/
structure EnvelopeCall where
  config : SenderConfig
  senderKey : OpsKey
  recipient : RemotePublicKeys
  message : String
  env : EnvelopeEnv

section Calls

variable (lib : MessageLibrary)

/-- The payload that the call computes and signs. -/
def EnvelopeCall.Makes (call : EnvelopeCall) (payload : ProtectedMessagePayload) : Prop :=
  ∃ rng, messagePayload lib call.config call.senderKey call.recipient call.message call.env = .ok (rng, payload)

/-- The encryption that the call makes. -/
def EnvelopeCall.Seals (call : EnvelopeCall) (s : Sealing) : Prop :=
  ∃ run : EnvelopeRun lib, run.Of call.config call.senderKey call.recipient call.message call.env ∧
    s = ⟨run.cipher.algorithm, run.messageKey, run.nonce, Utf8.encode run.aad, Utf8.encode call.message, run.ciphertext⟩

/-- The holder of the keys signs with them what its operations sign: compact tokens, and the payloads of these calls. -/
def Holder (canonicalConfigJson : String → Res String) (peer : PublicKeys) (calls : Set EnvelopeCall) : Prop :=
  ∃ log : Set SignCall, Authentic lib.toSignLibrary ⟨peer.eddsa.publicKeyDerHex, peer.mlDsa.publicKeyDerHex⟩
      (signedBy lib.toPlatform canonicalConfigJson log) ∧
    ∀ payload, .message payload ∈ log → ∃ call ∈ calls, call.Makes lib payload

end Calls

/-! ## Authenticity -/

section Authenticity

variable {lib : MessageLibrary} {addr : AddrLibrary} {canonicalConfigJson : String → Res String}

theorem protectedMessageCodec_injective {payload payload' : ProtectedMessagePayload}
    (h : protectedMessageCodec.toValue payload = protectedMessageCodec.toValue payload') : payload = payload' := by
  have hfrom := protectedMessageCodec.fromValue_toValue payload
  rw [h, protectedMessageCodec.fromValue_toValue] at hfrom
  exact (Option.some.inj hfrom).symm

/-- The text of a payload is signed only by a call that makes the payload. -/
theorem message_of_signs {call : SignCall} {payload : ProtectedMessagePayload}
    (h : call.Signs lib.toPlatform canonicalConfigJson (lib.serde.toText (protectedMessageCodec.toValue payload))) :
    call = .message payload := by
  generalize htext : lib.serde.toText (protectedMessageCodec.toValue payload) = text at h
  cases h with
  | timestamp _ hinput => exact absurd (htext.trans (signingInput_ok hinput)) message_ne_spelling
  | config _ hinput => exact absurd (htext.trans (signingInput_ok hinput)) message_ne_spelling
  | checkpoint _ hinput => exact absurd (htext.trans (signingInput_ok hinput)) message_ne_spelling
  | message hpayload =>
    rw [canonicalJsonV1_ok hpayload] at htext
    have hvalue := toText_injective (protectedMessageCodec_plain _) (protectedMessageCodec_plain _) htext
    rw [protectedMessageCodec_injective hvalue]

/-- Both schemes have verified the text of the payload. -/
theorem verifyMessageSignatures_ok {sender : RemotePublicKeys} {envelope : ProtectedMessageToken}
    (h : verifyMessageSignatures lib sender envelope = .ok ()) {signed : Set String}
    (hauthentic : Authentic lib.toSignLibrary ⟨sender.keys.eddsa.publicKeyDerHex, sender.keys.mlDsa.publicKeyDerHex⟩
      signed) :
    lib.serde.toText (protectedMessageCodec.toValue envelope.payload) ∈ signed := by
  unfold verifyMessageSignatures at h
  rw [Loop.guard_eq_ok, Loop.guard_eq_ok] at h
  obtain ⟨-, -, h⟩ := h
  obtain ⟨text, htext, h⟩ := Loop.bind_eq_ok.mp h
  obtain ⟨eddsaKey, heddsaKey, h⟩ := Loop.bind_eq_ok.mp h
  obtain ⟨mlDsaKey, hmlDsaKey, h⟩ := Loop.bind_eq_ok.mp h
  obtain ⟨eddsaSignature, -, h⟩ := Loop.bind_eq_ok.mp h
  obtain ⟨mlDsaSignature, -, h⟩ := Loop.bind_eq_ok.mp h
  obtain ⟨eddsaValid, heddsaValid, h⟩ := Loop.bind_eq_ok.mp h
  obtain ⟨mlDsaValid, hmlDsaValid, h⟩ := Loop.bind_eq_ok.mp h
  obtain ⟨hvalid, -⟩ := Loop.guard_eq_ok.mp h
  simp only [Bool.or_eq_true, Bool.not_eq_true', not_or, Bool.not_eq_false] at hvalid
  obtain ⟨rfl, rfl⟩ := hvalid
  rw [← canonicalJsonV1_ok htext]
  rcases hauthentic with hscheme | hscheme
  · exact hscheme _ _ _ (Loop.mapError_eq_ok.mp heddsaKey) (Loop.mapError_eq_ok.mp heddsaValid)
  · exact hscheme _ _ _ (Loop.mapError_eq_ok.mp hmlDsaKey) (Loop.mapError_eq_ok.mp hmlDsaValid)

/-- What the recipient opens is what the call with this payload encrypted. -/
theorem opened_eq {ledger : Set Sealing} (hideal : lib.aead.Ideal ledger) {call : EnvelopeCall}
    (hsealed : ∀ s, call.Seals lib s → s ∈ ledger) {recipientKey : OpsKey} {envelope : ProtectedMessageToken}
    {plaintext : String} (hmakes : call.Makes lib envelope.payload)
    (hopened : openMessageCipher lib recipientKey envelope = .ok plaintext) : plaintext = call.message := by
  obtain ⟨rng, hpayload⟩ := hmakes
  obtain ⟨run, hrun, -, hpayload⟩ := messagePayload_ok_iff.mp hpayload
  obtain ⟨ciphertext, messageKey, nonce, hct, hdecrypt⟩ := openMessageCipher_ok hopened
  rw [← hpayload, EnvelopeRun.payload, Hex.decode_encode] at hct
  cases hct
  have hhonest := hsealed _ ⟨run, hrun, rfl⟩
  have hopen := hideal.authentic _ _ _ _ _ _ hdecrypt
  have hsame := hideal.distinct _ hopen _ hhonest rfl
  exact Utf8.encode_injective (congrArg Sealing.plaintext hsame)

/-- What is received was sent, by the holder of the registered keys, to this recipient, and is stored as it was sent. -/
theorem receive_authentic {env : ReceiveEnv} {ledger : Set Sealing} {calls : String → Set EnvelopeCall}
    (hideal : lib.aead.Ideal ledger) (hsealed : ∀ kid, ∀ call ∈ calls kid, ∀ s, call.Seals lib s → s ∈ ledger)
    (hholder : ∀ kid peer, env.publicKeysFor kid = some peer → Holder lib canonicalConfigJson peer (calls kid))
    {envelope : ProtectedMessageToken} {recipientKey : OpsKey} {localCipher : LocalCipherOutput}
    (h : receiveMessage lib addr env envelope = .ok (recipientKey, localCipher)) :
    ∃ call ∈ calls envelope.payload.sender.kid, call.Makes lib envelope.payload ∧
      call.senderKey.id = envelope.payload.sender.kid ∧ call.recipient.kid = recipientKey.id ∧
      encryptLocalMessage lib.aead env.nonce recipientKey call.message (localSource envelope) = .ok localCipher := by
  rw [receiveMessage, Loop.bind_unit_eq_ok] at h
  obtain ⟨-, h⟩ := h
  obtain ⟨prepared, hprepared, h⟩ := Loop.bind_eq_ok.mp h
  rw [prepareReceiveMessage, Loop.bind_unit_eq_ok] at hprepared
  obtain ⟨key, -, hprepared⟩ := Loop.bind_eq_ok.mp hprepared.2
  rw [Loop.bind_unit_eq_ok] at hprepared
  cases hprepared.2
  cases hpeer : env.publicKeysFor envelope.payload.sender.kid with
  | none =>
    rw [hpeer] at h
    cases h
  | some peer =>
    rw [hpeer] at h
    obtain ⟨sender, hsender, h⟩ := Loop.bind_eq_ok.mp h
    obtain ⟨⟨received, stored⟩, hprocess, h⟩ := Loop.bind_eq_ok.mp h
    cases h
    obtain ⟨-, plaintext, hreceived⟩ := processReceivedMessage_ok hprocess
    obtain ⟨log, hauthentic, hlog⟩ := hholder _ peer hpeer
    have hkeys : sender.keys = peer := (remotePublicKeysFromPeer_ok hsender).2.1
    rw [← hkeys] at hauthentic
    obtain ⟨signCall, hmem, hsigns⟩ := verifyMessageSignatures_ok hreceived.signatures hauthentic
    rw [message_of_signs hsigns] at hmem
    obtain ⟨call, hcall, hmakes⟩ := hlog _ hmem
    have hplaintext := opened_eq hideal (hsealed _ call hcall) hmakes hreceived.opened
    obtain ⟨rng, hpayload⟩ := id hmakes
    obtain ⟨run, -, -, hpayload⟩ := messagePayload_ok_iff.mp hpayload
    refine ⟨call, hcall, hmakes, ?_, ?_, ?_⟩
    · rw [← hpayload]
      rfl
    · rw [← hreceived.recipient, ← hpayload]
      rfl
    · rw [← hplaintext]
      exact hreceived.stored

end Authenticity

/-! ## Nodes that know each other -/

/-- Both sides of a key agreement get one key, with any ephemeral key of the algorithm. -/
def KeyAgreement.Pair (agreement : KeyAgreement) (algorithm privateKeyDerHex publicKeyHex : String) : Prop :=
  ∃ privateKey publicKey, agreement.loadPrivateKeyDerHex privateKeyDerHex = .ok privateKey ∧
    hexDecode publicKeyHex = .ok publicKey ∧ ∀ rng, ∃ ephemeral ephemeralPublic shared,
      agreement.createPrivateKey rng algorithm = .ok ephemeral ∧ agreement.publicKey ephemeral = .ok ephemeralPublic ∧
      ephemeralPublic ≠ [] ∧ agreement.agreeKey ephemeral publicKey = .ok shared ∧
      agreement.agreeKey privateKey ephemeralPublic = .ok shared

/-- What is encapsulated for the public key is decapsulated with the private key. -/
def Kem.Pair (kem : Kem) (privateKeyDerHex publicKeyDerHex : String) : Prop :=
  ∃ privateKey publicKey, kem.loadPrivateKeyDerHex privateKeyDerHex = .ok privateKey ∧
    kem.loadPublicKeyDerHex publicKeyDerHex = .ok publicKey ∧ ∀ rng salt, ∃ encapsulation,
      kem.encapsulate rng publicKey salt hybridSecretSizeBytes = .ok encapsulation ∧
      encapsulation.encapsulatedKey ≠ [] ∧
      kem.decapsulate privateKey encapsulation.encapsulatedKey salt hybridSecretSizeBytes = .ok encapsulation.sharedKey

/-- The private key signs these texts, and its signatures verify under the public key. -/
def SigningPair (scheme : Scheme) (signed : Set String) (privateKeyDerHex publicKeyDerHex : String) : Prop :=
  (∃ privateKey, scheme.loadPrivateKeyDerHex privateKeyDerHex = .ok privateKey ∧
    ∀ rng, ∀ text ∈ signed, ∃ signature, scheme.sign rng privateKey text = .ok signature) ∧
  scheme.Pair privateKeyDerHex publicKeyDerHex

/-- The keys of a sender and of a recipient are the ones that each has registered for the other, and the sender signs
these texts. -/
structure Peers (lib : MessageLibrary) (addr : AddrLibrary) (config : SenderConfig) (senderKey recipientKey : OpsKey)
    (recipient sender : RemotePublicKeys) (signed : Set String) : Prop where
  version : validateProtocolVersion "VECTIS_PROTOCOL_VERSION" config.protocolVersion = .ok ()
  address : ∃ value, validateHostPort addr "VECTIS_PUBLIC_ADDR" config.publicAddr = .ok value
  senderKid : parseKeyId senderKey.id = .ok ()
  symmetric : ∃ cipher, symmetricCipher senderKey.symmetric.variant = some cipher
  recipientValid : ∃ trial, validateRemotePublicKeys lib addr trial recipient = .ok ()
  senderValid : ∃ trial, validateRemotePublicKeys lib addr trial sender = .ok ()
  recipientKid : recipient.kid = recipientKey.id
  xecdh : recipient.keys.xecdh.alg = recipientKey.keyMaterial.xecdh.variant
  mlKem : recipient.keys.mlKem.alg = recipientKey.keyMaterial.mlKem.variant
  eddsa : sender.keys.eddsa.alg = senderKey.keyMaterial.eddsa.variant
  mlDsa : sender.keys.mlDsa.alg = senderKey.keyMaterial.mlDsa.variant
  agreementKeys : lib.agreement.Pair recipient.keys.xecdh.alg recipientKey.keyMaterial.xecdh.privateKeyDerHex
    recipient.keys.xecdh.publicKeyHex
  kemKeys : lib.kem.Pair recipientKey.keyMaterial.mlKem.privateKeyDerHex recipient.keys.mlKem.publicKeyDerHex
  eddsaKeys : SigningPair lib.eddsa signed senderKey.keyMaterial.eddsa.privateKeyDerHex
    sender.keys.eddsa.publicKeyDerHex
  mlDsaKeys : SigningPair lib.mlDsa signed senderKey.keyMaterial.mlDsa.privateKeyDerHex
    sender.keys.mlDsa.publicKeyDerHex

/-- The generator gives as many bytes as it is asked for. -/
structure EnvelopeDraws.Ready (draws : EnvelopeDraws) : Prop where
  mlKemSalt : ∃ salt, draws.mlKemSalt = .ok salt ∧ salt.length = 32
  hkdfSalt : ∃ salt, draws.hkdfSalt = .ok salt ∧ salt.length = 32
  nonce : ∀ size, ∃ nonce, draws.nonce size = .ok nonce ∧ nonce.length = size

/-- HKDF gives keys of the sizes of the ciphers. -/
def Expands (hkdf : Hkdf) : Prop := ∀ inputKey salt info size, size ≤ 32 → ∃ output,
  hkdf inputKey salt info size = .ok output ∧ output.length = size

/-! ## Completeness -/

section Completeness

theorem validateAllowedValue_field {field field' value : String} {allowed : List String}
    (h : validateAllowedValue field value allowed = .ok ()) : validateAllowedValue field' value allowed = .ok () := by
  rw [validateAllowedValue, Loop.bind_unit_eq_ok, validateTextField_ok_iff] at h ⊢
  obtain ⟨htext, h⟩ := h
  obtain ⟨hmem, -⟩ := Loop.check_eq_ok.mp h
  exact ⟨htext, Loop.check_eq_ok.mpr ⟨hmem, rfl⟩⟩

theorem validateAadValue_seconds (field : String) (seconds : UInt64) :
    validateAadValue field (toString seconds.toNat) = .ok () := by
  have htext : (toString seconds.toNat).toList = Nat.toDigits 10 seconds.toNat := by simp [toString, Nat.repr]
  refine validateAadValue_of_hex ?_ (List.all_eq_true.mpr fun c hc => ?_)
  · rw [htext]
    exact Nat.toDigits_ne_nil
  · rw [htext] at hc
    have hdigit := Json.toDigits_isDigit c hc
    simp only [Char.isDigit, Bool.and_eq_true, decide_eq_true_eq] at hdigit
    simp only [isAsciiHexdigit, isAsciiDigit, Bool.or_eq_true, Bool.and_eq_true, decide_eq_true_eq]
    exact Or.inl (Or.inl hdigit)

theorem textField_of_aadValue {field field' value : String} (h : validateAadValue field value = .ok ()) :
    validateTextField field' value = .ok () := validateTextField_ok_iff.mpr (validateAadValue_ok_iff.mp h).1

theorem validateAadValue_kemAlg {xecdhAlg mlKemAlg : String} (hxecdh : xecdhAlg ∈ xecdhAlgorithms)
    (hmlKem : mlKemAlg ∈ mlKemAlgorithms) (field : String) : validateAadValue field (hybridKemAlg xecdhAlg mlKemAlg) =
    .ok () := by
  have hall : ∀ x ∈ xecdhAlgorithms, ∀ k ∈ mlKemAlgorithms, validateAadValue "" (hybridKemAlg x k) = .ok () := by
    decide
  exact validateAadValue_ok_iff.mpr (validateAadValue_ok_iff.mp (hall _ hxecdh _ hmlKem))

theorem validateAadValue_cipherAlg {algorithm : String} (h : algorithm ∈ symmetricAlgorithms) (field : String) :
    validateAadValue field algorithm = .ok () := by
  have hall : ∀ alg ∈ symmetricAlgorithms, validateAadValue "" alg = .ok () := by decide
  exact validateAadValue_ok_iff.mpr (validateAadValue_ok_iff.mp (hall _ h))

variable {parseDomainName : String → Except String Unit}

/-- An accepted address is a value of associated data, and is accepted under every name of the field. -/
theorem validateAadValue_host (law : DomainNames parseDomainName) (hnames : Undelimited parseDomainName)
    {field host : String} (h : ∃ value, validateHostPort (.std parseDomainName) field host = .ok value) :
    (∀ field', validateAadValue field' host = .ok ()) ∧
    ∀ field', ∃ value, validateHostPort (.std parseDomainName) field' host = .ok value := by
  have hdelimiters := Accepts.undelimited law hnames h
  obtain ⟨value, hvalue⟩ := id h
  rw [validateHostPort, Loop.bind_unit_eq_ok] at hvalue
  refine ⟨fun field' => validateAadValue_ok_iff.mpr ⟨validateTextField_ok_iff.mp hvalue.1, ?_, ?_⟩, fun field' => ?_⟩
  · exact fun hmem => (hdelimiters _ hmem).1 rfl
  · exact fun hmem => (hdelimiters _ hmem).2 rfl
  · exact (accepts_iff law field' host).mpr ((accepts_iff law field host).mp h)

variable {lib : MessageLibrary} {addr : AddrLibrary} {config : SenderConfig} {senderKey recipientKey : OpsKey}
  {recipient sender : RemotePublicKeys} {signed : Set String} {message : String} {seconds : UInt64}
  {draws : EnvelopeDraws}

/-- What the recipient needs of a run to open it. -/
structure EnvelopeRun.Opens (run : EnvelopeRun lib) (recipientKey : OpsKey) : Prop where
  ephemeral : run.ephemeralPublicKey ≠ []
  encapsulated : run.mlKem.encapsulatedKey ≠ []
  mlKemSalt : run.mlKemSalt ≠ []
  hkdfSalt : run.hkdfSalt ≠ []
  nonce : run.nonce.length = run.cipher.nonceSizeBytes
  ciphertext : run.ciphertext ≠ []
  agreed : ∃ key, lib.agreement.loadPrivateKeyDerHex recipientKey.keyMaterial.xecdh.privateKeyDerHex = .ok key ∧
    lib.agreement.agreeKey key run.ephemeralPublicKey = .ok run.xecdhSharedKey
  decapsulated : ∃ key, lib.kem.loadPrivateKeyDerHex recipientKey.keyMaterial.mlKem.privateKeyDerHex = .ok key ∧
    lib.kem.decapsulate key run.mlKem.encapsulatedKey run.mlKemSalt hybridSecretSizeBytes = .ok run.mlKem.sharedKey

theorem ne_nil_of_length {bytes : List UInt8} {n : Nat} (h : bytes.length = n) (hn : 0 < n) : bytes ≠ [] :=
  List.ne_nil_of_length_pos (h ▸ hn)

theorem keySizeBytes_le {algorithm : String} {cipher : SymmetricCipherSpec}
    (h : symmetricCipher algorithm = some cipher) :
    cipher.keySizeBytes ≤ 32 := by
  unfold symmetricCipher at h
  split at h <;> cases h <;> decide

/-- The algorithms of keys that were checked are supported. -/
theorem validateRemotePublicKeys_ok {trial : Res (List UInt8 × List UInt8)} {remote : RemotePublicKeys}
    (h : validateRemotePublicKeys lib addr trial remote = .ok ()) : parseKeyId remote.kid = .ok () ∧
      validateAllowedValue "remote.keys.eddsa.alg" remote.keys.eddsa.alg eddsaAlgorithms = .ok () ∧
      remote.keys.xecdh.alg ∈ xecdhAlgorithms ∧
      validateAllowedValue "remote.keys.ml-dsa.alg" remote.keys.mlDsa.alg mlDsaAlgorithms = .ok () ∧
      remote.keys.mlKem.alg ∈ mlKemAlgorithms := by
  obtain ⟨host, -, h⟩ := Loop.bind_eq_ok.mp h
  simp only [Loop.bind_unit_eq_ok] at h
  obtain ⟨hkid, -, heddsa, -, hxecdh, -, hmlDsa, -, hmlKem, -⟩ := h
  exact ⟨hkid, heddsa, validateAllowedValue_mem hxecdh, hmlDsa, validateAllowedValue_mem hmlKem⟩

theorem aadOk_value {key value : String} (hkey : validateAadKey "" key = .ok ())
    (hvalue : validateAadValue "" value = .ok ()) :
    AadOk (key, value) := aadOk_of hkey hvalue

theorem Peers.aad (law : DomainNames parseDomainName) (hnames : Undelimited parseDomainName)
    (h : Peers lib (.std parseDomainName) config senderKey recipientKey recipient sender signed)
    {cipher : SymmetricCipherSpec}
    (hcipher : symmetricCipher senderKey.symmetric.variant = some cipher) (seconds : UInt64) :
    ∃ aad, buildMessageAad config.protocolVersion (toString seconds.toNat) config.publicAddr senderKey.id recipient.kid
      (hybridKemAlg recipient.keys.xecdh.alg recipient.keys.mlKem.alg) cipher.algorithm = .ok aad := by
  obtain ⟨trial, hvalid⟩ := h.recipientValid
  obtain ⟨hkid, -, hxecdh, -, hmlKem⟩ := validateRemotePublicKeys_ok hvalid
  obtain ⟨halgorithm, hmem⟩ := symmetricCipher_some hcipher
  have hversion : config.protocolVersion = "v1" := List.mem_singleton.mp (validateAllowedValue_mem h.version)
  refine ⟨_, buildValidatedAad_ok_iff.mpr ⟨?_, rfl⟩⟩
  simp only [messageAadFields, List.forall_mem_cons, List.not_mem_nil, false_implies, implies_true, and_true]
  refine ⟨?_, ?_, ?_, ?_, ?_, ?_, ?_, ?_⟩
  · rw [hversion]
    exact aadOk_value (by decide) (by decide)
  · exact aadOk_value (by decide) (by decide)
  · exact aadOk_value (by decide) (validateAadValue_seconds "" seconds)
  · exact aadOk_value (by decide) ((validateAadValue_host law hnames h.address).1 "")
  · exact aadOk_kid (by decide) h.senderKid
  · exact aadOk_kid (by decide) hkid
  · exact aadOk_value (by decide) (validateAadValue_kemAlg hxecdh hmlKem "")
  · exact aadOk_value (by decide) (validateAadValue_cipherAlg (halgorithm ▸ hmem) "")

/-- The call of the sender runs to its end, and the recipient can open what it encrypts. -/
theorem Peers.run (law : DomainNames parseDomainName) (hnames : Undelimited parseDomainName) (hhkdf : Expands lib.hkdf)
    (htotal : lib.aead.Total) (h : Peers lib (.std parseDomainName) config senderKey recipientKey recipient sender
      signed)
    (hdraws : draws.Ready) (message : String) (seconds : UInt64) :
    ∃ run : EnvelopeRun lib, run.Of config senderKey recipient message ⟨.ok seconds, .ok draws⟩ ∧
      run.Opens recipientKey := by
  obtain ⟨cipher, hcipher⟩ := h.symmetric
  obtain ⟨aad, haad⟩ := h.aad law hnames hcipher seconds
  obtain ⟨xecdhPrivate, xecdhPublic, hxecdhPrivate, hxecdhPublic, hagreement⟩ := h.agreementKeys
  obtain ⟨ephemeral, ephemeralPublic, xecdhShared, hephemeral, hephemeralPublic, hephemeralNe, hshared, hagreed⟩ :=
    hagreement draws.ephemeral
  obtain ⟨mlKemPrivate, mlKemPublic, hmlKemPrivate, hmlKemPublic, hencapsulation⟩ := h.kemKeys
  obtain ⟨mlKemSalt, hmlKemSalt, hmlKemSaltSize⟩ := hdraws.mlKemSalt
  obtain ⟨mlKem, hmlKem, hmlKemNe, hdecapsulated⟩ := hencapsulation draws.encapsulation mlKemSalt
  obtain ⟨hkdfSalt, hhkdfSalt, hhkdfSaltSize⟩ := hdraws.hkdfSalt
  obtain ⟨messageKey, hmessageKey, hkeySize⟩ := hhkdf (xecdhShared ++ mlKem.sharedKey) hkdfSalt
    (bytesOf "Vectis protected-message v1:" ++ Utf8.encode aad) cipher.keySizeBytes (keySizeBytes_le hcipher)
  obtain ⟨nonce, hnonce, hnonceSize⟩ := hdraws.nonce cipher.nonceSizeBytes
  have halgorithm := (symmetricCipher_some hcipher).1
  obtain ⟨ciphertext, hciphertext, hsize⟩ := htotal cipher.algorithm cipher (Utf8.encode message) messageKey nonce
    (Utf8.encode aad) (halgorithm ▸ hcipher) hkeySize hnonceSize
  refine ⟨⟨toString seconds.toNat, cipher, draws, aad, ephemeral, ephemeralPublic, xecdhPublic, xecdhShared,
    mlKemPublic, mlKemSalt, mlKem, hkdfSalt, messageKey, nonce, ciphertext⟩,
    ⟨rfl, hcipher, rfl, haad, hephemeral, hephemeralPublic,
    hxecdhPublic, hshared, hmlKemPublic, hmlKemSalt, hmlKem, hhkdfSalt, hmessageKey, hnonce, hciphertext⟩, ?_⟩
  refine ⟨hephemeralNe, hmlKemNe, ne_nil_of_length hmlKemSaltSize (by decide), ne_nil_of_length hhkdfSaltSize
    (by decide), hnonceSize, ne_nil_of_length hsize ?_, ⟨_, hxecdhPrivate, hagreed⟩, ⟨_, hmlKemPrivate, hdecapsulated⟩⟩
  unfold tagSizeBytes
  omega

/-- The recipient derives the key of the run, and opens its ciphertext. -/
theorem openMessageCipher_run {run : EnvelopeRun lib} {env : EnvelopeEnv} {token : ProtectedMessageToken}
    (hrun : run.Of config senderKey recipient message env) (hopens : run.Opens recipientKey)
    (hdecrypted : lib.aead.decrypt run.cipher.algorithm run.ciphertext run.messageKey run.nonce (Utf8.encode run.aad) =
      .ok (Utf8.encode message)) (hpayload : token.payload = run.payload config senderKey recipient) :
    openMessageCipher lib recipientKey token = .ok message := by
  obtain ⟨xecdhKey, hxecdhKey, hagreed⟩ := hopens.agreed
  obtain ⟨mlKemKey, hmlKemKey, hdecapsulated⟩ := hopens.decapsulated
  have halgorithm := (symmetricCipher_some hrun.cipher).1
  have hcipher : requireCipher (.invalidInput "message cipher algorithm is not supported") run.cipher.algorithm =
      .ok run.cipher := requireCipher_ok_iff.mpr (halgorithm ▸ hrun.cipher)
  have hhex : ∀ field bytes, decodeHexField field (Hex.encode bytes) = .ok bytes := fun field bytes =>
    decodeHexField_ok_iff.mpr (Hex.decode_encode bytes)
  have htext : decryptedMessageString (Utf8.encode message) = .ok message :=
    decryptedMessageString_ok_iff.mpr (Utf8.decode_encode message)
  simp only [openMessageCipher, hpayload, EnvelopeRun.payload, hxecdhKey, hhex, hagreed, hmlKemKey, hdecapsulated,
    hcipher, hrun.messageKey, hdecrypted, htext, Loop.mapError_ok, bind, Except.bind]

/-- The signatures of the sender verify under its registered keys. -/
theorem Peers.signs (h : Peers lib addr config senderKey recipientKey recipient sender signed)
    (rng : List UInt8 × List UInt8) {payload : ProtectedMessagePayload}
    (hsigned : lib.serde.toText (protectedMessageCodec.toValue payload) ∈ signed) :
    ∃ signatures, signMessagePayload lib rng senderKey payload = .ok signatures ∧
      (∀ version, verifyMessageSignatures lib sender ⟨version, payload, signatures⟩ = .ok ()) ∧
      signatures.eddsa.alg = sender.keys.eddsa.alg ∧ signatures.mlDsa.alg = sender.keys.mlDsa.alg ∧
      (∀ field, validateHexField field signatures.eddsa.sig = .ok ()) ∧
      ∀ field, validateHexField field signatures.mlDsa.sig = .ok () := by
  obtain ⟨⟨eddsaKey, heddsaKey, heddsaSigns⟩, eddsaPublic, heddsaPublic, heddsaPair⟩ := h.eddsaKeys
  obtain ⟨⟨mlDsaKey, hmlDsaKey, hmlDsaSigns⟩, mlDsaPublic, hmlDsaPublic, hmlDsaPair⟩ := h.mlDsaKeys
  obtain ⟨eddsa, heddsa⟩ := heddsaSigns rng.1 _ hsigned
  obtain ⟨mlDsa, hmlDsa⟩ := hmlDsaSigns rng.2 _ hsigned
  obtain ⟨heddsaNe, heddsaVerifies⟩ := heddsaPair _ heddsaKey _ _ _ heddsa
  obtain ⟨hmlDsaNe, hmlDsaVerifies⟩ := hmlDsaPair _ hmlDsaKey _ _ _ hmlDsa
  refine ⟨⟨⟨senderKey.keyMaterial.eddsa.variant, Hex.encode eddsa⟩,
    ⟨senderKey.keyMaterial.mlDsa.variant, Hex.encode mlDsa⟩⟩, ?_, fun version => ?_, h.eddsa.symm, h.mlDsa.symm,
    fun field => validateHexField_encode heddsaNe, fun field =>
    validateHexField_encode hmlDsaNe⟩
  · simp only [signMessagePayload, canonicalJsonV1_payload, heddsaKey, hmlDsaKey, heddsa, hmlDsa, bind, Except.bind]
  · have hhex : ∀ field bytes, decodeHexField field (Hex.encode bytes) = .ok bytes := fun field bytes =>
      decodeHexField_ok_iff.mpr (Hex.decode_encode bytes)
    simp only [verifyMessageSignatures, h.eddsa, h.mlDsa, canonicalJsonV1_payload, heddsaPublic, hmlDsaPublic, hhex,
      heddsaVerifies, hmlDsaVerifies, Loop.mapError_ok, bind, Except.bind, ne_eq, not_true_eq_false, if_false,
      Bool.not_true,
      Bool.or_false, Bool.false_eq_true]

/-- The envelope of a run passes the checks that every recipient makes. -/
theorem validateMessageEnvelope_run (law : DomainNames parseDomainName) (hnames : Undelimited parseDomainName)
    (h : Peers lib (.std parseDomainName) config senderKey recipientKey recipient sender signed) {run : EnvelopeRun lib}
    (hrun : run.Of config senderKey recipient message ⟨.ok seconds, .ok draws⟩) (hopens : run.Opens recipientKey)
    {signatures : MessageSignatures} (heddsa : signatures.eddsa.alg = sender.keys.eddsa.alg)
    (hmlDsa : signatures.mlDsa.alg = sender.keys.mlDsa.alg)
    (heddsaSig : ∀ field, validateHexField field signatures.eddsa.sig = .ok ())
    (hmlDsaSig : ∀ field, validateHexField field signatures.mlDsa.sig = .ok ()) :
    validateMessageEnvelope (.std parseDomainName)
      ⟨protocolVersionV1, run.payload config senderKey recipient, signatures⟩ = .ok () := by
  obtain ⟨trial, hrecipient⟩ := h.recipientValid
  obtain ⟨hkid, -, hxecdhAlg, -, hmlKemAlg⟩ := validateRemotePublicKeys_ok hrecipient
  obtain ⟨trial', hsender⟩ := h.senderValid
  obtain ⟨-, heddsaAlg, -, hmlDsaAlg, -⟩ := validateRemotePublicKeys_ok hsender
  obtain ⟨halgorithm, hmem⟩ := symmetricCipher_some hrun.cipher
  have hversion : config.protocolVersion = protocolVersionV1 :=
    List.mem_singleton.mp (validateAllowedValue_mem h.version)
  have hv1 : ∀ field, validateProtocolVersion field protocolVersionV1 = .ok () := fun field =>
    validateAllowedValue_field (hversion ▸ h.version)
  have htype : ∀ field, validateAllowedValue field protectedMessageType [protectedMessageType] = .ok () := fun field =>
    validateAllowedValue_field
      (by decide : validateAllowedValue "" protectedMessageType [protectedMessageType] = .ok ())
  have hclock : run.createdAt = toString seconds.toNat := (Except.ok.inj hrun.createdAt).symm
  have hcreated : ∀ field, validateTextField field run.createdAt = .ok () := fun field =>
    textField_of_aadValue (hclock ▸ validateAadValue_seconds "" seconds)
  obtain ⟨host, hhost⟩ := (validateAadValue_host law hnames h.address).2 "payload.sender.host"
  have hcipherAlg : ∀ field, validateAllowedValue field run.cipher.algorithm symmetricAlgorithms = .ok () :=
    fun field =>
    validateAllowedValue_algorithm (halgorithm ▸ hmem)
  have haadText : ∀ field, validateTextField field run.aad = .ok () := fun field =>
    validateTextField_buildValidated (by simp [messageAadFields]) hrun.aad
  have hkemAlg : ∀ field, validateTextField field (hybridKemAlg recipient.keys.xecdh.alg recipient.keys.mlKem.alg) =
      .ok () :=
    fun field => textField_of_aadValue (validateAadValue_kemAlg hxecdhAlg hmlKemAlg "")
  have hnonceNe : run.nonce ≠ [] := ne_nil_of_length hopens.nonce (nonceSizeBytes_pos hrun.cipher)
  have hhex : ∀ field bytes, bytes ≠ [] → validateHexField field (Hex.encode bytes) = .ok () := fun field bytes hne =>
    validateHexField_encode hne
  have haad := hrun.aad
  rw [hversion] at haad
  simp only [validateMessageEnvelope, EnvelopeRun.payload, hv1, htype, hcreated, hhost, h.senderKid, hkid, hcipherAlg,
    haadText, hkemAlg, hhex _ _ hopens.ciphertext, hhex _ _ hnonceNe, hhex _ _ hopens.ephemeral,
    hhex _ _ hopens.encapsulated,
    hhex _ _ hopens.mlKemSalt, hhex _ _ hopens.hkdfSalt, heddsa, hmlDsa, validateAllowedValue_field heddsaAlg,
    validateAllowedValue_field hmlDsaAlg, heddsaSig, hmlDsaSig, haad, bind, Except.bind, ne_eq, not_true_eq_false,
    if_false]

/-- The encryption and the signatures of the call are among those that were made. -/
structure EnvelopeCall.Logged (lib : MessageLibrary) (call : EnvelopeCall) (ledger : Set Sealing)
    (signed : Set String) :
    Prop where
  sealed : ∀ s, call.Seals lib s → s ∈ ledger
  signed : ∀ payload, call.Makes lib payload → lib.serde.toText (protectedMessageCodec.toValue payload) ∈ signed

/-- An envelope between two nodes is built, passes the checks, verifies and opens to the message. -/
theorem send_complete {ledger : Set Sealing} (law : DomainNames parseDomainName) (hnames : Undelimited parseDomainName)
    (hhkdf : Expands lib.hkdf) (htotal : lib.aead.Total) (hideal : lib.aead.Ideal ledger)
    (h : Peers lib (.std parseDomainName) config senderKey recipientKey recipient sender signed) (hdraws : draws.Ready)
    (hlogged : EnvelopeCall.Logged lib ⟨config, senderKey, recipient, message, ⟨.ok seconds, .ok draws⟩⟩ ledger
      signed) :
    ∃ token, createMessageEnvelope lib config senderKey recipient message ⟨.ok seconds, .ok draws⟩ = .ok token ∧
      validateMessageEnvelope (.std parseDomainName) token = .ok () ∧
      validateMessageEnvelopeForRecipient (.std parseDomainName) recipientKey token = .ok () ∧
      verifyMessageSignatures lib sender token = .ok () ∧ openMessageCipher lib recipientKey token = .ok message := by
  obtain ⟨run, hrun, hopens⟩ := h.run law hnames hhkdf htotal hdraws message seconds
  have hmakes : EnvelopeCall.Makes lib ⟨config, senderKey, recipient, message, ⟨.ok seconds, .ok draws⟩⟩
      (run.payload config senderKey recipient) := ⟨run.rng, messagePayload_ok_iff.mpr ⟨run, hrun, rfl, rfl⟩⟩
  have hdecrypted := hideal.opens _ (hlogged.sealed _ ⟨run, hrun, rfl⟩)
  obtain ⟨signatures, hsign, hverify, heddsa, hmlDsa, heddsaSig, hmlDsaSig⟩ := h.signs run.rng.signatures
    (hlogged.signed _ hmakes)
  have hvalid := validateMessageEnvelope_run law hnames h hrun hopens heddsa hmlDsa heddsaSig hmlDsaSig
  have halgorithm := (symmetricCipher_some hrun.cipher).1
  have hcipher : requireCipher (.invalidInput "payload.cipher.alg is not supported") run.cipher.algorithm =
      .ok run.cipher :=
    requireCipher_ok_iff.mpr (halgorithm ▸ hrun.cipher)
  have hnonce : (Hex.encode run.nonce).utf8ByteSize = run.cipher.nonceSizeBytes * 2 := by
    rw [utf8ByteSize_hexEncode, hopens.nonce, Nat.mul_comm]
  refine ⟨⟨protocolVersionV1, run.payload config senderKey recipient, signatures⟩,
    createMessageEnvelope_ok_iff.mpr ⟨run, hrun, rfl, rfl, hsign⟩, hvalid, ?_, hverify _,
    openMessageCipher_run hrun hopens hdecrypted rfl⟩
  rw [validateMessageEnvelopeForRecipient, hvalid]
  simp only [EnvelopeRun.payload, h.recipientKid, h.xecdh, h.mlKem, hcipher, hnonce, bind, Except.bind, ne_eq,
    not_true_eq_false, if_false]

end Completeness

/-- What is received was sent by the holder of the registered keys to this recipient, and what is sent between nodes
that know each other's keys is received. -/
theorem protected_delivery {lib : MessageLibrary} {parseDomainName : String → Except String Unit}
    {canonicalConfigJson : String → Res String} {ledger : Set Sealing} (law : DomainNames parseDomainName)
    (hnames : Undelimited parseDomainName) (hhkdf : Expands lib.hkdf) (htotal : lib.aead.Total)
    (hideal : lib.aead.Ideal ledger) :
    (∀ (env : ReceiveEnv) (calls : String → Set EnvelopeCall),
      (∀ kid, ∀ call ∈ calls kid, ∀ s, call.Seals lib s → s ∈ ledger) →
      (∀ kid peer, env.publicKeysFor kid = some peer → Holder lib canonicalConfigJson peer (calls kid)) →
      ∀ envelope recipientKey localCipher,
        receiveMessage lib (.std parseDomainName) env envelope = .ok (recipientKey, localCipher) →
        ∃ call ∈ calls envelope.payload.sender.kid, call.Makes lib envelope.payload ∧
          call.senderKey.id = envelope.payload.sender.kid ∧ call.recipient.kid = recipientKey.id ∧
          encryptLocalMessage lib.aead env.nonce recipientKey call.message (localSource envelope) = .ok localCipher) ∧
    ∀ (config : SenderConfig) (senderKey recipientKey : OpsKey) (recipient sender : RemotePublicKeys)
      (signed : Set String) (draws : EnvelopeDraws) (message : String) (seconds : UInt64),
      Peers lib (.std parseDomainName) config senderKey recipientKey recipient sender signed → draws.Ready →
      EnvelopeCall.Logged lib ⟨config, senderKey, recipient, message, ⟨.ok seconds, .ok draws⟩⟩ ledger signed →
      validateSendMessageInput ⟨recipient.kid, message⟩ = .ok () →
      ∃ token, createMessageEnvelope lib config senderKey recipient message ⟨.ok seconds, .ok draws⟩ = .ok token ∧
        validateMessageEnvelope (.std parseDomainName) token = .ok () ∧
        validateMessageEnvelopeForRecipient (.std parseDomainName) recipientKey token = .ok () ∧
        verifyMessageSignatures lib sender token = .ok () ∧ openMessageCipher lib recipientKey token = .ok message :=
  ⟨fun _ _ hsealed hholder _ _ _ h => receive_authentic hideal hsealed hholder h,
    fun _ _ _ _ _ _ _ _ _ hpeers hdraws hlogged _ => send_complete law hnames hhkdf htotal hideal hpeers hdraws hlogged⟩

/-! ## An example -/

/-- The values of a call are determined. -/
theorem EnvelopeRun.Of.unique {lib : MessageLibrary} {config : SenderConfig} {senderKey : OpsKey}
    {recipient : RemotePublicKeys} {message : String} {env : EnvelopeEnv} {run run' : EnvelopeRun lib}
    (h : run.Of config senderKey recipient message env)
    (h' : run'.Of config senderKey recipient message env) : run = run' := by
  obtain ⟨_, _, _, _, _, _, _, _, _, _, _, _, _, _, _⟩ := run
  obtain ⟨_, _, _, _, _, _, _, _, _, _, _, _, _, _, _⟩ := run'
  obtain rfl := Except.ok.inj (h.createdAt.symm.trans h'.createdAt)
  obtain rfl := Option.some.inj (h.cipher.symm.trans h'.cipher)
  obtain rfl := Except.ok.inj (h.rng.symm.trans h'.rng)
  obtain rfl := Except.ok.inj (h.aad.symm.trans h'.aad)
  obtain rfl := Except.ok.inj (h.ephemeralPrivateKey.symm.trans h'.ephemeralPrivateKey)
  obtain rfl := Except.ok.inj (h.ephemeralPublicKey.symm.trans h'.ephemeralPublicKey)
  obtain rfl := Except.ok.inj (h.recipientXecdhPublicKey.symm.trans h'.recipientXecdhPublicKey)
  obtain rfl := Except.ok.inj (h.xecdhSharedKey.symm.trans h'.xecdhSharedKey)
  obtain rfl := Except.ok.inj (h.mlKemPublicKey.symm.trans h'.mlKemPublicKey)
  obtain rfl := Except.ok.inj (h.mlKemSalt.symm.trans h'.mlKemSalt)
  obtain rfl := Except.ok.inj (h.mlKem.symm.trans h'.mlKem)
  obtain rfl := Except.ok.inj (h.hkdfSalt.symm.trans h'.hkdfSalt)
  obtain rfl := Except.ok.inj (h.messageKey.symm.trans h'.messageKey)
  obtain rfl := Except.ok.inj (h.nonce.symm.trans h'.nonce)
  obtain rfl := Except.ok.inj (h.ciphertext.symm.trans h'.ciphertext)
  rfl

def deliveryHost : String := "vectis.example.com:3000"

def deliveryConfig : SenderConfig := ⟨deliveryHost, "v1"⟩

def deliveryRemote (kid : String) : RemotePublicKeys := ⟨deliveryHost, kid, "0", "peer", examplePeer⟩

def deliveryAad : String :=
  buildAad (messageAadFields "v1" (toString (0 : Nat)) deliveryHost senderKey.id recipientKey.id "X25519+ML-KEM-512"
    "AES-128/GCM")

def deliverySealing : Sealing where
  algorithm := "AES-128/GCM"
  key := List.replicate 16 0
  nonce := List.replicate 12 8
  aad := Utf8.encode deliveryAad
  plaintext := Utf8.encode "hello"
  ciphertext := List.replicate 21 1

def deliveryPayload : ProtectedMessagePayload where
  version := protocolVersionV1
  tokenType := protectedMessageType
  createdAt := toString (0 : Nat)
  sender := ⟨deliveryHost, senderKey.id⟩
  recipientKid := recipientKey.id
  kem := ⟨"X25519+ML-KEM-512", Hex.encode (List.replicate 32 5), Hex.encode (List.replicate 768 1),
    Hex.encode (List.replicate 32 6), Hex.encode (List.replicate 32 7)⟩
  cipher := ⟨"AES-128/GCM", Hex.encode (List.replicate 12 8), deliveryAad, Hex.encode (List.replicate 21 1)⟩

def deliveryText : String := SerdeJson.compact.toText (protectedMessageCodec.toValue deliveryPayload)

/-- The library of the examples, where one message is signed. -/
def signingLibrary (aead : Aead) : MessageLibrary where
  toPlatform := recordedPlatform deliveryText
  hkdf := exampleHkdf
  aead
  agreement := exampleAgreement
  kem := exampleKem

/-- One message was encrypted, too. -/
def deliveryLibrary : MessageLibrary := signingLibrary (.ofSealings [deliverySealing])

def deliveryRun (aead : Aead) : EnvelopeRun (signingLibrary aead) where
  createdAt := toString (0 : Nat)
  cipher := ⟨"AES-128/GCM", 16, 12⟩
  rng := exampleDraws
  aad := deliveryAad
  ephemeralPrivateKey := (List.replicate 32 5 : List UInt8)
  ephemeralPublicKey := List.replicate 32 5
  recipientXecdhPublicKey := List.replicate 32 3
  xecdhSharedKey := List.zipWith (· + ·) (List.replicate 32 5) (List.replicate 32 3)
  mlKemPublicKey := "04"
  mlKemSalt := List.replicate 32 6
  mlKem := ⟨List.replicate 32 9, List.replicate 768 1⟩
  hkdfSalt := List.replicate 32 7
  messageKey := List.replicate 16 0
  nonce := List.replicate 12 8
  ciphertext := List.replicate 21 1

def deliveryCall : EnvelopeCall := ⟨deliveryConfig, senderKey, deliveryRemote recipientKey.id, "hello",
  ⟨.ok 0, .ok exampleDraws⟩⟩

theorem deliveryAead_ideal : deliveryLibrary.aead.Ideal {deliverySealing} := by
  refine Aead.ideal_ofSealings (by simp) ?_ ?_ ?_
  · simp
  · simp
  · decide

theorem deliveryAead_total : deliveryLibrary.aead.Total := Aead.total_ofSealings (by decide)

theorem build_deliveryAad : buildMessageAad "v1" (toString (0 : Nat)) deliveryHost senderKey.id recipientKey.id
    "X25519+ML-KEM-512" "AES-128/GCM" = .ok deliveryAad := by
  refine buildValidatedAad_ok_iff.mpr ⟨?_, rfl⟩
  simp only [messageAadFields, List.forall_mem_cons]
  exact ⟨aadOk_of_validate (by rfl), aadOk_of_validate (by rfl), aadOk_of_validate (by rfl),
    aadOk_of_validate (by rfl), aadOk_kid (by rfl) (senderKey_id _), aadOk_kid (by rfl) (recipientKey_id _),
    aadOk_of_validate (by rfl), aadOk_of_validate (by rfl), List.forall_mem_nil _⟩

theorem deliveryRun_of {aead : Aead} (h : deliverySealing.By aead) : (deliveryRun aead).Of deliveryConfig senderKey
    (deliveryRemote recipientKey.id) "hello" ⟨.ok 0, .ok exampleDraws⟩ := by
  have hhex : hexDecode exampleXecdhHex = .ok (List.replicate 32 3) := by rfl
  simp only [Sealing.By, deliverySealing] at h
  exact ⟨rfl, rfl, rfl, build_deliveryAad, rfl, rfl, hhex, rfl, rfl, rfl, rfl, rfl, rfl, rfl, h⟩

theorem deliveryCall_run : (deliveryRun (.ofSealings [deliverySealing])).Of deliveryConfig senderKey
    (deliveryRemote recipientKey.id) "hello" ⟨.ok 0, .ok exampleDraws⟩ :=
  deliveryRun_of (deliveryAead_ideal.sealed _ rfl)

theorem deliveryCall_makes {payload : ProtectedMessagePayload} (h : deliveryCall.Makes deliveryLibrary payload) :
    payload = deliveryPayload := by
  obtain ⟨rng, h⟩ := h
  obtain ⟨run, hrun, -, rfl⟩ := messagePayload_ok_iff.mp h
  rw [hrun.unique deliveryCall_run]
  rfl

theorem deliveryCall_seals {s : Sealing} (h : deliveryCall.Seals deliveryLibrary s) : s = deliverySealing := by
  obtain ⟨run, hrun, rfl⟩ := h
  rw [hrun.unique deliveryCall_run]
  rfl

theorem deliveryHost_accepted (field : String) : ∃ value, validateHostPort (.std exampleDomain) field deliveryHost =
    .ok value := by
  refine (accepts_iff exampleDomain_names field deliveryHost).mpr (Or.inl ?_)
  refine ⟨"vectis.example.com".toList, "3000".toList, ?_, .domain ?_, isPort_3000⟩
  · rfl
  · rfl

theorem validateDeliveryRemote {kid : String} (hkid : parseKeyId kid = .ok ()) :
    validateRemotePublicKeys deliveryLibrary (.std exampleDomain) (.ok ([], [])) (deliveryRemote kid) = .ok () := by
  obtain ⟨value, hhost⟩ := deliveryHost_accepted "remote.host"
  have hraw : validateXKeyAgreementPublicKeyHex "remote.keys.xecdh.public_key_hex" examplePeer.xecdh.alg
      examplePeer.xecdh.publicKeyHex = .ok (List.replicate 32 3) := by rfl
  have hmaterial : validateRemotePublicKeyMaterial deliveryLibrary (.ok ([], [])) examplePeer = .ok () := by
    unfold validateRemotePublicKeyMaterial
    rw [hraw]
    rfl
  exact validateRemotePublicKeys_peer ⟨value, hhost⟩ hkid (by rfl) hmaterial

theorem recordedSigning (text key : String) : SigningPair (.recorded (· = text)) {text} key key := by
  refine ⟨⟨key, rfl, fun rng signed hsigned => ?_⟩, Scheme.recorded_pair _ key⟩
  refine ⟨checksum (Utf8.encode (key ++ signed)), ?_⟩
  have hsigned : signed = text := hsigned
  simp only [Scheme.recorded, hsigned, decide_true, if_true]

theorem deliveryPeers : Peers deliveryLibrary (.std exampleDomain) deliveryConfig senderKey recipientKey
    (deliveryRemote recipientKey.id) (deliveryRemote senderKey.id) {deliveryText} where
  version := by rfl
  address := deliveryHost_accepted "VECTIS_PUBLIC_ADDR"
  senderKid := senderKey_id "id"
  symmetric := ⟨_, rfl⟩
  recipientValid := ⟨_, validateDeliveryRemote (recipientKey_id "id")⟩
  senderValid := ⟨_, validateDeliveryRemote (senderKey_id "id")⟩
  recipientKid := rfl
  xecdh := rfl
  mlKem := rfl
  eddsa := rfl
  mlDsa := rfl
  agreementKeys := by
    have hhex : hexDecode exampleXecdhHex = .ok (List.replicate 32 3) := by rfl
    exact ⟨(List.replicate 32 3 : List UInt8), List.replicate 32 3, hhex, hhex, fun rng =>
      ⟨(List.replicate 32 5 : List UInt8), List.replicate 32 5, List.replicate 32 8, rfl,
        rfl, by decide, by decide, by decide⟩⟩
  kemKeys := ⟨"04", "04", rfl, rfl, fun rng salt => ⟨⟨List.replicate 32 9, List.replicate 768 1⟩, rfl,
    ne_nil_of_length List.length_replicate (by decide), rfl⟩⟩
  eddsaKeys := recordedSigning _ "01"
  mlDsaKeys := recordedSigning _ "02"

theorem exampleDraws_ready : exampleDraws.Ready :=
  ⟨⟨_, rfl, List.length_replicate⟩, ⟨_, rfl, List.length_replicate⟩, fun _ => ⟨_, rfl, List.length_replicate⟩⟩

/-- A recipient that knows the sender. -/
def deliveryEnv : ReceiveEnv where
  publicKeysFor kid := if kid = senderKey.id then some examplePeer else none
  state := .fromKeys LoadedOpsKey.id [recipientKey]
  now := .ok 0
  trials := (.ok ([], []), .ok ([], []))
  nonce := .ok (List.replicate 12 4)

theorem deliveryHolder (canonicalConfigJson : String → Res String) (verifier : PublicKeys) :
    Holder deliveryLibrary canonicalConfigJson verifier {deliveryCall} := by
  refine ⟨{.message deliveryPayload}, Or.inl fun key text signature hkey hverify => ?_, ?_⟩
  · obtain rfl := Scheme.recorded_authentic _ _ _ _ _ hkey hverify
    exact ⟨_, rfl, .message rfl⟩
  · rintro payload ⟨⟩
    exact ⟨deliveryCall, rfl, exampleDraws, messagePayload_ok_iff.mpr ⟨_, deliveryCall_run, rfl, rfl⟩⟩

/-- A message is sent and opened, and whatever this recipient accepts is that message. -/
theorem protected_delivery_example :
    (∃ token, createMessageEnvelope deliveryLibrary deliveryConfig senderKey (deliveryRemote recipientKey.id) "hello"
        ⟨.ok 0, .ok exampleDraws⟩ = .ok token ∧
      verifyMessageSignatures deliveryLibrary (deliveryRemote senderKey.id) token = .ok () ∧
      openMessageCipher deliveryLibrary recipientKey token = .ok "hello") ∧
    ∀ envelope recipientKey localCipher,
      receiveMessage deliveryLibrary (.std exampleDomain) deliveryEnv envelope = .ok (recipientKey, localCipher) →
      encryptLocalMessage deliveryLibrary.aead deliveryEnv.nonce recipientKey "hello" (localSource envelope) =
      .ok localCipher := by
  have hundelimited : Undelimited exampleDomain := by
    intro name hname c hc
    unfold exampleDomain at hname
    split at hname
    · rename_i heq
      rw [heq] at hc
      have hall : ∀ c ∈ "vectis.example.com".toList, c ≠ ';' ∧ c ≠ '=' := by simp
      exact hall c hc
    · cases hname
  have hexpands : Expands deliveryLibrary.hkdf :=
    fun _ _ _ size _ => ⟨List.replicate size 0, rfl, List.length_replicate⟩
  obtain ⟨hauthentic, hcomplete⟩ := @protected_delivery deliveryLibrary exampleDomain .ok {deliverySealing}
    exampleDomain_names hundelimited hexpands deliveryAead_total deliveryAead_ideal
  constructor
  · obtain ⟨token, hcreated, -, -, hverified, hopened⟩ := hcomplete deliveryConfig senderKey recipientKey
      (deliveryRemote recipientKey.id) (deliveryRemote senderKey.id) {deliveryText} exampleDraws "hello" 0 deliveryPeers
      exampleDraws_ready ⟨fun s hs => deliveryCall_seals hs,
        fun payload hmakes => by rw [deliveryCall_makes hmakes]; rfl⟩
      (by rfl)
    exact ⟨token, hcreated, hverified, hopened⟩
  · intro envelope recipientKey localCipher h
    obtain ⟨call, hcall, -, -, -, hstored⟩ := hauthentic deliveryEnv (fun _ => {deliveryCall})
      (fun kid call hcall s hs => by cases hcall; exact deliveryCall_seals hs) (fun kid peer _ => deliveryHolder _ peer)
        envelope
      recipientKey localCipher h
    cases hcall
    exact hstored

end Vectis.Ops.Message

import Vectis.Core.Tokenization.Token
import Vectis.Ops.KeyMaterial

/-!
# Encoding and decoding of tokens

The requests that turn a plaintext into a token with its row, and a token with its row back into the plaintext
(`ops/tokenization.rs`).

- `encode_ok`: an accepted request is encoded, and its row is accepted by the storage;
- `decode_encoded`: the token is decoded from the row;
- `decrypt_other`: and only in its context;
- `tokens_round_trip`: all of it, for the profiles of a node.
-/

namespace Vectis.Ops.Tokenization

open Vectis.Core Core.Validation Core.Profiles Core.Crypto Core.Canonical Core.Subjects Core.Tokenization Json Ops.Keys

/-! ## Requests -/

/-- `TokenEncodeInput`, with the names of its fields. -/
structure TokenEncodeInput where
  refId : String
  profile : String
  plaintext : String
  metadata : Option Value

structure TokenDecodeInput where
  refId : String
  kid : String
  profile : String
  token : String
  subject : Option String
  deriving DecidableEq, Repr

structure PreparedTokenEncode where
  kid : String
  profile : TokenContext
  input : TokenEncodeInput

structure PreparedTokenDecode where
  kid : String
  profile : TokenContext
  input : TokenDecodeInput
  data : String

structure TokenEncodeOutput where
  subject : Option String
  refId : String
  kid : String
  profile : String
  token : String
  deriving DecidableEq, Repr

structure EncodedTokenRecord where
  subject : Option String
  kid : String
  hashid : String
  data : String
  output : TokenEncodeOutput
  deriving DecidableEq, Repr

structure TokenDecodeOutput where
  refId : String
  plaintext : String
  metadata : Option Value

def validateRef (value : String) : Res Unit := validateBoundedTextField "ref" value internalRefMaxChars

def validateMetadata (serde : SerdeJson) (metadata : Value) : Res Unit :=
  if !metadata.isObject then .error (.invalidInput "metadata must be a JSON object when present")
  else if (serde.toText metadata).length > tokenMetadataMaxChars then
    .error (.invalidInput "metadata exceeds tokenization maximum length")
  else .ok ()

/-- The check of `parse_encode_input` on the request, before its fields are read. -/
def validateRequestMetadata : Option Value → Res Unit
  | some metadata => validateCanonicalJsonValue "metadata" metadata
  | none => .ok ()

def validateOptionalMetadata (serde : SerdeJson) : Option Value → Res Unit
  | some metadata => validateMetadata serde metadata
  | none => .ok ()

def validateEncodeInput (serde : SerdeJson) (input : TokenEncodeInput) : Res Unit := do
  validateRef input.refId
  validateAadConfigName "profile" input.profile
  validateTextField "plaintext" input.plaintext
  validateOptionalMetadata serde input.metadata

def prepareEncode (state : LoadedKeys) (kid : String) (profile : TokenContext) (input : TokenEncodeInput) :
    Res PreparedTokenEncode := do
  profile.validateMode profile.subject
  prepareProfileUse state kid profile.profile.kid "tokenization" .newUse
  if input.plaintext.length > profile.profile.maxPlaintextLen.toNat then
    .error (.invalidInput "plaintext length exceeds tokenization profile maximum")
  else .ok ⟨kid, profile, input⟩

/-- What the node gives: the bytes of the token, the seconds of the clock and the nonce. -/
structure Platform where
  random : Res (List UInt8)
  seconds : Res UInt64
  nonce : Res (List UInt8)

/-- `current_timestamp`. -/
def currentTimestamp (seconds : Res UInt64) : Res String := seconds.map fun s => toString s.toNat

section Operations

variable (hmac : Hmac) (aead : Aead) (json : PayloadJson)

def encode (platform : Platform) (prepared : PreparedTokenEncode) : Res EncodedTokenRecord := do
  let ctx := prepared.profile
  let token ← generateToken ctx.profile platform.random
  let hashid ← ctx.hash hmac token
  let createdAt ← currentTimestamp platform.seconds
  let payload : TokenDataPayload := ⟨ctx.profile.name, prepared.input.plaintext, prepared.input.metadata, createdAt⟩
  let data ← ctx.encrypt aead json hashid payload platform.nonce
  .ok ⟨ctx.subject, prepared.kid, hashid, data,
    ⟨ctx.subject, prepared.input.refId, prepared.kid, ctx.profile.name, token⟩⟩

def decode (prepared : PreparedTokenDecode) : Res TokenDecodeOutput := do
  let hashid ← prepared.profile.hash hmac prepared.input.token
  let payload ← prepared.profile.decrypt aead json hashid prepared.data
  .ok ⟨prepared.input.refId, payload.plaintext, payload.metadata⟩

end Operations

/-! ## Encodings -/

/-- A request to encode, with its context and what the node gives. -/
structure TokenEncoding where
  state : LoadedKeys
  kid : String
  profile : TokenizationProfile
  ctx : TokenContext
  seed : Option (String × List UInt8)
  input : TokenEncodeInput
  random : List UInt8
  seconds : UInt64
  nonce : List UInt8

namespace TokenEncoding

def prepared (e : TokenEncoding) : PreparedTokenEncode := ⟨e.kid, e.ctx, e.input⟩

def payload (e : TokenEncoding) : TokenDataPayload :=
  ⟨e.ctx.profile.name, e.input.plaintext, e.input.metadata, toString e.seconds.toNat⟩

def token (e : TokenEncoding) : String := tokenText e.ctx.profile e.random

/-- The run of `encode`. -/
def run (hmac : Hmac) (aead : Aead) (json : PayloadJson) (e : TokenEncoding) : Res EncodedTokenRecord :=
  encode hmac aead json ⟨.ok e.random, .ok e.seconds, .ok e.nonce⟩ e.prepared

/-- The request is accepted, its metadata has no floating-point numbers, and the random bytes are as many as were asked
for. -/
structure Accepted (hkdf : Hkdf) (serde : SerdeJson) (e : TokenEncoding) : Prop where
  context : ContextOf hkdf e.profile e.ctx e.seed
  plain : ∀ metadata ∈ e.input.metadata, metadata.plain = true
  metadata : validateRequestMetadata e.input.metadata = .ok ()
  input : validateEncodeInput serde e.input = .ok ()
  prepared : prepareEncode e.state e.kid e.ctx e.input = .ok e.prepared
  random : e.random.length = e.profile.tokenLen.toNat
  nonce : ∀ cipher ∈ symmetricCipher e.profile.cipherAlgorithm, e.nonce.length = cipher.nonceSizeBytes

/-- The row that was stored, whose encryption is in the ledger. -/
def Stored (hmac : Hmac) (aead : Aead) (json : PayloadJson) (ledger : Set Sealing) (e : TokenEncoding)
    (record : EncodedTokenRecord) : Prop :=
  e.run hmac aead json = .ok record ∧ ∃ ciphertext, record.data = e.ctx.dataText record.hashid e.nonce ciphertext ∧
    e.ctx.sealing json record.hashid e.payload e.nonce ciphertext ∈ ledger

/-- The request to decode a token from the data of a row. -/
def decoding (e : TokenEncoding) (refId data : String) : PreparedTokenDecode :=
  ⟨e.kid, e.ctx, ⟨refId, e.kid, e.ctx.profile.name, e.token, e.ctx.subject⟩, data⟩

end TokenEncoding

section Encoding

variable {hkdf : Hkdf} {hmac : Hmac} {aead : Aead} {json : PayloadJson} {serde : SerdeJson} {e : TokenEncoding}

theorem prepareEncode_ok (h : e.Accepted hkdf serde) :
    e.ctx.profile.kid = e.kid ∧ e.input.plaintext.length ≤ e.ctx.profile.maxPlaintextLen.toNat := by
  have hprepared := h.prepared
  rw [prepareEncode, Loop.bind_unit_eq_ok, Loop.bind_unit_eq_ok, Loop.guard_eq_ok] at hprepared
  obtain ⟨-, huse, hlength, -⟩ := hprepared
  obtain ⟨hkid, -⟩ := Loop.guard_eq_ok.mp huse
  exact ⟨Decidable.not_not.mp hkid, Nat.le_of_not_lt hlength⟩

/-- The clock writes digits. -/
theorem timestamp_clean (seconds : UInt64) :
    (toString seconds.toNat).toList.any isControl = false ∧ (toString seconds.toNat).length ≤ 20 := by
  have htext : (toString seconds.toNat).toList = Nat.toDigits 10 seconds.toNat := by simp [toString, Nat.repr]
  have hlength : (Nat.toDigits 10 seconds.toNat).length ≤ 20 :=
    (Nat.length_toDigits_le_iff (by decide) (by decide)).mpr (Nat.lt_trans seconds.toNat_lt (by decide))
  refine ⟨?_, ?_⟩
  · rw [htext]
    refine List.any_eq_false.mpr fun c hc => ?_
    have hdigit := toDigits_isDigit c hc
    simp only [Char.isDigit, Bool.and_eq_true, decide_eq_true_eq] at hdigit
    have hlow := UInt32.le_iff_toNat_le.mp hdigit.1
    have hhigh := UInt32.le_iff_toNat_le.mp hdigit.2
    simp only [isControl, Bool.or_eq_true, Bool.and_eq_true, decide_eq_true_eq, UInt32.lt_iff_toNat_lt,
      UInt32.le_iff_toNat_le]
    simp at hlow hhigh ⊢
    omega
  · rw [← String.length_toList, htext]
    exact hlength

theorem payloadOk (h : e.Accepted hkdf serde) (hprofile : ProfileOk e.profile) : PayloadOk serde e.payload := by
  have hctx := h.context.profile_eq
  have hinput := h.input
  rw [validateEncodeInput, Loop.bind_unit_eq_ok, Loop.bind_unit_eq_ok, Loop.bind_unit_eq_ok,
    validateTextField_ok_iff] at hinput
  obtain ⟨-, -, htext, hmetadata⟩ := hinput
  have hname := validateBoundedTextField_ok_iff.mp (validateAadConfigName_ok_iff.mp hprofile.name).1
  have hmax := hprofile.maxPlaintextLen
  have hlength := (prepareEncode_ok h).2
  have hrequest := h.metadata
  have hplain := h.plain
  refine ⟨?_, ?_, ?_, ⟨htext.2, ?_⟩, timestamp_clean e.seconds⟩
  · intro metadata hmem
    rw [show e.input.metadata = some metadata from hmem] at hrequest hmetadata
    obtain ⟨hobject, -⟩ := Loop.guard_eq_ok.mp hmetadata
    exact ⟨hplain metadata hmem, by simpa using hobject, hrequest⟩
  · intro metadata hmem
    rw [show e.input.metadata = some metadata from hmem] at hmetadata
    obtain ⟨-, hmetadata⟩ := Loop.guard_eq_ok.mp hmetadata
    obtain ⟨hsize, -⟩ := Loop.guard_eq_ok.mp hmetadata
    exact Nat.le_of_not_lt hsize
  · rw [TokenEncoding.payload, hctx]
    exact ⟨hname.1.2, hname.2⟩
  · rw [hctx] at hlength
    exact Nat.le_trans hlength hmax

/-- What an encoding computes before it encrypts. -/
theorem run_eq (aead : Aead) (json : PayloadJson) (hhmac : HmacTotal hmac) (hctx : ContextOk e.ctx)
    (hrandom : e.random.length = e.ctx.profile.tokenLen.toNat) :
    ∃ hashid, e.ctx.hash hmac e.token = .ok hashid ∧ validateKeyId hashid = .ok () ∧ e.run hmac aead json =
      e.ctx.encrypt aead json hashid e.payload (.ok e.nonce) >>= fun data =>
        .ok ⟨e.ctx.subject, e.kid, hashid, data,
          ⟨e.ctx.subject, e.input.refId, e.kid, e.ctx.profile.name, e.token⟩⟩ := by
  have hvalue := validateTokenValue_generate hctx.profile hrandom
  obtain ⟨tag, hhash, hlength⟩ := hash_ok hhmac hctx hvalue (aadOk_tokenText hctx.profile e.random)
  refine ⟨Hex.encode tag, hhash, hashid_encode hlength, ?_⟩
  have htoken : generateToken e.ctx.profile (.ok e.random) = .ok e.token := rfl
  unfold TokenEncoding.run encode
  simp only [TokenEncoding.prepared, htoken, bind, Except.bind]
  rw [show e.ctx.hash hmac e.token = _ from hhash]
  rfl

/-- An accepted request is encoded, and the storage accepts the row. -/
theorem encode_ok (hsized : Sized hkdf) (hhmac : HmacTotal hmac) (htotal : aead.Total) (hprofile : ProfileOk e.profile)
    (h : e.Accepted hkdf serde) : ∃ record, e.run hmac aead json = .ok record ∧ record.output.token = e.token ∧
      e.ctx.hash hmac e.token = .ok record.hashid ∧
      Storage.validateTokenFields standardDecode record.kid record.hashid record.data = .ok () := by
  have hctx := contextOk_of hsized hprofile h.context
  obtain ⟨cipher, hcipher, -⟩ := hprofile.cipher
  have hnonce := h.nonce cipher hcipher
  have hrandom := h.random
  rw [← h.context.profile_eq] at hrandom hcipher
  obtain ⟨hashid, hhash, hhashid, hrun⟩ := run_eq aead json hhmac hctx hrandom
  obtain ⟨ciphertext, hencrypt, hlength⟩ := htotal _ cipher (Utf8.encode (json.toText e.payload)) e.ctx.dataKey e.nonce
    (Utf8.encode (buildAad (e.ctx.aadFields hashid))) hcipher (hctx.dataKey cipher hcipher) hnonce
  rw [encrypt_eq hctx hhashid hcipher, hencrypt] at hrun
  have hsizes := cipher_sizes hcipher
  have hsize : (e.ctx.dataText hashid e.nonce ciphertext).utf8ByteSize ≤ Storage.storageTokenEnvelopeMaxChars :=
    size_dataText hctx (payloadOk h hprofile) hhashid hlength (by omega)
  refine ⟨_, hrun, rfl, hhash, validateTokenFields_dataText hctx hhashid ?_ ?_ ?_ hsize⟩
  · rw [← (prepareEncode_ok h).1]
    exact hctx.profile.kid
  · refine List.ne_nil_of_length_pos ?_
    simp only [tagSizeBytes] at hlength
    omega
  · exact List.ne_nil_of_length_pos (by omega)

/-- The row of an encoding. -/
theorem stored_data {ledger : Set Sealing} {record : EncodedTokenRecord} (hsized : Sized hkdf) (hhmac : HmacTotal hmac)
    (hprofile : ProfileOk e.profile) (h : e.Accepted hkdf serde) (hstored : e.Stored hmac aead json ledger record) :
    ∃ ciphertext, e.ctx.hash hmac e.token = .ok record.hashid ∧ validateKeyId record.hashid = .ok () ∧
    record.kid = e.kid ∧
      record.data = e.ctx.dataText record.hashid e.nonce ciphertext ∧
      e.ctx.sealing json record.hashid e.payload e.nonce ciphertext ∈ ledger := by
  have hctx := contextOk_of hsized hprofile h.context
  have hrandom := h.random
  rw [← h.context.profile_eq] at hrandom
  obtain ⟨hashid, hhash, hhashid, hrun⟩ := run_eq aead json hhmac hctx hrandom
  obtain ⟨hran, ciphertext, htext, hmem⟩ := hstored
  rw [hran] at hrun
  obtain ⟨data, -, hrecord⟩ := Loop.bind_eq_ok.mp hrun.symm
  cases hrecord
  exact ⟨ciphertext, hhash, hhashid, rfl, htext, hmem⟩

/-- The token is decoded from its row. -/
theorem decode_encoded {ledger : Set Sealing} {record : EncodedTokenRecord} (hsized : Sized hkdf)
    (hhmac : HmacTotal hmac) (hprofile : ProfileOk e.profile) (hideal : aead.Ideal ledger) (h : e.Accepted hkdf serde)
    (hstored : e.Stored hmac aead json ledger record) (refId : String) :
    decode hmac aead json (e.decoding refId record.data) = .ok ⟨refId, e.input.plaintext, e.input.metadata⟩ := by
  have hctx := contextOk_of hsized hprofile h.context
  obtain ⟨ciphertext, hhash, hhashid, -, hdata, hmem⟩ := stored_data hsized hhmac hprofile h hstored
  obtain ⟨cipher, hcipher, -⟩ := hprofile.cipher
  have hnonce := h.nonce cipher hcipher
  rw [← h.context.profile_eq] at hcipher
  have hdecrypt := decrypt_encrypt hctx (payloadOk h hprofile) rfl hhashid hcipher hnonce hideal hmem
  unfold decode
  simp only [TokenEncoding.decoding, hhash, hdata, hdecrypt, bind, Except.bind, TokenEncoding.payload]

/-- The data of a row is decrypted only with the key id, the profile, the hash id and the subject of the row. -/
theorem decrypt_other {ledger : Set Sealing} {record : EncodedTokenRecord} (hsized : Sized hkdf)
    (hhmac : HmacTotal hmac) (hprofile : ProfileOk e.profile) (h : e.Accepted hkdf serde)
    (hstored : e.Stored hmac aead json ledger record)
    {other : TokenContext} {hashid : String} {payload : TokenDataPayload}
    (hdecrypt : other.decrypt aead json hashid record.data = .ok payload) :
    other.profile.kid = e.ctx.profile.kid ∧ other.profile.name = e.ctx.profile.name ∧ hashid = record.hashid ∧
      other.subject = e.ctx.subject := by
  have hctx := contextOk_of hsized hprofile h.context
  obtain ⟨ciphertext, -, hhashid, -, hdata, -⟩ := stored_data hsized hhmac hprofile h hstored
  rw [hdata] at hdecrypt
  obtain ⟨plaintext, haad, -⟩ := decrypt_ok hdecrypt
  have hfields := buildValidatedAad_injective haad (buildAad_ok (aadOk_aadFields hctx hhashid))
  obtain ⟨hkid, hname, hhash, hsubject, -⟩ := aadFields_injective hfields
  exact ⟨hkid, hname, hhash, hsubject⟩

/-- And with its seed. -/
theorem seed_of_decrypt {ledger : Set Sealing} {record : EncodedTokenRecord} (hsized : Sized hkdf)
    (hhmac : HmacTotal hmac) (hprofile : ProfileOk e.profile) (hideal : aead.Ideal ledger) (h : e.Accepted hkdf serde)
    (hstored : e.Stored hmac aead json ledger record) {profile : TokenizationProfile} {other : TokenContext}
    {seed : Option (String × List UInt8)} (hother : ContextOf hkdf profile other seed)
    (hdistinct : Distinct hkdf (dataQueries e.profile e.seed ∪ dataQueries profile seed)) {hashid : String}
    {payload : TokenDataPayload} (hdecrypt : other.decrypt aead json hashid record.data = .ok payload) :
    seed = e.seed := by
  have hsubject := (decrypt_other hsized hhmac hprofile h hstored hdecrypt).2.2.2
  obtain ⟨ciphertext, -, hhashid, -, hdata, hmem⟩ := stored_data hsized hhmac hprofile h hstored
  rw [hdata] at hdecrypt
  obtain ⟨plaintext, -, hopened⟩ := decrypt_ok hdecrypt
  have hsealing := hideal.distinct _ (hideal.authentic _ _ _ _ _ _ hopened) _ hmem rfl
  have hkey : other.dataKey = e.ctx.dataKey := congrArg Sealing.key hsealing
  have hcontext := h.context
  rw [hother.subject_eq, hcontext.subject_eq] at hsubject
  cases seed with
  | none => exact (Option.map_eq_none_iff.mp hsubject.symm).symm
  | some pair =>
    cases hseed : e.seed with
    | none =>
      rw [hseed] at hsubject
      cases hsubject
    | some sealed =>
      rw [hseed] at hsubject hcontext hdistinct
      obtain ⟨q, hq, hsalt, hout⟩ := hother.dataKey
      obtain ⟨r, hr, hsalt', hout'⟩ := hcontext.dataKey
      rw [hkey] at hout
      have hsame := hdistinct q (.inr hq) r (.inl hr) _ hout hout'
      have hfirst : pair.1 = sealed.1 := Option.some.inj hsubject
      have hsecond : pair.2 = sealed.2 := by rw [← hsalt, ← hsalt', hsame]
      exact congrArg some (Prod.ext hfirst hsecond)

/-- The data of another row is not decoded. -/
theorem exchanged_fails {ledger : Set Sealing} {e' : TokenEncoding} {record record' : EncodedTokenRecord}
    (hsized : Sized hkdf) (hhmac : HmacTotal hmac) (hprofile : ProfileOk e.profile) (hprofile' : ProfileOk e'.profile)
    (h : e.Accepted hkdf serde) (h' : e'.Accepted hkdf serde) (hstored : e.Stored hmac aead json ledger record)
    (hstored' : e'.Stored hmac aead json ledger record') (hne : (record.kid, record.hashid) ≠
      (record'.kid, record'.hashid))
    (refId : String) (output : TokenDecodeOutput) :
    decode hmac aead json (e.decoding refId record'.data) ≠ .ok output := by
  intro hdecode
  obtain ⟨-, hhash, -, hkid, -⟩ := stored_data hsized hhmac hprofile h hstored
  obtain ⟨-, -, -, hkid', -⟩ := stored_data hsized hhmac hprofile' h' hstored'
  obtain ⟨hashid, hhashid, hdecode⟩ := Loop.bind_eq_ok.mp hdecode
  obtain ⟨payload, hpayload, -⟩ := Loop.bind_eq_ok.mp hdecode
  cases hhash.symm.trans hhashid
  obtain ⟨hsame, -, hhashids, -⟩ := decrypt_other hsized hhmac hprofile' h' hstored' hpayload
  rw [TokenEncoding.decoding, (prepareEncode_ok h).1, (prepareEncode_ok h').1] at hsame
  exact hne (by rw [hkid, hkid', hsame, hhashids])

/-- Accepted plaintexts are encoded into rows that the storage accepts, and each row is decoded in its own context
only. -/
theorem tokens_round_trip {hooks : TokenizationHooks} {inputs : List TokenizationProfileInput}
    {profiles : ProfilesState TokenizationProfile} (hprofiles : validateTokenizationProfiles hooks inputs =
      .ok profiles)
    {ledger : Set Sealing} (hsized : Sized hkdf) (hhmac : HmacTotal hmac) (htotal : aead.Total)
    (hideal : aead.Ideal ledger) :
    (∀ e : TokenEncoding, e.profile ∈ profiles.profiles → e.Accepted hkdf serde →
      generateToken e.profile (.ok e.random) = .ok e.token ∧ validateTokenValue e.profile e.token = .ok () ∧
      (∃ hash, hashToken hmac e.profile e.token = .ok hash) ∧
      ∃ record, e.run hmac aead json = .ok record ∧ record.output.token = e.token ∧
        e.ctx.hash hmac e.token = .ok record.hashid ∧
        Storage.validateTokenFields standardDecode record.kid record.hashid record.data = .ok ()) ∧
    (∀ (e : TokenEncoding) (record : EncodedTokenRecord), e.profile ∈ profiles.profiles → e.Accepted hkdf serde →
      e.Stored hmac aead json ledger record → ∀ refId,
      decode hmac aead json (e.decoding refId record.data) = .ok ⟨refId, e.input.plaintext, e.input.metadata⟩) ∧
    (∀ (e : TokenEncoding) (record : EncodedTokenRecord), e.profile ∈ profiles.profiles → e.Accepted hkdf serde →
      e.Stored hmac aead json ledger record → ∀ profile other seed hashid payload, ContextOf hkdf profile other seed →
      Distinct hkdf (dataQueries e.profile e.seed ∪ dataQueries profile seed) →
      other.decrypt aead json hashid record.data = .ok payload →
      (profile.kid, profile.name, hashid, seed) = (e.profile.kid, e.profile.name, record.hashid, e.seed)) ∧
    ∀ (e e' : TokenEncoding) (record record' : EncodedTokenRecord), e.profile ∈ profiles.profiles →
      e'.profile ∈ profiles.profiles → e.Accepted hkdf serde → e'.Accepted hkdf serde →
      e.Stored hmac aead json ledger record → e'.Stored hmac aead json ledger record' →
      (record.kid, record.hashid) ≠ (record'.kid, record'.hashid) → ∀ refId output,
      decode hmac aead json (e.decoding refId record'.data) ≠ .ok output ∧
      decode hmac aead json (e'.decoding refId record.data) ≠ .ok output := by
  have hok : ∀ profile ∈ profiles.profiles, ProfileOk profile := fun profile hmem => (mem_of_validate hprofiles hmem).1
  refine ⟨?_, ?_, ?_, ?_⟩
  · intro e hmem h
    have hrandom := h.random
    have hctx := h.context.profile_eq
    have htoken : e.token = tokenText e.profile e.random := by rw [TokenEncoding.token, hctx]
    have hvalue := validateTokenValue_generate (hok e.profile hmem) hrandom
    obtain ⟨tag, hhash⟩ := hashToken_ok hhmac (hok e.profile hmem) hvalue
      (aadOk_tokenText (hok e.profile hmem) e.random)
    rw [htoken]
    refine ⟨rfl, hvalue, ⟨tag, hhash⟩, ?_⟩
    rw [← htoken]
    exact encode_ok hsized hhmac htotal (hok e.profile hmem) h
  · intro e record hmem h hstored refId
    exact decode_encoded hsized hhmac (hok e.profile hmem) hideal h hstored refId
  · intro e record hmem h hstored profile other seed hashid payload hother hdistinct hdecrypt
    obtain ⟨hkid, hname, hhashid, -⟩ := decrypt_other hsized hhmac (hok e.profile hmem) h hstored hdecrypt
    have hseed := seed_of_decrypt hsized hhmac (hok e.profile hmem) hideal h hstored hother hdistinct hdecrypt
    rw [hother.profile_eq, h.context.profile_eq] at hkid hname
    rw [hkid, hname, hhashid, hseed]
  · intro e e' record record' hmem hmem' h h' hstored hstored' hne refId output
    refine ⟨exchanged_fails hsized hhmac (hok _ hmem) (hok _ hmem') h h' hstored hstored' hne refId output, ?_⟩
    exact exchanged_fails hsized hhmac (hok _ hmem') (hok _ hmem) h' h hstored' hstored (Ne.symm hne) refId output

end Encoding

/-! ## An example -/

def exampleKey : OpsKey where
  id := "aaaaaaaaaaaaaaaaaaaaaaaaaaaaaaaaaaaaaaaaaaaaaaaaaaaaaaaaaaaaaaaa"
  aad := ""
  propertiesAad := ""
  keyMaterial := ⟨⟨"AES-128/GCM", "00"⟩, ⟨"", "", ""⟩, ⟨"", "", ""⟩, ⟨"", "", ""⟩, ⟨"", "", ""⟩, "SHA-3(256)"⟩
  properties := ⟨1, "", "", "", ⟨"active", "", ""⟩⟩

def exampleHooks : TokenizationHooks where
  isLoadedKid _ := true
  deriveKeys _ := .ok ⟨List.replicate 32 1, List.replicate 16 2, "AES-128/GCM"⟩

def exampleInput : TokenizationProfileInput := ⟨"cards", exampleKey.id, "tok", 32, 64, false, .none⟩

def exampleProfile : TokenizationProfile :=
  ⟨"cards", exampleKey.id, "tok", 32, 64, false, .none, "AES-128/GCM", List.replicate 32 1, List.replicate 16 2⟩

def exampleEncoding : TokenEncoding where
  state := .fromKeys LoadedOpsKey.id [exampleKey]
  kid := exampleKey.id
  profile := exampleProfile
  ctx := ⟨exampleProfile, none⟩
  seed := none
  input := ⟨"r", "cards", "4111", some (.object [("n", .number (.posInt 1))])⟩
  random := List.replicate 32 3
  seconds := 5
  nonce := List.replicate 12 4

def exampleHmac : Hmac := fun _ _ => .ok (List.replicate 32 6)

def exampleHkdf : Hkdf := fun _ _ _ length => .ok (List.replicate length 0)

def exampleHashid : String := Hex.encode (List.replicate 32 6)

def exampleSealing : Sealing :=
  exampleEncoding.ctx.sealing .compact exampleHashid exampleEncoding.payload exampleEncoding.nonce
    (Utf8.encode (PayloadJson.compact.toText exampleEncoding.payload) ++ List.replicate 16 7)

def exampleAead : Aead := .ofSealings [exampleSealing]

theorem exampleProfiles : ∃ profiles, validateTokenizationProfiles exampleHooks [exampleInput] = .ok profiles ∧
    exampleProfile ∈ profiles.profiles := by
  have hround : validateTokenizationProfile exampleHooks [] exampleInput = .ok exampleProfile := by rfl
  refine ⟨.fromProfiles TokenizationProfile.name [exampleProfile], ?_, List.mem_cons_self⟩
  exact Loop.bind_eq_ok.mpr ⟨[exampleProfile], Loop.collect_cons.mpr ⟨_, [], hround, rfl, rfl⟩, rfl⟩

theorem exampleAccepted : exampleEncoding.Accepted exampleHkdf .compact := by
  refine ⟨.plain rfl, ?_, by rfl, by rfl, ?_, rfl, ?_⟩
  · intro metadata hmem
    cases hmem
    decide
  · have hkid : parseKeyId exampleKey.id = .ok () := validateInternalHash_replicate (c := 'a') (by decide) "id"
    have hkey : getLoadedKey exampleEncoding.state exampleKey.id = .ok exampleKey := getLoadedKey_ok_iff.mpr ⟨hkid, rfl⟩
    have huse : prepareProfileUse exampleEncoding.state exampleKey.id exampleKey.id "tokenization" .newUse =
        .ok () := by
      rw [prepareProfileUse, if_neg (not_not_intro rfl), hkey]
      rfl
    have hmode : exampleEncoding.ctx.validateMode exampleEncoding.ctx.subject = .ok () := by rfl
    unfold prepareEncode
    rw [hmode]
    show (prepareProfileUse exampleEncoding.state exampleKey.id exampleKey.id "tokenization" .newUse >>= fun _ => _) = _
    rw [huse]
    rfl
  · intro cipher hcipher
    cases hcipher
    rfl

theorem sized_example : Sized exampleHkdf := by
  intro inputKey salt info length output h
  cases h
  exact List.length_replicate

theorem hmacTotal_example : HmacTotal exampleHmac := fun _ _ _ => ⟨_, rfl, rfl⟩

theorem exampleAead_ideal : exampleAead.Ideal {exampleSealing} := by
  refine Aead.ideal_ofSealings (by simp) ?_ ?_ ?_
  · simp
  · simp
  · simp [exampleSealing, TokenContext.sealing, tagSizeBytes]

theorem exampleAead_total : exampleAead.Total :=
  Aead.total_ofSealings (by simp [exampleSealing, TokenContext.sealing, tagSizeBytes])

/-- The tag is always the same. -/
theorem hash_example {ctx : TokenContext} {token hashid : String} (h : ctx.hash exampleHmac token = .ok hashid) :
    hashid = exampleHashid := by
  rw [TokenContext.hash, Loop.bind_unit_eq_ok] at h
  obtain ⟨-, h⟩ := h
  split at h
  · rw [hashToken, Loop.bind_unit_eq_ok] at h
    obtain ⟨message, -, h⟩ := Loop.bind_eq_ok.mp h.2
    exact (Except.ok.inj h).symm
  · rw [Loop.bind_unit_eq_ok] at h
    obtain ⟨message, -, h⟩ := Loop.bind_eq_ok.mp h.2
    exact (Except.ok.inj h).symm

theorem exampleStored : ∃ record, exampleEncoding.Stored exampleHmac exampleAead .compact {exampleSealing} record := by
  have hprofile : ProfileOk exampleProfile := by
    obtain ⟨profiles, hprofiles, hmem⟩ := exampleProfiles
    exact (mem_of_validate hprofiles hmem).1
  have hctx : ContextOk exampleEncoding.ctx := contextOk_of sized_example hprofile exampleAccepted.context
  have hcipher : symmetricCipher exampleEncoding.ctx.profile.cipherAlgorithm = some ⟨"AES-128/GCM", 16, 12⟩ := rfl
  obtain ⟨hashid, hhash, hhashid, hrun⟩ := run_eq exampleAead .compact hmacTotal_example hctx rfl
  obtain rfl := hash_example hhash
  rw [encrypt_of_sealed hctx hhashid hcipher (exampleAead_ideal.sealed exampleSealing rfl)] at hrun
  exact ⟨_, hrun, _, rfl, rfl⟩

/-- A plaintext with metadata is encoded, and decoded from its row. -/
theorem tokens_round_trip_example : ∃ record, exampleEncoding.Stored exampleHmac exampleAead .compact {exampleSealing}
    record ∧
    decode exampleHmac exampleAead .compact (exampleEncoding.decoding "r" record.data) =
      .ok ⟨"r", "4111", some (.object [("n", .number (.posInt 1))])⟩ := by
  obtain ⟨profiles, hprofiles, hmem⟩ := exampleProfiles
  obtain ⟨record, hstored⟩ := exampleStored
  obtain ⟨-, hdecode, -⟩ := @tokens_round_trip _ _ _ .compact .compact _ _ _ hprofiles _ sized_example hmacTotal_example
    exampleAead_total exampleAead_ideal
  exact ⟨record, hstored, hdecode exampleEncoding record hmem exampleAccepted hstored "r"⟩

end Vectis.Ops.Tokenization

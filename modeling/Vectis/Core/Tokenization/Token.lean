import Vectis.Core.Storage.Tokens
import Vectis.Core.Subjects

/-!
# Random tokens

A token is a random text with the prefix of its profile. Its hash is the id of a row, whose data is the plaintext,
encrypted with the id of the row as associated data (`core/tokenization.rs`).

- `validateTokenValue_generate`: a generated token is accepted;
- `size_tokenData`: the data of a token is small enough to be stored;
- `decrypt_encrypt`: it is decrypted again.
-/

namespace Vectis.Core.Tokenization

open Validation Profiles Crypto Canonical Subjects Json

/-! ## Payloads -/

structure TokenDataPayload where
  profile : String
  plaintext : String
  metadata : Option Value
  createdAt : String

namespace TokenDataPayload

def metadataEntries (payload : TokenDataPayload) : List (String × Value) :=
  match payload.metadata with
  | some metadata => [("metadata", metadata)]
  | none => []

/-- The fields in the order of the struct, without the metadata when there is none. -/
def entries (payload : TokenDataPayload) : List (String × Value) :=
  ("profile", .string payload.profile) :: ("plaintext", .string payload.plaintext) ::
    (payload.metadataEntries ++ [("created_at", .string payload.createdAt)])

def toValue (payload : TokenDataPayload) : Value := .object payload.entries

/-- The fields in the order of their names, as they are read. -/
def fromValue : Value → Option TokenDataPayload
  | .object [("created_at", .string createdAt), ("metadata", metadata), ("plaintext", .string plaintext),
      ("profile", .string profile)] => some ⟨profile, plaintext, some metadata, createdAt⟩
  | .object [("created_at", .string createdAt), ("plaintext", .string plaintext), ("profile", .string profile)] =>
    some ⟨profile, plaintext, none, createdAt⟩
  | _ => none

/-- Metadata that a request can have: objects without floating-point numbers and without reserved keys. -/
def Plain (payload : TokenDataPayload) : Prop := ∀ metadata ∈ payload.metadata,
  metadata.plain = true ∧ metadata.isObject = true ∧ validateCanonicalJsonValue "metadata" metadata = .ok ()

end TokenDataPayload

/-- `serde_json` for payloads: compact text with the fields in the order of the struct, which is read back. -/
structure PayloadJson where
  toText : TokenDataPayload → String
  fromStr : String → Option TokenDataPayload
  toText_eq : ∀ payload, payload.Plain → toText payload = String.ofList payload.toValue.render
  fromStr_toText : ∀ payload, payload.Plain → payload.toValue.depth < recursionLimit →
  fromStr (toText payload) = some payload

theorem TokenDataPayload.integral {payload : TokenDataPayload} (h : payload.Plain) :
    payload.toValue.integral = true := by
  unfold toValue entries metadataEntries
  cases hmetadata : payload.metadata with
  | none => simp [Value.integral, integralEntries, integralEntry]
  | some metadata =>
    have hplain := integral_of_plain metadata (h metadata hmetadata).1
    simp [Value.integral, integralEntries, integralEntry, hplain]

theorem TokenDataPayload.fromValue_normalize {payload : TokenDataPayload} (h : payload.Plain) :
    fromValue payload.toValue.normalize = some payload := by
  obtain ⟨profile, plaintext, metadata, createdAt⟩ := payload
  cases metadata with
  | none =>
    show fromValue (.object (insertEntry "profile" _ (insertEntry "plaintext" _ (insertEntry "created_at" _ [])))) = _
    rfl
  | some metadata =>
    show fromValue (.object (insertEntry "profile" _ (insertEntry "plaintext" _
      (insertEntry "metadata" metadata.normalize (insertEntry "created_at" _ []))))) = _
    rw [normalize_plain metadata (h metadata rfl).1]
    rfl

/-- Payloads read through values. -/
def PayloadJson.compact : PayloadJson where
  toText payload := String.ofList payload.toValue.render
  fromStr text := (parse recursionLimit text).bind TokenDataPayload.fromValue
  toText_eq _ _ := rfl
  fromStr_toText payload hplain hdepth := by
    rw [parse_render_integral (TokenDataPayload.integral hplain) hdepth, Option.bind_some,
      TokenDataPayload.fromValue_normalize hplain]

/-! ## Tokens -/

def generateToken (profile : TokenizationProfile) (random : Res (List UInt8)) : Res String := do
  let random ← random
  .ok (profile.tokenPrefix ++ "_" ++ String.ofList (Base64.encode random))

def validateTokenValue (profile : TokenizationProfile) (token : String) : Res Unit := do
  validateTextField "token" token
  let expected := (profile.tokenPrefix ++ "_").toList
  if ¬ expected.isPrefixOf token.toList then .error (.invalidInput "token prefix does not match tokenization profile")
  else
    match Base64.decode (token.toList.drop expected.length) with
    | none => .error (.invalidInput "token contains invalid tokenization encoding")
    | some random =>
      if random.length ≠ profile.tokenLen.toNat then
        .error (.invalidInput "token length does not match tokenization profile")
      else .ok ()

def hashToken (hmac : Hmac) (profile : TokenizationProfile) (token : String) : Res String := do
  validateTokenValue profile token
  let message ← buildValidatedAad [("profile", profile.name), ("token", token)]
  let tag ← hmac profile.hashKey (bytesOf message)
  .ok (Hex.encode tag)

/-! ## Data of tokens -/

def unsupportedTokenCipher : DynError := .invalidInput "tokenization symmetric algorithm is not supported"

def tokenDataAad (profile : TokenizationProfile) (hashid : String) : Res String :=
  buildValidatedAad [("version", "v1"), ("type", tokenDataType), ("kid", profile.kid), ("profile", profile.name),
    ("tokenization_version", tokenizationVersionRandomV1), ("hashid", hashid), ("cipher", profile.cipherAlgorithm)]

def subjectTokenDataAad (profile : TokenizationProfile) (hashid subject : String) : Res String :=
  buildValidatedAad [("version", "v2"), ("type", tokenDataType), ("kid", profile.kid), ("profile", profile.name),
    ("tokenization_version", tokenizationVersionRandomV1), ("hashid", hashid), ("subject", subject),
    ("cipher", profile.cipherAlgorithm)]

/-- The nonce is what `random_bytes` gives. -/
def encryptTokenDataWithKey (aead : Aead) (json : PayloadJson) (profile : TokenizationProfile) (key : List UInt8)
    (aad : String) (payload : TokenDataPayload) (nonce : Res (List UInt8)) : Res String := do
  let cipher ← requireCipher unsupportedTokenCipher profile.cipherAlgorithm
  let nonce ← nonce
  let ciphertext ← aead.encrypt cipher.algorithm (Utf8.encode (json.toText payload)) key nonce (Utf8.encode aad)
  .ok (envelopeText ciphertext nonce (Utf8.encode aad))

/-- `serde_json::from_str` of the decrypted text, and the check of its profile. -/
def readPayload (json : PayloadJson) (profile : TokenizationProfile) (plaintext : List UInt8) : Res TokenDataPayload :=
  match Utf8.decode plaintext with
  | none => .error (.invalidInput "token data plaintext is not valid UTF-8")
  | some text =>
    match json.fromStr text with
    | none => .error (.invalidInput "token data payload is not valid JSON")
    | some payload =>
      if payload.profile ≠ profile.name then .error (.invalidInput "token data payload profile does not match request")
      else .ok payload

def decryptTokenDataWithKey (aead : Aead) (json : PayloadJson) (profile : TokenizationProfile) (key : List UInt8)
    (expectedAad data : String) : Res TokenDataPayload := do
  let cipher ← requireCipher unsupportedTokenCipher profile.cipherAlgorithm
  let envelope ← decodeBase64StandardEnvelope "tokens.data" data Storage.storageTokenEnvelopeMaxChars
    cipher.nonceSizeBytes
  match Utf8.decode envelope.aad with
  | none => .error (.invalidInput "tokens.data.aad is not valid UTF-8")
  | some aad =>
    if aad ≠ expectedAad then .error (.invalidInput "token data aad does not match request")
    else
      let plaintext ← aead.decrypt cipher.algorithm envelope.ciphertext key envelope.nonce envelope.aad
      readPayload json profile plaintext

/-! ## Contexts -/

/-- `TokenContext`, without the seed that guards writes. -/
structure TokenContext where
  profile : TokenizationProfile
  subjectKeys : Option SubjectTokenKeys
  deriving DecidableEq, Repr

def validateSubjectMode (profile : TokenizationProfile) (subject : Option String) : Res Unit := do
  Storage.validateOptionalSubject subject
  if (profile.subjectMode = .stored) ≠ subject.isSome then
    .error (.invalidInput "subject is required only for stored tokenization profiles")
  else .ok ()

namespace TokenContext

def subject (ctx : TokenContext) : Option String := ctx.subjectKeys.map SubjectTokenKeys.subject

def validateMode (ctx : TokenContext) (expected : Option String) : Res Unit := do
  validateSubjectMode ctx.profile expected
  if ctx.subject ≠ expected then .error (.invalidInput "subject does not match token context") else .ok ()

def hash (hmac : Hmac) (ctx : TokenContext) (token : String) : Res String := do
  ctx.validateMode ctx.subject
  match ctx.subjectKeys with
  | none => hashToken hmac ctx.profile token
  | some keys => do
    validateTokenValue ctx.profile token
    let message ← buildValidatedAad [("version", "v2"), ("profile", ctx.profile.name), ("subject", keys.subject),
      ("token", token)]
    let tag ← hmac keys.hashKey (bytesOf message)
    .ok (Hex.encode tag)

def aad (ctx : TokenContext) (hashid : String) : Res String :=
  match ctx.subject with
  | none => tokenDataAad ctx.profile hashid
  | some subject => subjectTokenDataAad ctx.profile hashid subject

def dataKey (ctx : TokenContext) : List UInt8 :=
  match ctx.subjectKeys with
  | none => ctx.profile.dataKey
  | some keys => keys.dataKey

def encrypt (aead : Aead) (json : PayloadJson) (ctx : TokenContext) (hashid : String) (payload : TokenDataPayload)
    (nonce : Res (List UInt8)) : Res String := do
  ctx.validateMode ctx.subject
  let aad ← ctx.aad hashid
  encryptTokenDataWithKey aead json ctx.profile ctx.dataKey aad payload nonce

def decrypt (aead : Aead) (json : PayloadJson) (ctx : TokenContext) (hashid data : String) : Res TokenDataPayload := do
  ctx.validateMode ctx.subject
  let aad ← ctx.aad hashid
  decryptTokenDataWithKey aead json ctx.profile ctx.dataKey aad data

end TokenContext

/-! ## Generated tokens -/

theorem sextet_clean : ∀ n : Fin 64, isControl (Base64.sextet n) = false ∧ Base64.sextet n ≠ ';' ∧
    Base64.sextet n ≠ '=' := by
  decide

/-- The text of a token. -/
def tokenText (profile : TokenizationProfile) (random : List UInt8) : String :=
  profile.tokenPrefix ++ "_" ++ String.ofList (Base64.encode random)

theorem toList_tokenText (profile : TokenizationProfile) (random : List UInt8) :
    (tokenText profile random).toList = (profile.tokenPrefix ++ "_").toList ++ Base64.encode random := by
  rw [tokenText, String.toList_append, String.toList_ofList]

theorem mem_tokenText {profile : TokenizationProfile} {random : List UInt8} {c : Char}
    (hc : c ∈ (tokenText profile random).toList) :
    c ∈ profile.tokenPrefix.toList ∨ c = '_' ∨ ∃ n : Fin 64, c = Base64.sextet n := by
  rw [toList_tokenText, List.mem_append, String.toList_append, List.mem_append] at hc
  rcases hc with (hc | hc) | hc
  · exact .inl hc
  · exact .inr (.inl (List.mem_singleton.mp hc))
  · exact .inr (.inr (Base64.encode_chars random c hc))

/-- A token is a value of associated data. -/
theorem aadOk_tokenText {profile : TokenizationProfile} (hok : ProfileOk profile) (random : List UInt8) :
    AadOk ("token", tokenText profile random) := by
  obtain ⟨⟨hblank, hcontrol⟩, -, hsemi, heq⟩ := validateTokenPrefix_ok hok.tokenPrefix
  refine aadOk_of (m := "") (show validateAadKey "" "token" = .ok () by decide) (validateAadValue_ok_iff.mpr ⟨⟨?_, ?_⟩,
    ?_, ?_⟩)
  · obtain ⟨c, hc, hspace⟩ := List.all_eq_false.mp hblank
    refine List.all_eq_false.mpr ⟨c, ?_, hspace⟩
    rw [toList_tokenText, String.toList_append]
    exact List.mem_append_left _ (List.mem_append_left _ hc)
  · refine List.any_eq_false.mpr fun c hc => ?_
    rcases mem_tokenText hc with hc | rfl | ⟨n, rfl⟩
    · exact List.any_eq_false.mp hcontrol c hc
    · decide
    · simp [(sextet_clean n).1]
  · intro hc
    rcases mem_tokenText hc with hc | hc | ⟨n, hc⟩
    · exact hsemi hc
    · exact absurd hc (by decide)
    · exact (sextet_clean n).2.1 hc.symm
  · intro hc
    rcases mem_tokenText hc with hc | hc | ⟨n, hc⟩
    · exact heq hc
    · exact absurd hc (by decide)
    · exact (sextet_clean n).2.2 hc.symm

/-- A generated token is accepted. -/
theorem validateTokenValue_generate {profile : TokenizationProfile} (hok : ProfileOk profile) {random : List UInt8}
    (hlength : random.length = profile.tokenLen.toNat) :
    validateTokenValue profile (tokenText profile random) = .ok () := by
  have htext : validateTextField "token" (tokenText profile random) = .ok () :=
    validateTextField_ok_iff.mpr (validateAadValue_ok_iff.mp ((aadOk_tokenText hok random).value "")).1
  unfold validateTokenValue
  rw [htext, toList_tokenText]
  simp only [bind, Except.bind]
  rw [if_neg (by simp), List.drop_left, Base64.decode_encode]
  simp [hlength]

/-! ## Contexts of subjects -/

/-- `create_hmac` takes keys of 32 bytes and gives tags of 32 bytes. -/
def HmacTotal (hmac : Hmac) : Prop := ∀ key message, key.length = tokenKeySizeBytes →
  ∃ tag, hmac key message = .ok tag ∧ tag.length = tokenKeySizeBytes

/-- The contexts that the mode of the profile allows: without a subject, or with the keys of a seed. -/
inductive ContextOf (hkdf : Hkdf) (profile : TokenizationProfile) : TokenContext → Option (String × List UInt8) → Prop
  | plain (hmode : profile.subjectMode = .none) : ContextOf hkdf profile ⟨profile, none⟩ none
  | subject {subject : String} {seed : List UInt8} {keys : SubjectTokenKeys} (hmode : profile.subjectMode = .stored)
      (hsubject : validateSubject subject = .ok ()) (hseed : seed.length = subjectSeedBytes)
      (hkeys : deriveTokenKeys hkdf profile subject seed = .ok keys) :
      ContextOf hkdf profile ⟨profile, some keys⟩ (some (subject, seed))

namespace TokenContext

def hashKey (ctx : TokenContext) : List UInt8 :=
  match ctx.subjectKeys with
  | none => ctx.profile.hashKey
  | some keys => keys.hashKey

/-- The message whose tag is the hash of the token. -/
def hashFields (ctx : TokenContext) (token : String) : AadFields :=
  match ctx.subjectKeys with
  | none => [("profile", ctx.profile.name), ("token", token)]
  | some keys => [("version", "v2"), ("profile", ctx.profile.name), ("subject", keys.subject), ("token", token)]

def aadFields (ctx : TokenContext) (hashid : String) : AadFields :=
  match ctx.subject with
  | none => [("version", "v1"), ("type", tokenDataType), ("kid", ctx.profile.kid), ("profile", ctx.profile.name),
      ("tokenization_version", tokenizationVersionRandomV1), ("hashid", hashid),
      ("cipher", ctx.profile.cipherAlgorithm)]
  | some subject => [("version", "v2"), ("type", tokenDataType), ("kid", ctx.profile.kid),
      ("profile", ctx.profile.name), ("tokenization_version", tokenizationVersionRandomV1), ("hashid", hashid),
      ("subject", subject),
      ("cipher", ctx.profile.cipherAlgorithm)]

theorem aad_eq (ctx : TokenContext) (hashid : String) : ctx.aad hashid = buildValidatedAad (ctx.aadFields hashid) := by
  unfold aad aadFields
  cases ctx.subject <;> rfl

end TokenContext

theorem ContextOf.profile_eq {hkdf : Hkdf} {profile : TokenizationProfile} {ctx : TokenContext}
    {seed : Option (String × List UInt8)} (h : ContextOf hkdf profile ctx seed) : ctx.profile = profile := by
  cases h <;> rfl

theorem deriveTokenKeys_ok {hkdf : Hkdf} {profile : TokenizationProfile} {subject : String} {seed : List UInt8}
    {keys : SubjectTokenKeys} (h : deriveTokenKeys hkdf profile subject seed = .ok keys) :
    ∃ cipher info info', symmetricCipher profile.cipherAlgorithm = some cipher ∧ keys.subject = subject ∧
      hkdf profile.hashKey seed (bytesOf info) 32 = .ok keys.hashKey ∧
      keyInfo profile "subject-token-data" = .ok info' ∧
      hkdf profile.dataKey seed (bytesOf info') cipher.keySizeBytes = .ok keys.dataKey := by
  obtain ⟨cipher, hcipher, h⟩ := Loop.bind_eq_ok.mp h
  obtain ⟨info, -, h⟩ := Loop.bind_eq_ok.mp h
  obtain ⟨hashKey, hhash, h⟩ := Loop.bind_eq_ok.mp h
  obtain ⟨info', hinfo', h⟩ := Loop.bind_eq_ok.mp h
  obtain ⟨dataKey, hdata, h⟩ := Loop.bind_eq_ok.mp h
  cases h
  exact ⟨cipher, info, info', requireCipher_ok_iff.mp hcipher, rfl, hhash, hinfo', hdata⟩

theorem ContextOf.subject_eq {hkdf : Hkdf} {profile : TokenizationProfile} {ctx : TokenContext}
    {seed : Option (String × List UInt8)} (h : ContextOf hkdf profile ctx seed) : ctx.subject = seed.map Prod.fst := by
  cases h with
  | plain => rfl
  | subject hmode hsubject hseed hkeys =>
    obtain ⟨cipher, info, info', -, rfl, -⟩ := deriveTokenKeys_ok hkeys
    rfl

/-- The call of HKDF for the data key of a subject. -/
def dataQueries (profile : TokenizationProfile) (seed : Option (String × List UInt8)) : Set HkdfQuery :=
  {q | ∃ pair ∈ seed, ∃ cipher info, symmetricCipher profile.cipherAlgorithm = some cipher ∧
    keyInfo profile "subject-token-data" = .ok info ∧ q = ⟨profile.dataKey, pair.2, bytesOf info, cipher.keySizeBytes⟩}

/-- The data key of a context with a subject is one of these. -/
theorem ContextOf.dataKey {hkdf : Hkdf} {profile : TokenizationProfile} {ctx : TokenContext}
    {pair : String × List UInt8} (h : ContextOf hkdf profile ctx (some pair)) :
    ∃ q ∈ dataQueries profile (some pair), q.salt = pair.2 ∧
    hkdf q.inputKey q.salt q.info q.length = .ok ctx.dataKey := by
  cases h with
  | subject hmode hsubject hseed hkeys =>
    obtain ⟨cipher, info, info', hcipher, rfl, -, hinfo, hdata⟩ := deriveTokenKeys_ok hkeys
    exact ⟨_, ⟨_, rfl, cipher, info', hcipher, hinfo, rfl⟩, rfl, hdata⟩

/-- What holds of such a context. -/
structure ContextOk (ctx : TokenContext) : Prop where
  profile : ProfileOk ctx.profile
  mode : ctx.validateMode ctx.subject = .ok ()
  subject : ∀ subject ∈ ctx.subject, validateSubject subject = .ok ()
  hashKey : ctx.hashKey.length = tokenKeySizeBytes
  dataKey : ∀ cipher ∈ symmetricCipher ctx.profile.cipherAlgorithm, ctx.dataKey.length = cipher.keySizeBytes

theorem contextOk_of {hkdf : Hkdf} (hsized : Sized hkdf) {profile : TokenizationProfile} (hok : ProfileOk profile)
    {ctx : TokenContext} {seed : Option (String × List UInt8)} (h : ContextOf hkdf profile ctx seed) :
    ContextOk ctx := by
  obtain ⟨found, hfound, hlength⟩ := hok.cipher
  cases h with
  | plain hmode =>
    refine ⟨hok, ?_, ?_, hok.hashKey, ?_⟩
    · simp [TokenContext.validateMode, validateSubjectMode, TokenContext.subject, Storage.validateOptionalSubject,
        hmode, bind, Except.bind]
    · intro subject hsubject
      cases hsubject
    · intro cipher hcipher
      rw [hfound] at hcipher
      cases hcipher
      exact hlength
  | subject hmode hsubject hseed hkeys =>
    obtain ⟨cipher, info, info', hcipher, rfl, hhash, -, hdata⟩ := deriveTokenKeys_ok hkeys
    refine ⟨hok, ?_, ?_, hsized _ _ _ _ _ hhash, ?_⟩
    · simp [TokenContext.validateMode, validateSubjectMode, TokenContext.subject, Storage.validateOptionalSubject,
        hmode, bind, Except.bind, hsubject]
    · intro subject hmem
      cases hmem
      exact hsubject
    · intro other hother
      rw [hcipher] at hother
      cases hother
      exact hsized _ _ _ _ _ hdata

/-! ## Hashes -/

/-- A tag in hex is a hash id. -/
theorem hashid_encode {tag : List UInt8} (h : tag.length = tokenKeySizeBytes) :
    Ops.Keys.validateKeyId (Hex.encode tag) = .ok () := by
  refine validateInternalHash_ok_iff.mpr ⟨?_, List.all_eq_true.mpr fun c hc => hexdigit_encode hc⟩
  rw [utf8ByteSize_hexEncode, h]
  rfl

theorem buildAad_ok {fields : AadFields} (h : ∀ field ∈ fields, AadOk field) :
    buildValidatedAad fields = .ok (buildAad fields) := buildValidatedAad_ok_iff.mpr ⟨h, rfl⟩

/-- The fields of fixed texts. -/
theorem aadOk_fixed : AadOk ("version", "v1") ∧ AadOk ("version", "v2") ∧ AadOk ("type", tokenDataType) ∧
    AadOk ("tokenization_version", tokenizationVersionRandomV1) := by
  refine ⟨?_, ?_, ?_, ?_⟩ <;> exact aadOk_of_validate (by rfl)

theorem aadOk_cipher {algorithm : String} {cipher : SymmetricCipherSpec} (h : symmetricCipher algorithm = some cipher) :
    AadOk ("cipher", algorithm) := by
  have hall : ∀ algorithm ∈ symmetricAlgorithms, validateAadValue "" algorithm = .ok () := by decide
  exact aadOk_of (show validateAadKey "" "cipher" = .ok () by decide) (hall algorithm (symmetricCipher_some h).2)

theorem aadOk_hashFields {ctx : TokenContext} (h : ContextOk ctx) {token : String} (htoken : AadOk ("token", token)) :
    ∀ field ∈ ctx.hashFields token, AadOk field := by
  have hname : AadOk ("profile", ctx.profile.name) := aadOk_name (by decide) h.profile.name
  have hsubject := h.subject
  unfold TokenContext.hashFields
  unfold TokenContext.subject at hsubject
  cases hkeys : ctx.subjectKeys with
  | none => simp [hname, htoken]
  | some keys =>
    rw [hkeys] at hsubject
    simp [hname, htoken, aadOk_fixed, aadOk_subject (hsubject keys.subject rfl)]

theorem aadOk_aadFields {ctx : TokenContext} (h : ContextOk ctx) {hashid : String}
    (hhashid : Ops.Keys.validateKeyId hashid = .ok ()) : ∀ field ∈ ctx.aadFields hashid, AadOk field := by
  have hname : AadOk ("profile", ctx.profile.name) := aadOk_name (by decide) h.profile.name
  have hkid : AadOk ("kid", ctx.profile.kid) := aadOk_kid (by decide) h.profile.kid
  have hhash : AadOk ("hashid", hashid) := aadOk_kid (by decide) hhashid
  obtain ⟨cipher, hcipher, -⟩ := h.profile.cipher
  have hsubject := h.subject
  unfold TokenContext.aadFields
  cases hctx : ctx.subject with
  | none => simp [hname, hkid, hhash, aadOk_fixed, aadOk_cipher hcipher]
  | some subject =>
    rw [hctx] at hsubject
    simp [hname, hkid, hhash, aadOk_fixed, aadOk_cipher hcipher, aadOk_subject (hsubject subject rfl)]

/-- The hash of a token is a hash id. -/
theorem hash_ok {hmac : Hmac} (hhmac : HmacTotal hmac) {ctx : TokenContext} (h : ContextOk ctx) {token : String}
    (hvalue : validateTokenValue ctx.profile token = .ok ()) (htoken : AadOk ("token", token)) :
    ∃ tag, ctx.hash hmac token = .ok (Hex.encode tag) ∧ tag.length = tokenKeySizeBytes := by
  have hbuild := buildAad_ok (aadOk_hashFields h htoken)
  obtain ⟨tag, htag, hlength⟩ := hhmac ctx.hashKey (bytesOf (buildAad (ctx.hashFields token))) h.hashKey
  refine ⟨tag, ?_, hlength⟩
  unfold TokenContext.hash
  unfold TokenContext.hashFields at hbuild htag
  unfold TokenContext.hashKey at htag
  rw [h.mode]
  cases hkeys : ctx.subjectKeys with
  | none =>
    simp only [hkeys] at hbuild htag
    simp only [hashToken, hvalue, hbuild, htag, bind, Except.bind]
  | some keys =>
    simp only [hkeys] at hbuild htag
    simp only [hvalue, hbuild, htag, bind, Except.bind]

theorem hashToken_ok {hmac : Hmac} (hhmac : HmacTotal hmac) {profile : TokenizationProfile} (hok : ProfileOk profile)
    {token : String} (hvalue : validateTokenValue profile token = .ok ()) (htoken : AadOk ("token", token)) :
    ∃ hash, hashToken hmac profile token = .ok hash := by
  have hname : AadOk ("profile", profile.name) := aadOk_name (by decide) hok.name
  have hbuild : buildValidatedAad [("profile", profile.name), ("token", token)] = .ok _ :=
    buildAad_ok (by simp [hname, htoken])
  obtain ⟨tag, htag, -⟩ := hhmac profile.hashKey (bytesOf (buildAad [("profile", profile.name), ("token", token)]))
    hok.hashKey
  refine ⟨Hex.encode tag, ?_⟩
  simp only [hashToken, hvalue, hbuild, htag, bind, Except.bind]

/-! ## Sizes -/

theorem bytes_toList (s : String) : bytes s.toList = s.utf8ByteSize := by
  have hsize := Utf8.utf8ByteSize_ofList s.toList
  rw [String.ofList_toList] at hsize
  exact hsize.symm

theorem utf8ByteSize_le {s : String} {n : Nat} (h : s.length ≤ n) : s.utf8ByteSize ≤ 4 * n := by
  have hbytes := bytes_le_length s.toList
  rw [bytes_toList, String.length_toList] at hbytes
  omega

/-- The bytes of a field with its two delimiters. -/
def fieldBytes (field : String × String) : Nat := field.1.utf8ByteSize + field.2.utf8ByteSize + 2

theorem bytes_aadPart (field : String × String) : bytes (aadPart field) + 1 = fieldBytes field := by
  rw [aadPart, bytes_append, bytes_cons, bytes_toList, bytes_toList, fieldBytes, show ('=').utf8Size = 1 by decide]
  omega

theorem bytes_intercalate : ∀ fields : AadFields,
    bytes ([';'].intercalate (fields.map aadPart)) ≤ (fields.map fieldBytes).sum
  | [] => by simp [List.intercalate, bytes]
  | [field] => by
    have hpart := bytes_aadPart field
    simp only [List.map_cons, List.map_nil, List.intercalate_singleton, List.sum_cons, List.sum_nil]
    omega
  | field :: next :: fields => by
    have ih := bytes_intercalate (next :: fields)
    have hpart := bytes_aadPart field
    have hsemi : bytes [';'] = 1 := by decide
    rw [List.map_cons, List.map_cons, List.intercalate_cons_cons, bytes_append, bytes_append, hsemi, List.map_cons,
      List.sum_cons, ← List.map_cons]
    omega

theorem utf8ByteSize_buildAad (fields : AadFields) : (buildAad fields).utf8ByteSize ≤ (fields.map fieldBytes).sum := by
  rw [buildAad, Utf8.utf8ByteSize_ofList]
  exact bytes_intercalate fields

theorem utf8ByteSize_algorithm {algorithm : String} {cipher : SymmetricCipherSpec}
    (h : symmetricCipher algorithm = some cipher) : algorithm.utf8ByteSize ≤ 16 := by
  have hall : ∀ algorithm ∈ symmetricAlgorithms, algorithm.utf8ByteSize ≤ 16 := by decide
  exact hall algorithm (symmetricCipher_some h).2

/-- The associated data of a token has at most a kilobyte. -/
theorem size_aad {ctx : TokenContext} (h : ContextOk ctx) {hashid : String}
    (hhashid : Ops.Keys.validateKeyId hashid = .ok ()) : (buildAad (ctx.aadFields hashid)).utf8ByteSize ≤ 1024 := by
  have hname := utf8ByteSize_le (validateBoundedTextField_ok_iff.mp
    (validateAadConfigName_ok_iff.mp h.profile.name).1).2
  have hkid := (validateInternalHash_ok_iff.mp h.profile.kid).1
  have hhash := (validateInternalHash_ok_iff.mp hhashid).1
  obtain ⟨cipher, hcipher, -⟩ := h.profile.cipher
  have halgorithm := utf8ByteSize_algorithm hcipher
  have hfixed : fieldBytes ("version", "v1") ≤ 16 ∧ fieldBytes ("version", "v2") ≤ 16 ∧
    fieldBytes ("type", tokenDataType) ≤ 16 ∧
      fieldBytes ("tokenization_version", tokenizationVersionRandomV1) ≤ 48 := by decide
  have hkeys : "kid".utf8ByteSize ≤ 8 ∧ "profile".utf8ByteSize ≤ 8 ∧ "hashid".utf8ByteSize ≤ 8 ∧
    "subject".utf8ByteSize ≤ 8 ∧
      "cipher".utf8ByteSize ≤ 8 := by decide
  simp only [configNameMaxChars, fieldBytes] at hname hfixed
  refine Nat.le_trans (utf8ByteSize_buildAad _) ?_
  unfold TokenContext.aadFields
  cases hctx : ctx.subject with
  | none =>
    simp only [List.map_cons, List.map_nil, List.sum_cons, List.sum_nil, fieldBytes]
    omega
  | some subject =>
    have hsubject := (validateSubject_ok (h.subject subject hctx)).1
    simp only [List.map_cons, List.map_nil, List.sum_cons, List.sum_nil, fieldBytes]
    omega

/-- A payload that a request can lead to. -/
structure PayloadOk (serde : SerdeJson) (payload : TokenDataPayload) : Prop where
  plain : payload.Plain
  metadata : ∀ metadata ∈ payload.metadata, (serde.toText metadata).length ≤ tokenMetadataMaxChars
  profile : payload.profile.toList.any isControl = false ∧ payload.profile.length ≤ configNameMaxChars
  plaintext : payload.plaintext.toList.any isControl = false ∧ payload.plaintext.length ≤ tokenPlaintextMaxLen
  createdAt : payload.createdAt.toList.any isControl = false ∧ payload.createdAt.length ≤ 20

theorem length_render_metadata {serde : SerdeJson} {payload : TokenDataPayload} (h : PayloadOk serde payload)
    {metadata : Value} (hmem : metadata ∈ payload.metadata) : metadata.render.length ≤ tokenMetadataMaxChars := by
  have hlength := h.metadata metadata hmem
  rw [serde.toText_plain metadata (h.plain metadata hmem).1, String.length_ofList] at hlength
  exact hlength

theorem depth_payload {serde : SerdeJson} {payload : TokenDataPayload} (h : PayloadOk serde payload) :
    payload.toValue.depth < recursionLimit := by
  have hdepth : ∀ metadata ∈ payload.metadata, metadata.depth ≤ 64 := by
    intro metadata hmem
    have hrender := length_render_metadata h hmem
    have htwo := depth_le_render metadata
    simp only [tokenMetadataMaxChars] at hrender
    omega
  unfold TokenDataPayload.toValue TokenDataPayload.entries TokenDataPayload.metadataEntries recursionLimit
  cases hmetadata : payload.metadata with
  | none => simp [Value.depth, depthEntries, depthEntry]
  | some metadata =>
    have hmax := hdepth metadata hmetadata
    simp [Value.depth, depthEntries, depthEntry]
    omega

/-- The text of a payload. -/
theorem size_payload {serde : SerdeJson} {payload : TokenDataPayload} (h : PayloadOk serde payload) :
    bytes payload.toValue.render ≤ 67000 := by
  have hprofile := entryBytes_le (show shortKey "profile" = true by rfl) (bytes_clean h.profile.1 h.profile.2)
  have hplaintext := entryBytes_le (show shortKey "plaintext" = true by rfl)
    (bytes_clean h.plaintext.1 h.plaintext.2)
  have hcreatedAt := entryBytes_le (show shortKey "created_at" = true by rfl)
    (bytes_clean h.createdAt.1 h.createdAt.2)
  have hmetadata : ∀ metadata ∈ payload.metadata, entryBytes ("metadata", metadata) ≤
      4 * tokenMetadataMaxChars + 68 := by
    intro metadata hmem
    refine entryBytes_le (by rfl) ?_
    have hrender := length_render_metadata h hmem
    have hbytes := bytes_le_length metadata.render
    omega
  simp only [configNameMaxChars, tokenPlaintextMaxLen, tokenMetadataMaxChars] at hprofile hplaintext hmetadata
  refine Nat.le_trans (bytes_object payload.entries) ?_
  unfold TokenDataPayload.entries TokenDataPayload.metadataEntries
  cases hpayload : payload.metadata with
  | none =>
    simp only [List.nil_append, List.map_cons, List.map_nil, List.sum_cons, List.sum_nil]
    omega
  | some metadata =>
    have hentry := hmetadata metadata hpayload
    simp only [List.cons_append, List.nil_append, List.map_cons, List.map_nil, List.sum_cons, List.sum_nil]
    omega

/-! ## Encryption and decryption -/

/-- The encryption of a payload. -/
def TokenContext.sealing (ctx : TokenContext) (json : PayloadJson) (hashid : String) (payload : TokenDataPayload)
    (nonce ciphertext : List UInt8) : Sealing :=
  ⟨ctx.profile.cipherAlgorithm, ctx.dataKey, nonce, Utf8.encode (buildAad (ctx.aadFields hashid)),
    Utf8.encode (json.toText payload), ciphertext⟩

/-- The data of a row. -/
def TokenContext.dataText (ctx : TokenContext) (hashid : String) (nonce ciphertext : List UInt8) : String :=
  envelopeText ciphertext nonce (Utf8.encode (buildAad (ctx.aadFields hashid)))

section Encryption

variable {aead : Aead} {json : PayloadJson} {serde : SerdeJson} {ctx : TokenContext} {hashid : String}
  {payload : TokenDataPayload} {nonce : List UInt8} {cipher : SymmetricCipherSpec}

theorem encrypt_eq (h : ContextOk ctx) (hhashid : Ops.Keys.validateKeyId hashid = .ok ())
    (hcipher : symmetricCipher ctx.profile.cipherAlgorithm = some cipher) :
      ctx.encrypt aead json hashid payload (.ok nonce) = aead.encrypt ctx.profile.cipherAlgorithm
        (Utf8.encode (json.toText payload)) ctx.dataKey nonce (Utf8.encode (buildAad (ctx.aadFields hashid))) >>=
        fun ciphertext => .ok (ctx.dataText hashid nonce ciphertext) := by
  unfold TokenContext.encrypt encryptTokenDataWithKey
  rw [h.mode, TokenContext.aad_eq, buildAad_ok (aadOk_aadFields h hhashid)]
  simp only [bind, Except.bind, requireCipher_ok_iff.mpr hcipher, (symmetricCipher_some hcipher).1]
  rfl

/-- An encryption in the ledger. -/
theorem encrypt_of_sealed (h : ContextOk ctx) (hhashid : Ops.Keys.validateKeyId hashid = .ok ())
    (hcipher : symmetricCipher ctx.profile.cipherAlgorithm = some cipher) {ciphertext : List UInt8}
    (hsealed : (ctx.sealing json hashid payload nonce ciphertext).By aead) :
    ctx.encrypt aead json hashid payload (.ok nonce) = .ok (ctx.dataText hashid nonce ciphertext) := by
  rw [encrypt_eq h hhashid hcipher]
  exact Loop.bind_eq_ok.mpr ⟨ciphertext, hsealed, rfl⟩

theorem cipher_sizes {algorithm : String} (h : symmetricCipher algorithm = some cipher) :
    0 < cipher.nonceSizeBytes ∧ cipher.nonceSizeBytes ≤ 24 := by
  unfold symmetricCipher at h
  split at h <;> cases h <;> decide

/-- The data of a token can be stored. -/
theorem size_dataText (h : ContextOk ctx) (hpayload : PayloadOk serde payload)
    (hhashid : Ops.Keys.validateKeyId hashid = .ok ()) {ciphertext : List UInt8}
    (hct : ciphertext.length = (Utf8.encode (json.toText payload)).length + tagSizeBytes) (hnonce : nonce.length ≤ 24) :
    (ctx.dataText hashid nonce ciphertext).utf8ByteSize ≤ Storage.storageTokenEnvelopeMaxChars := by
  have haad := size_aad h hhashid
  have htext := size_payload hpayload
  rw [json.toText_eq payload hpayload.plain, Utf8.length_encode, Utf8.utf8ByteSize_ofList] at hct
  rw [TokenContext.dataText, utf8ByteSize_envelopeText, Utf8.length_encode]
  simp only [bytes] at htext
  simp only [tagSizeBytes, Storage.storageTokenEnvelopeMaxChars] at hct ⊢
  omega

theorem buildAad_aadFields_ne (ctx : TokenContext) (h : ContextOk ctx)
    (hhashid : Ops.Keys.validateKeyId hashid = .ok ()) :
    (buildAad (ctx.aadFields hashid)).toList.all isWhitespace = false := by
  have hok := aadOk_aadFields h hhashid
  unfold TokenContext.aadFields at hok ⊢
  cases hctx : ctx.subject with
  | none =>
    rw [hctx] at hok
    exact (validateTextField_ok_iff.mp (validateTextField_buildAad hok "")).1
  | some subject =>
    rw [hctx] at hok
    exact (validateTextField_ok_iff.mp (validateTextField_buildAad hok "")).1

theorem decode_dataText (h : ContextOk ctx) (hhashid : Ops.Keys.validateKeyId hashid = .ok ()) {ciphertext : List UInt8}
    (hcipher : symmetricCipher ctx.profile.cipherAlgorithm = some cipher) (hct : 16 ≤ ciphertext.length)
    (hnonce : nonce.length = cipher.nonceSizeBytes)
    (hsize : (ctx.dataText hashid nonce ciphertext).utf8ByteSize ≤ Storage.storageTokenEnvelopeMaxChars) :
    decodeBase64StandardEnvelope "tokens.data" (ctx.dataText hashid nonce ciphertext)
      Storage.storageTokenEnvelopeMaxChars cipher.nonceSizeBytes =
      .ok ⟨ciphertext, nonce, Utf8.encode (buildAad (ctx.aadFields hashid))⟩ :=
  decodeBase64StandardEnvelope_envelope hct hnonce (cipher_sizes hcipher).1 (buildAad_aadFields_ne ctx h hhashid) hsize

/-- The storage accepts the row. -/
theorem validateTokenFields_dataText (h : ContextOk ctx) (hhashid : Ops.Keys.validateKeyId hashid = .ok ())
    {kid : String} (hkid : Ops.Keys.validateKeyId kid = .ok ()) {ciphertext : List UInt8} (hct : ciphertext ≠ [])
    (hnonce : nonce ≠ [])
    (hsize : (ctx.dataText hashid nonce ciphertext).utf8ByteSize ≤ Storage.storageTokenEnvelopeMaxChars) :
    Storage.validateTokenFields standardDecode kid hashid (ctx.dataText hashid nonce ciphertext) = .ok () := by
  have haad : Utf8.encode (buildAad (ctx.aadFields hashid)) ≠ [] := by
    intro hnil
    have hblank := buildAad_aadFields_ne ctx h hhashid
    rw [Utf8.encode_injective (hnil.trans (show [] = Utf8.encode "" from rfl))] at hblank
    cases hblank
  have hstorage := @splitBase64StandardEnvelopeSegments_envelope "tokens.data" ciphertext nonce _ _ hct hnonce
    haad hsize
  have hkid' : Storage.validateStorageKid "tokens.kid" kid = .ok () :=
    validateInternalHash_ok_iff.mpr (validateInternalHash_ok_iff.mp hkid)
  have hhashid' : Storage.validateTokenHashid hashid = .ok () :=
    validateInternalHash_ok_iff.mpr (validateInternalHash_ok_iff.mp hhashid)
  unfold Storage.validateTokenFields Storage.validateStorageEnvelope validateBase64StandardEnvelopeSegments
  rw [hkid', hhashid', TokenContext.dataText, hstorage]
  simp [bind, Except.bind, Except.map]

theorem readPayload_toText (hpayload : PayloadOk serde payload) {profile : TokenizationProfile}
    (hprofile : payload.profile = profile.name) :
    readPayload json profile (Utf8.encode (json.toText payload)) = .ok payload := by
  unfold readPayload
  rw [Utf8.decode_encode]
  simp only [json.fromStr_toText payload hpayload.plain (depth_payload hpayload)]
  rw [if_neg (not_not_intro hprofile)]

/-- What was encrypted is decrypted. -/
theorem decrypt_encrypt (h : ContextOk ctx) (hpayload : PayloadOk serde payload)
    (hprofile : payload.profile = ctx.profile.name) (hhashid : Ops.Keys.validateKeyId hashid = .ok ())
    (hcipher : symmetricCipher ctx.profile.cipherAlgorithm = some cipher)
    (hnonce : nonce.length = cipher.nonceSizeBytes) {ledger : Set Sealing} (hideal : aead.Ideal ledger)
    {ciphertext : List UInt8} (hmem : ctx.sealing json hashid payload nonce ciphertext ∈ ledger) :
    ctx.decrypt aead json hashid (ctx.dataText hashid nonce ciphertext) = .ok payload := by
  have hlength := hideal.length _ hmem
  have hopens := hideal.opens _ hmem
  simp only [TokenContext.sealing] at hlength hopens
  have hsize := size_dataText h hpayload hhashid hlength
    (Nat.le_trans (Nat.le_of_eq hnonce) (cipher_sizes hcipher).2)
  have hdecode := decode_dataText h hhashid hcipher (by simp only [tagSizeBytes] at hlength; omega) hnonce hsize
  unfold TokenContext.decrypt decryptTokenDataWithKey
  rw [h.mode, TokenContext.aad_eq, buildAad_ok (aadOk_aadFields h hhashid)]
  simp only [bind, Except.bind, requireCipher_ok_iff.mpr hcipher, hdecode, Utf8.decode_encode,
    (symmetricCipher_some hcipher).1, hopens, ne_eq, not_true_eq_false, if_false]
  exact readPayload_toText hpayload hprofile

/-- What is decrypted has the expected associated data. -/
theorem decrypt_ok {other : TokenContext} {hashid' : String} {ciphertext : List UInt8} {payload' : TokenDataPayload}
    (h : other.decrypt aead json hashid' (ctx.dataText hashid nonce ciphertext) = .ok payload') :
    ∃ plaintext, buildValidatedAad (other.aadFields hashid') = .ok (buildAad (ctx.aadFields hashid)) ∧
      aead.decrypt other.profile.cipherAlgorithm ciphertext other.dataKey nonce
        (Utf8.encode (buildAad (ctx.aadFields hashid))) = .ok plaintext := by
  rw [TokenContext.decrypt, Loop.bind_unit_eq_ok] at h
  obtain ⟨aad, haad, h⟩ := Loop.bind_eq_ok.mp h.2
  obtain ⟨found, hfound, h⟩ := Loop.bind_eq_ok.mp h
  obtain ⟨envelope, henvelope, h⟩ := Loop.bind_eq_ok.mp h
  obtain rfl := decode_envelopeText henvelope
  rw [Utf8.decode_encode] at h
  obtain ⟨hsame, h⟩ := Loop.guard_eq_ok.mp h
  obtain ⟨plaintext, hplaintext, -⟩ := Loop.bind_eq_ok.mp h
  rw [(symmetricCipher_some (requireCipher_ok_iff.mp hfound)).1] at hplaintext
  rw [TokenContext.aad_eq, ← Decidable.not_not.mp hsame] at haad
  exact ⟨plaintext, haad, hplaintext⟩

/-- The associated data determines the key id, the profile, the hash id and the subject. -/
theorem aadFields_injective {other : TokenContext} {hashid' : String}
    (h : other.aadFields hashid' = ctx.aadFields hashid) :
    other.profile.kid = ctx.profile.kid ∧ other.profile.name = ctx.profile.name ∧ hashid' = hashid ∧
      other.subject = ctx.subject ∧ other.profile.cipherAlgorithm = ctx.profile.cipherAlgorithm := by
  unfold TokenContext.aadFields at h
  cases hother : other.subject with
  | none =>
    cases hctx : ctx.subject with
    | none =>
      simp only [hother, hctx, List.cons.injEq, Prod.mk.injEq] at h
      exact ⟨h.2.2.1.2, h.2.2.2.1.2, h.2.2.2.2.2.1.2, rfl, h.2.2.2.2.2.2.1.2⟩
    | some subject =>
      simp [hother, hctx] at h
  | some subject =>
    cases hctx : ctx.subject with
    | none =>
      simp [hother, hctx] at h
    | some subject' =>
      simp only [hother, hctx, List.cons.injEq, Prod.mk.injEq] at h
      exact ⟨h.2.2.1.2, h.2.2.2.1.2, h.2.2.2.2.2.1.2, congrArg some h.2.2.2.2.2.2.1.2, h.2.2.2.2.2.2.2.1.2⟩

end Encryption

end Vectis.Core.Tokenization

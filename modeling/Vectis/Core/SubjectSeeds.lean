import Vectis.Core.Tokenization.Token

/-!
# Seeds of subjects

The envelope of a seed (`core/subjects.rs`) names the kid, the profile, the subject and the cipher in its associated
data.

- `size_envelope`: it is small enough for every profile;
- `openSeedInner_envelope`: the profile and the subject it was made for open it;
- `openSeedInner_other`: no other kid, name, subject or cipher does;
- `subject_seeds`: both, with the hint, and the ids of subjects.
-/

namespace Vectis.Core.Subjects

open Validation Profiles Crypto Canonical Tokenization Json

/-- `create_hkdf` gives the bytes that were asked for. -/
def HkdfTotal (hkdf : Hkdf) : Prop := ∀ inputKey salt info length, inputKey ≠ [] → length ≤ 32 →
  ∃ output, hkdf inputKey salt info length = .ok output ∧ output.length = length

/-- `create_hmac` takes keys of 32 bytes, and under one key different messages have different tags. -/
structure HmacIdeal (hmac : Hmac) : Prop where
  total : ∀ key message, key.length = tokenKeySizeBytes → ∃ tag, hmac key message = .ok tag
  injective : ∀ key message message' tag, hmac key message = .ok tag → hmac key message' = .ok tag → message = message'

/-! ## Associated data -/

def seedFields (profile : TokenizationProfile) (subject : String) : AadFields :=
  [("version", "v1"), ("type", "subject-seed"), ("kid", profile.kid), ("profile", profile.name), ("subject", subject),
    ("cipher", profile.cipherAlgorithm)]

theorem aadOk_seedFields {profile : TokenizationProfile} (hok : ProfileOk profile) {subject : String}
    (hsubject : validateSubject subject = .ok ()) : ∀ field ∈ seedFields profile subject, AadOk field := by
  have hname : AadOk ("profile", profile.name) := aadOk_name (by decide) hok.name
  have hkid : AadOk ("kid", profile.kid) := aadOk_kid (by decide) hok.kid
  have htype : AadOk ("type", "subject-seed") := aadOk_of_validate (by rfl)
  obtain ⟨cipher, hcipher, -⟩ := hok.cipher
  simp [seedFields, hname, hkid, htype, aadOk_fixed, aadOk_cipher hcipher, aadOk_subject hsubject]

theorem seedAad_ok {profile : TokenizationProfile} (hok : ProfileOk profile) {subject : String}
    (hsubject : validateSubject subject = .ok ()) :
    seedAad profile subject = .ok (buildAad (seedFields profile subject)) := by
  rw [seedAad, hsubject]
  exact buildAad_ok (aadOk_seedFields hok hsubject)

theorem size_seedAad {profile : TokenizationProfile} (hok : ProfileOk profile) {subject : String}
    (hsubject : validateSubject subject = .ok ()) : (buildAad (seedFields profile subject)).utf8ByteSize ≤ 800 := by
  have hname := utf8ByteSize_le (validateBoundedTextField_ok_iff.mp (validateAadConfigName_ok_iff.mp hok.name).1).2
  have hkid := (validateInternalHash_ok_iff.mp hok.kid).1
  obtain ⟨cipher, hcipher, -⟩ := hok.cipher
  have halgorithm := utf8ByteSize_algorithm hcipher
  have hsize := (validateSubject_ok hsubject).1
  have hfixed : fieldBytes ("version", "v1") ≤ 16 ∧ fieldBytes ("type", "subject-seed") ≤ 24 := by decide
  have hkeys : "kid".utf8ByteSize ≤ 8 ∧ "profile".utf8ByteSize ≤ 8 ∧ "subject".utf8ByteSize ≤ 8 ∧
      "cipher".utf8ByteSize ≤ 8 := by decide
  simp only [configNameMaxChars, fieldBytes] at hname hfixed
  refine Nat.le_trans (utf8ByteSize_buildAad _) ?_
  simp only [seedFields, List.map_cons, List.map_nil, List.sum_cons, List.sum_nil, fieldBytes]
  omega

theorem seedAad_notBlank {profile : TokenizationProfile} (hok : ProfileOk profile) {subject : String}
    (hsubject : validateSubject subject = .ok ()) :
    (buildAad (seedFields profile subject)).toList.all isWhitespace = false :=
  (validateTextField_ok_iff.mp (validateTextField_buildAad (aadOk_seedFields hok hsubject) "")).1

theorem seedAad_ne_nil {profile : TokenizationProfile} (hok : ProfileOk profile) {subject : String}
    (hsubject : validateSubject subject = .ok ()) : Utf8.encode (buildAad (seedFields profile subject)) ≠ [] := by
  intro hnil
  have hblank := seedAad_notBlank hok hsubject
  rw [Utf8.encode_injective (hnil.trans (show [] = Utf8.encode "" from rfl))] at hblank
  cases hblank

/-- The associated data determines the kid, the name, the subject and the cipher. -/
theorem seedAad_injective {profile other : TokenizationProfile} {subject subject' aad : String}
    (h : seedAad profile subject = .ok aad) (h' : seedAad other subject' = .ok aad) :
    other.name = profile.name ∧ other.kid = profile.kid ∧ other.cipherAlgorithm = profile.cipherAlgorithm ∧
      subject' = subject := by
  obtain ⟨-, hbuild⟩ := Loop.bind_unit_eq_ok.mp h
  obtain ⟨-, hbuild'⟩ := Loop.bind_unit_eq_ok.mp h'
  have hfields := buildValidatedAad_injective hbuild' hbuild
  simp only [List.cons.injEq, Prod.mk.injEq, true_and, and_true] at hfields
  exact ⟨hfields.2.1, hfields.1, hfields.2.2.2, hfields.2.2.1⟩

/-! ## Payloads -/

section Payloads

variable (serde : SerdeJson)

/-- The text that is encrypted. -/
def seedText (seed : List UInt8) : String := serde.toText (seedPayloadCodec.toValue (Hex.encode seed))

theorem seedPayload_plain (text : String) : (seedPayloadCodec.toValue text).plain = true := by
  simp [seedPayloadCodec, Value.plain, plainEntries, plainEntry]

theorem seedPayload_depth (text : String) : (seedPayloadCodec.toValue text).depth < recursionLimit := by
  simp [seedPayloadCodec, Value.depth, depthEntries, depthEntry, recursionLimit]

theorem size_seedText {seed : List UInt8} (hseed : seed.length = subjectSeedBytes) :
    (Utf8.encode (seedText serde seed)).length ≤ 400 := by
  have hhex : bytes (Value.string (Hex.encode seed)).render ≤ 4 * (2 * seed.length) + 2 :=
    bytes_hex ⟨utf8ByteSize_hexEncode seed, List.all_eq_true.mpr fun c hc => hexdigit_encode hc⟩
  have hentry := entryBytes_le (show shortKey "seed" = true by rfl) hhex
  have hobject := bytes_object [("seed", .string (Hex.encode seed))]
  rw [Utf8.length_encode, seedText, serde.toText_plain _ (seedPayload_plain _), Utf8.utf8ByteSize_ofList]
  simp only [List.map_cons, List.map_nil, List.sum_cons, List.sum_nil] at hobject
  rw [hseed, subjectSeedBytes] at hentry
  exact Nat.le_trans hobject (by omega)

/-- The seed is read back. -/
theorem readSeedPayload_seedText (seed : List UInt8) :
    readSeedPayload serde (Utf8.encode (seedText serde seed)) = .ok (Hex.encode seed) := by
  have hread := serde.fromStrAs_toText seedPayloadCodec (Hex.encode seed) (seedPayload_plain _) rfl
    (seedPayload_depth _)
  simp only [readSeedPayload, Utf8.decode_encode, Option.bind_some, seedText, hread]

end Payloads

theorem validateSymmetricKey_encode {field : String} {bytes : List UInt8} (h : bytes ≠ []) :
    validateSymmetricKey field (Hex.encode bytes) bytes.length = .ok () :=
  validateSymmetricKey_ok_iff.mpr ⟨validateHexField_encode h, by rw [utf8ByteSize_hexEncode, Nat.mul_comm]⟩

/-! ## Keys -/

theorem keySize_le {algorithm : String} {cipher : SymmetricCipherSpec} (h : symmetricCipher algorithm = some cipher) :
    0 < cipher.keySizeBytes ∧ cipher.keySizeBytes ≤ 32 := by
  unfold symmetricCipher at h
  split at h <;> cases h <;> decide

theorem nonceSize {algorithm : String} {cipher : SymmetricCipherSpec} (h : symmetricCipher algorithm = some cipher) :
    cipher.nonceSizeBytes = 12 ∨ cipher.nonceSizeBytes = 24 := by
  unfold symmetricCipher at h
  split at h <;> cases h <;> decide

theorem keyInfo_ok {profile : TokenizationProfile} (hok : ProfileOk profile) {purpose : String}
    (hpurpose : AadOk ("purpose", purpose)) : ∃ info, keyInfo profile purpose = .ok info := by
  have hname : AadOk ("profile", profile.name) := aadOk_name (by decide) hok.name
  have hkid : AadOk ("kid", profile.kid) := aadOk_kid (by decide) hok.kid
  exact ⟨_, buildAad_ok (by simp [hname, hkid, hpurpose, aadOk_fixed])⟩

theorem wrappingKey_ok {hkdf : Hkdf} (hhkdf : HkdfTotal hkdf) {profile : TokenizationProfile} (hok : ProfileOk profile)
    {cipher : SymmetricCipherSpec} (hcipher : symmetricCipher profile.cipherAlgorithm = some cipher) :
    ∃ key, wrappingKey hkdf profile = .ok key ∧ key.length = cipher.keySizeBytes := by
  obtain ⟨info, hinfo⟩ := @keyInfo_ok profile hok "subject-wrap"
    (aadOk_of_validate (by rfl))
  obtain ⟨found, hfound, hlength⟩ := hok.cipher
  rw [hcipher] at hfound
  cases hfound
  have hdata : profile.dataKey ≠ [] := List.ne_nil_of_length_pos (hlength ▸ (keySize_le hcipher).1)
  obtain ⟨key, hkey, hsize⟩ := hhkdf profile.dataKey wrapSalt (bytesOf info) cipher.keySizeBytes hdata
    (keySize_le hcipher).2
  refine ⟨key, ?_, hsize⟩
  simp only [wrappingKey, requireCipher_ok_iff.mpr hcipher, hinfo, hkey, bind, Except.bind]

/-! ## Envelopes -/

section Envelopes

variable {hkdf : Hkdf} {aead : Aead} {serde : SerdeJson} {profile : TokenizationProfile} {subject : String}
  {ciphertext nonce : List UInt8} {cipher : SymmetricCipherSpec}

/-- The envelope of a ciphertext. -/
def seedEnvelope (profile : TokenizationProfile) (subject : String) (ciphertext nonce : List UInt8) : String :=
  envelopeText ciphertext nonce (Utf8.encode (buildAad (seedFields profile subject)))

/-- An envelope is small enough for every profile. -/
theorem size_envelope (hok : ProfileOk profile) (hsubject : validateSubject subject = .ok ())
    (hciphertext : ciphertext.length ≤ 416) (hnonce : nonce.length ≤ 24) :
    (seedEnvelope profile subject ciphertext nonce).utf8ByteSize ≤ subjectSeedEnvelopeMaxChars := by
  have haad := size_seedAad hok hsubject
  rw [seedEnvelope, utf8ByteSize_envelopeText, Utf8.length_encode, subjectSeedEnvelopeMaxChars]
  omega

theorem validateSeedEnvelope_envelope (hok : ProfileOk profile) (hsubject : validateSubject subject = .ok ())
    (htag : 16 ≤ ciphertext.length) (hciphertext : ciphertext.length ≤ 416) (hnonce : nonce.length = 12 ∨
      nonce.length = 24) :
    validateSeedEnvelope (seedEnvelope profile subject ciphertext nonce) = .ok () := by
  have hsize := @size_envelope profile subject ciphertext nonce hok hsubject hciphertext (by omega)
  have hsplit := @splitBase64StandardEnvelopeSegments_envelope "subjects.seed" ciphertext nonce _
    subjectSeedEnvelopeMaxChars (List.ne_nil_of_length_pos (by omega)) (List.ne_nil_of_length_pos (by omega))
      (seedAad_ne_nil hok hsubject) hsize
  have hascii : (seedEnvelope profile subject ciphertext nonce).toList.all isAscii = true :=
    List.all_eq_true.mpr fun c hc => (envelopeText_chars hc).1
  unfold validateSeedEnvelope validateBase64StandardEnvelopeSegments
  rw [hascii, seedEnvelope, hsplit]
  simp only [Bool.not_true, Bool.false_eq_true, if_false, bind, Except.bind, List.all_cons, List.all_nil,
    standardDecode_standardEncode, Option.isSome_some, Bool.and_self, if_true, decodeSegment_standardEncode]
  rw [if_neg]
  simp only [Bool.or_eq_true, decide_eq_true_eq, Bool.not_eq_true', decide_eq_false_iff_not, not_or,
    Bool.or_eq_false_iff]
  omega

/-- The hint is the name of the profile. -/
theorem seedProfileHint_envelope (hok : ProfileOk profile) (hsubject : validateSubject subject = .ok ())
    (hvalid : validateSeedEnvelope (seedEnvelope profile subject ciphertext nonce) = .ok ()) :
    seedProfileHint (seedEnvelope profile subject ciphertext nonce) = .ok profile.name := by
  have hparse := @parseAadFields_build (seedFields profile subject) _ (by simp [seedFields])
    (buildAad_ok (aadOk_seedFields hok hsubject))
  have hname : validateAadConfigName "subject profile" profile.name = .ok () :=
    validateAadConfigName_ok_iff.mpr ((validateAadConfigName_ok_iff.mp hok.name).imp_left fun h =>
      validateBoundedTextField_ok_iff.mpr (validateBoundedTextField_ok_iff.mp h))
  have hfilter : (seedFields profile subject).filter (fun field => field.1 = "profile") =
      [("profile", profile.name)] := by
    simp [seedFields]
  refine Loop.mapError_eq_ok.mpr ?_
  unfold profileHint
  rw [hvalid, seedEnvelope, splitDots_envelopeText]
  simp only [bind, Except.bind, List.getElem?_cons_succ, List.getElem?_cons_zero, String.ofList_toList,
    decodeSegment_standardEncode, Utf8.decode_encode, hparse, hfilter, hname]

/-- The profile and the subject of an envelope open it. -/
theorem openSeedInner_envelope (hok : ProfileOk profile) (hsubject : validateSubject subject = .ok ())
    (hcipher : symmetricCipher profile.cipherAlgorithm = some cipher) {key seed : List UInt8}
    (hkey : wrappingKey hkdf profile = .ok key) (hseed : seed.length = subjectSeedBytes)
    (hnonce : nonce.length = cipher.nonceSizeBytes) (htag : 16 ≤ ciphertext.length)
    (hciphertext : ciphertext.length ≤ 416)
    (hopen : aead.decrypt profile.cipherAlgorithm ciphertext key nonce
      (Utf8.encode (buildAad (seedFields profile subject))) = .ok (Utf8.encode (seedText serde seed))) :
    openSeedInner hkdf aead serde profile subject (seedEnvelope profile subject ciphertext nonce) = .ok seed := by
  have hsizes := nonceSize hcipher
  have hvalid := @validateSeedEnvelope_envelope profile subject ciphertext nonce hok hsubject htag hciphertext
    (by omega)
  have hdecode : decodeBase64StandardEnvelope "subjects.seed" (seedEnvelope profile subject ciphertext nonce)
      subjectSeedEnvelopeMaxChars cipher.nonceSizeBytes = .ok ⟨ciphertext, nonce, _⟩ :=
    decodeBase64StandardEnvelope_envelope htag hnonce (cipher_sizes hcipher).1 (seedAad_notBlank hok hsubject)
      (size_envelope hok hsubject hciphertext (by omega))
  have hsymmetric : validateSymmetricKey "seed" (Hex.encode seed) subjectSeedBytes = .ok () :=
    hseed ▸ validateSymmetricKey_encode (List.ne_nil_of_length_pos (by rw [hseed]; decide))
  unfold openSeedInner
  simp only [hvalid, requireCipher_ok_iff.mpr hcipher, hdecode, seedAad_ok hok hsubject, bytesOf, ne_eq,
    not_true_eq_false, if_false, hkey, (symmetricCipher_some hcipher).1, hopen, readSeedPayload_seedText, hsymmetric,
    hexDecode,
    Hex.decode_encode, bind, Except.bind]

/-- No other kid, name, subject or cipher opens it. -/
theorem openSeedInner_other {other : TokenizationProfile} {subject' : String} {seed : List UInt8}
    (hok : ProfileOk profile) (hsubject : validateSubject subject = .ok ())
    (h : openSeedInner hkdf aead serde other subject' (seedEnvelope profile subject ciphertext nonce) = .ok seed) :
    other.name = profile.name ∧ other.kid = profile.kid ∧ other.cipherAlgorithm = profile.cipherAlgorithm ∧
      subject' = subject := by
  rw [openSeedInner, Loop.bind_unit_eq_ok] at h
  obtain ⟨found, -, h⟩ := Loop.bind_eq_ok.mp h.2
  obtain ⟨decoded, hdecoded, h⟩ := Loop.bind_eq_ok.mp h
  obtain ⟨aad, haad, h⟩ := Loop.bind_eq_ok.mp h
  obtain ⟨hsame, -⟩ := Loop.guard_eq_ok.mp h
  obtain rfl := decode_envelopeText hdecoded
  have htext := Utf8.encode_injective (Decidable.not_not.mp hsame)
  exact seedAad_injective (seedAad_ok hok hsubject) (htext ▸ haad)

/-- The envelope of a seed holds what the cipher made of it. -/
theorem createSeed_of (hok : ProfileOk profile) (hsubject : validateSubject subject = .ok ())
    (hcipher : symmetricCipher profile.cipherAlgorithm = some cipher) {key seed : List UInt8}
    (hkey : wrappingKey hkdf profile = .ok key) (hnonce : nonce.length = cipher.nonceSizeBytes)
    (htag : 16 ≤ ciphertext.length) (hciphertext : ciphertext.length ≤ 416)
    (hencrypt : aead.encrypt profile.cipherAlgorithm (Utf8.encode (seedText serde seed)) key nonce
      (Utf8.encode (buildAad (seedFields profile subject))) = .ok ciphertext) :
    createSeed hkdf aead serde profile subject (.ok seed) (.ok nonce) =
      .ok (seedEnvelope profile subject ciphertext nonce) := by
  have hsizes := nonceSize hcipher
  have hvalid := @validateSeedEnvelope_envelope profile subject ciphertext nonce hok hsubject htag hciphertext
    (by omega)
  unfold seedEnvelope at hvalid
  unfold seedText at hencrypt
  simp only [createSeed, seedAad_ok hok hsubject, requireCipher_ok_iff.mpr hcipher, hkey,
    (symmetricCipher_some hcipher).1, bytesOf, hencrypt, hvalid, seedEnvelope, bind, Except.bind]

/-- A seed has an envelope. -/
theorem createSeed_ok (hhkdf : HkdfTotal hkdf) (htotal : aead.Total) (hok : ProfileOk profile)
    (hsubject : validateSubject subject = .ok ()) (hcipher : symmetricCipher profile.cipherAlgorithm = some cipher)
    {seed : List UInt8} (hseed : seed.length = subjectSeedBytes) (hnonce : nonce.length = cipher.nonceSizeBytes) :
    ∃ key ciphertext, wrappingKey hkdf profile = .ok key ∧ 16 ≤ ciphertext.length ∧ ciphertext.length ≤ 416 ∧
      aead.encrypt profile.cipherAlgorithm (Utf8.encode (seedText serde seed)) key nonce
        (Utf8.encode (buildAad (seedFields profile subject))) = .ok ciphertext ∧
      createSeed hkdf aead serde profile subject (.ok seed) (.ok nonce) =
        .ok (seedEnvelope profile subject ciphertext nonce) := by
  obtain ⟨key, hkey, hlength⟩ := wrappingKey_ok hhkdf hok hcipher
  obtain ⟨ciphertext, hencrypt, hciphertext⟩ :=
    htotal profile.cipherAlgorithm cipher (Utf8.encode (seedText serde seed)) key nonce
      (Utf8.encode (buildAad (seedFields profile subject))) hcipher hlength hnonce
  have hsize := size_seedText serde hseed
  rw [tagSizeBytes] at hciphertext
  exact ⟨key, ciphertext, hkey, by omega, by omega, hencrypt,
    createSeed_of hok hsubject hcipher hkey hnonce (by omega) (by omega) hencrypt⟩

end Envelopes

/-! ## Ids -/

theorem validateSubjectName_ok {name : String} (h : validateSubjectName name = .ok ()) :
    AadOk ("subject_name", name) := by
  rw [validateSubjectName, Loop.bind_unit_eq_ok, Loop.guard_eq_ok] at h
  obtain ⟨htext, hdelimiters, -⟩ := h
  refine aadOk_of (show validateAadKey "" "subject_name" = .ok () by rfl) (m := "")
    (validateAadValue_ok_iff.mpr ⟨(validateBoundedTextField_ok_iff.mp htext).1, ?_⟩)
  simpa using hdelimiters

def lookupFields (profile : TokenizationProfile) (name : String) : AadFields :=
  [("purpose", "subject-lookup"), ("kid", profile.kid), ("profile", profile.name), ("subject_name", name),
    ("version", "v1")]

theorem aadOk_lookupFields {profile : TokenizationProfile} (hok : ProfileOk profile) {name : String}
    (h : validateSubjectName name = .ok ()) : ∀ field ∈ lookupFields profile name, AadOk field := by
  have hname : AadOk ("profile", profile.name) := aadOk_name (by decide) hok.name
  have hkid : AadOk ("kid", profile.kid) := aadOk_kid (by decide) hok.kid
  have hpurpose : AadOk ("purpose", "subject-lookup") := aadOk_of_validate (by rfl)
  simp [lookupFields, hname, hkid, hpurpose, aadOk_fixed, validateSubjectName_ok h]

/-- The id of a name is the tag of its fields. -/
theorem subjectId_ok {hmac : Hmac} (hhmac : HmacIdeal hmac) {profile : TokenizationProfile} (hok : ProfileOk profile)
    {name : String} (h : validateSubjectName name = .ok ()) :
    ∃ tag, hmac profile.hashKey (bytesOf (buildAad (lookupFields profile name))) = .ok tag ∧
      subjectId hmac profile name = .ok (Hex.encode tag) := by
  have hbuild := buildAad_ok (aadOk_lookupFields hok h)
  obtain ⟨tag, htag⟩ := hhmac.total profile.hashKey (bytesOf (buildAad (lookupFields profile name))) hok.hashKey
  refine ⟨tag, htag, ?_⟩
  unfold lookupFields at hbuild htag
  simp only [subjectId, h, hbuild, htag, bind, Except.bind]

/-- Names of one id are equal. -/
theorem subjectId_injective {hmac : Hmac} (hhmac : HmacIdeal hmac) {profile : TokenizationProfile}
    (hok : ProfileOk profile) {name name' : String} (h : validateSubjectName name = .ok ())
    (h' : validateSubjectName name' = .ok ())
    (hsame : subjectId hmac profile name = subjectId hmac profile name') : name = name' := by
  obtain ⟨tag, htag, hid⟩ := subjectId_ok hhmac hok h
  obtain ⟨tag', htag', hid'⟩ := subjectId_ok hhmac hok h'
  rw [hid, hid'] at hsame
  have htags : tag = tag' := Hex.encode_injective (Except.ok.inj hsame)
  have hmessage := hhmac.injective _ _ _ _ htag (htags ▸ htag')
  have hfields := buildValidatedAad_injective (buildAad_ok (aadOk_lookupFields hok h))
    (Utf8.encode_injective hmessage ▸ buildAad_ok (aadOk_lookupFields hok h'))
  simp only [lookupFields, List.cons.injEq, Prod.mk.injEq, true_and, and_true] at hfields
  exact hfields

/-! ## Where seeds are opened -/

/-- A seed of an accepted profile has an envelope, which names the profile. The profile opens it for the subject it was
made for, and no other kid, name, cipher or subject does. Names of subjects have different ids. -/
theorem subject_seeds {hkdf : Hkdf} {hmac : Hmac} {aead : Aead} (serde : SerdeJson) {hooks : TokenizationHooks}
    {inputs : List TokenizationProfileInput} {state : ProfilesState TokenizationProfile}
    (hstate : validateTokenizationProfiles hooks inputs = .ok state) (hhkdf : HkdfTotal hkdf) (hhmac : HmacIdeal hmac)
    (htotal : aead.Total) (hopens : aead.Opens) {profile : TokenizationProfile} (hmem : profile ∈ state.profiles) :
    (∃ cipher, symmetricCipher profile.cipherAlgorithm = some cipher ∧ ∀ subject seed nonce,
      validateSubject subject = .ok () → seed.length = subjectSeedBytes → nonce.length = cipher.nonceSizeBytes →
      ∃ envelope, createSeed hkdf aead serde profile subject (.ok seed) (.ok nonce) = .ok envelope ∧
        validateSeedEnvelope envelope = .ok () ∧ envelope.utf8ByteSize ≤ subjectSeedEnvelopeMaxChars ∧
        seedProfileHint envelope = .ok profile.name ∧
        openAuthenticatedSeed hkdf aead serde profile subject envelope = .ok seed ∧
        ∀ (other : TokenizationProfile) (subject' : String), other.name ≠ profile.name ∨ other.kid ≠ profile.kid ∨
            other.cipherAlgorithm ≠ profile.cipherAlgorithm ∨ subject' ≠ subject →
          openAuthenticatedSeed hkdf aead serde other subject' envelope =
            .error (.internal "stored subject seed is invalid")) ∧
    ∀ name name', validateSubjectName name = .ok () → validateSubjectName name' = .ok () →
      (∃ id, subjectId hmac profile name = .ok id) ∧
      (subjectId hmac profile name = subjectId hmac profile name' → name = name') := by
  have hok := (mem_of_validate hstate hmem).1
  obtain ⟨cipher, hcipher, -⟩ := hok.cipher
  refine ⟨⟨cipher, hcipher, ?_⟩, ?_⟩
  · intro subject seed nonce hsubject hseed hnonce
    obtain ⟨key, ciphertext, hkey, htag, hsize, hencrypt, hcreate⟩ :=
      @createSeed_ok hkdf aead serde profile subject nonce cipher hhkdf htotal hok hsubject hcipher seed hseed hnonce
    have hsizes := nonceSize hcipher
    have hvalid := @validateSeedEnvelope_envelope profile subject ciphertext nonce hok hsubject htag hsize (by omega)
    refine ⟨_, hcreate, hvalid, size_envelope hok hsubject hsize (by omega),
      seedProfileHint_envelope hok hsubject hvalid, ?_, ?_⟩
    · have hopen := hopens _ _ _ _ _ _ hencrypt
      exact Loop.mapError_eq_ok.mpr (openSeedInner_envelope hok hsubject hcipher hkey hseed hnonce htag hsize hopen)
    · intro other subject' hne
      unfold openAuthenticatedSeed
      cases hopen : openSeedInner hkdf aead serde other subject' (seedEnvelope profile subject ciphertext nonce) with
      | error err => rfl
      | ok found =>
        obtain ⟨hname, hkid, halgorithm, hsame⟩ := openSeedInner_other hok hsubject hopen
        exact absurd hne (by simp [hname, hkid, halgorithm, hsame])
  · intro name name' h h'
    obtain ⟨tag, -, hid⟩ := subjectId_ok hhmac hok h
    exact ⟨⟨_, hid⟩, subjectId_injective hhmac hok h h'⟩

/-! ## An example -/

def seedExampleHooks : TokenizationHooks where
  isLoadedKid _ := true
  deriveKeys _ := .ok ⟨List.replicate 32 1, List.replicate 16 2, "AES-128/GCM"⟩

def seedExampleKid : String := "aaaaaaaaaaaaaaaaaaaaaaaaaaaaaaaaaaaaaaaaaaaaaaaaaaaaaaaaaaaaaaaa"

def seedExampleInput : TokenizationProfileInput := ⟨"cards", seedExampleKid, "tok", 32, 64, false, .stored⟩

def seedExampleProfile : TokenizationProfile :=
  ⟨"cards", seedExampleKid, "tok", 32, 64, false, .stored, "AES-128/GCM", List.replicate 32 1, List.replicate 16 2⟩

/-- The tag is 16 bytes, which are checked. -/
def seedExampleAead : Aead where
  encrypt _ plaintext _ _ _ := .ok (plaintext ++ List.replicate tagSizeBytes 0)
  decrypt _ ciphertext _ _ _ :=
    let size := ciphertext.length - tagSizeBytes
    if ciphertext.drop size = List.replicate tagSizeBytes 0 then .ok (ciphertext.take size)
    else .error (.other "tag mismatch")

theorem seedExampleAead_total : seedExampleAead.Total := fun _ _ plaintext _ _ _ _ _ _ =>
  ⟨_, rfl, by rw [List.length_append, List.length_replicate]⟩

theorem seedExampleAead_opens : seedExampleAead.Opens := by
  intro algorithm plaintext key nonce aad ciphertext h
  cases h
  simp [seedExampleAead]

theorem seedExampleProfiles : ∃ state, validateTokenizationProfiles seedExampleHooks [seedExampleInput] = .ok state ∧
    seedExampleProfile ∈ state.profiles :=
  ⟨.fromProfiles TokenizationProfile.name [seedExampleProfile], by rfl, List.mem_singleton.mpr rfl⟩

theorem seedExampleProfile_ok : ProfileOk seedExampleProfile := by
  obtain ⟨state, hstate, hmem⟩ := seedExampleProfiles
  exact (mem_of_validate hstate hmem).1

theorem seedExampleSubject_ok : validateSubject seedExampleKid = .ok () := by rfl

def seedExampleHkdf : Hkdf := fun _ _ _ length => .ok (List.replicate length 0)

theorem seedExampleHkdf_total : HkdfTotal seedExampleHkdf := fun _ _ _ _ _ _ => ⟨_, rfl, List.length_replicate⟩

def seedExampleHmac : Hmac := fun key message => .ok (key ++ message)

theorem seedExampleHmac_ideal : HmacIdeal seedExampleHmac where
  total _ _ _ := ⟨_, rfl⟩
  injective _ _ _ _ h h' := List.append_cancel_left (Except.ok.inj (h.trans h'.symm))

theorem subject_seeds_example : ∃ envelope,
    seedProfileHint envelope = .ok "cards" ∧
    openAuthenticatedSeed seedExampleHkdf seedExampleAead .compact seedExampleProfile seedExampleKid envelope =
      .ok (List.replicate 32 3) ∧
    openAuthenticatedSeed seedExampleHkdf seedExampleAead .compact seedExampleProfile "b" envelope =
      .error (.internal "stored subject seed is invalid") := by
  obtain ⟨state, hstate, hmem⟩ := seedExampleProfiles
  obtain ⟨⟨cipher, hcipher, hseeds⟩, -⟩ := subject_seeds .compact hstate seedExampleHkdf_total seedExampleHmac_ideal
    seedExampleAead_total seedExampleAead_opens hmem
  cases hcipher
  obtain ⟨envelope, -, -, -, hhint, hopen, hother⟩ := hseeds seedExampleKid (List.replicate 32 3) (List.replicate 12 4)
    seedExampleSubject_ok rfl rfl
  exact ⟨envelope, hhint, hopen, hother _ _ (.inr (.inr (.inr (by decide))))⟩

end Vectis.Core.Subjects

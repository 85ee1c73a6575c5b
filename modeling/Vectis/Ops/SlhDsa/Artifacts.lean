import Vectis.Core.Tokenization.Token
import Vectis.Ops.Message.Delivery
import Vectis.Ops.Message.Transport
import Vectis.Ops.SlhDsa.Files

/-!
# Signed artifacts

Over a scheme that verifies only what was signed, and a cipher that opens only what was sealed:

- `create_sign_verify`: a created key signs artifacts, and its public file verifies them;
- `artifact_signature_binds`: what verifies was signed with the same key for the same content, in the same spelling;
- `private_file_genuine`: a private file that loads was created under the same root key, in every field;
- `slh_dsa_keys_bind`: all of it, for the keys that were created under one root key.
-/

namespace Vectis.Ops.SlhDsa

open Core.AuditChain Core.Canonical Core.Crypto Core.Profiles Core.Validation Contracts Json Keys Sign
open Core.Tokenization (fieldBytes utf8ByteSize_buildAad utf8ByteSize_le)

variable {lib : SlhLibrary}

/-! ## Texts of signatures -/

theorem base64_ne_nil {base64 : Base64Url} {bytes : List UInt8} (h : bytes ≠ []) :
    (base64.encode bytes).toList ≠ [] := by
  intro hempty
  have htext : base64.encode bytes = base64.encode [] := by
    rw [base64.encode_nil]
    exact String.toList_injective hempty
  exact h (base64_injective htext)

/-- Three segments joined by dots. -/
def joined (base64 : Base64Url) (header payload signature : List UInt8) : String :=
  base64.encode header ++ "." ++ base64.encode payload ++ "." ++ base64.encode signature

theorem joined_list (base64 : Base64Url) (header payload signature : List UInt8) :
    (joined base64 header payload signature).toList = (base64.encode header).toList ++ '.' ::
      ((base64.encode payload).toList ++ '.' :: (base64.encode signature).toList) := by
  simp [joined]

theorem joined_safe {base64 : Base64Url} {header payload signature : List UInt8} :
    ∀ c ∈ (joined base64 header payload signature).toList, isAscii c = true ∧ isWhitespace c = false ∧
    isControl c = false := by
  have hchar : ∀ bytes, ∀ c ∈ (base64.encode bytes).toList, isAscii c = true ∧ isWhitespace c = false ∧
      isControl c = false := by
    intro bytes c hc
    have hsafe := base64UrlChar_safe (List.all_eq_true.mp (base64.alphabet bytes) c hc)
    exact ⟨hsafe.1, hsafe.2.1, hsafe.2.2.1⟩
  have hdot : isAscii '.' = true ∧ isWhitespace '.' = false ∧ isControl '.' = false := by decide
  intro c hc
  rw [joined_list] at hc
  rcases List.mem_append.mp hc with hc | hc
  · exact hchar _ c hc
  rcases List.mem_cons.mp hc with rfl | hc
  · exact hdot
  rcases List.mem_append.mp hc with hc | hc
  · exact hchar _ c hc
  rcases List.mem_cons.mp hc with rfl | hc
  · exact hdot
  · exact hchar _ c hc

theorem splitDots_joined (base64 : Base64Url) (header payload signature : List UInt8) :
    splitDots (joined base64 header payload signature) =
      [(base64.encode header).toList, (base64.encode payload).toList, (base64.encode signature).toList] := by
  rw [splitDots, joined_list, List.splitOn_append_cons_self_of_not_mem (dot_not_mem base64 header),
    List.splitOn_append_cons_self_of_not_mem (dot_not_mem base64 payload),
    List.splitOn_eq_singleton (dot_not_mem base64 signature)]

theorem decodeSegment_encode (bytes : List UInt8) : decodeSegment lib (lib.base64.encode bytes).toList = .ok bytes := by
  rw [decodeSegment, String.ofList_toList, lib.base64.decode_encode]

/-- Three segments joined by dots are split into the three segments. -/
theorem splitCompactSignature_joined {header payload signature : List UInt8} (hheader : header ≠ [])
    (hpayload : payload ≠ []) (hsignature : signature ≠ [])
    (hsize : (joined lib.base64 header payload signature).utf8ByteSize ≤ slhDsaSignatureFileMaxSizeBytes) :
    splitCompactSignature lib (joined lib.base64 header payload signature) =
      .ok ⟨lib.base64.encode header, lib.base64.encode payload, header, payload, signature⟩ := by
  have hne : (joined lib.base64 header payload signature).isEmpty = false := by
    rw [Bool.eq_false_iff]
    intro hempty
    have hlist := joined_list lib.base64 header payload signature
    rw [String.isEmpty_iff.mp hempty] at hlist
    simp at hlist
  have hascii : (joined lib.base64 header payload signature).toList.all isAscii = true :=
    List.all_eq_true.mpr fun c hc => (joined_safe c hc).1
  have hspace : (joined lib.base64 header payload signature).toList.any isWhitespace = false :=
    List.any_eq_false.mpr fun c hc => by simp [(joined_safe c hc).2.1]
  have hcontrol : (joined lib.base64 header payload signature).toList.any isControl = false :=
    List.any_eq_false.mpr fun c hc => by simp [(joined_safe c hc).2.2]
  unfold splitCompactSignature
  rw [hne, hascii, hspace, hcontrol, if_neg (by simpa using hsize), splitDots_joined]
  simp [splitSegments, base64_ne_nil hheader, base64_ne_nil hpayload, base64_ne_nil hsignature, decodeSegment_encode,
    bind, Except.bind]

theorem decodeSegment_ok {segment : List Char} {bytes : List UInt8} (h : decodeSegment lib segment = .ok bytes) :
    lib.base64.decode (String.ofList segment) = some bytes := by
  unfold decodeSegment at h
  split at h
  · rename_i hdecode
    rw [hdecode, Except.ok.inj h]
  · cases h

/-- A text that is split begins with its first two segments. -/
theorem splitCompactSignature_ok {text : String} {parts : CompactParts}
    (h : splitCompactSignature lib text = .ok parts) :
    (∃ rest, text = parts.header ++ "." ++ parts.payload ++ "." ++ rest) ∧
      lib.base64.decode parts.header = some parts.headerBytes ∧
      lib.base64.decode parts.payload = some parts.payloadBytes := by
  obtain ⟨-, h⟩ := Loop.guard_eq_ok.mp h
  generalize hsplit : splitDots text = segments at h
  unfold splitSegments at h
  split at h
  · rename_i header payload signature
    obtain ⟨-, h⟩ := Loop.guard_eq_ok.mp h
    obtain ⟨headerBytes, hheader, h⟩ := Loop.bind_eq_ok.mp h
    obtain ⟨payloadBytes, hpayload, h⟩ := Loop.bind_eq_ok.mp h
    obtain ⟨signatureBytes, -, h⟩ := Loop.bind_eq_ok.mp h
    cases h
    refine ⟨⟨String.ofList signature, String.toList_injective ?_⟩, decodeSegment_ok hheader, decodeSegment_ok hpayload⟩
    have hjoin : ['.'].intercalate (text.toList.splitOn '.') = text.toList := List.intercalate_splitOn '.'
    rw [splitDots] at hsplit
    rw [hsplit] at hjoin
    simp [← hjoin, List.intercalate]
  · cases h

/-! ## Canonical segments -/

section Segments

variable {T : Type} {codec : Codec T} {t : T}

theorem parseCanonicalSegment_encode (hcanonical : canonicalJsonV1 lib.serde codec t =
    .ok (lib.serde.toText (codec.toValue t))) (hplain : (codec.toValue t).plain = true) (hdepth :
    (codec.toValue t).depth < recursionLimit) :
    parseCanonicalSegment lib codec (Utf8.encode (lib.serde.toText (codec.toValue t))) = .ok t := by
  have hread := lib.serde.fromStrAs_toText codec t hplain (canonicalJsonV1_unreserved hcanonical) hdepth
  simp [parseCanonicalSegment, Utf8.decode_encode, hread, hcanonical, bind, Except.bind]

theorem parseCanonicalSegment_ok {bytes : List UInt8} (h : parseCanonicalSegment lib codec bytes = .ok t) :
    bytes = Utf8.encode (lib.serde.toText (codec.toValue t)) := by
  unfold parseCanonicalSegment at h
  split at h
  · cases h
  · obtain ⟨canonical, hcanonical, h⟩ := Loop.bind_eq_ok.mp h
    obtain ⟨hsame, h⟩ := Loop.guard_eq_ok.mp h
    cases h
    rw [← canonicalJsonV1_ok hcanonical]
    exact (Decidable.not_not.mp hsame).symm

end Segments

theorem header_ne_nil : Utf8.encode (lib.serde.toText ((codecOf signatureHeaderShape).toValue signatureHeader)) ≠
    [] := by
  intro hempty
  have htext : lib.serde.toText ((codecOf signatureHeaderShape).toValue signatureHeader) = "" :=
    Utf8.encode_injective hempty
  rw [lib.serde.toText_plain _ (codecOf_plain _ _)] at htext
  exact render_ne_nil (codecOf_plain _ _) (String.ofList_eq_empty_iff.mp htext)

theorem payload_ne_nil (payload : ArtifactPayload) :
    Utf8.encode (lib.serde.toText ((codecOf artifactPayloadShape).toValue payload)) ≠ [] := by
  intro hempty
  have htext : lib.serde.toText ((codecOf artifactPayloadShape).toValue payload) = "" := Utf8.encode_injective hempty
  rw [lib.serde.toText_plain _ (codecOf_plain _ _)] at htext
  exact render_ne_nil (codecOf_plain _ _) (String.ofList_eq_empty_iff.mp htext)

/-! ## Fields -/

theorem validateHexField_digest {field : String} {digest : List UInt8} (h : digest.length = 32) :
    validateHexField field (Hex.encode digest) = .ok () :=
  validateHexField_encode (List.ne_nil_of_length_pos (by omega))

theorem validateKid_ok {field hex kid : String} (h : keyId lib hex = .ok kid) :
    validateHashHexField field kid internalKeysHash = .ok () := by
  obtain ⟨digest, hdigest, rfl⟩ := keyId_ok_iff.mp h
  refine validateInternalHash_ok_iff.mpr ⟨?_, List.all_eq_true.mpr fun c hc => hexdigit_encode hc⟩
  rw [utf8ByteSize_hexEncode, lib.hashBytes_length _ _ hdigest]

theorem validateArtifactHash_ok {field : String} {digest : List UInt8} (h : digest.length = 64) :
    validateHashHexField field (Hex.encode digest) internalSlhDsaArtifactHash = .ok () := by
  have halg : validateAllowedValue "hash_algorithm" internalSlhDsaArtifactHash hashAlgorithms = .ok () := rfl
  have hsize : hashOutputSizeBytes internalSlhDsaArtifactHash = some 64 := by decide
  unfold validateHashHexField
  rw [halg, validateHexField_encode (List.ne_nil_of_length_pos (by omega)), hsize]
  exact if_neg (by rw [utf8ByteSize_hexEncode]; omega)

theorem validateTextField_seconds (field : String) (seconds : UInt64) :
    validateTextField field (toString seconds.toNat) = .ok () :=
  validateTextField_ok_iff.mpr (validateAadValue_ok_iff.mp (Message.validateAadValue_seconds "" seconds)).1

theorem validateArtifactPayload_ok {kid hash : String} {seconds : UInt64} {digest : List UInt8} (h : digest.length = 64)
    (hhash : hash = Hex.encode digest) :
    validateArtifactPayload (artifactPayload kid (toString seconds.toNat) hash) kid = .ok () := by
  refine Loop.guard_eq_ok.mpr ⟨by simp [artifactPayload], Loop.bind_unit_eq_ok.mpr ⟨validateTextField_seconds _ _, ?_⟩⟩
  rw [hhash]
  exact validateArtifactHash_ok h

theorem validateArtifactPayload_kid {payload : ArtifactPayload} {kid : String}
    (h : validateArtifactPayload payload kid = .ok ()) : payload.kid = kid := by
  obtain ⟨h, -⟩ := Loop.guard_eq_ok.mp h
  by_contra hne
  exact h (by simp [hne])

/-! ## Sizes -/

theorem entryBytes_key {key : String} {value : Value} {n : Nat} (hkey : printable key = true)
    (hvalue : bytes value.render ≤ n) : entryBytes (key, value) ≤ 4 * key.length + n + 4 := by
  have hbytes := bytes_renderString hkey
  simp only [entryBytes]
  omega

theorem bytes_hexText (bytes : List UInt8) : Json.bytes (Value.string (Hex.encode bytes)).render ≤
    8 * bytes.length + 2 := by
  have hhex := bytes_hex ⟨utf8ByteSize_hexEncode bytes, List.all_eq_true.mpr fun c hc => hexdigit_encode hc⟩
  omega

theorem bytes_seconds (seconds : UInt64) : bytes (Value.string (toString seconds.toNat)).render ≤ 82 :=
  bytes_string (printable_repr seconds.toNat) (length_repr_u64 seconds)

theorem bytes_kid {hex kid : String} (h : keyId lib hex = .ok kid) : bytes (Value.string kid).render ≤ 258 := by
  obtain ⟨digest, hdigest, rfl⟩ := keyId_ok_iff.mp h
  have hbytes := bytes_hexText digest
  rw [lib.hashBytes_length _ _ hdigest] at hbytes
  exact hbytes

theorem payload_size {kid : String} (hkid : bytes (Value.string kid).render ≤ 258) (seconds : UInt64)
    {digest : List UInt8} (h : digest.length = 64) :
    (Utf8.encode (lib.serde.toText ((codecOf artifactPayloadShape).toValue
      (artifactPayload kid (toString seconds.toNat) (Hex.encode digest))))).length ≤ 3000 := by
  have hhash := bytes_hexText digest
  rw [h] at hhash
  have halg : bytes (Value.string internalSlhDsaArtifactHash).render ≤ 4 * 10 + 2 := bytes_string (by rfl) (by decide)
  have hinfo : bytes (Value.string signatureInfo).render ≤ 4 * 31 + 2 := bytes_string (by rfl) (by decide)
  have htype : bytes (Value.string artifactType).render ≤ 4 * 15 + 2 := bytes_string (by rfl) (by decide)
  have hversion : bytes (Value.string payloadVersion).render ≤ 4 * 2 + 2 := bytes_string (by rfl) (by decide)
  have hmessage : bytes (Value.object [("alg", .string internalSlhDsaArtifactHash),
      ("hex", .string (Hex.encode digest))]).render ≤ 700 := by
    have h₁ := entryBytes_le (show shortKey "alg" = true by rfl) halg
    have h₂ := entryBytes_le (show shortKey "hex" = true by rfl) hhash
    refine Nat.le_trans (bytes_object _) ?_
    simp only [List.map_cons, List.map_nil, List.sum_cons, List.sum_nil]
    omega
  have h₁ := entryBytes_le (show shortKey "created_at" = true by rfl) (bytes_seconds seconds)
  have h₂ := entryBytes_le (show shortKey "info" = true by rfl) hinfo
  have h₃ := entryBytes_le (show shortKey "kid" = true by rfl) hkid
  have h₄ := entryBytes_le (show shortKey "message_hash" = true by rfl) hmessage
  have h₅ := entryBytes_le (show shortKey "type" = true by rfl) htype
  have h₆ := entryBytes_le (show shortKey "version" = true by rfl) hversion
  rw [Utf8.length_encode, lib.serde.toText_plain _ (codecOf_plain _ _), Utf8.utf8ByteSize_ofList, artifactPayload_value]
  refine Nat.le_trans (bytes_object _) ?_
  simp only [artifactPayload, List.map_cons, List.map_nil, List.sum_cons, List.sum_nil] at h₁ h₂ h₃ h₄ h₅ h₆ ⊢
  omega

theorem header_size : (Utf8.encode (lib.serde.toText ((codecOf signatureHeaderShape).toValue signatureHeader))).length ≤
    400 := by
  have halg : bytes (Value.string internalSlhDsaVariant).render ≤ 4 * 18 + 2 := bytes_string (by rfl) (by decide)
  have hversion : bytes (Value.string signatureVersion).render ≤ 4 * 27 + 2 := bytes_string (by rfl) (by decide)
  have h₁ := entryBytes_le (show shortKey "algorithm" = true by rfl) halg
  have h₂ := entryBytes_le (show shortKey "version" = true by rfl) hversion
  have hvalue : (codecOf signatureHeaderShape).toValue signatureHeader =
      .object [("algorithm", .string internalSlhDsaVariant), ("version", .string signatureVersion)] := rfl
  rw [Utf8.length_encode, lib.serde.toText_plain _ (codecOf_plain _ _), Utf8.utf8ByteSize_ofList, hvalue]
  refine Nat.le_trans (bytes_object _) ?_
  simp only [List.map_cons, List.map_nil, List.sum_cons, List.sum_nil]
  omega

/-! ## Created files -/

/-- A created key is stored in at most a kilobyte and loads again, as the key of the same public key, which verifies
what the loaded key signs. The largest signatures are those of `SLH-DSA-SHAKE-256s`. -/
def DerScheme.Works (scheme : DerScheme) : Prop :=
  ∀ rng privateKey publicKey privateDer publicDer, scheme.createPrivateKey rng = .ok privateKey →
    scheme.publicKey privateKey = .ok publicKey → scheme.privateKeyDer privateKey = .ok privateDer →
    scheme.publicKeyDer publicKey = .ok publicDer →
      privateDer ≠ [] ∧ privateDer.length ≤ 1024 ∧ publicDer ≠ [] ∧ publicDer.length ≤ 1024 ∧
      ∃ loaded loadedPublic verifier, scheme.loadPrivateKeyDer privateDer = .ok loaded ∧
        scheme.publicKey loaded = .ok loadedPublic ∧ scheme.publicKeyDer loadedPublic = .ok publicDer ∧
        scheme.loadPublicKeyDer publicDer = .ok verifier ∧
        ∀ rng message signature, scheme.sign rng loaded message = .ok signature →
          signature ≠ [] ∧ signature.length ≤ 29792 ∧ scheme.verify verifier message signature = .ok true

theorem hexDecode_encode (bytes : List UInt8) : hexDecode (Hex.encode bytes) = .ok bytes := by
  rw [hexDecode, Hex.decode_encode]

theorem PrivateFile.tree_read (file : PrivateFile) :
    lib.serde.fromStrAs (codecOf privateFileShape) (lib.pretty.toTextPretty file.tree) = some file :=
  lib.pretty.fromStrAs_pretty _ file file.tree
    (by simp [PrivateFile.tree, Value.integral, integralEntries, integralEntry]) rfl
      (by simp [PrivateFile.tree, Value.depth, depthEntries, depthEntry, recursionLimit]) file.normalize_tree

theorem PublicFile.tree_read (file : PublicFile) :
    lib.serde.fromStrAs (codecOf publicFileShape) (lib.pretty.toTextPretty file.tree) = some file :=
  lib.pretty.fromStrAs_pretty _ file file.tree
    (by simp [PublicFile.tree, Value.integral, integralEntries, integralEntry]) rfl
      (by simp [PublicFile.tree, Value.depth, depthEntries, depthEntry, recursionLimit]) file.normalize_tree

namespace Creation

variable {c : Creation lib} {symmetricKeyHex : String} {env : CreateEnv}

theorem payload_value : (codecOf privatePayloadShape).toValue c.payload = .object
    [("algorithm", .string internalSlhDsaVariant), ("created_at", .string (toString c.seconds.toNat)),
      ("kid", .string c.kid), ("private_key_der_hex", .string (Hex.encode c.privateDer)),
      ("public_key_der_hex", .string (Hex.encode c.publicDer)),
      ("version", .string payloadVersion)] := rfl

theorem payload_unreserved : Unreserved ((codecOf privatePayloadShape).toValue c.payload) := by
  rw [payload_value]
  rfl

theorem plaintext_size (hkid : bytes (Value.string c.kid).render ≤ 258) (hprivate : c.privateDer.length ≤ 1024)
    (hpublic : c.publicDer.length ≤ 1024) : c.plaintext.length ≤ 20000 := by
  have halg : bytes (Value.string internalSlhDsaVariant).render ≤ 4 * 18 + 2 := bytes_string (by rfl) (by decide)
  have hversion : bytes (Value.string payloadVersion).render ≤ 4 * 2 + 2 := bytes_string (by rfl) (by decide)
  have h₁ := entryBytes_le (show shortKey "algorithm" = true by rfl) halg
  have h₂ := entryBytes_le (show shortKey "created_at" = true by rfl) (bytes_seconds c.seconds)
  have h₃ := entryBytes_le (show shortKey "kid" = true by rfl) hkid
  have h₄ := entryBytes_key (show printable "private_key_der_hex" = true by rfl) (bytes_hexText c.privateDer)
  have h₅ := entryBytes_key (show printable "public_key_der_hex" = true by rfl) (bytes_hexText c.publicDer)
  have h₆ := entryBytes_le (show shortKey "version" = true by rfl) hversion
  have hlength : "private_key_der_hex".length = 19 ∧ "public_key_der_hex".length = 18 := by decide
  rw [plaintext, Utf8.length_encode, lib.serde.toText_plain _ (codecOf_plain _ _), Utf8.utf8ByteSize_ofList,
    payload_value]
  refine Nat.le_trans (bytes_object _) ?_
  simp only [List.map_cons, List.map_nil, List.sum_cons, List.sum_nil]
  omega

theorem publicFile_size (hkid : bytes (Value.string c.kid).render ≤ 258) (hpublic : c.publicDer.length ≤ 1024) :
    (lib.pretty.toTextPretty c.publicFile.tree).utf8ByteSize ≤ slhDsaPublicFileMaxSizeBytes := by
  have halg : bytes (Value.string internalSlhDsaVariant).render ≤ 4 * 18 + 2 := bytes_string (by rfl) (by decide)
  have hversion : bytes (Value.string publicFileVersion).render ≤ 4 * 24 + 2 := bytes_string (by rfl) (by decide)
  have h₁ := entryBytes_le (show shortKey "version" = true by rfl) hversion
  have h₂ := entryBytes_le (show shortKey "kid" = true by rfl) hkid
  have h₃ := entryBytes_le (show shortKey "algorithm" = true by rfl) halg
  have h₄ := entryBytes_key (show printable "public_key_der_hex" = true by rfl) (bytes_hexText c.publicDer)
  have h₅ := entryBytes_le (show shortKey "created_at" = true by rfl) (bytes_seconds c.seconds)
  have hlength : "public_key_der_hex".length = 18 := by decide
  rw [lib.pretty.toTextPretty_integral _ (by simp [PublicFile.tree, Value.integral, integralEntries, integralEntry]),
    Utf8.utf8ByteSize_ofList]
  show bytes (c.publicFile.tree.pretty 0) ≤ slhDsaPublicFileMaxSizeBytes
  rw [PublicFile.tree, bytes_pretty_object (by simp [scalar])]
  simp only [publicFile, publicKeyDerHex, createdAt, List.map_cons, List.map_nil, List.sum_cons, List.sum_nil,
    slhDsaPublicFileMaxSizeBytes]
  omega

theorem standard_written : ∀ n : Fin 64, escapeChar (Base64.toStandard (Base64.sextet n)) =
    [Base64.toStandard (Base64.sextet n)] ∧ (Base64.toStandard (Base64.sextet n)).utf8Size = 1 := by decide

/-- An envelope is written as it is. -/
theorem envelopeText_written (ciphertext nonce aad : List UInt8) :
    ∀ c ∈ (envelopeText ciphertext nonce aad).toList, escapeChar c = [c] ∧ c.utf8Size = 1 := by
  refine forall_envelopeText (motive := fun c => escapeChar c = [c] ∧ c.utf8Size = 1) (fun bytes c hc => ?_)
    (by decide) _ _ _
  rw [standardEncode, String.toList_ofList] at hc
  rcases Base64.encodeStandard_chars bytes c hc with ⟨n, rfl⟩ | rfl
  · exact standard_written n
  · decide

theorem privateFile_size (hkid : bytes (Value.string c.kid).render ≤ 258) (hciphertext : c.ciphertext.length ≤ 20016)
    (haad : (Utf8.encode c.aad).length ≤ 400) :
    (lib.pretty.toTextPretty c.privateFile.tree).utf8ByteSize ≤ slhDsaPrivateFileMaxSizeBytes := by
  have halg : bytes (Value.string internalSlhDsaVariant).render ≤ 4 * 18 + 2 := bytes_string (by rfl) (by decide)
  have hversion : bytes (Value.string privateFileVersion).render ≤ 4 * 25 + 2 := bytes_string (by rfl) (by decide)
  have hkeyEnc : bytes (Value.string (envelopeText c.ciphertext c.nonce.toList (Utf8.encode c.aad))).render ≤
      30000 := by
    have hsize := utf8ByteSize_envelopeText c.ciphertext c.nonce.toList (Utf8.encode c.aad)
    have hchars := Utf8.length_le_utf8ByteSize (envelopeText c.ciphertext c.nonce.toList (Utf8.encode c.aad))
    rw [c.nonce.length_toList] at hsize
    rw [Value.render, bytes_renderString_plain (envelopeText_written _ _ _)]
    omega
  have h₁ := entryBytes_le (show shortKey "version" = true by rfl) hversion
  have h₂ := entryBytes_le (show shortKey "kid" = true by rfl) hkid
  have h₃ := entryBytes_le (show shortKey "algorithm" = true by rfl) halg
  have h₄ := entryBytes_le (show shortKey "created_at" = true by rfl) (bytes_seconds c.seconds)
  have h₅ := entryBytes_le (show shortKey "key_enc" = true by rfl) hkeyEnc
  rw [lib.pretty.toTextPretty_integral _ (by simp [PrivateFile.tree, Value.integral, integralEntries, integralEntry]),
    Utf8.utf8ByteSize_ofList]
  show bytes (c.privateFile.tree.pretty 0) ≤ slhDsaPrivateFileMaxSizeBytes
  rw [PrivateFile.tree, bytes_pretty_object (by simp [scalar])]
  simp only [privateFile, createdAt, List.map_cons, List.map_nil, List.sum_cons, List.sum_nil,
    slhDsaPrivateFileMaxSizeBytes]
  omega

theorem aad_size (hkid : c.kid.utf8ByteSize = 64) : (Utf8.encode c.aad).length ≤ 400 := by
  have hseconds : (toString c.seconds.toNat).utf8ByteSize ≤ 4 * 20 := utf8ByteSize_le (length_repr_u64 c.seconds)
  have hfixed : fieldBytes ("version", payloadVersion) ≤ 16 ∧ fieldBytes ("type", privateKeyType) ≤ 32 ∧
      fieldBytes ("algorithm", internalSlhDsaVariant) ≤ 32 ∧ fieldBytes ("cipher", internalKeysCipher) ≤ 24 := by decide
  have hkeys : "kid".utf8ByteSize = 3 ∧ "created_at".utf8ByteSize = 10 := by decide
  rw [Utf8.length_encode]
  refine Nat.le_trans (utf8ByteSize_buildAad _) ?_
  simp only [privateKeyFields, createdAt, List.map_cons, List.map_nil, List.sum_cons, List.sum_nil,
    fieldBytes] at hfixed ⊢
  omega

theorem aad_notBlank (h : c.Of symmetricKeyHex env) : c.aad.toList.all isWhitespace = false := by
  have htext : validateTextField "" c.aad = .ok () :=
    Message.validateTextField_buildValidated (List.cons_ne_nil _ _) h.aad
  exact (validateTextField_ok_iff.mp htext).1

/-- The private file fits, and loads again under the same root key. -/
theorem Of.loadPrivate_privateFile (h : c.Of symmetricKeyHex env) (hworks : lib.scheme.Works)
    (hlength : c.ciphertext.length = c.plaintext.length + tagSizeBytes)
    (hopen : lib.aead.decrypt internalKeysCipher c.ciphertext c.key c.nonce.toList (Utf8.encode c.aad) =
      .ok c.plaintext) :
    (lib.pretty.toTextPretty c.privateFile.tree).utf8ByteSize ≤ slhDsaPrivateFileMaxSizeBytes ∧
    ∃ (loaded : LoadedPrivateKey lib) (verifier : lib.scheme.PublicKey),
      loadPrivate lib symmetricKeyHex (lib.pretty.toTextPretty c.privateFile.tree) = .ok loaded ∧ loaded.kid = c.kid ∧
      lib.scheme.publicKeyDerHex loaded.privateKey = .ok c.publicKeyDerHex ∧
      lib.scheme.loadPublicKeyDer c.publicDer = .ok verifier ∧
      ∀ rng message signature, lib.scheme.sign rng loaded.privateKey message = .ok signature →
        signature ≠ [] ∧ signature.length ≤ 29792 ∧ lib.scheme.verify verifier message signature = .ok true := by
  obtain ⟨hprivateNe, hprivateLe, hpublicNe, hpublicLe, privateKey, publicKey, verifier, hload, hpublic, hpublicDer,
    hverifier, hsign⟩ := hworks _ _ _ _ _ h.privateKey h.publicKey h.privateDer h.publicDer
  have hkid := h.kid
  have hkidValid : validateHashHexField "" c.kid internalKeysHash = .ok () := validateKid_ok hkid
  have hkidSize := (validateInternalHash_ok_iff.mp hkidValid).1
  have hplaintext := plaintext_size (bytes_kid hkid) hprivateLe hpublicLe
  have haad := c.aad_size hkidSize
  have hciphertext : c.ciphertext.length ≤ 20016 := by
    rw [hlength, tagSizeBytes]
    omega
  have hpublicHex : lib.scheme.publicKeyDerHex privateKey = .ok c.publicKeyDerHex :=
    Loop.bind_eq_ok.mpr ⟨_, hpublic, Loop.bind_eq_ok.mpr ⟨_, hpublicDer, rfl⟩⟩
  refine ⟨privateFile_size (bytes_kid hkid) hciphertext haad, ⟨c.kid, privateKey⟩, verifier,
    loadPrivate_ok_iff.mpr ⟨_, c.privateFile.tree_read, openPrivateFile_ok_iff.mpr
      ⟨c.key, ⟨c.ciphertext, c.nonce.toList, Utf8.encode c.aad⟩, c.payload, ?_⟩⟩, rfl, hpublicHex, hverifier, hsign⟩
  refine ⟨?_, h.key, ?_, ⟨_, h.aad, rfl⟩, ?_, ?_, ?_, hpublicHex, hkid, rfl⟩
  · -- the fields of the file
    refine Loop.bind_unit_eq_ok.mpr ⟨Loop.guard_eq_ok.mpr ⟨by simp [privateFile], Loop.bind_unit_eq_ok.mpr ⟨?_, ?_⟩⟩,
      validateKid_ok hkid⟩
    · obtain ⟨digest, hdigest, hkidText⟩ := keyId_ok_iff.mp hkid
      show validateHexField _ c.kid = .ok ()
      rw [hkidText]
      exact validateHexField_digest (lib.hashBytes_length _ _ hdigest)
    · exact validateTextField_seconds _ _
  · -- the envelope is small enough
    refine decodeBase64StandardEnvelope_envelope (by rw [hlength, tagSizeBytes]; omega) c.nonce.length_toList
      (by decide) (aad_notBlank h) ?_
    rw [utf8ByteSize_envelopeText, hlength, c.nonce.length_toList, slhDsaPrivateFileMaxSizeBytes, tagSizeBytes]
    omega
  · -- the plaintext is the payload
    refine Loop.bind_eq_ok.mpr ⟨c.plaintext, hopen, ?_⟩
    rw [plaintext, Utf8.decode_encode]
    have hread := lib.serde.fromStrAs_toText (codecOf privatePayloadShape) c.payload (codecOf_plain _ _)
      payload_unreserved (codecOf_depth (by decide) _)
    simp only [hread]
  · -- the payload has the fields of the file
    refine Loop.guard_eq_ok.mpr ⟨by simp [payload, privateFile], Loop.bind_unit_eq_ok.mpr
      ⟨validateHexField_encode hprivateNe, validateHexField_encode hpublicNe⟩⟩
  · exact Loop.bind_eq_ok.mpr ⟨_, hexDecode_encode _, hload⟩

/-- The public file loads. -/
theorem Of.loadPublic_publicFile (h : c.Of symmetricKeyHex env) (hworks : lib.scheme.Works)
    {verifier : lib.scheme.PublicKey} (hverifier : lib.scheme.loadPublicKeyDer c.publicDer = .ok verifier) :
    loadPublic lib (lib.pretty.toTextPretty c.publicFile.tree) = .ok ⟨c.kid, verifier⟩ := by
  obtain ⟨-, -, hpublicNe, hpublicLe, -⟩ := hworks _ _ _ _ _ h.privateKey h.publicKey h.privateDer h.publicDer
  refine loadPublic_ok_iff.mpr ⟨publicFile_size (bytes_kid h.kid) hpublicLe, _, c.publicFile.tree_read,
    openPublicFile_ok_iff.mpr ⟨?_, h.kid, Loop.bind_eq_ok.mpr ⟨_, hexDecode_encode _, hverifier⟩, rfl⟩⟩
  refine Loop.guard_eq_ok.mpr ⟨by simp [publicFile], Loop.bind_unit_eq_ok.mpr ⟨?_, Loop.bind_unit_eq_ok.mpr
    ⟨validateHexField_encode hpublicNe, validateTextField_seconds _ _⟩⟩⟩
  obtain ⟨digest, hdigest, hkidText⟩ := keyId_ok_iff.mp h.kid
  show validateHexField _ c.kid = .ok ()
  rw [hkidText]
  exact validateHexField_digest (lib.hashBytes_length _ _ hdigest)

end Creation

/-! ## Round trip -/

/-- The signing input with a signature is the joined text. -/
theorem inputOf_joined (payload : ArtifactPayload) (signature : List UInt8) :
    inputOf lib payload ++ "." ++ lib.base64.encode signature = joined lib.base64
      (Utf8.encode (lib.serde.toText ((codecOf signatureHeaderShape).toValue signatureHeader)))
      (Utf8.encode (lib.serde.toText ((codecOf artifactPayloadShape).toValue payload))) signature := rfl

/-- The text of a signature is split into its parts. -/
theorem split_signature (hbase64 : Base64Sized lib.base64) {kid : String} (hkid : bytes (Value.string kid).render ≤ 258)
    (seconds : UInt64) {digest signature : List UInt8} (hdigest : digest.length = 64) (hne : signature ≠ [])
    (hsignature : signature.length ≤ 29792) :
    splitCompactSignature lib (inputOf lib (artifactPayload kid (toString seconds.toNat) (Hex.encode digest)) ++ "." ++
        lib.base64.encode signature) =
      .ok ⟨lib.base64.encode (Utf8.encode (lib.serde.toText ((codecOf signatureHeaderShape).toValue signatureHeader))),
        lib.base64.encode (Utf8.encode (lib.serde.toText ((codecOf artifactPayloadShape).toValue
          (artifactPayload kid (toString seconds.toNat) (Hex.encode digest))))),
        Utf8.encode (lib.serde.toText ((codecOf signatureHeaderShape).toValue signatureHeader)),
        Utf8.encode (lib.serde.toText ((codecOf artifactPayloadShape).toValue
          (artifactPayload kid (toString seconds.toNat) (Hex.encode digest)))), signature⟩ := by
  have hheader := @header_size lib
  have hpayload := @payload_size lib kid hkid seconds digest hdigest
  have hdot : ".".utf8ByteSize = 1 := by decide
  rw [inputOf_joined]
  refine splitCompactSignature_joined header_ne_nil (payload_ne_nil _) hne ?_
  simp only [joined, String.utf8ByteSize_append, hbase64 _, slhDsaSignatureFileMaxSizeBytes]
  omega

/-- The private file signs whatever the scheme signs, and the public file verifies it. -/
theorem Creation.Of.sign_verify {c : Creation lib} {symmetricKeyHex : String} {env : CreateEnv}
    (hc : c.Of symmetricKeyHex env) (hworks : lib.scheme.Works) (hbase64 : Base64Sized lib.base64)
    (hlength : c.ciphertext.length = c.plaintext.length + tagSizeBytes)
    (hopen : lib.aead.decrypt internalKeysCipher c.ciphertext c.key c.nonce.toList (Utf8.encode c.aad) =
      .ok c.plaintext) :
    c.result.2.1.utf8ByteSize ≤ slhDsaPrivateFileMaxSizeBytes ∧
    ∃ loaded : LoadedPrivateKey lib, loadPrivate lib symmetricKeyHex c.result.2.1 = .ok loaded ∧ loaded.kid = c.kid ∧
      lib.scheme.publicKeyDerHex loaded.privateKey = .ok c.publicKeyDerHex ∧
      ∀ (artifact : Artifact) (hash : String) (seconds : UInt64) (rng signature : List UInt8),
        artifactHash lib artifact = .ok hash →
        lib.scheme.sign rng loaded.privateKey
          (Utf8.encode (inputOf lib (artifactPayload c.kid (toString seconds.toNat) hash))) = .ok signature →
        ∃ text, sign lib symmetricKeyHex c.result.2.1 artifact ⟨.ok seconds, .ok rng⟩ =
            .ok (⟨c.kid, internalSlhDsaVariant, internalSlhDsaArtifactHash, hash⟩, text) ∧
          verify lib c.result.2.2 artifact text =
            .ok ⟨true, c.kid, internalSlhDsaVariant, internalSlhDsaArtifactHash, hash⟩ := by
  obtain ⟨hfits, ⟨kid, privateKey⟩, verifier, hprivate, hkid, hpublicHex, hverifier, hsign⟩ :=
    hc.loadPrivate_privateFile hworks hlength hopen
  obtain rfl : kid = c.kid := hkid
  refine ⟨hfits, _, hprivate, rfl, hpublicHex, fun artifact hash seconds rng signature hhash hsignature => ?_⟩
  obtain ⟨-, content, digest, -, hdigest, rfl⟩ := artifactHash_ok_iff.mp hhash
  have hpublic := hc.loadPublic_publicFile hworks hverifier
  have hsize := lib.artifactHasher_length _ _ hdigest
  obtain ⟨hne, hle, hverify⟩ := hsign rng _ signature hsignature
  have hsplit := split_signature hbase64 (bytes_kid hc.kid) seconds hsize hne hle
  refine ⟨_, sign_ok_iff.mpr ⟨_, Hex.encode digest, _, rng, signature, hprivate, hhash, rfl, rfl, hsignature, rfl,
    Loop.bind_eq_ok.mpr ⟨_, hsplit, rfl⟩, rfl⟩, verify_ok_iff.mpr ⟨_, _,
      artifactPayload c.kid (toString seconds.toNat) (Hex.encode digest), hpublic, hsplit, hverify, ?_, ?_, ?_,
      hhash, rfl⟩⟩
  · exact parseCanonicalSegment_encode (canonical_header _) (codecOf_plain _ _) (codecOf_depth (by decide) _)
  · exact parseCanonicalSegment_encode (canonical_payload _ _) (codecOf_plain _ _) (codecOf_depth (by decide) _)
  · exact validateArtifactPayload_ok hsize rfl

/-! ## A key -/

/-- A scheme with one key, which signs one text. -/
def exampleScheme (recorded : String) : DerScheme where
  PrivateKey := List UInt8
  PublicKey := List UInt8
  createPrivateKey _ := .ok [7]
  publicKey key := .ok key
  privateKeyDer key := .ok key
  publicKeyDer key := .ok key
  loadPrivateKeyDer der := .ok der
  loadPublicKeyDer der := if der = [7] then .ok der else .error (.other "unknown key")
  sign _ _ message := if message = Utf8.encode recorded then .ok (checksum message) else .error (.other "cannot sign")
  verify _ message signature := .ok (message = Utf8.encode recorded && signature = checksum message)

theorem exampleScheme_works (recorded : String) : (exampleScheme recorded).Works := by
  intro rng privateKey publicKey privateDer publicDer hcreate hpublic hprivateDer hpublicDer
  cases hcreate
  cases hpublic
  cases hprivateDer
  cases hpublicDer
  refine ⟨by decide, by decide, by decide, by decide, [7], [7], [7], rfl, rfl, rfl, rfl,
    fun _ message signature hsign => ?_⟩
  simp only [exampleScheme] at hsign ⊢
  split at hsign
  · rename_i hmessage
    cases hsign
    have hlength := length_checksum message
    exact ⟨List.ne_nil_of_length_pos (by omega), by omega, by simp [hmessage]⟩
  · cases hsign

/-- A hash function that keeps what it was given. -/
def doubleChecksum : HashFunction where
  State := List UInt8
  new := .ok []
  update state bytes := .ok (state ++ bytes)
  finish state := .ok (checksum state ++ checksum state)
  digest content := .ok (checksum content ++ checksum content)
  digest_eq chunks := by
    have hfold : ∀ state : List UInt8, chunks.foldlM (fun state bytes => (.ok (state ++ bytes) : Res (List UInt8)))
        state = .ok (state ++ chunks.flatten) := by
      induction chunks with
      | nil => simp [pure, Except.pure]
      | cons bytes chunks ih => simp [bind, Except.bind, ih]
    simp [hfold, bind, Except.bind]

def exampleLib (aead : Aead) (recorded : String) : SlhLibrary where
  serde := .compact
  pretty := .compact
  base64 := .urlSafeNoPad
  scheme := exampleScheme recorded
  aead
  hkdf _ _ _ length := .ok (List.replicate length 0)
  hashBytes input := .ok (checksum input)
  hashBytes_length := length_digest
  artifactHasher := doubleChecksum
  artifactHasher_length content digest h := by
    cases h
    rw [List.length_append, length_checksum]

def exampleKid : String :=
  Hex.encode (checksum (Utf8.encode (SerdeJson.compact.toText (keyMaterialValue (Hex.encode [7])))))

def exampleRoot : String := String.ofList (List.replicate 64 '0')

def exampleCreateEnv : CreateEnv := ⟨.ok [], .ok 4, .ok (Vector.replicate 12 1)⟩

def Creation.withCiphertext (c : Creation lib) (ciphertext : List UInt8) : Creation lib := { c with ciphertext }

theorem Creation.ciphertext_withCiphertext (c : Creation lib) (ciphertext : List UInt8) :
    (c.withCiphertext ciphertext).ciphertext = ciphertext := rfl

theorem Creation.plaintext_withCiphertext (c : Creation lib) (ciphertext : List UInt8) :
    (c.withCiphertext ciphertext).plaintext = c.plaintext := rfl

def exampleUnsealed (aead : Aead) (recorded : String) : Creation (exampleLib aead recorded) :=
  ⟨[], ([7] : List UInt8), ([7] : List UInt8), [7], [7], exampleKid, 4, List.replicate 32 0, Vector.replicate 12 1, []⟩

/-- The creation, with a tag of zeros. -/
def exampleCreation (aead : Aead) (recorded : String) : Creation (exampleLib aead recorded) :=
  (exampleUnsealed aead recorded).withCiphertext
    ((exampleUnsealed aead recorded).plaintext ++ List.replicate tagSizeBytes 0)

theorem exampleCreation_ciphertext (aead : Aead) (recorded : String) : (exampleCreation aead recorded).ciphertext =
    (exampleCreation aead recorded).plaintext ++ List.replicate tagSizeBytes 0 := by
  rw [exampleCreation, Creation.ciphertext_withCiphertext, Creation.plaintext_withCiphertext]

theorem exampleCreation_sealing (aead aead' : Aead) (recorded : String) :
    (exampleCreation aead recorded).sealing = (exampleCreation aead' recorded).sealing := by
  have hplaintext : (exampleCreation aead recorded).plaintext = (exampleCreation aead' recorded).plaintext := rfl
  rw [Creation.sealing, Creation.sealing, exampleCreation_ciphertext, exampleCreation_ciphertext, hplaintext]
  rfl

theorem exampleKey (aead : Aead) (recorded : String) :
    deriveFileKey (exampleLib aead recorded) exampleRoot = .ok (List.replicate 32 0) := by rfl

theorem exampleCreation_of {aead : Aead} {recorded : String} (h : (exampleCreation aead recorded).sealing.By aead) :
    (exampleCreation aead recorded).Of exampleRoot exampleCreateEnv := by
  have hkid : validateAadValue "" exampleKid = .ok () := by
    refine validateAadValue_of_hex (fun hempty => ?_) (List.all_eq_true.mpr fun c hc => hexdigit_encode hc)
    have hsize : exampleKid.utf8ByteSize = 64 := by rw [exampleKid, utf8ByteSize_hexEncode, length_checksum]
    rw [String.toList_injective (hempty.trans String.toList_empty.symm)] at hsize
    exact absurd hsize (by decide)
  refine ⟨rfl, rfl, rfl, rfl, rfl, keyId_ok_iff.mpr ⟨_, rfl, rfl⟩, rfl, exampleKey _ _, buildValidatedAad_ok_iff.mpr
    ⟨?_, rfl⟩, rfl, h⟩
  simp only [privateKeyFields, List.forall_mem_cons, List.not_mem_nil, false_implies, implies_true, and_true]
  exact ⟨aadOk_of_validate (by rfl), aadOk_of_validate (by rfl),
    Message.aadOk_value (by decide) hkid, aadOk_of_validate (by rfl),
    aadOk_of_validate (by rfl), Message.aadOk_value (by decide)
      (Message.validateAadValue_seconds "" 4)⟩

/-- What a call with these values returns. -/
theorem create_example {aead : Aead} {recorded : String} (h : (exampleCreation aead recorded).sealing.By aead) :
    create (exampleLib aead recorded) exampleRoot exampleCreateEnv = .ok (⟨exampleKid, internalSlhDsaVariant⟩,
      (exampleCreation aead recorded).result.2.1, (exampleCreation aead recorded).result.2.2) := by
  rw [create_of (exampleCreation_of h)]
  rfl

/-- A file that is read in two pieces. -/
def exampleArtifact : Artifact := ⟨.ok true, .ok [.ok [1, 2], .ok [3], .ok []]⟩

def exampleHash : String := Hex.encode (checksum [1, 2, 3] ++ checksum [1, 2, 3])

theorem exampleArtifact_hash (aead : Aead) (recorded : String) :
    artifactHash (exampleLib aead recorded) exampleArtifact = .ok exampleHash :=
  artifactHash_ok_iff.mpr ⟨rfl, _, _, rfl, rfl, rfl⟩

/-- The signing input of the examples. -/
def compactInput (payload : ArtifactPayload) : String :=
  Base64Url.urlSafeNoPad.encode (Utf8.encode (SerdeJson.compact.toText ((codecOf signatureHeaderShape).toValue
    signatureHeader))) ++ "." ++
    Base64Url.urlSafeNoPad.encode (Utf8.encode
      (SerdeJson.compact.toText ((codecOf artifactPayloadShape).toValue payload)))

theorem inputOf_exampleLib (aead : Aead) (recorded : String) (payload : ArtifactPayload) :
    inputOf (exampleLib aead recorded) payload = compactInput payload := rfl

/-- The text that the example signs. -/
def exampleInput : String := compactInput (artifactPayload exampleKid (toString (4 : UInt64).toNat) exampleHash)

theorem exampleScheme_sign (recorded : String) (key : List UInt8) :
    (exampleScheme recorded).sign [] key (Utf8.encode recorded) = .ok (checksum (Utf8.encode recorded)) := if_pos rfl

theorem exampleSign (aead : Aead) (key : List UInt8) : (exampleScheme exampleInput).sign [] key (Utf8.encode (inputOf
    (exampleLib aead exampleInput) (artifactPayload exampleKid (toString (4 : UInt64).toNat) exampleHash))) =
      .ok (checksum (Utf8.encode exampleInput)) := by
  rw [inputOf_exampleLib, ← exampleInput, exampleScheme_sign]

theorem paddedAead_opens : Message.paddedAead.Opens := by
  rintro _ plaintext _ _ _ ciphertext ⟨⟩
  simp [Message.paddedAead]

/-- The encryption of the examples. -/
def exampleSealing : Sealing := (exampleCreation Message.paddedAead exampleInput).sealing

theorem exampleSealing_eq (aead : Aead) : (exampleCreation aead exampleInput).sealing = exampleSealing :=
  exampleCreation_sealing _ _ _

theorem paddedAead_by {c : Creation lib} (h : c.ciphertext = c.plaintext ++ List.replicate tagSizeBytes 0) :
    c.sealing.By Message.paddedAead := by
  rw [Sealing.By, Creation.sealing, h]
  rfl

theorem paddedAead_sealed : exampleSealing.By Message.paddedAead := by
  have hsealed := paddedAead_by (exampleCreation_ciphertext Message.paddedAead exampleInput)
  rwa [exampleSealing_eq] at hsealed

theorem paddedAead_opened : Message.paddedAead.decrypt exampleSealing.algorithm exampleSealing.ciphertext
    exampleSealing.key exampleSealing.nonce exampleSealing.aad = .ok exampleSealing.plaintext := by
  have hsealed := paddedAead_sealed
  rw [Sealing.By] at hsealed
  exact paddedAead_opens _ _ _ _ _ _ hsealed

/-- What the created key of the examples signs, it verifies. -/
theorem example_sign_verify {aead : Aead} (h : exampleSealing.By aead) (hopen : aead.decrypt exampleSealing.algorithm
      exampleSealing.ciphertext exampleSealing.key exampleSealing.nonce exampleSealing.aad =
      .ok exampleSealing.plaintext) :
    ∃ loaded : LoadedPrivateKey (exampleLib aead exampleInput),
      loadPrivate (exampleLib aead exampleInput) exampleRoot (exampleCreation aead exampleInput).result.2.1 =
      .ok loaded ∧
      loaded.kid = exampleKid ∧
      (exampleScheme exampleInput).publicKeyDerHex loaded.privateKey = .ok (Hex.encode [7]) ∧
      ∃ text, sign (exampleLib aead exampleInput) exampleRoot (exampleCreation aead exampleInput).result.2.1
          exampleArtifact ⟨.ok 4, .ok []⟩ = .ok (⟨exampleKid, internalSlhDsaVariant, internalSlhDsaArtifactHash,
            exampleHash⟩, text) ∧
        verify (exampleLib aead exampleInput) (exampleCreation aead exampleInput).result.2.2 exampleArtifact text =
          .ok ⟨true, exampleKid, internalSlhDsaVariant, internalSlhDsaArtifactHash, exampleHash⟩ := by
  have hlength : (exampleCreation aead exampleInput).ciphertext.length =
      (exampleCreation aead exampleInput).plaintext.length + tagSizeBytes := by
    rw [exampleCreation_ciphertext, List.length_append, List.length_replicate]
  rw [← exampleSealing_eq aead] at h hopen
  simp only [Creation.sealing] at hopen
  obtain ⟨-, loaded, hloaded, hkid, hhex, hsign⟩ := (exampleCreation_of h).sign_verify (exampleScheme_works _)
    utf8ByteSize_base64 hlength hopen
  obtain ⟨text, hsigned, hverify⟩ := hsign exampleArtifact exampleHash 4 [] _ (exampleArtifact_hash _ _)
    (exampleSign _ _)
  exact ⟨loaded, hloaded, hkid, hhex, text, hsigned, hverify⟩

/-! ## Keys that sign -/

/-- With a scheme that works and a cipher that opens what it sealed: the private file that `create` returns fits and
loads, and whenever the scheme signs, `sign` returns the signature of a readable artifact, which `verify` accepts under
the public file. -/
theorem create_sign_verify (lib : SlhLibrary) (hworks : lib.scheme.Works) (htagged : lib.aead.Tagged)
    (hopens : lib.aead.Opens) (hbase64 : Base64Sized lib.base64) {symmetricKeyHex : String} {env : CreateEnv}
    {output : CreateOutput} {privateText publicText : String}
    (hcreate : create lib symmetricKeyHex env = .ok (output, privateText, publicText)) :
    privateText.utf8ByteSize ≤ slhDsaPrivateFileMaxSizeBytes ∧
    ∃ loaded : LoadedPrivateKey lib, loadPrivate lib symmetricKeyHex privateText = .ok loaded ∧
    loaded.kid = output.kid ∧
      ∀ (artifact : Artifact) (hash : String) (seconds : UInt64) (rng signature : List UInt8),
        artifactHash lib artifact = .ok hash →
        lib.scheme.sign rng loaded.privateKey
          (Utf8.encode (inputOf lib (artifactPayload output.kid (toString seconds.toNat) hash))) = .ok signature →
        ∃ text, sign lib symmetricKeyHex privateText artifact ⟨.ok seconds, .ok rng⟩ =
            .ok (⟨output.kid, internalSlhDsaVariant, internalSlhDsaArtifactHash, hash⟩, text) ∧
          verify lib publicText artifact text =
            .ok ⟨true, output.kid, internalSlhDsaVariant, internalSlhDsaArtifactHash, hash⟩ := by
  obtain ⟨c, hc, hresult⟩ := create_ok hcreate
  cases hresult
  obtain ⟨hfits, loaded, hloaded, hkid, -, hsign⟩ :=
    hc.sign_verify hworks hbase64 (htagged.encrypt _ _ _ _ _ _ hc.sealing) (hopens _ _ _ _ _ _ hc.sealing)
  exact ⟨hfits, loaded, hloaded, hkid, hsign⟩

/-- The example creates a key, signs an artifact and verifies the signature. -/
theorem create_sign_verify_example : ∃ privateText publicText text,
    create (exampleLib Message.paddedAead exampleInput) exampleRoot exampleCreateEnv =
      .ok (⟨exampleKid, internalSlhDsaVariant⟩, privateText, publicText) ∧
    sign (exampleLib Message.paddedAead exampleInput) exampleRoot privateText exampleArtifact ⟨.ok 4, .ok []⟩ =
      .ok (⟨exampleKid, internalSlhDsaVariant, internalSlhDsaArtifactHash, exampleHash⟩, text) ∧
    verify (exampleLib Message.paddedAead exampleInput) publicText exampleArtifact text =
      .ok ⟨true, exampleKid, internalSlhDsaVariant, internalSlhDsaArtifactHash, exampleHash⟩ := by
  have hcreate := create_of (exampleCreation_of (exampleSealing_eq Message.paddedAead ▸ paddedAead_sealed))
  obtain ⟨-, loaded, -, -, hsign⟩ := create_sign_verify (exampleLib Message.paddedAead exampleInput)
    (exampleScheme_works _) Message.paddedAead_tagged paddedAead_opens utf8ByteSize_base64 hcreate
  obtain ⟨text, hsigned, hverify⟩ := hsign exampleArtifact exampleHash 4 [] _ (exampleArtifact_hash _ _)
    (exampleSign _ _)
  exact ⟨_, _, text, hcreate, hsigned, hverify⟩

/-! ## Binding -/

/-- A call of `sign`. -/
structure SignCall where
  symmetricKeyHex : String
  privateText : String
  artifact : Artifact
  env : ArtifactEnv

/-- The key that the call loads, and what it puts into the payload. -/
structure SignCall.Signs (call : SignCall) (loaded : LoadedPrivateKey lib) (hash createdAt : String) : Prop where
  loads : loadPrivate lib call.symmetricKeyHex call.privateText = .ok loaded
  hashes : artifactHash lib call.artifact = .ok hash
  now : currentTimestamp call.env.now = .ok createdAt

section Ideal

variable (lib) (log : Set SignCall)

/-- The texts that the calls signed. -/
def signedTexts : Set String :=
  {input | ∃ call ∈ log, ∃ (loaded : LoadedPrivateKey lib) (hash createdAt : String), call.Signs loaded hash createdAt ∧
    input = inputOf lib (artifactPayload loaded.kid createdAt hash)}

/-- With the key of this public file, signatures verify only on texts that a call signed. -/
def Authentic (publicText : String) : Prop := ∀ loaded, loadPublic lib publicText = .ok loaded → ∀ message signature,
  lib.scheme.verify loaded.publicKey message signature = .ok true → ∃ input ∈ signedTexts lib log,
  message = Utf8.encode input

/-- The bytes that the ids in question are hashed from: of the public file, and of the keys of the calls. -/
def keyInputs (publicText : String) : Set (List UInt8) :=
  {input | ∃ hex, keyInput lib hex = input ∧
    ((∃ file, lib.serde.fromStrAs (codecOf publicFileShape) publicText = some file ∧ file.publicKeyDerHex = hex) ∨
      ∃ call ∈ log, ∃ loaded : LoadedPrivateKey lib, loadPrivate lib call.symmetricKeyHex call.privateText =
        .ok loaded ∧
        lib.scheme.publicKeyDerHex loaded.privateKey = .ok hex)}

/-- The contents that are hashed: of the artifact, and of those of the calls. -/
def hashedContents (artifact : Artifact) : Set (List UInt8) :=
  {content | artifact.content = .ok content ∨ ∃ call ∈ log, call.artifact.content = .ok content}

end Ideal

/-- A loaded private key has the id of its public key. -/
theorem loadPrivate_kid {symmetricKeyHex content : String} {loaded : LoadedPrivateKey lib}
    (h : loadPrivate lib symmetricKeyHex content = .ok loaded) :
    ∃ hex, lib.scheme.publicKeyDerHex loaded.privateKey = .ok hex ∧ keyId lib hex = .ok loaded.kid := by
  obtain ⟨file, -, hopen⟩ := loadPrivate_ok_iff.mp h
  obtain ⟨key, envelope, payload, hopened⟩ := openPrivateFile_ok_iff.mp hopen
  exact ⟨_, hopened.publicKey, hopened.loadedKid ▸ hopened.kid⟩

/-- Without collisions, an id is of one public key. -/
theorem hex_eq_of_keyId {inputs : Set (List UInt8)} (hinj : Set.InjOn lib.hashBytes inputs) {hex hex' kid : String}
    (hmem : keyInput lib hex ∈ inputs) (hmem' : keyInput lib hex' ∈ inputs) (h : keyId lib hex = .ok kid)
    (h' : keyId lib hex' = .ok kid) : hex = hex' := by
  obtain ⟨digest, hdigest, rfl⟩ := keyId_ok_iff.mp h
  obtain ⟨digest', hdigest', hsame⟩ := keyId_ok_iff.mp h'
  obtain rfl := Hex.encode_injective hsame
  exact keyInput_injective (hinj hmem hmem' (hdigest.trans hdigest'.symm))

/-- Without collisions, a hash is of one content. -/
theorem content_eq_of_hash {contents : Set (List UInt8)} (hinj : Set.InjOn lib.artifactHasher.digest contents)
    {artifact artifact' : Artifact} {hash : String} (hmem : ∀ content, artifact.content = .ok content →
      content ∈ contents)
    (hmem' : ∀ content, artifact'.content = .ok content → content ∈ contents) (h : artifactHash lib artifact = .ok hash)
    (h' : artifactHash lib artifact' = .ok hash) : artifact.content = artifact'.content := by
  obtain ⟨-, content, digest, hcontent, hdigest, rfl⟩ := artifactHash_ok_iff.mp h
  obtain ⟨-, content', digest', hcontent', hdigest', hsame⟩ := artifactHash_ok_iff.mp h'
  obtain rfl := Hex.encode_injective hsame
  rw [hcontent, hcontent', hinj (hmem _ hcontent) (hmem' _ hcontent') (hdigest.trans hdigest'.symm)]

/-- What is verified is the signing input of the payload. -/
theorem verified_input (hstrict : lib.base64.Strict) {text : String} {parts : CompactParts} {payload : ArtifactPayload}
    (hparts : splitCompactSignature lib text = .ok parts)
    (hheader : parseCanonicalSegment lib (codecOf signatureHeaderShape) parts.headerBytes = .ok signatureHeader)
    (hpayload : parseCanonicalSegment lib (codecOf artifactPayloadShape) parts.payloadBytes = .ok payload) :
    parts.header ++ "." ++ parts.payload = inputOf lib payload ∧ ∃ rest, text = inputOf lib payload ++ "." ++ rest := by
  obtain ⟨⟨rest, hrest⟩, hheaderSeg, hpayloadSeg⟩ := splitCompactSignature_ok hparts
  have hinput : parts.header ++ "." ++ parts.payload = inputOf lib payload := by
    rw [← hstrict _ _ hheaderSeg, ← hstrict _ _ hpayloadSeg, parseCanonicalSegment_ok hheader,
      parseCanonicalSegment_ok hpayload]
    rfl
  exact ⟨hinput, rest, hinput ▸ hrest⟩

/-- The text was made by the call, with the private key of the public file, for the same content. -/
structure SignCall.Made (call : SignCall) (loaded : LoadedPrivateKey lib) (hash createdAt rest : String)
    (file : PublicFile) (publicText text : String) (artifact : Artifact) (output : VerifyOutput) : Prop where
  signs : call.Signs loaded hash createdAt
  parsed : lib.serde.fromStrAs (codecOf publicFileShape) publicText = some file
  kid : file.kid = loaded.kid
  key : lib.scheme.publicKeyDerHex loaded.privateKey = .ok file.publicKeyDerHex
  content : artifact.content = call.artifact.content
  spelled : text = inputOf lib (artifactPayload loaded.kid createdAt hash) ++ "." ++ rest
  output : output = ⟨true, loaded.kid, internalSlhDsaVariant, internalSlhDsaArtifactHash, hash⟩

/-- What `verify` accepts was made by a call. -/
theorem verify_made (hstrict : lib.base64.Strict) {log : Set SignCall} {publicText text : String} {artifact : Artifact}
    {output : VerifyOutput} (hauth : Authentic lib log publicText)
    (hkeys : Set.InjOn lib.hashBytes (keyInputs lib log publicText))
    (hcontents : Set.InjOn lib.artifactHasher.digest (hashedContents log artifact))
    (h : verify lib publicText artifact text = .ok output) :
    ∃ call ∈ log, ∃ (loaded : LoadedPrivateKey lib) (hash createdAt rest : String) (file : PublicFile),
      call.Made loaded hash createdAt rest file publicText text artifact output := by
  obtain ⟨verifier, parts, payload, hpublic, hparts, hverify, hheader, hpayload, hfields, hhash, rfl⟩ :=
    verify_ok_iff.mp h
  obtain ⟨-, file, hfile, hopen⟩ := loadPublic_ok_iff.mp hpublic
  obtain ⟨-, hfileKid, -, hpublicKid⟩ := openPublicFile_ok_iff.mp hopen
  obtain ⟨hinput, rest, hrest⟩ := verified_input hstrict hparts hheader hpayload
  rw [hinput] at hverify
  obtain ⟨input, ⟨call, hmem, loaded, hash, createdAt, hsigns, rfl⟩, hsame⟩ := hauth _ hpublic _ _ hverify
  have hspelled := congrArg (· ++ "." ++ "") (Utf8.encode_injective hsame)
  obtain rfl := inputOf_injective hspelled
  -- the ids are the same, so the public keys are
  have hkid : file.kid = loaded.kid := hpublicKid.symm.trans (validateArtifactPayload_kid hfields).symm
  obtain ⟨hex, hhex, hloadedKid⟩ := loadPrivate_kid hsigns.loads
  have hsameHex : hex = file.publicKeyDerHex :=
    hex_eq_of_keyId hkeys ⟨hex, rfl, Or.inr ⟨call, hmem, loaded, hsigns.loads, hhex⟩⟩ ⟨_, rfl,
      Or.inl ⟨file, hfile, rfl⟩⟩ hloadedKid (hkid ▸ hfileKid)
  have hcontent := content_eq_of_hash hcontents (fun content hc => Or.inl hc) (fun content hc => Or.inr ⟨call, hmem,
    hc⟩) hhash hsigns.hashes
  refine ⟨call, hmem, loaded, hash, createdAt, rest, file, hsigns, hfile, hkid, hsameHex ▸ hhex, hcontent, hrest, ?_⟩
  rw [hpublicKid, hkid]
  rfl

/-- What the call returns begins with what it signed. -/
theorem SignCall.Signs.returned {call : SignCall} {loaded : LoadedPrivateKey lib} {hash createdAt text : String}
    {output : SignOutput} (h : call.Signs loaded hash createdAt)
    (hsign : sign lib call.symmetricKeyHex call.privateText call.artifact call.env = .ok (output, text)) :
    ∃ rest, text = inputOf lib (artifactPayload loaded.kid createdAt hash) ++ "." ++ rest := by
  obtain ⟨loaded', hash', createdAt', rng, signature, hloaded, hhash, hnow, -, -, htext, -⟩ := sign_ok_iff.mp hsign
  obtain rfl := Except.ok.inj (h.loads.symm.trans hloaded)
  obtain rfl := Except.ok.inj (h.hashes.symm.trans hhash)
  obtain rfl := Except.ok.inj (h.now.symm.trans hnow)
  exact ⟨_, htext⟩

/-- What `verify` accepts is a signature, spelled as it was made, that a call of `sign` made with the private key of the
public file for the same content. -/
theorem artifact_signature_binds (lib : SlhLibrary) (hstrict : lib.base64.Strict) {log : Set SignCall}
    {publicText text : String} {artifact : Artifact} {output : VerifyOutput} (hauth : Authentic lib log publicText)
    (hkeys : Set.InjOn lib.hashBytes (keyInputs lib log publicText))
    (hcontents : Set.InjOn lib.artifactHasher.digest (hashedContents log artifact))
    (h : verify lib publicText artifact text = .ok output) :
    ∃ call ∈ log, ∃ (loaded : LoadedPrivateKey lib) (hash createdAt rest : String) (file : PublicFile),
      call.Signs loaded hash createdAt ∧ lib.serde.fromStrAs (codecOf publicFileShape) publicText = some file ∧
      file.kid = loaded.kid ∧ lib.scheme.publicKeyDerHex loaded.privateKey = .ok file.publicKeyDerHex ∧
      artifact.content = call.artifact.content ∧
      text = inputOf lib (artifactPayload loaded.kid createdAt hash) ++ "." ++ rest ∧
      output = ⟨true, loaded.kid, internalSlhDsaVariant, internalSlhDsaArtifactHash, hash⟩ := by
  obtain ⟨call, hmem, loaded, hash, createdAt, rest, file, hmade⟩ := verify_made hstrict hauth hkeys hcontents h
  exact ⟨call, hmem, loaded, hash, createdAt, rest, file, hmade.signs, hmade.parsed, hmade.kid, hmade.key,
    hmade.content, hmade.spelled, hmade.output⟩

/-- The call of the example. -/
def exampleSignCall (aead : Aead) : SignCall :=
  ⟨exampleRoot, (exampleCreation aead exampleInput).result.2.1, exampleArtifact, ⟨.ok 4, .ok []⟩⟩

section Example

variable {aead : Aead} {loaded : LoadedPrivateKey (exampleLib aead exampleInput)}

theorem exampleSignCall_signs (hloaded : loadPrivate (exampleLib aead exampleInput) exampleRoot
      (exampleCreation aead exampleInput).result.2.1 = .ok loaded) :
    (exampleSignCall aead).Signs loaded exampleHash (toString (4 : UInt64).toNat) :=
  ⟨hloaded, exampleArtifact_hash _ _, rfl⟩

theorem exampleSign_authentic (hloaded : loadPrivate (exampleLib aead exampleInput) exampleRoot
      (exampleCreation aead exampleInput).result.2.1 = .ok loaded) (hkid : loaded.kid = exampleKid) (publicText :
      String) :
    Authentic (exampleLib aead exampleInput) {exampleSignCall aead} publicText := by
  intro _ _ message signature hverified
  simp only [exampleLib, exampleScheme, Except.ok.injEq, Bool.and_eq_true, decide_eq_true_eq] at hverified
  exact ⟨exampleInput, ⟨exampleSignCall aead, rfl, loaded, exampleHash, _, exampleSignCall_signs hloaded,
    by rw [hkid]; rfl⟩, hverified.1⟩

/-- One key is hashed. -/
theorem exampleSign_keyInputs (hloaded : loadPrivate (exampleLib aead exampleInput) exampleRoot
      (exampleCreation aead exampleInput).result.2.1 = .ok loaded)
    (hhex : (exampleScheme exampleInput).publicKeyDerHex loaded.privateKey = .ok (Hex.encode [7])) :
    (keyInputs (exampleLib aead exampleInput) {exampleSignCall aead}
      (exampleCreation aead exampleInput).result.2.2).Subsingleton := by
  have hsame : ∀ input ∈ keyInputs (exampleLib aead exampleInput) {exampleSignCall aead}
      (exampleCreation aead exampleInput).result.2.2, input = keyInput (exampleLib aead exampleInput)
        (Hex.encode [7]) := by
    rintro input ⟨hex, rfl, ⟨file, hfile, rfl⟩ | ⟨call, rfl, loaded', hloaded', hhex'⟩⟩
    · rw [show file = (exampleCreation aead exampleInput).publicFile from
        Option.some.inj (hfile.symm.trans (PublicFile.tree_read _))]
      rfl
    · rw [Except.ok.inj (hloaded'.symm.trans hloaded)] at hhex'
      rw [Except.ok.inj (hhex'.symm.trans hhex)]
  exact fun input hinput input' hinput' => (hsame _ hinput).trans (hsame _ hinput').symm

/-- What the call signs is the text of the example. -/
theorem exampleSignCall_input (hloaded : loadPrivate (exampleLib aead exampleInput) exampleRoot
      (exampleCreation aead exampleInput).result.2.1 = .ok loaded) (hkid : loaded.kid = exampleKid)
    {loaded' : LoadedPrivateKey (exampleLib aead exampleInput)} {hash createdAt : String}
    (h : (exampleSignCall aead).Signs loaded' hash createdAt) :
    inputOf (exampleLib aead exampleInput) (artifactPayload loaded'.kid createdAt hash) = exampleInput := by
  have hsigns := exampleSignCall_signs hloaded
  rw [Except.ok.inj (h.loads.symm.trans hloaded), hkid, Except.ok.inj (h.now.symm.trans hsigns.now),
    Except.ok.inj (h.hashes.symm.trans hsigns.hashes)]
  rfl

end Example

/-- One content is hashed. -/
theorem exampleSign_contents (aead : Aead) : (hashedContents {exampleSignCall aead} exampleArtifact).Subsingleton := by
  have hsame : ∀ content ∈ hashedContents {exampleSignCall aead} exampleArtifact, content = [1, 2, 3] := by
    rintro content (hcontent | ⟨call, rfl, hcontent⟩) <;> exact (Except.ok.inj hcontent).symm
  exact fun content hcontent content' hcontent' => (hsame _ hcontent).trans (hsame _ hcontent').symm

theorem artifact_signature_binds_example : ∃ text rest output,
    verify (exampleLib Message.paddedAead exampleInput) (exampleCreation Message.paddedAead exampleInput).result.2.2
      exampleArtifact text = .ok output ∧
    text = exampleInput ++ "." ++ rest ∧ output.kid = exampleKid := by
  obtain ⟨loaded, hloaded, hkid, hhex, text, -, hverify⟩ := example_sign_verify paddedAead_sealed paddedAead_opened
  obtain ⟨call, hcall, loaded', hash, createdAt, rest, file, hsigns', -, -, -, -, htext, houtput⟩ :=
    artifact_signature_binds _ Base64Url.urlSafeNoPad_strict (exampleSign_authentic hloaded hkid _)
      ((exampleSign_keyInputs hloaded hhex).injOn _) ((exampleSign_contents _).injOn _) hverify
  cases Set.mem_singleton_iff.mp hcall
  refine ⟨text, rest, _, hverify, ?_, rfl⟩
  rw [htext]
  exact congrArg (· ++ "." ++ rest) (exampleSignCall_input hloaded hkid hsigns')

/-! ## Private files -/

/-- A call of `create`. -/
structure CreateCall where
  symmetricKeyHex : String
  env : CreateEnv

theorem decryptPayload_ok {key : List UInt8} {envelope : DecodedBase64Envelope} {payload : PrivatePayload}
    (h : decryptPayload lib key envelope = .ok payload) :
    ∃ plaintext, lib.aead.decrypt internalKeysCipher envelope.ciphertext key envelope.nonce envelope.aad =
      .ok (Utf8.encode plaintext) ∧ lib.serde.fromStrAs (codecOf privatePayloadShape) plaintext = some payload := by
  obtain ⟨bytes, hbytes, h⟩ := Loop.bind_eq_ok.mp h
  split at h
  · cases h
  · rename_i plaintext hplaintext
    split at h
    · cases h
    · rename_i found hread
      cases h
      exact ⟨plaintext, Utf8.encode_of_decode hplaintext ▸ hbytes, hread⟩

/-- The private file is the one of the creation, up to the spelling of its envelope, and the key is the one created. -/
structure Creation.Kept (c : Creation lib) (content : String) (file : PrivateFile) (loaded : LoadedPrivateKey lib) :
    Prop where
  parsed : lib.serde.fromStrAs (codecOf privateFileShape) content = some file
  fields : { file with keyEnc := c.privateFile.keyEnc } = c.privateFile
  envelope : decodeBase64StandardEnvelope "SLH-DSA private key key_enc" file.keyEnc slhDsaPrivateFileMaxSizeBytes
    internalKeysNonceSizeBytes = .ok ⟨c.ciphertext, c.nonce.toList, Utf8.encode c.aad⟩
  kid : loaded.kid = c.kid
  privateKey : lib.scheme.loadPrivateKeyDer c.privateDer = .ok loaded.privateKey
  publicKey : lib.scheme.publicKeyDerHex loaded.privateKey = .ok c.publicKeyDerHex

/-- A private file that loads was created under the same root key. -/
theorem loadPrivate_kept {ledger : Set Sealing} (hideal : lib.aead.Ideal ledger) {calls : Set CreateCall}
    {symmetricKeyHex : String} (hseals : ∀ s ∈ ledger, deriveFileKey lib symmetricKeyHex = .ok s.key → ∃ call ∈ calls,
      call.symmetricKeyHex = symmetricKeyHex ∧ ∃ c : Creation lib, c.Of call.symmetricKeyHex call.env ∧ s = c.sealing)
    {content : String} {loaded : LoadedPrivateKey lib} (h : loadPrivate lib symmetricKeyHex content = .ok loaded) :
    ∃ call ∈ calls, call.symmetricKeyHex = symmetricKeyHex ∧ ∃ (c : Creation lib) (file : PrivateFile),
      create lib symmetricKeyHex call.env = .ok c.result ∧ c.Kept content file loaded := by
  obtain ⟨file, hfile, hopen⟩ := loadPrivate_ok_iff.mp h
  obtain ⟨key, envelope, payload, hopened⟩ := openPrivateFile_ok_iff.mp hopen
  obtain ⟨plaintext, hdecrypt, hread⟩ := decryptPayload_ok hopened.decrypted
  obtain ⟨call, hmem, hroot, c, hc, hsealing⟩ := hseals _ (hideal.authentic _ _ _ _ _ _ hdecrypt) hopened.derived
  rw [hroot] at hc
  obtain ⟨-, -, hnonce, haad, hplaintext, hciphertext⟩ := Sealing.mk.inj hsealing
  have hpayload : payload = c.payload := by
    have hwritten := lib.serde.fromStrAs_toText (codecOf privatePayloadShape) c.payload (codecOf_plain _ _)
      c.payload_unreserved (codecOf_depth (by decide) _)
    rw [Utf8.encode_injective hplaintext, hwritten, Option.some.injEq] at hread
    exact hread.symm
  subst hpayload
  obtain ⟨hsame, -⟩ := Loop.guard_eq_ok.mp hopened.checked
  simp only [Bool.or_eq_true, decide_eq_true_eq, not_or, ne_eq, Decidable.not_not] at hsame
  obtain ⟨hstructure, -⟩ := Loop.bind_unit_eq_ok.mp hopened.valid
  obtain ⟨hversion, -⟩ := Loop.guard_eq_ok.mp hstructure
  simp only [Bool.or_eq_true, decide_eq_true_eq, not_or, ne_eq, Decidable.not_not] at hversion
  obtain ⟨der, hder, hload⟩ := Loop.bind_eq_ok.mp hopened.privateKey
  refine ⟨call, hmem, hroot, c, file, create_of hc, hfile, ?_, ?_, ?_, ?_, hopened.publicKey⟩
  · show PrivateFile.mk file.version file.kid file.algorithm file.createdAt _ = _
    rw [hversion.1, hversion.2, ← hsame.1.1.2, ← hsame.2]
    rfl
  · rw [hopened.decoded]
    cases envelope
    simp only at hnonce haad hciphertext
    rw [hnonce, haad, hciphertext]
  · rw [hopened.loadedKid, ← hsame.1.1.2]
    rfl
  · rw [show c.payload.privateKeyDerHex = Hex.encode c.privateDer from rfl, hexDecode_encode] at hder
    cases hder
    exact hload

/-- A private file that loads has the version, the id, the algorithm, the time, the ciphertext and the key of one that
`create` made under the same root key, when only `create` seals under the file key of that root key. -/
theorem private_file_genuine (lib : SlhLibrary) {ledger : Set Sealing} (hideal : lib.aead.Ideal ledger)
    {calls : Set CreateCall} {symmetricKeyHex : String}
    (hseals : ∀ s ∈ ledger, deriveFileKey lib symmetricKeyHex = .ok s.key → ∃ call ∈ calls,
      call.symmetricKeyHex = symmetricKeyHex ∧ ∃ c : Creation lib, c.Of call.symmetricKeyHex call.env ∧ s = c.sealing)
    {content : String} {loaded : LoadedPrivateKey lib} (h : loadPrivate lib symmetricKeyHex content = .ok loaded) :
    ∃ call ∈ calls, call.symmetricKeyHex = symmetricKeyHex ∧ ∃ (c : Creation lib) (file : PrivateFile),
      create lib symmetricKeyHex call.env = .ok c.result ∧
      lib.serde.fromStrAs (codecOf privateFileShape) content = some file ∧
      { file with keyEnc := c.privateFile.keyEnc } = c.privateFile ∧
      decodeBase64StandardEnvelope "SLH-DSA private key key_enc" file.keyEnc slhDsaPrivateFileMaxSizeBytes
        internalKeysNonceSizeBytes = .ok ⟨c.ciphertext, c.nonce.toList, Utf8.encode c.aad⟩ ∧
      loaded.kid = c.kid ∧ lib.scheme.loadPrivateKeyDer c.privateDer = .ok loaded.privateKey ∧
      lib.scheme.publicKeyDerHex loaded.privateKey = .ok c.publicKeyDerHex := by
  obtain ⟨call, hmem, hroot, c, file, hcreate, hkept⟩ := loadPrivate_kept hideal hseals h
  exact ⟨call, hmem, hroot, c, file, hcreate, hkept.parsed, hkept.fields, hkept.envelope, hkept.kid, hkept.privateKey,
    hkept.publicKey⟩

theorem exampleSealing_length : exampleSealing.ciphertext.length = exampleSealing.plaintext.length + tagSizeBytes := by
  simp only [exampleSealing, Creation.sealing, exampleCreation_ciphertext, List.length_append, List.length_replicate]

theorem exampleSealing_ideal : (Aead.ofSealings [exampleSealing]).Ideal {exampleSealing} := by
  refine Aead.ideal_ofSealings (by simp) ?_ ?_ ?_
  · simp
  · simp
  · intro s hs
    rw [List.mem_singleton.mp hs]
    exact exampleSealing_length

theorem private_file_genuine_example : ∃ content loaded,
    loadPrivate (exampleLib (.ofSealings [exampleSealing]) exampleInput) exampleRoot content = .ok loaded ∧
    loaded.kid = exampleKid := by
  have hsealed := exampleSealing_ideal.sealed _ rfl
  have hcreation := exampleCreation_of (exampleSealing_eq (.ofSealings [exampleSealing]) ▸ hsealed)
  obtain ⟨loaded, hloaded, -⟩ := example_sign_verify hsealed (exampleSealing_ideal.opens _ rfl)
  have hseals : ∀ s ∈ ({exampleSealing} : Set Sealing),
      deriveFileKey (exampleLib (.ofSealings [exampleSealing]) exampleInput) exampleRoot = .ok s.key →
      ∃ call ∈ ({⟨exampleRoot, exampleCreateEnv⟩} : Set CreateCall), call.symmetricKeyHex = exampleRoot ∧
        ∃ c : Creation (exampleLib (.ofSealings [exampleSealing]) exampleInput),
          c.Of call.symmetricKeyHex call.env ∧ s = c.sealing := by
    intro s hs _
    rw [Set.mem_singleton_iff.mp hs]
    exact ⟨_, rfl, rfl, _, hcreation, (exampleSealing_eq _).symm⟩
  obtain ⟨call, hcall, -, c, file, hcreate, -, -, -, hkid, -, -⟩ :=
    private_file_genuine _ exampleSealing_ideal hseals hloaded
  rw [Set.mem_singleton_iff.mp hcall, create_of hcreation, Except.ok.injEq] at hcreate
  exact ⟨_, loaded, hloaded, hkid.trans (congrArg (fun result => result.1.kid) hcreate).symm⟩

/-! ## Keys and signatures -/

/-- A call has one creation. -/
theorem Creation.Of.unique {c c' : Creation lib} {symmetricKeyHex : String} {env : CreateEnv}
    (h : c.Of symmetricKeyHex env) (h' : c'.Of symmetricKeyHex env) : c = c' := by
  obtain ⟨rng, privateKey, publicKey, privateDer, publicDer, kid, seconds, key, nonce, ciphertext⟩ := c
  obtain ⟨rng', privateKey', publicKey', privateDer', publicDer', kid', seconds', key', nonce', ciphertext'⟩ := c'
  obtain rfl := Except.ok.inj (h.rng.symm.trans h'.rng)
  obtain rfl := Except.ok.inj (h.privateKey.symm.trans h'.privateKey)
  obtain rfl := Except.ok.inj (h.publicKey.symm.trans h'.publicKey)
  obtain rfl := Except.ok.inj (h.privateDer.symm.trans h'.privateDer)
  obtain rfl := Except.ok.inj (h.publicDer.symm.trans h'.publicDer)
  obtain rfl := Except.ok.inj (h.kid.symm.trans h'.kid)
  obtain rfl := Except.ok.inj (h.now.symm.trans h'.now)
  obtain rfl := Except.ok.inj (h.key.symm.trans h'.key)
  obtain rfl := Except.ok.inj (h.nonce.symm.trans h'.nonce)
  obtain rfl := Except.ok.inj (h.sealing.symm.trans h'.sealing)
  rfl

/-- The encryptions under the file key of a root key are those of the calls of `create` with that root key. -/
def SealedBy (lib : SlhLibrary) (ledger : Set Sealing) (calls : Set CreateCall) (symmetricKeyHex : String) : Prop :=
  ∀ s, deriveFileKey lib symmetricKeyHex = .ok s.key → (s ∈ ledger ↔ ∃ call ∈ calls,
    call.symmetricKeyHex = symmetricKeyHex ∧ ∃ c : Creation lib, c.Of call.symmetricKeyHex call.env ∧ s = c.sealing)

/-- A created key signs, and its public file verifies what it signed; what is verified was signed by a call with the
private key of the public file, for the same content, and begins as the call's own signature; and a private file that
loads is, field by field, one that was created under the same root key. -/
theorem slh_dsa_keys_bind (lib : SlhLibrary) (hworks : lib.scheme.Works) (hbase64 : Base64Sized lib.base64)
    (hstrict : lib.base64.Strict) {ledger : Set Sealing} (hideal : lib.aead.Ideal ledger) {calls : Set CreateCall}
    {symmetricKeyHex : String} (hsealed : SealedBy lib ledger calls symmetricKeyHex) :
    (∀ call ∈ calls, call.symmetricKeyHex = symmetricKeyHex → ∀ output privateText publicText,
      create lib symmetricKeyHex call.env = .ok (output, privateText, publicText) →
      privateText.utf8ByteSize ≤ slhDsaPrivateFileMaxSizeBytes ∧
      ∃ loaded : LoadedPrivateKey lib, loadPrivate lib symmetricKeyHex privateText = .ok loaded ∧
      loaded.kid = output.kid ∧
        ∀ (artifact : Artifact) (hash : String) (seconds : UInt64) (rng signature : List UInt8),
          artifactHash lib artifact = .ok hash →
          lib.scheme.sign rng loaded.privateKey
            (Utf8.encode (inputOf lib (artifactPayload output.kid (toString seconds.toNat) hash))) = .ok signature →
          ∃ text, sign lib symmetricKeyHex privateText artifact ⟨.ok seconds, .ok rng⟩ =
              .ok (⟨output.kid, internalSlhDsaVariant, internalSlhDsaArtifactHash, hash⟩, text) ∧
            validateCompactSignatureEncoding lib text = .ok () ∧
            verify lib publicText artifact text =
              .ok ⟨true, output.kid, internalSlhDsaVariant, internalSlhDsaArtifactHash, hash⟩) ∧
    (∀ (log : Set SignCall) publicText text artifact output, Authentic lib log publicText →
      Set.InjOn lib.hashBytes (keyInputs lib log publicText) →
      Set.InjOn lib.artifactHasher.digest (hashedContents log artifact) →
      verify lib publicText artifact text = .ok output →
      ∃ call ∈ log, ∃ (loaded : LoadedPrivateKey lib) (hash createdAt rest : String) (file : PublicFile),
        call.Made loaded hash createdAt rest file publicText text artifact output ∧
        ∀ signed made, sign lib call.symmetricKeyHex call.privateText call.artifact call.env = .ok (signed, made) →
          ∃ rest', made = inputOf lib (artifactPayload loaded.kid createdAt hash) ++ "." ++ rest') ∧
    ∀ (content : String) (loaded : LoadedPrivateKey lib), loadPrivate lib symmetricKeyHex content = .ok loaded →
      ∃ call ∈ calls, call.symmetricKeyHex = symmetricKeyHex ∧ ∃ (c : Creation lib) (file : PrivateFile),
        create lib symmetricKeyHex call.env = .ok c.result ∧ c.Kept content file loaded := by
  refine ⟨?_, ?_, ?_⟩
  · intro call hmem hroot output privateText publicText hcreate
    obtain ⟨c, hc, hresult⟩ := create_ok hcreate
    cases hresult
    have hsealing : c.sealing ∈ ledger := (hsealed _ hc.key).mpr ⟨call, hmem, hroot, c, hroot ▸ hc, rfl⟩
    obtain ⟨hfits, loaded, hloaded, hkid, -, hsign⟩ :=
      hc.sign_verify hworks hbase64 (hideal.length _ hsealing) (hideal.opens _ hsealing)
    refine ⟨hfits, loaded, hloaded, hkid, fun artifact hash seconds rng signature hhash hsignature => ?_⟩
    obtain ⟨text, hsigned, hverify⟩ := hsign artifact hash seconds rng signature hhash hsignature
    obtain ⟨-, -, -, -, -, -, -, -, -, -, -, hvalid, -⟩ := sign_ok_iff.mp hsigned
    exact ⟨text, hsigned, hvalid, hverify⟩
  · intro log publicText text artifact output hauth hkeys hcontents h
    obtain ⟨call, hmem, loaded, hash, createdAt, rest, file, hmade⟩ := verify_made hstrict hauth hkeys hcontents h
    exact ⟨call, hmem, loaded, hash, createdAt, rest, file, hmade, fun signed made => hmade.signs.returned⟩
  · intro content loaded h
    exact loadPrivate_kept hideal (fun s hs hkey => (hsealed s hkey).mp hs) h

theorem exampleSealedBy : SealedBy (exampleLib (.ofSealings [exampleSealing]) exampleInput) {exampleSealing}
    {⟨exampleRoot, exampleCreateEnv⟩} exampleRoot := by
  have hcreation := exampleCreation_of (exampleSealing_eq (.ofSealings [exampleSealing]) ▸ exampleSealing_ideal.sealed _
    rfl)
  intro s _
  constructor
  · intro hs
    rw [Set.mem_singleton_iff.mp hs]
    exact ⟨_, rfl, rfl, _, hcreation, (exampleSealing_eq _).symm⟩
  · rintro ⟨call, hcall, -, c, hc, rfl⟩
    rw [Set.mem_singleton_iff.mp hcall] at hc
    rw [hc.unique hcreation]
    exact exampleSealing_eq _

/-- The example creates a key, signs an artifact, verifies the signature and loads the key. -/
theorem slh_dsa_keys_bind_example : ∃ privateText publicText text rest loaded,
    create (exampleLib (.ofSealings [exampleSealing]) exampleInput) exampleRoot exampleCreateEnv =
      .ok (⟨exampleKid, internalSlhDsaVariant⟩, privateText, publicText) ∧
    privateText.utf8ByteSize ≤ slhDsaPrivateFileMaxSizeBytes ∧
    sign (exampleLib (.ofSealings [exampleSealing]) exampleInput) exampleRoot privateText exampleArtifact
      ⟨.ok 4, .ok []⟩ = .ok (⟨exampleKid, internalSlhDsaVariant, internalSlhDsaArtifactHash, exampleHash⟩, text) ∧
    verify (exampleLib (.ofSealings [exampleSealing]) exampleInput) publicText exampleArtifact text =
      .ok ⟨true, exampleKid, internalSlhDsaVariant, internalSlhDsaArtifactHash, exampleHash⟩ ∧
    text = exampleInput ++ "." ++ rest ∧
    loadPrivate (exampleLib (.ofSealings [exampleSealing]) exampleInput) exampleRoot privateText = .ok loaded ∧
    loaded.kid = exampleKid := by
  have hsealed := exampleSealing_ideal.sealed _ rfl
  obtain ⟨loaded, hloaded, hkid, hhex, -⟩ := example_sign_verify hsealed (exampleSealing_ideal.opens _ rfl)
  obtain ⟨hsigns, hbinds, hkept⟩ := slh_dsa_keys_bind (exampleLib (.ofSealings [exampleSealing]) exampleInput)
    (exampleScheme_works _) utf8ByteSize_base64 Base64Url.urlSafeNoPad_strict exampleSealing_ideal exampleSealedBy
  have hcreate := create_example (exampleSealing_eq (.ofSealings [exampleSealing]) ▸ hsealed)
  obtain ⟨hfits, found, hfound, -, hsign⟩ := hsigns _ rfl rfl _ _ _ hcreate
  obtain ⟨text, hsigned, -, hverify⟩ := hsign exampleArtifact exampleHash 4 [] _ (exampleArtifact_hash _ _)
    (exampleSign _ _)
  obtain ⟨call, hcall, loaded', hash, createdAt, rest, file, hmade, -⟩ := hbinds {exampleSignCall _} _ _ _ _
    (exampleSign_authentic hloaded hkid _) ((exampleSign_keyInputs hloaded hhex).injOn _)
    ((exampleSign_contents _).injOn _) hverify
  cases Set.mem_singleton_iff.mp hcall
  obtain ⟨call, hcall, -, c, file, hmadeBy, hsame⟩ := hkept _ _ hloaded
  rw [Set.mem_singleton_iff.mp hcall, hcreate, Except.ok.injEq] at hmadeBy
  refine ⟨_, _, text, rest, loaded, hcreate, hfits, hsigned, hverify, ?_, hloaded, ?_⟩
  · rw [hmade.spelled]
    exact congrArg (· ++ "." ++ rest) (exampleSignCall_input hloaded hkid hmade.signs)
  · exact hsame.kid.trans (congrArg (fun result => result.1.kid) hmadeBy).symm

end Vectis.Ops.SlhDsa

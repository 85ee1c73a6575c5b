import Vectis.Core.Canonical
import Vectis.Core.Validation
import Vectis.Lib.Base64
import Vectis.Lib.Loop
import Vectis.Lib.Utf8

/-!
# Compact hybrid signatures

`sign_compact_hybrid_payload` and its verification (`ops/sign.rs`): a text of four base64url segments, a header, a
canonical JSON payload and two signatures of the first two segments.

The signature schemes and base64url are parameters (`SignLibrary`). A signature made with the private keys verifies
under the public ones and gives the payload back (`verify_sign`).
-/

namespace Vectis.Ops.Sign

open Core.Canonical Core.Validation Json

/-! ## The library -/

def isBase64UrlChar (c : Char) : Bool :=
  isAsciiDigit c || (0x61 ≤ c.val && c.val ≤ 0x7a) || (0x41 ≤ c.val && c.val ≤ 0x5a) || c = '-' || c = '_'

/-- `base64::URL_SAFE_NO_PAD`. -/
structure Base64Url where
  encode : List UInt8 → String
  decode : String → Option (List UInt8)
  decode_encode : ∀ bytes, decode (encode bytes) = some bytes
  encode_nil : encode [] = ""
  alphabet : ∀ bytes, (encode bytes).toList.all isBase64UrlChar = true

theorem sextet_isBase64UrlChar : ∀ n : Fin 64, isBase64UrlChar (Base64.sextet n) = true := by decide

def Base64Url.urlSafeNoPad : Base64Url where
  encode bytes := String.ofList (Base64.encode bytes)
  decode text := Base64.decode text.toList
  decode_encode bytes := by rw [String.toList_ofList, Base64.decode_encode]
  encode_nil := rfl
  alphabet bytes := by
    rw [String.toList_ofList, List.all_eq_true]
    intro c hc
    obtain ⟨n, rfl⟩ := Base64.encode_chars bytes c hc
    exact sextet_isBase64UrlChar n

/-- A signature scheme, with its keys in DER as hex. Signing takes random bytes. -/
structure Scheme where
  PrivateKey : Type
  PublicKey : Type
  loadPrivateKeyDerHex : String → Res PrivateKey
  loadPublicKeyDerHex : String → Res PublicKey
  sign : List UInt8 → PrivateKey → String → Res (List UInt8)
  verify : PublicKey → String → List UInt8 → Res Bool

/-- The keys belong together: what the private key signs verifies under the public key. -/
def Scheme.Pair (scheme : Scheme) (privateDerHex publicDerHex : String) : Prop :=
  ∃ publicKey, scheme.loadPublicKeyDerHex publicDerHex = .ok publicKey ∧
    ∀ privateKey, scheme.loadPrivateKeyDerHex privateDerHex = .ok privateKey → ∀ rng message signature,
      scheme.sign rng privateKey message = .ok signature →
        signature ≠ [] ∧ scheme.verify publicKey message signature = .ok true

/-- A checksum of 32 bytes, for examples. -/
def checksum (input : List UInt8) : List UInt8 :=
  let sum := input.foldl (fun sum byte => (sum * 257 + byte.toNat) % 2 ^ 256) 0
  (List.range 32).map fun i => UInt8.ofNat (sum / 256 ^ i)

theorem length_checksum (input : List UInt8) : (checksum input).length = 32 := by simp [checksum]

theorem length_digest (input digest : List UInt8) (h : (Except.ok (checksum input) : Res (List UInt8)) = .ok digest) :
    digest.length = 32 := by
  cases h
  exact length_checksum input

/-- A scheme for examples, where both keys are one secret and a signature is a checksum over it. -/
def Scheme.keyed : Scheme where
  PrivateKey := String
  PublicKey := String
  loadPrivateKeyDerHex key := .ok key
  loadPublicKeyDerHex key := .ok key
  sign _ key message := .ok (checksum (Utf8.encode (key ++ message)))
  verify key message signature := .ok (signature = checksum (Utf8.encode (key ++ message)))

theorem Scheme.keyed_pair (key : String) : Scheme.keyed.Pair key key := by
  refine ⟨key, rfl, fun privateKey hkey rng message signature hsign => ?_⟩
  cases hkey
  cases hsign
  exact ⟨List.ne_nil_of_length_pos (by rw [length_checksum]; decide), by simp [Scheme.keyed]⟩

structure SignLibrary where
  serde : SerdeJson
  base64 : Base64Url
  eddsa : Scheme
  mlDsa : Scheme

/-! ## Signing and verification -/

/-- `COMPACT_SIGNATURE_VERSION`. -/
def compactSignatureVersion : String := "vectis-signature-v1"

/-- `COMPACT_SIGNATURE_MAX_CHARS`. -/
def compactSignatureMaxChars : Nat := 65536

structure CompactSignatureHeader where
  version : String
  deriving DecidableEq, Repr

def headerCodec : Codec CompactSignatureHeader where
  toValue header := .object [("version", .string header.version)]
  fromValue
    | .object [("version", .string version)] => some ⟨version⟩
    | _ => none
  fromValue_toValue _ := rfl

structure HybridPrivateKeys where
  eddsa : String
  mlDsa : String

structure HybridPublicKeys where
  eddsa : String
  mlDsa : String

/-- The private keys sign for the public ones. -/
def Matches (lib : SignLibrary) (signer : HybridPrivateKeys) (verifier : HybridPublicKeys) : Prop :=
  lib.eddsa.Pair signer.eddsa verifier.eddsa ∧ lib.mlDsa.Pair signer.mlDsa verifier.mlDsa

variable (lib : SignLibrary) {T : Type} (codec : Codec T)

def signCompactHybridPayload (rng : List UInt8 × List UInt8) (payload : T) (signer : HybridPrivateKeys) :
    Res String := do
  let header ← canonicalJsonV1 lib.serde headerCodec ⟨compactSignatureVersion⟩
  let payload ← canonicalJsonV1 lib.serde codec payload
  let signingInput := lib.base64.encode (Utf8.encode header) ++ "." ++ lib.base64.encode (Utf8.encode payload)
  let eddsaPrivateKey ← lib.eddsa.loadPrivateKeyDerHex signer.eddsa
  let mlDsaPrivateKey ← lib.mlDsa.loadPrivateKeyDerHex signer.mlDsa
  let eddsaSignature ← lib.eddsa.sign rng.1 eddsaPrivateKey signingInput
  let mlDsaSignature ← lib.mlDsa.sign rng.2 mlDsaPrivateKey signingInput
  let signature := signingInput ++ "." ++ lib.base64.encode eddsaSignature ++ "." ++ lib.base64.encode mlDsaSignature
  if signature.utf8ByteSize > compactSignatureMaxChars then
    .error (.internal "compact signature exceeds the maximum supported size")
  else .ok signature

structure CompactSignatureParts where
  header : String
  payload : String
  headerBytes : List UInt8
  payloadBytes : List UInt8
  eddsaSignatureBytes : List UInt8
  mlDsaSignatureBytes : List UInt8

def malformed : DynError := .invalidSignature "compact signature is malformed"

def decodeCompactSegment (segment : String) : Res (List UInt8) :=
  match lib.base64.decode segment with
  | some bytes => .ok bytes
  | none => .error (.invalidSignature "compact signature contains invalid base64url")

def splitCompactSignature (signature : String) : Res CompactSignatureParts :=
  if signature.isEmpty || signature.utf8ByteSize > compactSignatureMaxChars || !signature.toList.all isAscii ||
      signature.toList.any isWhitespace || signature.toList.any isControl then .error malformed
  else
    match splitDots signature with
    | [header, payload, eddsa, mlDsa] =>
      if header.isEmpty || payload.isEmpty || eddsa.isEmpty || mlDsa.isEmpty then .error malformed
      else do
        let headerBytes ← decodeCompactSegment lib (String.ofList header)
        let payloadBytes ← decodeCompactSegment lib (String.ofList payload)
        let eddsaBytes ← decodeCompactSegment lib (String.ofList eddsa)
        let mlDsaBytes ← decodeCompactSegment lib (String.ofList mlDsa)
        .ok ⟨String.ofList header, String.ofList payload, headerBytes, payloadBytes, eddsaBytes, mlDsaBytes⟩
    | _ => .error malformed

def parseCanonicalCompactSegment (bytes : List UInt8) : Res T :=
  match (Utf8.decode bytes).bind (lib.serde.fromStrAs codec) with
  | none => .error (.invalidSignature "compact signature contains invalid JSON")
  | some value => do
    let canonical ← canonicalJsonV1 lib.serde codec value
    if Utf8.encode canonical ≠ bytes then .error (.invalidSignature "compact signature JSON is not canonical")
    else .ok value

inductive CompactSignatureFailure
  | mlDsaFailed
  | edDsaFailed

inductive CompactSignatureVerification (T : Type)
  | valid (payload : T)
  | invalid (failure : CompactSignatureFailure)

def verifyCompactHybridSignatureWithPublicKeys (signature : String) (verifier : HybridPublicKeys) :
    Res (CompactSignatureVerification T) := do
  let parts ← splitCompactSignature lib signature
  let signingInput := parts.header ++ "." ++ parts.payload
  let mlDsaPublicKey ← lib.mlDsa.loadPublicKeyDerHex verifier.mlDsa
  if !(← lib.mlDsa.verify mlDsaPublicKey signingInput parts.mlDsaSignatureBytes) then .ok (.invalid .mlDsaFailed)
  else
    let eddsaPublicKey ← lib.eddsa.loadPublicKeyDerHex verifier.eddsa
    if !(← lib.eddsa.verify eddsaPublicKey signingInput parts.eddsaSignatureBytes) then .ok (.invalid .edDsaFailed)
    else
      let header ← parseCanonicalCompactSegment lib headerCodec parts.headerBytes
      if header.version ≠ compactSignatureVersion then
        .error (.invalidSignature "compact signature version is not supported")
      else
        let payload ← parseCanonicalCompactSegment lib codec parts.payloadBytes
        .ok (.valid payload)

/-- `verify_compact_hybrid_signature_with_public_keys_strict`. -/
def verifyStrict (signature : String) (verifier : HybridPublicKeys) : Res T := do
  match ← verifyCompactHybridSignatureWithPublicKeys lib codec signature verifier with
  | .valid payload => .ok payload
  | .invalid .mlDsaFailed => .error (.invalidSignature "compact signature ML-DSA verification failed")
  | .invalid .edDsaFailed => .error (.invalidSignature "compact signature EdDSA verification failed")

/-! ## Round trip -/

variable {lib codec}

theorem canonicalJsonV1_ok {serde : SerdeJson} {t : T} {text : String} (h : canonicalJsonV1 serde codec t = .ok text) :
    text = serde.toText (codec.toValue t) := by
  obtain ⟨-, -, h⟩ := Loop.bind_eq_ok.mp h
  exact (Except.ok.inj h).symm

theorem encode_canonical_ne {t : T} {text : String} (h : canonicalJsonV1 lib.serde codec t = .ok text)
    (hplain : (codec.toValue t).plain = true) : Utf8.encode text ≠ [] := by
  intro hempty
  refine render_ne_nil hplain (String.ofList_eq_empty_iff.mp ?_)
  rw [← lib.serde.toText_plain _ hplain, ← canonicalJsonV1_ok h]
  exact Utf8.encode_injective hempty

theorem parseCanonical_encode {t : T} {text : String} (h : canonicalJsonV1 lib.serde codec t = .ok text)
    (hplain : (codec.toValue t).plain = true) (hdepth : (codec.toValue t).depth < recursionLimit) :
    parseCanonicalCompactSegment lib codec (Utf8.encode text) = .ok t := by
  have hparse : lib.serde.fromStrAs codec text = some t := by
    rw [canonicalJsonV1_ok h]
    exact lib.serde.fromStrAs_toText codec t hplain (canonicalJsonV1_unreserved h) hdepth
  simp [parseCanonicalCompactSegment, hparse, h, bind, Except.bind]

/-- The characters of base64url are harmless ones. -/
def Safe (c : Char) : Prop := isAscii c = true ∧ isWhitespace c = false ∧ isControl c = false ∧ c ≠ '.'

instance (c : Char) : Decidable (Safe c) := inferInstanceAs (Decidable (_ ∧ _ ∧ _ ∧ _))

theorem base64UrlChar_safe {c : Char} (h : isBase64UrlChar c = true) : Safe c := by
  have hall : ∀ n : Fin 128, isBase64UrlChar (Char.ofNat n) = true → Safe (Char.ofNat n) := by decide
  have hlt : c.toNat < 128 := by
    simp only [isBase64UrlChar, isAsciiDigit, Bool.or_eq_true, Bool.and_eq_true, decide_eq_true_eq,
      UInt32.le_iff_toNat_le] at h
    rcases h with (((⟨-, h⟩ | ⟨-, h⟩) | ⟨-, h⟩) | rfl) | rfl
    · exact Nat.lt_of_le_of_lt h (by decide)
    · exact Nat.lt_of_le_of_lt h (by decide)
    · exact Nat.lt_of_le_of_lt h (by decide)
    · decide
    · decide
  have hc := hall ⟨c.toNat, hlt⟩
  rw [Char.ofNat_toNat] at hc
  exact hc h

theorem base64_ascii (bytes : List UInt8) : ∀ c ∈ (Base64Url.urlSafeNoPad.encode bytes).toList, Safe c := fun c hc =>
  base64UrlChar_safe (List.all_eq_true.mp (Base64Url.urlSafeNoPad.alphabet bytes) c hc)

theorem utf8ByteSize_base64 (bytes : List UInt8) :
    (Base64Url.urlSafeNoPad.encode bytes).utf8ByteSize = (4 * bytes.length + 2) / 3 := by
  have hascii : ∀ c ∈ (Base64Url.urlSafeNoPad.encode bytes).toList, c.val ≤ 127 := by
    intro c hc
    have hsafe := (base64_ascii bytes c hc).1
    simp only [isAscii, decide_eq_true_eq, UInt32.lt_iff_toNat_lt, UInt32.le_iff_toNat_le] at hsafe ⊢
    exact Nat.le_of_lt_succ hsafe
  rw [Utf8.utf8ByteSize_ascii hascii, ← Base64.length_encode]
  simp [Base64Url.urlSafeNoPad]

theorem encode_ne_nil {bytes : List UInt8} (h : bytes ≠ []) : (lib.base64.encode bytes).toList.isEmpty = false := by
  rw [List.isEmpty_eq_false_iff]
  intro hempty
  have henc : lib.base64.encode bytes = lib.base64.encode [] := by
    rw [lib.base64.encode_nil]
    exact String.toList_eq_nil_iff.mp hempty
  have hdec := lib.base64.decode_encode bytes
  rw [henc, lib.base64.decode_encode] at hdec
  exact h (Option.some.inj hdec).symm

/-- Four segments joined by dots are split into the four segments. -/
theorem splitCompactSignature_join {header payload eddsa mlDsa : List UInt8} (hheader : header ≠ [])
    (hpayload : payload ≠ []) (heddsa : eddsa ≠ []) (hmlDsa : mlDsa ≠ [])
    (hsize : (lib.base64.encode header ++ "." ++ lib.base64.encode payload ++ "." ++ lib.base64.encode eddsa ++ "." ++
      lib.base64.encode mlDsa).utf8ByteSize ≤ compactSignatureMaxChars) :
    splitCompactSignature lib (lib.base64.encode header ++ "." ++ lib.base64.encode payload ++ "." ++
      lib.base64.encode eddsa ++ "." ++ lib.base64.encode mlDsa) =
      .ok ⟨lib.base64.encode header, lib.base64.encode payload, header, payload, eddsa, mlDsa⟩ := by
  have hsafe : ∀ bytes, ∀ c ∈ (lib.base64.encode bytes).toList, Safe c := fun bytes c hc =>
    base64UrlChar_safe (List.all_eq_true.mp (lib.base64.alphabet bytes) c hc)
  have hdot : ∀ bytes, '.' ∉ (lib.base64.encode bytes).toList := fun bytes hc => (hsafe bytes '.' hc).2.2.2 rfl
  generalize hsig : lib.base64.encode header ++ "." ++ lib.base64.encode payload ++ "." ++
    lib.base64.encode eddsa ++ "." ++ lib.base64.encode mlDsa = signature at hsize
  have hlist : signature.toList = ['.'].intercalate [(lib.base64.encode header).toList,
      (lib.base64.encode payload).toList, (lib.base64.encode eddsa).toList, (lib.base64.encode mlDsa).toList] := by
    rw [← hsig]
    simp [List.intercalate]
  have hchars : ∀ c ∈ signature.toList, isAscii c = true ∧ isWhitespace c = false ∧ isControl c = false := by
    intro c hc
    rw [← hsig] at hc
    simp only [String.toList_append, List.mem_append] at hc
    rcases hc with (((((hc | hc) | hc) | hc) | hc) | hc) | hc
    all_goals
      first
      | exact ⟨(hsafe _ c hc).1, (hsafe _ c hc).2.1, (hsafe _ c hc).2.2.1⟩
      | (rw [List.mem_singleton.mp hc]; decide)
  have hsplit : splitDots signature = [(lib.base64.encode header).toList, (lib.base64.encode payload).toList,
      (lib.base64.encode eddsa).toList, (lib.base64.encode mlDsa).toList] := by
    rw [splitDots, hlist]
    exact List.splitOn_intercalate '.' (by simp [hdot]) (by simp)
  have hne : signature.isEmpty = false := by
    rw [Bool.eq_false_iff]
    intro hempty
    have hmem : '.' ∈ signature.toList := by rw [← hsig]; simp
    rw [String.isEmpty_iff.mp hempty] at hmem
    cases hmem
  have hascii : signature.toList.all isAscii = true := List.all_eq_true.mpr fun c hc => (hchars c hc).1
  have hspace : signature.toList.any isWhitespace = false :=
    List.any_eq_false.mpr fun c hc => by simp [(hchars c hc).2.1]
  have hcontrol : signature.toList.any isControl = false :=
    List.any_eq_false.mpr fun c hc => by simp [(hchars c hc).2.2]
  unfold splitCompactSignature
  rw [hne, hascii, hspace, hcontrol, hsplit, if_neg (by simpa using hsize)]
  simp [encode_ne_nil hheader, encode_ne_nil hpayload, encode_ne_nil heddsa, encode_ne_nil hmlDsa, decodeCompactSegment,
    lib.base64.decode_encode, bind, Except.bind]

/-- A signature verifies under the matching public keys, and gives the payload back. -/
theorem verify_sign {rng : List UInt8 × List UInt8} {payload : T} {signer : HybridPrivateKeys}
    {verifier : HybridPublicKeys} {signature : String} (hmatch : Matches lib signer verifier)
    (hplain : (codec.toValue payload).plain = true)
    (hdepth : (codec.toValue payload).depth < recursionLimit)
    (h : signCompactHybridPayload lib codec rng payload signer = .ok signature) :
    verifyStrict lib codec signature verifier = .ok payload := by
  obtain ⟨header, hheader, h⟩ := Loop.bind_eq_ok.mp h
  obtain ⟨body, hbody, h⟩ := Loop.bind_eq_ok.mp h
  obtain ⟨eddsaKey, heddsaKey, h⟩ := Loop.bind_eq_ok.mp h
  obtain ⟨mlDsaKey, hmlDsaKey, h⟩ := Loop.bind_eq_ok.mp h
  obtain ⟨eddsaSig, heddsaSig, h⟩ := Loop.bind_eq_ok.mp h
  obtain ⟨mlDsaSig, hmlDsaSig, h⟩ := Loop.bind_eq_ok.mp h
  obtain ⟨⟨eddsaPublic, hloadE, hpairE⟩, mlDsaPublic, hloadM, hpairM⟩ := hmatch
  obtain ⟨heddsaNe, hverifyE⟩ := hpairE eddsaKey heddsaKey _ _ _ heddsaSig
  obtain ⟨hmlDsaNe, hverifyM⟩ := hpairM mlDsaKey hmlDsaKey _ _ _ hmlDsaSig
  simp only at h
  split at h
  · cases h
  · rename_i hsize
    cases h
    have hsplit := splitCompactSignature_join (encode_canonical_ne hheader rfl) (encode_canonical_ne hbody hplain)
      heddsaNe hmlDsaNe (Nat.le_of_not_lt hsize)
    simp [verifyStrict, verifyCompactHybridSignatureWithPublicKeys, hsplit, hloadE, hloadM, hverifyE, hverifyM,
      parseCanonical_encode hheader rfl (by decide), parseCanonical_encode hbody hplain hdepth, bind, Except.bind]

end Vectis.Ops.Sign

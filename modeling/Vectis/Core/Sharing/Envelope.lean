import Vectis.Core.Canonical
import Vectis.Core.Envelope
import Vectis.Core.Sharing.Profile
import Vectis.Core.Sharing.Reconstruct

/-!
# Texts of shares

A share leaves the node as JSON in base64 with a tag over its other fields (`core/sharing.rs`).

- `decodeShare_encodeShare`: the set and the share are read back;
- `size_shareText`: the text is small enough for every profile, secret and name;
- `decodeShare_authentic`: a text that is accepted has the fields of one that was encoded.
-/

namespace Vectis.Core.Sharing

open Validation Profiles Mac Canonical Json

def sharingSetIdBytes : Nat := 16

def sharePrefix : String := "vectis-sss-v1."

def shareEnvelopeMaxChars : Nat := 16 * 1024

def shareVersion : String := "sss-v1"

/-- The fields that the tag covers. -/
structure UnsignedShareEnvelope where
  version : String
  setId : String
  profile : String
  kid : String
  threshold : UInt64
  shares : UInt64
  index : UInt8
  share : String
  deriving DecidableEq, Repr

structure ShareEnvelope extends UnsignedShareEnvelope where
  tag : String
  deriving DecidableEq, Repr

/-! ## JSON -/

def sizeField (n : Nat) : Option UInt64 := if n < 2 ^ 64 then some (UInt64.ofNat n) else none

def byteField (n : Nat) : Option UInt8 := if n < 2 ^ 8 then some (UInt8.ofNat n) else none

/-- The fields in the order of their names. -/
def UnsignedShareEnvelope.entries (e : UnsignedShareEnvelope) : List (String × Value) :=
  [("index", .number (.posInt e.index.toNat)), ("kid", .string e.kid), ("profile", .string e.profile),
    ("set_id", .string e.setId), ("share", .string e.share), ("shares", .number (.posInt e.shares.toNat)),
    ("threshold", .number (.posInt e.threshold.toNat)), ("version", .string e.version)]

def unsignedShareCodec : Codec UnsignedShareEnvelope where
  toValue e := .object e.entries
  fromValue
    | .object [("index", .number (.posInt index)), ("kid", .string kid), ("profile", .string profile),
        ("set_id", .string setId), ("share", .string share), ("shares", .number (.posInt shares)),
        ("threshold", .number (.posInt threshold)), ("version", .string version)] => do
      some ⟨version, setId, profile, kid, ← sizeField threshold, ← sizeField shares, ← byteField index, share⟩
    | _ => none
  fromValue_toValue e := by
    simp [UnsignedShareEnvelope.entries, sizeField, byteField, e.threshold.toNat_lt, e.shares.toNat_lt,
      e.index.toNat_lt]

def shareCodec : Codec ShareEnvelope where
  toValue e := .object [("index", .number (.posInt e.index.toNat)), ("kid", .string e.kid),
    ("profile", .string e.profile), ("set_id", .string e.setId), ("share", .string e.share),
    ("shares", .number (.posInt e.shares.toNat)),
    ("tag", .string e.tag), ("threshold", .number (.posInt e.threshold.toNat)), ("version", .string e.version)]
  fromValue
    | .object [("index", .number (.posInt index)), ("kid", .string kid), ("profile", .string profile),
        ("set_id", .string setId), ("share", .string share), ("shares", .number (.posInt shares)), ("tag", .string tag),
        ("threshold", .number (.posInt threshold)), ("version", .string version)] => do
      some ⟨⟨version, setId, profile, kid, ← sizeField threshold, ← sizeField shares, ← byteField index, share⟩, tag⟩
    | _ => none
  fromValue_toValue e := by
    simp [sizeField, byteField, e.threshold.toNat_lt, e.shares.toNat_lt, e.index.toNat_lt]

/-- `serde_json::Value`, which is its own value. -/
def valueCodec : Codec Value where
  toValue := id
  fromValue := some
  fromValue_toValue _ := rfl

/-! ## Encoding and decoding -/

/-- What splitting and combining read of a profile. -/
def KeyedSharingProfile.sharing (profile : KeyedSharingProfile) : SharingProfile :=
  ⟨profile.threshold.toNat, profile.shares.toNat, profile.maxSecretLen.toNat⟩

def KeyedSharingProfile.usesKmac (profile : KeyedSharingProfile) : Bool := isKmacAlgorithm profile.publicAlgorithm

/-- `URL_SAFE_NO_PAD`. -/
def urlSafe (bytes : List UInt8) : String := String.ofList (Base64.encode bytes)

/-- The bytes are what `random_bytes` gives. -/
def newSetId (random : Res (List UInt8)) : Res String := do
  let bytes ← random
  .ok (urlSafe bytes)

def validateSetId (setId : String) : Res Unit :=
  match Base64.decode setId.toList with
  | none => .error (.invalidInput "set_id contains invalid sharing encoding")
  | some decoded =>
    if decoded.length ≠ sharingSetIdBytes then .error (.invalidInput "set_id length does not match sharing format")
    else .ok ()

def validateShareIndex (profile : KeyedSharingProfile) (index : UInt8) : Res Unit :=
  if index = 0 || index.toNat > profile.shares.toNat then
    .error (.invalidInput "share index is outside sharing profile range")
  else .ok ()

def validateRawShare (profile : KeyedSharingProfile) (share : RawShare) : Res Unit := do
  validateShareIndex profile share.index
  if share.value.isEmpty || share.value.length > profile.maxSecretLen.toNat then
    .error (.invalidInput "share payload length does not match sharing profile")
  else .ok ()

def validateEnvelope (profile : KeyedSharingProfile) (envelope : ShareEnvelope) : Res Unit :=
  if envelope.version ≠ shareVersion then .error (.invalidInput "share version is not supported")
  else do
    validateSetId envelope.setId
    if envelope.profile ≠ profile.name then .error (.invalidInput "share profile does not match sharing profile")
    else if envelope.kid ≠ profile.kid then .error (.invalidInput "share kid does not match sharing profile")
    else if envelope.threshold ≠ profile.threshold || envelope.shares ≠ profile.shares then
      .error (.invalidInput "share threshold does not match sharing profile")
    else validateShareIndex profile envelope.index

section Texts

variable (lib : TagLib) (serde : SerdeJson)

def computeTag (profile : KeyedSharingProfile) (unsigned : UnsignedShareEnvelope) : Res (List UInt8) := do
  let payload ← canonicalJsonV1 serde unsignedShareCodec unsigned
  computeKeyedTag lib profile.usesKmac profile.botanAlgorithm profile.shareAuthKey profile.customization
    (Utf8.encode payload)

/-- The fields of a share of the profile. -/
def KeyedSharingProfile.unsigned (profile : KeyedSharingProfile) (setId : String) (share : RawShare) :
    UnsignedShareEnvelope :=
  ⟨shareVersion, setId, profile.name, profile.kid, profile.threshold, profile.shares, share.index, urlSafe share.value⟩

def encodeShare (profile : KeyedSharingProfile) (setId : String) (share : RawShare) : Res String := do
  validateSetId setId
  validateRawShare profile share
  let unsigned := profile.unsigned setId share
  let tag ← computeTag lib serde profile unsigned
  let envelope := Value.object (insertEntry "tag" (.string (Hex.encode tag)) unsigned.entries)
  let encoded ← canonicalJsonV1 serde valueCodec envelope
  .ok (sharePrefix ++ urlSafe (Utf8.encode encoded))

def parseShareEnvelope (encoded : String) : Res ShareEnvelope :=
  if encoded.utf8ByteSize > shareEnvelopeMaxChars then .error (.invalidInput "share exceeds maximum allowed length")
  else if ¬ sharePrefix.toList.isPrefixOf encoded.toList then
    .error (.invalidInput "share must use vectis-sss-v1 encoding")
  else
    match Base64.decode (encoded.toList.drop sharePrefix.toList.length) with
    | none => .error (.invalidInput "share contains invalid vectis-sss-v1 encoding")
    | some bytes =>
      match (Utf8.decode bytes).bind (serde.fromStrAs shareCodec) with
      | none => .error (.invalidInput "share contains invalid vectis-sss-v1 envelope")
      | some envelope => .ok envelope

/-- `hex::decode` of the tag. -/
def decodeTag (tag : String) : Res (List UInt8) :=
  (hexDecode tag).mapError fun _ => .invalidInput "share tag contains invalid encoding"

def decodeShareValue (share : String) : Res (List UInt8) :=
  match Base64.decode share.toList with
  | some value => .ok value
  | none => .error (.invalidInput "share payload contains invalid encoding")

def decodeShare (profile : KeyedSharingProfile) (encoded : String) : Res (String × RawShare) := do
  let envelope ← parseShareEnvelope serde encoded
  validateEnvelope profile envelope
  let expected ← computeTag lib serde profile { envelope.toUnsignedShareEnvelope with version := shareVersion }
  let actual ← decodeTag envelope.tag
  if expected ≠ actual then .error (.invalidInput "share authentication failed")
  else
    let value ← decodeShareValue envelope.share
    let share : RawShare := ⟨envelope.index, value⟩
    validateRawShare profile share
    .ok (envelope.setId, share)

end Texts

/-! ## Accepted profiles -/

/-- What holds of an accepted profile. -/
structure SharingOk (profile : KeyedSharingProfile) : Prop where
  name : validateAadConfigName "sharing_profiles.name" profile.name = .ok ()
  kid : Ops.Keys.validateKeyId profile.kid = .ok ()
  threshold : validateThreshold profile.threshold.toNat profile.shares.toNat = .ok ()
  maxSecretLen : profile.maxSecretLen.toNat ≤ sharingSecretMaxBytes
  key : profile.shareAuthKey.length = macKeySizeBytes
  algorithm : ∃ hash, resolveMacAlgorithm hash = .ok ⟨profile.publicAlgorithm, profile.botanAlgorithm⟩

theorem sharingOk_of_validate {hkdf : Hkdf} (hsized : Sized hkdf) {hooks : TagHooks} (hresolved : hooks.Resolved)
    {inputs : List SharingProfileInput} {state : ProfilesState KeyedSharingProfile}
    (h : validateSharingProfiles hkdf hooks inputs = .ok state) {profile : KeyedSharingProfile}
    (hmem : profile ∈ state.profiles) : SharingOk profile := by
  obtain ⟨profiles, hprofiles, h⟩ := Loop.bind_eq_ok.mp h
  cases h
  obtain ⟨input, -, seen, hround⟩ := Loop.mem_collect hprofiles profile hmem
  rw [validateSharingProfile, Loop.bind_unit_eq_ok, Loop.bind_unit_eq_ok, Loop.bind_unit_eq_ok,
    validateProfileKid_ok_iff] at hround
  obtain ⟨hfields, ⟨hkid, -⟩, -, hround⟩ := hround
  rw [validateSharingProfileFields, Loop.bind_unit_eq_ok, Loop.bind_unit_eq_ok, Loop.bind_unit_eq_ok,
    validateMaxSecretLen, Loop.guard_eq_ok, Loop.guard_eq_ok] at hfields
  obtain ⟨hname, -, hthreshold, -, hmax, -⟩ := hfields
  obtain ⟨keys, hkeys, hround⟩ := Loop.bind_eq_ok.mp hround
  cases hround
  obtain ⟨hkey, halgorithm⟩ := deriveTagKeys_ok hsized hresolved hkeys
  exact ⟨hname, hkid, hthreshold, Nat.le_of_not_lt hmax, hkey, halgorithm⟩

/-! ## Canonical texts -/

section Canonical

variable {serde : SerdeJson}

theorem unsigned_plain (e : UnsignedShareEnvelope) : (Value.object e.entries).plain = true := by
  have hindex : e.index.toNat < 2 ^ 64 := Nat.lt_trans e.index.toNat_lt (by decide)
  simp only [UnsignedShareEnvelope.entries, Value.plain, plainEntries, plainEntry, Number.plain, hindex,
    e.shares.toNat_lt, e.threshold.toNat_lt, decide_true, Bool.true_and, Bool.and_true]
  rfl

theorem share_plain (e : ShareEnvelope) : (shareCodec.toValue e).plain = true := by
  have hindex : e.index.toNat < 2 ^ 64 := Nat.lt_trans e.index.toNat_lt (by decide)
  simp only [shareCodec, Value.plain, plainEntries, plainEntry, Number.plain, hindex, e.shares.toNat_lt,
    e.threshold.toNat_lt, decide_true, Bool.true_and, Bool.and_true]
  rfl

theorem share_depth (e : ShareEnvelope) : (shareCodec.toValue e).depth < recursionLimit := by
  simp [shareCodec, Value.depth, depthEntries, depthEntry, recursionLimit]

theorem canonical_unsigned (e : UnsignedShareEnvelope) :
    canonicalJsonV1 serde unsignedShareCodec e = .ok (serde.toText (.object e.entries)) := rfl

/-- The tag is inserted among the other fields. -/
theorem insert_tag (e : ShareEnvelope) :
    .object (insertEntry "tag" (.string e.tag) e.toUnsignedShareEnvelope.entries) = shareCodec.toValue e := rfl

theorem canonical_share (e : ShareEnvelope) :
    canonicalJsonV1 serde valueCodec (shareCodec.toValue e) = .ok (serde.toText (shareCodec.toValue e)) := rfl

/-- Fields of one text are equal. -/
theorem canonical_unsigned_injective {e e' : UnsignedShareEnvelope} {text : String}
    (h : canonicalJsonV1 serde unsignedShareCodec e = .ok text) (h' : canonicalJsonV1 serde unsignedShareCodec e' =
      .ok text) :
    e = e' := by
  rw [canonical_unsigned, Except.ok.injEq] at h h'
  have hvalue := toText_injective (unsigned_plain e) (unsigned_plain e') (h.trans h'.symm)
  have hfrom := unsignedShareCodec.fromValue_toValue e
  rw [show unsignedShareCodec.toValue e = unsignedShareCodec.toValue e' from hvalue,
    unsignedShareCodec.fromValue_toValue e'] at hfrom
  exact (Option.some.inj hfrom).symm

end Canonical

/-! ## Sizes -/

theorem sextet_written : ∀ n : Fin 64, (escapeChar (Base64.sextet n) = [Base64.sextet n] ∧
    (Base64.sextet n).utf8Size = 1) ∧
    isAscii (Base64.sextet n) = true := by decide

theorem bytes_urlSafe (bytes : List UInt8) :
    Json.bytes (Value.string (urlSafe bytes)).render = (4 * bytes.length + 2) / 3 + 2 := by
  rw [Value.render, bytes_renderString_plain, ← String.length_toList, urlSafe, String.toList_ofList,
    Base64.length_encode]
  intro c hc
  rw [urlSafe, String.toList_ofList] at hc
  obtain ⟨n, rfl⟩ := Base64.encode_chars bytes c hc
  exact (sextet_written n).1

theorem utf8ByteSize_urlSafe (bytes : List UInt8) : (urlSafe bytes).utf8ByteSize = (4 * bytes.length + 2) / 3 := by
  rw [Utf8.utf8ByteSize_ascii, urlSafe, String.toList_ofList, Base64.length_encode]
  intro c hc
  rw [urlSafe, String.toList_ofList] at hc
  obtain ⟨n, rfl⟩ := Base64.encode_chars bytes c hc
  have hascii := (sextet_written n).2
  simp only [isAscii, decide_eq_true_eq] at hascii
  exact UInt32.le_iff_toNat_le.mpr (Nat.le_of_lt_succ (UInt32.lt_iff_toNat_lt.mp hascii))

section Round

variable {lib : TagLib} {serde : SerdeJson} {profile : KeyedSharingProfile} {setId tag : List UInt8} {share : RawShare}

/-- The envelope of a share. -/
def KeyedSharingProfile.signed (profile : KeyedSharingProfile) (setId : String) (share : RawShare) (tag : List UInt8) :
    ShareEnvelope := ⟨profile.unsigned setId share, Hex.encode tag⟩

/-- The text of a share. -/
def shareText (serde : SerdeJson) (envelope : ShareEnvelope) : String :=
  sharePrefix ++ urlSafe (Utf8.encode (serde.toText (shareCodec.toValue envelope)))

theorem size_envelope (hok : SharingOk profile) (hset : setId.length = sharingSetIdBytes) (htag : tag.length ≤ 64)
    (hshare : share.value.length ≤ profile.maxSecretLen.toNat) :
    Json.bytes (shareCodec.toValue (profile.signed (urlSafe setId) share tag)).render ≤ 8192 := by
  have hname := validateBoundedTextField_ok_iff.mp (validateAadConfigName_ok_iff.mp hok.name).1
  have hprofile := entryBytes_le (show shortKey "profile" = true by rfl) (bytes_clean hname.1.2 hname.2)
  have hkid := entryBytes_le (show shortKey "kid" = true by rfl) (bytes_hex (validateInternalHash_ok_iff.mp hok.kid))
  have hindex := entryBytes_le (show shortKey "index" = true by rfl)
    (bytes_nat (Nat.lt_trans share.index.toNat_lt (by decide)))
  have hshares := entryBytes_le (show shortKey "shares" = true by rfl) (bytes_nat profile.shares.toNat_lt)
  have hthreshold := entryBytes_le (show shortKey "threshold" = true by rfl) (bytes_nat profile.threshold.toNat_lt)
  have hsetId := entryBytes_le (show shortKey "set_id" = true by rfl) (Nat.le_of_eq (bytes_urlSafe setId))
  have hvalue := entryBytes_le (show shortKey "share" = true by rfl) (Nat.le_of_eq (bytes_urlSafe share.value))
  have hhex : Json.bytes (Value.string (Hex.encode tag)).render ≤ 4 * (2 * tag.length) + 2 :=
    bytes_hex ⟨utf8ByteSize_hexEncode tag, List.all_eq_true.mpr fun c hc => hexdigit_encode hc⟩
  have htagBytes := entryBytes_le (show shortKey "tag" = true by rfl) hhex
  have hversion : entryBytes ("version", .string shareVersion) ≤ 32 := by decide
  have hmax := hok.maxSecretLen
  refine Nat.le_trans (bytes_object _) ?_
  simp only [KeyedSharingProfile.signed, KeyedSharingProfile.unsigned, List.map_cons, List.map_nil, List.sum_cons,
    List.sum_nil]
  simp only [configNameMaxChars, sharingSetIdBytes, sharingSecretMaxBytes] at hprofile hset hmax
  omega

/-- The text is small enough for every profile, secret and name. -/
theorem size_shareText (hok : SharingOk profile) (hset : setId.length = sharingSetIdBytes) (htag : tag.length ≤ 64)
    (hshare : share.value.length ≤ profile.maxSecretLen.toNat) :
    (shareText serde (profile.signed (urlSafe setId) share tag)).utf8ByteSize ≤ shareEnvelopeMaxChars := by
  have hbytes := @size_envelope profile setId tag share hok hset htag hshare
  have hsharePrefix : sharePrefix.utf8ByteSize = 14 := by rfl
  rw [shareText, String.utf8ByteSize_append, hsharePrefix, utf8ByteSize_urlSafe, Utf8.length_encode,
    serde.toText_plain _ (share_plain _), Utf8.utf8ByteSize_ofList, shareEnvelopeMaxChars]
  simp only [Json.bytes] at hbytes
  omega

theorem validateSetId_urlSafe (hset : setId.length = sharingSetIdBytes) : validateSetId (urlSafe setId) = .ok () := by
  simp [validateSetId, urlSafe, Base64.decode_encode, hset]

theorem validateRawShare_ok_iff : validateRawShare profile share = .ok () ↔
    validateShareIndex profile share.index = .ok () ∧ share.value ≠ [] ∧
      share.value.length ≤ profile.maxSecretLen.toNat := by
  unfold validateRawShare
  rw [Loop.bind_unit_eq_ok, Loop.guard_eq_ok]
  simp

/-- A tag of a profile. -/
theorem computeTag_ok (htotal : lib.Total) (hok : SharingOk profile) (unsigned : UnsignedShareEnvelope) :
    ∃ tag, computeTag lib serde profile unsigned = .ok tag ∧ tag.length ≤ 64 := by
  obtain ⟨hash, hresolved⟩ := hok.algorithm
  obtain ⟨tag, htag, hlength⟩ := htotal hash _ profile.shareAuthKey profile.customization
    (Utf8.encode (serde.toText (.object unsigned.entries))) hresolved hok.key
  refine ⟨tag, ?_, hlength⟩
  rw [computeTag, canonical_unsigned]
  exact htag

theorem encodeShare_ok {text : String} : encodeShare lib serde profile (urlSafe setId) share = .ok text ↔
    validateSetId (urlSafe setId) = .ok () ∧ validateRawShare profile share = .ok () ∧
      ∃ tag, computeTag lib serde profile (profile.unsigned (urlSafe setId) share) = .ok tag ∧
        text = shareText serde (profile.signed (urlSafe setId) share tag) := by
  rw [encodeShare, Loop.bind_unit_eq_ok, Loop.bind_unit_eq_ok, Loop.bind_eq_ok]
  refine and_congr_right fun _ => and_congr_right fun _ => exists_congr fun tag => and_congr_right fun _ => ?_
  have hinsert := insert_tag (profile.signed (urlSafe setId) share tag)
  simp only [KeyedSharingProfile.signed] at hinsert
  dsimp only
  rw [hinsert, canonical_share]
  exact ⟨fun h => (Except.ok.inj h).symm, fun h => congrArg Except.ok h.symm⟩

theorem parseShareEnvelope_shareText {envelope : ShareEnvelope}
    (hsize : (shareText serde envelope).utf8ByteSize ≤ shareEnvelopeMaxChars) :
    parseShareEnvelope serde (shareText serde envelope) = .ok envelope := by
  have hlist : (shareText serde envelope).toList =
      sharePrefix.toList ++ Base64.encode (Utf8.encode (serde.toText (shareCodec.toValue envelope))) := by
    rw [shareText, String.toList_append, urlSafe, String.toList_ofList]
  have hread := serde.fromStrAs_toText shareCodec envelope (share_plain envelope) rfl (share_depth envelope)
  unfold parseShareEnvelope
  rw [if_neg (Nat.not_lt.mpr hsize), hlist, if_neg (by simp), List.drop_left, Base64.decode_encode]
  simp only [Utf8.decode_encode, Option.bind_some, hread]

/-- What is read from the text of a share that the profile accepts. -/
theorem decodeShare_shareText (hset : setId.length = sharingSetIdBytes)
    (hshare : validateRawShare profile share = .ok ())
    (htag : computeTag lib serde profile (profile.unsigned (urlSafe setId) share) = .ok tag)
    (hsize : (shareText serde (profile.signed (urlSafe setId) share tag)).utf8ByteSize ≤ shareEnvelopeMaxChars) :
    decodeShare lib serde profile (shareText serde (profile.signed (urlSafe setId) share tag)) =
      .ok (urlSafe setId, share) := by
  have hindex := (validateRawShare_ok_iff.mp hshare).1
  have henvelope : validateEnvelope profile (profile.signed (urlSafe setId) share tag) = .ok () := by
    simp [validateEnvelope, KeyedSharingProfile.signed, KeyedSharingProfile.unsigned, validateSetId_urlSafe hset,
      hindex, bind, Except.bind]
  have hvalue : decodeShareValue (urlSafe share.value) = .ok share.value := by
    simp [decodeShareValue, urlSafe, Base64.decode_encode]
  have hdecode : decodeTag (Hex.encode tag) = .ok tag := by
    simp [decodeTag, hexDecode, Hex.decode_encode, Loop.mapError_ok]
  unfold KeyedSharingProfile.unsigned at htag
  unfold decodeShare
  rw [parseShareEnvelope_shareText hsize]
  simp only [bind, Except.bind, henvelope]
  simp only [KeyedSharingProfile.signed, KeyedSharingProfile.unsigned, htag, hdecode, ne_eq, not_true_eq_false,
    if_false, hvalue, hshare]

/-- The set and the share are read back. -/
theorem decodeShare_encodeShare (htotal : lib.Total) (hok : SharingOk profile) (hset : setId.length = sharingSetIdBytes)
    (hshare : validateRawShare profile share = .ok ()) :
    ∃ text, encodeShare lib serde profile (urlSafe setId) share = .ok text ∧ text.utf8ByteSize ≤ shareEnvelopeMaxChars ∧
      decodeShare lib serde profile text = .ok (urlSafe setId, share) := by
  obtain ⟨tag, htag, hlength⟩ :=
    @computeTag_ok lib serde profile htotal hok (profile.unsigned (urlSafe setId) share)
  have hsize := @size_shareText serde profile setId tag share hok hset hlength (validateRawShare_ok_iff.mp hshare).2.2
  exact ⟨_, encodeShare_ok.mpr ⟨validateSetId_urlSafe hset, hshare, tag, htag, rfl⟩, hsize,
    decodeShare_shareText hset hshare htag hsize⟩

end Round

/-! ## Accepted texts -/

/-- A call of `encode_share`. -/
structure EncodeCall where
  profile : KeyedSharingProfile
  setId : String
  share : RawShare
  deriving DecidableEq, Repr

/-- What the tag of a payload is computed from. -/
def KeyedSharingProfile.query (profile : KeyedSharingProfile) (serde : SerdeJson) (unsigned : UnsignedShareEnvelope) :
    TagQuery :=
  ⟨profile.botanAlgorithm, profile.shareAuthKey, if profile.usesKmac then some profile.customization else none,
    Utf8.encode (serde.toText (.object unsigned.entries))⟩

def EncodeCall.query (call : EncodeCall) (serde : SerdeJson) : TagQuery :=
  call.profile.query serde (call.profile.unsigned call.setId call.share)

/-- The fields of an envelope that the tag covers. -/
def ShareEnvelope.covered (envelope : ShareEnvelope) : UnsignedShareEnvelope :=
  { envelope.toUnsignedShareEnvelope with version := shareVersion }

/-- Nobody else knows a tag: a text with the tag of its fields has one that `encode_share` computed from the same
query. -/
def Unforged (lib : TagLib) (serde : SerdeJson) (calls : Set EncodeCall) (texts : Set String) : Prop :=
  ∀ text ∈ texts, ∀ (profile : KeyedSharingProfile) (envelope : ShareEnvelope) (tag : List UInt8),
    parseShareEnvelope serde text = .ok envelope → computeTag lib serde profile envelope.covered = .ok tag →
      decodeTag envelope.tag = .ok tag → ∃ call ∈ calls, call.query serde = profile.query serde envelope.covered

theorem query_injective {serde : SerdeJson} {profile profile' : KeyedSharingProfile} {e e' : UnsignedShareEnvelope}
    (h : profile.query serde e = profile'.query serde e') : e = e' := by
  have htext := Utf8.encode_injective (congrArg TagQuery.payload h)
  exact canonical_unsigned_injective (canonical_unsigned e) (htext ▸ canonical_unsigned e')

/-- What is known of an accepted text. -/
theorem decodeShare_ok {lib : TagLib} {serde : SerdeJson} {profile : KeyedSharingProfile} {text setId : String}
    {share : RawShare} (h : decodeShare lib serde profile text = .ok (setId, share)) :
    ∃ envelope tag, parseShareEnvelope serde text = .ok envelope ∧ validateEnvelope profile envelope = .ok () ∧
      computeTag lib serde profile envelope.covered = .ok tag ∧ decodeTag envelope.tag = .ok tag ∧
      envelope.setId = setId ∧ envelope.index = share.index ∧ decodeShareValue envelope.share = .ok share.value := by
  obtain ⟨envelope, hparse, h⟩ := Loop.bind_eq_ok.mp h
  rw [Loop.bind_unit_eq_ok] at h
  obtain ⟨henvelope, h⟩ := h
  obtain ⟨expected, hexpected, h⟩ := Loop.bind_eq_ok.mp h
  obtain ⟨actual, hactual, h⟩ := Loop.bind_eq_ok.mp h
  obtain ⟨hsame, h⟩ := Loop.guard_eq_ok.mp h
  obtain ⟨value, hvalue, h⟩ := Loop.bind_eq_ok.mp h
  rw [Loop.bind_unit_eq_ok] at h
  obtain ⟨-, h⟩ := h
  cases h
  obtain rfl := Decidable.not_not.mp hsame
  exact ⟨envelope, expected, hparse, henvelope, hexpected, hactual, rfl, rfl, hvalue⟩

theorem validateEnvelope_ok {profile : KeyedSharingProfile} {envelope : ShareEnvelope}
    (h : validateEnvelope profile envelope = .ok ()) : envelope.profile = profile.name ∧ envelope.kid = profile.kid ∧
      envelope.threshold = profile.threshold ∧ envelope.shares = profile.shares := by
  obtain ⟨-, h⟩ := Loop.guard_eq_ok.mp h
  rw [Loop.bind_unit_eq_ok, Loop.guard_eq_ok, Loop.guard_eq_ok, Loop.guard_eq_ok] at h
  obtain ⟨-, hname, hkid, hcounts, -⟩ := h
  simp only [Bool.or_eq_true, decide_eq_true_eq, not_or, ne_eq, Decidable.not_not] at hname hkid hcounts
  exact ⟨hname, hkid, hcounts⟩

/-- A text that is accepted has the fields of one that was encoded. -/
theorem decodeShare_authentic {lib : TagLib} {serde : SerdeJson} {calls : Set EncodeCall} {texts : Set String}
    (hunforged : Unforged lib serde calls texts) {profile : KeyedSharingProfile} {text setId : String}
    (htext : text ∈ texts)
    {share : RawShare} (h : decodeShare lib serde profile text = .ok (setId, share)) :
    ∃ call ∈ calls, call.setId = setId ∧ call.share = share ∧ call.profile.name = profile.name ∧
      call.profile.kid = profile.kid ∧ call.profile.threshold = profile.threshold ∧
      call.profile.shares = profile.shares := by
  obtain ⟨envelope, tag, hparse, henvelope, htag, hdecode, hset, hindex, hvalue⟩ := decodeShare_ok h
  obtain ⟨call, hcall, hquery⟩ := hunforged text htext profile envelope tag hparse htag hdecode
  obtain ⟨hname, hkid, hthreshold, hshares⟩ := validateEnvelope_ok henvelope
  have hfields := query_injective hquery
  simp only [KeyedSharingProfile.unsigned, ShareEnvelope.covered, UnsignedShareEnvelope.mk.injEq, true_and] at hfields
  obtain ⟨hset', hname', hkid', hthreshold', hshares', hindex', hshare'⟩ := hfields
  refine ⟨call, hcall, hset'.trans hset, ?_, hname'.trans hname, hkid'.trans hkid, hthreshold'.trans hthreshold,
    hshares'.trans hshares⟩
  rw [← hshare', decodeShareValue, urlSafe, String.toList_ofList, Base64.decode_encode] at hvalue
  obtain ⟨index, value⟩ := share
  obtain ⟨profile', setId', ⟨index', value'⟩⟩ := call
  simp only [Except.ok.injEq] at hvalue hindex hindex'
  rw [hindex', hindex, hvalue]

end Vectis.Core.Sharing

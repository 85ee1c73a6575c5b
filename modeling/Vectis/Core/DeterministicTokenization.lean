import Vectis.Core.Mac
import Vectis.Ops.Sign

/-!
# Deterministic tokens

A token is a context in base64, a dot, and a text encrypted under that context in base64
(`core/deterministic_tokenization.rs`). AES-SIV and the derivation of keys are parameters.

- `decode_ok_iff`: a token is accepted when it is the one spelling (`tokenOf`) of the context of the profile and of a
  ciphertext that decrypts to text;
- `aad_injective`: the context determines the kid, the name, the labels and the subject;
- `tokens_bijective`: texts and accepted tokens of a context correspond to each other, and contexts share no token.
-/

namespace Vectis.Core.DeterministicTokenization

open Validation Profiles Canonical Json Mac Ops.Keys Ops.Sign

/-! ## Profiles -/

def plaintextMaxChars : Nat := 16384

def tokenMaxChars : Nat := 131072

def keyBytes : Nat := 64

def hkdfSalt : List UInt8 := bytesOf "vectis/tokenization/deterministic/v1"

def version : String := "token-deterministic-v1"

structure DeterministicTokenProfileInput where
  name : String
  kid : String
  context : String
  minPlaintextLen : UInt64
  maxPlaintextLen : UInt64
  subjectMode : SubjectMode
  deriving DecidableEq, Repr

structure DeterministicTokenProfile where
  input : DeterministicTokenProfileInput
  key : List UInt8
  deriving DecidableEq, Repr

namespace DeterministicTokenProfile

def kid (profile : DeterministicTokenProfile) : String := profile.input.kid

def name (profile : DeterministicTokenProfile) : String := profile.input.name

def subjectMode (profile : DeterministicTokenProfile) : SubjectMode := profile.input.subjectMode

def validatePlaintext (profile : DeterministicTokenProfile) (text : String) : Res Unit :=
  if text.length < profile.input.minPlaintextLen.toNat || text.length > profile.input.maxPlaintextLen.toNat then
    .error (.invalidInput "plaintext length is outside deterministic token profile bounds")
  else .ok ()

end DeterministicTokenProfile

/-- The map from names to profiles, whose names are distinct. -/
structure DeterministicTokenProfilesState where
  profiles : List DeterministicTokenProfile
  deriving DecidableEq, Repr

def DeterministicTokenProfilesState.get (state : DeterministicTokenProfilesState) (name : String) :
    Option DeterministicTokenProfile :=
  state.profiles.find? fun profile => profile.name = name

structure DeterministicTokenKeyDerivationRequest where
  profileName : String
  kid : String
  context : String

/-- One round of the loop over the profiles. -/
def validateProfile (loaded : String → Bool) (derive : DeterministicTokenKeyDerivationRequest → Res (List UInt8))
    (seenNames : List String) (input : DeterministicTokenProfileInput) : Res DeterministicTokenProfile := do
  validateAadConfigName "deterministic_tokenization_profiles.name" input.name
  validateKeyId input.kid
  validateMacProfileFields input.name input.context
  if input.minPlaintextLen.toNat = 0 || input.minPlaintextLen.toNat > input.maxPlaintextLen.toNat ||
      input.maxPlaintextLen.toNat > plaintextMaxChars then
    .error (.invalidInput
      "deterministic token profile lengths must satisfy 1 <= min_plaintext_len <= max_plaintext_len <= 16384")
  else if input.name ∈ seenNames then .error (.invalidInput "duplicate deterministic token profile name")
  else if !loaded input.kid then .error (.invalidInput "deterministic token profile kid is not loaded")
  else
    let key ← derive ⟨input.name, input.kid, input.context⟩
    if key.length ≠ keyBytes then .error (.internal "invalid deterministic token key length")
    else .ok ⟨input, key⟩

def validateProfiles (loaded : String → Bool) (derive : DeterministicTokenKeyDerivationRequest → Res (List UInt8))
    (inputs : List DeterministicTokenProfileInput) : Res DeterministicTokenProfilesState := do
  let profiles ← Loop.collect (validateProfile loaded derive) DeterministicTokenProfileInput.name [] inputs
  .ok ⟨profiles⟩

def deriveProfileKey (hkdf : Hkdf) (parentHex : String) (request : DeterministicTokenKeyDerivationRequest) :
    Res (List UInt8) := do
  validateAadConfigName "deterministic_tokenization_profiles.name" request.profileName
  validateKeyId request.kid
  let info ← buildMacDomainAad [("purpose", "token-deterministic-data"), ("profile", request.profileName),
    ("kid", request.kid), ("tokenization_version", version)] request.context
  let parent ← hexDecode parentHex
  hkdf parent hkdfSalt (bytesOf info) keyBytes

/-! ## Contexts -/

/-- `TokenContext`, with its fields in the order of their names; a missing subject is left out. -/
def tokenContext (kid profile context : String) (subject : Option String) : Value :=
  .object ([("context", .string context), ("kid", .string kid), ("profile", .string profile),
    ("purpose", .string "token-deterministic")] ++
    (match subject with | some subject => [("subject", .string subject)] | none => []) ++ [("version", .string "v1")])

structure DeterministicTokenContext where
  profile : DeterministicTokenProfile
  subject : Option String
  childKey : Option (List UInt8)
  aad : List UInt8
  deriving DecidableEq, Repr

def validateSubjectMode (profile : DeterministicTokenProfile) (subject : Option String) : Res Unit := do
  match subject with
  | some subject => validateSubject subject
  | none => .ok ()
  match profile.subjectMode, subject with
  | .stored, none => .error (.invalidInput "subject is required for stored deterministic token profiles")
  | .none, some _ => .error (.invalidInput "subject is prohibited for none deterministic token profiles")
  | _, _ => .ok ()

/-- AES-256 in SIV mode. -/
structure Siv where
  encrypt : (key aad plaintext : List UInt8) → Res (List UInt8)
  decrypt : (key aad ciphertext : List UInt8) → Res (List UInt8)

/-- What the origin of a seed is checked for. -/
structure SeedOrigin where
  kid : String
  subjectMode : SubjectMode

namespace DeterministicTokenContext

def build (serde : SerdeJson) (profile : DeterministicTokenProfile) (subject : Option String)
    (childKey : Option (List UInt8)) : Res DeterministicTokenContext := do
  let aad ← canonicalJson serde (tokenContext profile.kid profile.name profile.input.context subject)
  .ok ⟨profile, subject, childKey, Utf8.encode aad⟩

def new (serde : SerdeJson) (profile : DeterministicTokenProfile) : Res DeterministicTokenContext := do
  validateSubjectMode profile none
  build serde profile none none

/-- The seed is what `open_authenticated_seed` gives for the origin, the subject and the envelope. -/
def fromSubjectEnvelope (serde : SerdeJson) (hkdf : Hkdf) (profile : DeterministicTokenProfile) (origin : SeedOrigin)
    (subject : String) (seed : Res (List UInt8)) : Res DeterministicTokenContext := do
  validateSubjectMode profile (some subject)
  if origin.kid ≠ profile.kid ∨ origin.subjectMode ≠ .stored then .error (.internal "stored subject seed is invalid")
  else
    let seed ← seed
    let info ← buildValidatedAad [("purpose", "subject-token-deterministic-data"), ("kid", profile.kid),
      ("profile", profile.name), ("version", "v1")]
    let key ← hkdf profile.key seed (bytesOf info) keyBytes
    build serde profile (some subject) (some key)

def key (context : DeterministicTokenContext) : List UInt8 := context.childKey.getD context.profile.key

end DeterministicTokenContext

/-! ## Tokens -/

def authenticationFailed : DynError := .invalidInput "deterministic token authentication failed"

/-- The segment must be the encoding of the bytes that it decodes to. -/
def decodeSegment (value : String) : Res (List UInt8) :=
  match Base64Url.urlSafeNoPad.decode value with
  | none => .error (.invalidInput "invalid deterministic token encoding")
  | some bytes =>
    if Base64Url.urlSafeNoPad.encode bytes ≠ value then .error (.invalidInput "invalid deterministic token encoding")
    else .ok bytes

def validateToken (token : String) : Res Unit :=
  if token.utf8ByteSize > tokenMaxChars || !token.toList.all isAscii then
    .error (.invalidInput "deterministic token exceeds maximum allowed size or is not ASCII")
  else
    match splitOnce '.' token.toList with
    | none => .error (.invalidInput "deterministic token requires two segments")
    | some (context, ciphertext) =>
      if context.isEmpty || ciphertext.isEmpty || '.' ∈ ciphertext then
        .error (.invalidInput "deterministic token requires two segments")
      else do
        let _ ← decodeSegment (String.ofList context)
        let ciphertext ← decodeSegment (String.ofList ciphertext)
        if ciphertext.length ≤ 16 then .error (.invalidInput "deterministic token ciphertext is too short") else .ok ()

namespace DeterministicTokenContext

def encode (siv : Siv) (context : DeterministicTokenContext) (plaintext : String) : Res String := do
  context.profile.validatePlaintext plaintext
  let encrypted ← siv.encrypt context.key context.aad (Utf8.encode plaintext)
  let token := Base64Url.urlSafeNoPad.encode context.aad ++ "." ++ Base64Url.urlSafeNoPad.encode encrypted
  validateToken token
  .ok token

def decode (siv : Siv) (context : DeterministicTokenContext) (token : String) : Res String := do
  validateToken token
  match splitOnce '.' token.toList with
  | none => .error (.other "validated segments")
  | some (tokenContext, ciphertext) =>
    let tokenContext ← decodeSegment (String.ofList tokenContext)
    let ciphertext ← decodeSegment (String.ofList ciphertext)
    if tokenContext ≠ context.aad then .error authenticationFailed
    else
      let plaintext ← siv.decrypt context.key context.aad ciphertext
      match Utf8.decode plaintext with
      | none => .error authenticationFailed
      | some text => .ok text

end DeterministicTokenContext

/-! ## Spellings -/

/-- The spelling of a context and a ciphertext. -/
def tokenOf (aad ciphertext : List UInt8) : String :=
  Base64Url.urlSafeNoPad.encode aad ++ "." ++ Base64Url.urlSafeNoPad.encode ciphertext

theorem decodeSegment_ok_iff {value : String} {bytes : List UInt8} :
    decodeSegment value = .ok bytes ↔ Base64Url.urlSafeNoPad.encode bytes = value := by
  unfold decodeSegment
  constructor
  · intro h
    split at h
    · cases h
    · obtain ⟨heq, h⟩ := Loop.guard_eq_ok.mp h
      cases h
      exact Decidable.not_not.mp heq
  · rintro rfl
    rw [Base64Url.urlSafeNoPad.decode_encode]
    exact Loop.guard_eq_ok.mpr ⟨by simp, rfl⟩

theorem dot_not_mem_base64 (bytes : List UInt8) : '.' ∉ (Base64Url.urlSafeNoPad.encode bytes).toList := fun h =>
  (base64_ascii bytes '.' h).2.2.2 rfl

theorem base64_ne_nil {bytes : List UInt8} (h : bytes ≠ []) : (Base64Url.urlSafeNoPad.encode bytes).toList ≠ [] := by
  intro hnil
  have hlength := Base64.length_encode bytes
  have hpos := List.length_pos_iff.mpr h
  rw [show Base64.encode bytes = (Base64Url.urlSafeNoPad.encode bytes).toList from (String.toList_ofList).symm, hnil,
    List.length_nil] at hlength
  omega

theorem base64_injective {a b : List UInt8} (h : Base64Url.urlSafeNoPad.encode a = Base64Url.urlSafeNoPad.encode b) :
    a = b := by
  have ha := Base64Url.urlSafeNoPad.decode_encode a
  rw [h, Base64Url.urlSafeNoPad.decode_encode] at ha
  exact (Option.some.inj ha).symm

theorem splitOnce_tokenOf (aad ciphertext : List UInt8) : splitOnce '.' (tokenOf aad ciphertext).toList =
    some ((Base64Url.urlSafeNoPad.encode aad).toList, (Base64Url.urlSafeNoPad.encode ciphertext).toList) := by
  refine splitOnce_some.mpr ⟨?_, dot_not_mem_base64 aad⟩
  rw [tokenOf, String.toList_append, String.toList_append, List.append_assoc]
  rfl

theorem tokenOf_ascii (aad ciphertext : List UInt8) : (tokenOf aad ciphertext).toList.all isAscii = true := by
  rw [List.all_eq_true, tokenOf]
  intro c hc
  rw [String.toList_append, String.toList_append, List.mem_append, List.mem_append] at hc
  rcases hc with (hc | hc) | hc
  · exact (base64_ascii aad c hc).1
  · rw [List.mem_singleton.mp hc]
    rfl
  · exact (base64_ascii ciphertext c hc).1

/-- An accepted token is the spelling of a context and of a ciphertext of more than 16 bytes. -/
theorem validateToken_ok_iff {token : String} : validateToken token = .ok () ↔
    token.utf8ByteSize ≤ tokenMaxChars ∧ ∃ aad ciphertext, aad ≠ [] ∧ 16 < ciphertext.length ∧
    token = tokenOf aad ciphertext := by
  unfold validateToken
  rw [Loop.guard_eq_ok]
  constructor
  · rintro ⟨hsize, h⟩
    simp only [Bool.or_eq_true, decide_eq_true_eq, not_or, gt_iff_lt, Nat.not_lt] at hsize
    refine ⟨hsize.1, ?_⟩
    split at h
    · cases h
    · rename_i context ciphertext hsplit
      obtain ⟨hnonempty, h⟩ := Loop.guard_eq_ok.mp h
      obtain ⟨aad, haad, h⟩ := Loop.bind_eq_ok.mp h
      obtain ⟨bytes, hbytes, h⟩ := Loop.bind_eq_ok.mp h
      obtain ⟨hlength, -⟩ := Loop.guard_eq_ok.mp h
      rw [decodeSegment_ok_iff] at haad hbytes
      simp only [Bool.or_eq_true, List.isEmpty_iff, decide_eq_true_eq, not_or] at hnonempty
      refine ⟨aad, bytes, ?_, Nat.lt_of_not_le hlength, ?_⟩
      · rintro rfl
        rw [Base64Url.urlSafeNoPad.encode_nil] at haad
        refine hnonempty.1.1 ?_
        rw [← String.toList_ofList (l := context), ← haad]
        rfl
      · rw [← String.ofList_toList (s := token), (splitOnce_some.mp hsplit).1, tokenOf, haad, hbytes]
        apply String.toList_inj.mp
        simp [String.toList_append]
  · rintro ⟨hsize, aad, ciphertext, haad, hlength, rfl⟩
    have hciphertext : ciphertext ≠ [] := by
      rintro rfl
      cases hlength
    refine ⟨by simp [tokenOf_ascii, hsize], ?_⟩
    rw [splitOnce_tokenOf]
    refine Loop.guard_eq_ok.mpr ⟨?_, ?_⟩
    · simp [base64_ne_nil haad, base64_ne_nil hciphertext, dot_not_mem_base64 ciphertext]
    · refine Loop.bind_eq_ok.mpr ⟨aad, ?_, Loop.bind_eq_ok.mpr ⟨ciphertext, ?_, Loop.guard_eq_ok.mpr ⟨by omega, rfl⟩⟩⟩
      · rw [decodeSegment_ok_iff, String.ofList_toList]
      · rw [decodeSegment_ok_iff, String.ofList_toList]

/-- A token is accepted when it spells the context and a ciphertext that decrypts to text. -/
theorem decode_ok_iff {siv : Siv} {context : DeterministicTokenContext} {token text : String} :
    context.decode siv token = .ok text ↔ ∃ ciphertext, token = tokenOf context.aad ciphertext ∧
      validateToken token = .ok () ∧ siv.decrypt context.key context.aad ciphertext = .ok (Utf8.encode text) := by
  unfold DeterministicTokenContext.decode
  rw [Loop.bind_unit_eq_ok]
  constructor
  · rintro ⟨hvalid, h⟩
    obtain ⟨-, aad, ciphertext, -, -, rfl⟩ := validateToken_ok_iff.mp hvalid
    rw [splitOnce_tokenOf] at h
    obtain ⟨aad', haad', hrest⟩ := Loop.bind_eq_ok.mp h
    obtain ⟨ciphertext', hciphertext', hguard⟩ := Loop.bind_eq_ok.mp hrest
    rw [decodeSegment_ok_iff, String.ofList_toList] at haad' hciphertext'
    obtain ⟨heq, hopen⟩ := Loop.guard_eq_ok.mp hguard
    obtain ⟨plaintext, hplaintext, htext⟩ := Loop.bind_eq_ok.mp hopen
    have haad : aad = context.aad := (base64_injective haad').symm.trans (Decidable.not_not.mp heq)
    rw [base64_injective hciphertext'] at hplaintext
    split at htext
    · cases htext
    · rename_i text' hdecode
      cases htext
      exact ⟨ciphertext, by rw [haad], hvalid, by rw [hplaintext, Utf8.encode_of_decode hdecode]⟩
  · rintro ⟨ciphertext, rfl, hvalid, hdecrypt⟩
    refine ⟨hvalid, ?_⟩
    rw [splitOnce_tokenOf]
    refine Loop.bind_eq_ok.mpr ⟨context.aad, ?_, Loop.bind_eq_ok.mpr ⟨ciphertext, ?_,
      Loop.guard_eq_ok.mpr ⟨by simp, ?_⟩⟩⟩
    · rw [decodeSegment_ok_iff, String.ofList_toList]
    · rw [decodeSegment_ok_iff, String.ofList_toList]
    · refine Loop.bind_eq_ok.mpr ⟨_, hdecrypt, ?_⟩
      rw [Utf8.decode_encode]

/-! ## Contexts as bytes -/

theorem tokenContext_plain (kid profile context : String) (subject : Option String) :
    (tokenContext kid profile context subject).plain = true := by
  cases subject with
  | none =>
    simp [tokenContext, Value.plain, plainEntries, plainEntry]
    decide
  | some subject =>
    simp [tokenContext, Value.plain, plainEntries, plainEntry]
    decide

theorem canonicalJson_tokenContext (serde : SerdeJson) (kid profile context : String) (subject : Option String) :
    canonicalJson serde (tokenContext kid profile context subject) =
      .ok (serde.toText (tokenContext kid profile context subject)) := by
  rw [canonicalJson, normalize_plain _ (tokenContext_plain kid profile context subject)]
  cases subject with
  | none => rfl
  | some subject => rfl

/-- The bytes of a context. -/
def aadOf (serde : SerdeJson) (kid profile context : String) (subject : Option String) : List UInt8 :=
  Utf8.encode (serde.toText (tokenContext kid profile context subject))

/-- The bytes determine the kid, the name, the labels and the subject. -/
theorem aad_injective {serde : SerdeJson} {kid kid' profile profile' context context' : String}
    {subject subject' : Option String} (h : aadOf serde kid profile context subject = aadOf serde kid' profile' context'
      subject') :
    kid = kid' ∧ profile = profile' ∧ context = context' ∧ subject = subject' := by
  have htree := toText_injective (tokenContext_plain _ _ _ _) (tokenContext_plain _ _ _ _) (Utf8.encode_injective h)
  cases subject with
  | none =>
    cases subject' with
    | none =>
      simp only [tokenContext, Value.object.injEq] at htree
      simp at htree
      simp [htree]
    | some subject' => simp [tokenContext] at htree
  | some subject =>
    cases subject' with
    | none => simp [tokenContext] at htree
    | some subject' =>
      simp only [tokenContext, Value.object.injEq] at htree
      simp at htree
      simp [htree]

/-! ## Accepted profiles and their contexts -/

/-- What holds of an accepted profile. -/
structure ProfileOk (profile : DeterministicTokenProfile) : Prop where
  name : validateAadConfigName "deterministic_tokenization_profiles.name" profile.name = .ok ()
  kid : validateKeyId profile.kid = .ok ()
  context : validateLabels "mac_profiles.context" profile.input.context macContextMaxChars = .ok ()
  lengths : 1 ≤ profile.input.minPlaintextLen.toNat ∧ profile.input.maxPlaintextLen.toNat ≤ plaintextMaxChars
  key : profile.key.length = keyBytes

theorem profileOk_of_validate {loaded : String → Bool} {derive : DeterministicTokenKeyDerivationRequest →
    Res (List UInt8)} {inputs : List DeterministicTokenProfileInput} {state : DeterministicTokenProfilesState}
    (h : validateProfiles loaded derive inputs = .ok state) : ∀ profile ∈ state.profiles, ProfileOk profile := by
  obtain ⟨profiles, hprofiles, h⟩ := Loop.bind_eq_ok.mp h
  cases h
  intro profile hmem
  obtain ⟨input, -, seenNames, h⟩ := Loop.mem_collect hprofiles profile hmem
  obtain ⟨hname, h⟩ := Loop.bind_unit_eq_ok.mp h
  obtain ⟨hkid, h⟩ := Loop.bind_unit_eq_ok.mp h
  obtain ⟨hfields, h⟩ := Loop.bind_unit_eq_ok.mp h
  obtain ⟨hlengths, h⟩ := Loop.guard_eq_ok.mp h
  obtain ⟨-, h⟩ := Loop.guard_eq_ok.mp h
  obtain ⟨-, h⟩ := Loop.guard_eq_ok.mp h
  obtain ⟨key, -, h⟩ := Loop.bind_eq_ok.mp h
  obtain ⟨hkey, h⟩ := Loop.guard_eq_ok.mp h
  cases h
  simp only [Bool.or_eq_true, decide_eq_true_eq, not_or, gt_iff_lt, Nat.not_lt] at hlengths
  exact ⟨hname, hkid, (Loop.bind_unit_eq_ok.mp hfields).2, ⟨Nat.one_le_iff_ne_zero.mpr hlengths.1.1, hlengths.2⟩,
    Decidable.not_not.mp hkey⟩

/-- The contexts of a profile: without a subject, or with one and any seed. -/
inductive ContextOf (serde : SerdeJson) (hkdf : Hkdf) (profile : DeterministicTokenProfile) :
    DeterministicTokenContext → Prop
  | new {context : DeterministicTokenContext} : DeterministicTokenContext.new serde profile = .ok context →
      ContextOf serde hkdf profile context
  | subject {origin : SeedOrigin} {subject : String} {seed : Res (List UInt8)} {context : DeterministicTokenContext} :
      DeterministicTokenContext.fromSubjectEnvelope serde hkdf profile origin subject seed = .ok context →
      ContextOf serde hkdf profile context

/-- What holds of a context. -/
structure ContextOk (serde : SerdeJson) (profile : DeterministicTokenProfile) (context : DeterministicTokenContext) :
    Prop where
  profile_eq : context.profile = profile
  aad : context.aad = aadOf serde profile.kid profile.name profile.input.context context.subject
  subject : ∀ subject, context.subject = some subject → validateSubject subject = .ok ()

theorem contextOk_of_build {serde : SerdeJson} {profile : DeterministicTokenProfile} {subject : Option String}
    {childKey : Option (List UInt8)} {context : DeterministicTokenContext}
    (h : DeterministicTokenContext.build serde profile subject childKey = .ok context)
    (hsubject : ∀ s, subject = some s → validateSubject s = .ok ()) :
    ContextOk serde profile context ∧ context.key = childKey.getD profile.key := by
  rw [DeterministicTokenContext.build, canonicalJson_tokenContext] at h
  cases h
  exact ⟨⟨rfl, rfl, hsubject⟩, rfl⟩

theorem contextOk_of_context {serde : SerdeJson} {hkdf : Hkdf} {profile : DeterministicTokenProfile}
    {context : DeterministicTokenContext} (h : ContextOf serde hkdf profile context) :
    ContextOk serde profile context := by
  cases h with
  | new h =>
    obtain ⟨-, h⟩ := Loop.bind_unit_eq_ok.mp h
    exact (contextOk_of_build h (by simp)).1
  | subject h =>
    obtain ⟨hmode, h⟩ := Loop.bind_unit_eq_ok.mp h
    obtain ⟨hsubject, -⟩ := Loop.bind_unit_eq_ok.mp hmode
    obtain ⟨-, h⟩ := Loop.guard_eq_ok.mp h
    obtain ⟨seed, -, h⟩ := Loop.bind_eq_ok.mp h
    obtain ⟨info, -, h⟩ := Loop.bind_eq_ok.mp h
    obtain ⟨key, -, h⟩ := Loop.bind_eq_ok.mp h
    exact (contextOk_of_build h (by rintro s ⟨⟩; exact hsubject)).1

theorem length_key {serde : SerdeJson} {hkdf : Hkdf} (hsized : Sized hkdf) {profile : DeterministicTokenProfile}
    (hok : ProfileOk profile) {context : DeterministicTokenContext} (h : ContextOf serde hkdf profile context) :
    context.key.length = keyBytes := by
  cases h with
  | new h =>
    obtain ⟨-, h⟩ := Loop.bind_unit_eq_ok.mp h
    rw [(contextOk_of_build h (by simp)).2]
    exact hok.key
  | subject h =>
    obtain ⟨hmode, h⟩ := Loop.bind_unit_eq_ok.mp h
    obtain ⟨hsubject, -⟩ := Loop.bind_unit_eq_ok.mp hmode
    obtain ⟨-, h⟩ := Loop.guard_eq_ok.mp h
    obtain ⟨seed, -, h⟩ := Loop.bind_eq_ok.mp h
    obtain ⟨info, -, h⟩ := Loop.bind_eq_ok.mp h
    obtain ⟨key, hkey, h⟩ := Loop.bind_eq_ok.mp h
    rw [(contextOk_of_build h (by rintro s ⟨⟩; exact hsubject)).2]
    exact hsized _ _ _ _ _ hkey

/-! ## Sizes -/

theorem bytes_bounded {field value : String} {maxChars : Nat}
    (h : validateBoundedTextField field value maxChars = .ok ()) :
    bytes (Value.string value).render ≤ 4 * maxChars + 2 := by
  obtain ⟨⟨-, hcontrol⟩, hlength⟩ := validateBoundedTextField_ok_iff.mp h
  exact bytes_clean hcontrol hlength

/-- A context has at most 2042 bytes. -/
theorem length_aad {serde : SerdeJson} {profile : DeterministicTokenProfile} {context : DeterministicTokenContext}
    (hok : ProfileOk profile) (hcontext : ContextOk serde profile context) : context.aad.length ≤ 2042 := by
  rw [hcontext.aad, aadOf, Utf8.length_encode, serde.toText_plain _ (tokenContext_plain _ _ _ _),
    Utf8.utf8ByteSize_ofList]
  show bytes _ ≤ 2042
  have h₁ := entryBytes_le (show shortKey "context" = true by rfl)
    (bytes_bounded (Loop.bind_unit_eq_ok.mp hok.context).1)
  have h₂ := entryBytes_le (show shortKey "kid" = true by rfl) (bytes_hex (validateInternalHash_ok_iff.mp hok.kid))
  have h₃ := entryBytes_le (show shortKey "profile" = true by rfl)
    (bytes_bounded (validateAadConfigName_ok_iff.mp hok.name).1)
  have hpurpose : bytes (Value.string "token-deterministic").render ≤ 4 * 19 + 2 :=
    bytes_string (by rfl) (by decide)
  have h₄ := entryBytes_le (show shortKey "purpose" = true by rfl) hpurpose
  have hversion : bytes (Value.string "v1").render ≤ 4 * 2 + 2 := bytes_string (by rfl) (by decide)
  have h₅ := entryBytes_le (show shortKey "version" = true by rfl) hversion
  simp only [macContextMaxChars] at h₁
  simp only [configNameMaxChars] at h₃
  refine Nat.le_trans (bytes_object _) ?_
  cases hsubject : context.subject with
  | none =>
    simp only [List.map_cons, List.map_nil, List.sum_cons, List.sum_nil, List.append_nil, List.cons_append,
      List.nil_append]
    omega
  | some subject =>
    have h₆ := entryBytes_le (show shortKey "subject" = true by rfl)
      (bytes_hex (validateSubject_ok (hcontext.subject subject hsubject)))
    simp only [List.map_cons, List.map_nil, List.sum_cons, List.sum_nil, List.cons_append, List.nil_append]
    omega

theorem length_plaintext (text : String) : (Utf8.encode text).length ≤ 4 * text.length := by
  rw [Utf8.length_encode, ← String.ofList_toList (s := text), Utf8.utf8ByteSize_ofList, String.length_ofList]
  exact bytes_le_length _

theorem utf8ByteSize_tokenOf (aad ciphertext : List UInt8) : (tokenOf aad ciphertext).utf8ByteSize =
    (4 * aad.length + 2) / 3 + 1 + (4 * ciphertext.length + 2) / 3 := by
  have hdot : ".".utf8ByteSize = 1 := by decide
  rw [tokenOf, String.utf8ByteSize_append, String.utf8ByteSize_append, utf8ByteSize_base64, utf8ByteSize_base64, hdot]

/-! ## Texts and tokens -/

/-- SIV encryption with a key of 64 bytes gives 16 bytes more than its input, decryption undoes it, and accepts only
ciphertexts that were encrypted under the same key and associated data. -/
structure Siv.Correct (siv : Siv) : Prop where
  encrypt : ∀ key aad plaintext, key.length = keyBytes →
    ∃ ciphertext, siv.encrypt key aad plaintext = .ok ciphertext ∧ ciphertext.length = plaintext.length + 16
  decrypt : ∀ key aad plaintext ciphertext, siv.encrypt key aad plaintext = .ok ciphertext →
    siv.decrypt key aad ciphertext = .ok plaintext
  authentic : ∀ key aad ciphertext plaintext, siv.decrypt key aad ciphertext = .ok plaintext →
    ∃ plaintext', siv.encrypt key aad plaintext' = .ok ciphertext

theorem validatePlaintext_ok_iff {profile : DeterministicTokenProfile} {text : String} :
    profile.validatePlaintext text = .ok () ↔
      profile.input.minPlaintextLen.toNat ≤ text.length ∧ text.length ≤ profile.input.maxPlaintextLen.toNat := by
  unfold DeterministicTokenProfile.validatePlaintext
  rw [Loop.guard_eq_ok]
  simp

section Tokens

variable {serde : SerdeJson} {hkdf : Hkdf} {siv : Siv} {profile : DeterministicTokenProfile}
  {context : DeterministicTokenContext}

/-- The token of an accepted text is accepted. -/
theorem validateToken_of_plaintext (hok : ProfileOk profile) (hcontext : ContextOk serde profile context)
    {text : String} (htext : profile.validatePlaintext text = .ok ()) {ciphertext : List UInt8}
    (hlength : ciphertext.length = (Utf8.encode text).length + 16) :
    validateToken (tokenOf context.aad ciphertext) = .ok () := by
  obtain ⟨hmin, hmax⟩ := validatePlaintext_ok_iff.mp htext
  obtain ⟨hone, hbound⟩ := hok.lengths
  have haad := length_aad hok hcontext
  have hupper := length_plaintext text
  have hlower := Utf8.length_le_utf8ByteSize text
  rw [← Utf8.length_encode] at hlower
  refine validateToken_ok_iff.mpr ⟨?_, context.aad, ciphertext, ?_, by omega, rfl⟩
  · rw [utf8ByteSize_tokenOf]
    simp only [plaintextMaxChars] at hbound
    simp only [tokenMaxChars]
    omega
  · rw [hcontext.aad, aadOf]
    intro hnil
    have hsize := congrArg List.length hnil
    rw [Utf8.length_encode, serde.toText_plain _ (tokenContext_plain _ _ _ _), Utf8.utf8ByteSize_ofList] at hsize
    simp only [tokenContext, Value.render, List.cons_append, List.map_cons, List.sum_cons, List.length_nil] at hsize
    have hpos := '{'.utf8Size_pos
    omega

theorem encode_ok_iff {text token : String} (hprofile : context.profile = profile) :
    context.encode siv text = .ok token ↔
    profile.validatePlaintext text = .ok () ∧ ∃ ciphertext, siv.encrypt context.key context.aad (Utf8.encode text) =
    .ok ciphertext ∧
      validateToken (tokenOf context.aad ciphertext) = .ok () ∧ token = tokenOf context.aad ciphertext := by
  unfold DeterministicTokenContext.encode
  rw [Loop.bind_unit_eq_ok, Loop.bind_eq_ok, hprofile]
  refine and_congr_right fun _ => exists_congr fun ciphertext => and_congr_right fun _ => ?_
  rw [Loop.bind_unit_eq_ok]
  exact and_congr_right fun _ => ⟨fun h => (Except.ok.inj h).symm, fun h => h ▸ rfl⟩

/-- Every accepted text has a token, which is decoded to it. -/
theorem decode_encode (hsiv : siv.Correct) (hsized : Sized hkdf) (hok : ProfileOk profile)
    (hcontext : ContextOf serde hkdf profile context) {text : String}
    (htext : profile.validatePlaintext text = .ok ()) :
    ∃ token, context.encode siv text = .ok token ∧ context.decode siv token = .ok text := by
  have hspec := contextOk_of_context hcontext
  obtain ⟨ciphertext, hencrypt, hlength⟩ := hsiv.encrypt _ context.aad (Utf8.encode text)
    (length_key hsized hok hcontext)
  have hvalid := validateToken_of_plaintext hok hspec htext hlength
  exact ⟨_, (encode_ok_iff hspec.profile_eq).mpr ⟨htext, ciphertext, hencrypt, hvalid, rfl⟩,
    decode_ok_iff.mpr ⟨ciphertext, rfl, hvalid, hsiv.decrypt _ _ _ _ hencrypt⟩⟩

/-- A token that is decoded is the token of its text. -/
theorem encode_decode (hsiv : siv.Correct) (hcontext : ContextOf serde hkdf profile context) {token text : String}
    (h : context.decode siv token = .ok text) (htext : profile.validatePlaintext text = .ok ()) :
    context.encode siv text = .ok token := by
  obtain ⟨ciphertext, htoken, hvalid, hdecrypt⟩ := decode_ok_iff.mp h
  obtain ⟨plaintext, hencrypt⟩ := hsiv.authentic _ _ _ _ hdecrypt
  have hsame := hsiv.decrypt _ _ _ _ hencrypt
  rw [hdecrypt] at hsame
  cases hsame
  exact (encode_ok_iff (contextOk_of_context hcontext).profile_eq).mpr ⟨htext, ciphertext, hencrypt, htoken ▸ hvalid,
    htoken⟩

/-- A token belongs to one kid, name, list of labels and subject. -/
theorem decode_separated {serde : SerdeJson} {hkdf' : Hkdf} {siv' : Siv} {profile' : DeterministicTokenProfile}
    {context' : DeterministicTokenContext} (hcontext : ContextOf serde hkdf profile context)
    (hcontext' : ContextOf serde hkdf' profile' context') {token text text' : String}
    (h : context.decode siv token = .ok text) (h' : context'.decode siv' token = .ok text') :
    profile.kid = profile'.kid ∧ profile.name = profile'.name ∧ profile.input.context = profile'.input.context ∧
      context.subject = context'.subject := by
  obtain ⟨ciphertext, htoken, -, -⟩ := decode_ok_iff.mp h
  obtain ⟨ciphertext', htoken', -, -⟩ := decode_ok_iff.mp h'
  have hsplit := splitOnce_tokenOf context.aad ciphertext
  rw [← htoken, htoken', splitOnce_tokenOf] at hsplit
  have haad := base64_injective (String.toList_inj.mp (congrArg Prod.fst (Option.some.inj hsplit)))
  rw [(contextOk_of_context hcontext).aad, (contextOk_of_context hcontext').aad] at haad
  obtain ⟨hkid, hname, hlabels, hsubject⟩ := aad_injective haad
  exact ⟨hkid.symm, hname.symm, hlabels.symm, hsubject.symm⟩

/-- There is a context for the mode of the profile. -/
theorem exists_context (hok : ProfileOk profile) :
    (profile.subjectMode = .none → ∃ context, DeterministicTokenContext.new serde profile = .ok context) ∧
    (profile.subjectMode = .stored → ∀ origin subject seed, validateSubject subject = .ok () →
      origin.kid = profile.kid →
      origin.subjectMode = .stored → (∀ info, ∃ key, hkdf profile.key seed info keyBytes = .ok key) →
      ∃ context, DeterministicTokenContext.fromSubjectEnvelope serde hkdf profile origin subject (.ok seed) =
      .ok context) := by
  constructor
  · intro hmode
    simp [DeterministicTokenContext.new, validateSubjectMode, hmode, DeterministicTokenContext.build,
      canonicalJson_tokenContext, bind, Except.bind]
  · intro hmode origin subject seed hsubject hkid horigin hkdf
    have hfields : ∀ field ∈ [("purpose", "subject-token-deterministic-data"), ("kid", profile.kid),
        ("profile", profile.name), ("version", "v1")], AadOk field := by
      intro field hfield
      simp only [List.mem_cons, List.not_mem_nil, or_false] at hfield
      rcases hfield with rfl | rfl | rfl | rfl
      · exact aadOk_of_validate (by rfl)
      · exact aadOk_kid (by rfl) hok.kid
      · exact aadOk_name (by rfl) hok.name
      · exact aadOk_of_validate (by rfl)
    have hinfo := buildValidatedAad_ok_iff.mpr ⟨hfields, rfl⟩
    obtain ⟨key, hkey⟩ := hkdf (bytesOf (buildAad [("purpose", "subject-token-deterministic-data"),
        ("kid", profile.kid), ("profile", profile.name), ("version", "v1")]))
    simp [DeterministicTokenContext.fromSubjectEnvelope, validateSubjectMode, hsubject, hmode, hkid, horigin,
      hinfo, hkey, DeterministicTokenContext.build, canonicalJson_tokenContext, bind, Except.bind]

/-- Every subject of the mode of a profile has a context; texts and accepted tokens of a context correspond to each
other; and contexts share no token. -/
theorem tokens_bijective (hsiv : siv.Correct) (hsized : Sized hkdf) {loaded : String → Bool}
    {derive : DeterministicTokenKeyDerivationRequest → Res (List UInt8)} {inputs : List DeterministicTokenProfileInput}
    {state : DeterministicTokenProfilesState} (hstate : validateProfiles loaded derive inputs = .ok state)
    {name : String} (hget : state.get name = some profile) :
    ((profile.subjectMode = .none → ∃ context, DeterministicTokenContext.new serde profile = .ok context) ∧
      (profile.subjectMode = .stored → ∀ origin subject seed, validateSubject subject = .ok () →
        origin.kid = profile.kid →
        origin.subjectMode = .stored → (∀ info, ∃ key, hkdf profile.key seed info keyBytes = .ok key) →
        ∃ context, DeterministicTokenContext.fromSubjectEnvelope serde hkdf profile origin subject (.ok seed) =
        .ok context)) ∧
    ∀ context, ContextOf serde hkdf profile context →
      (∀ text, profile.validatePlaintext text = .ok () →
        ∃ token, context.encode siv text = .ok token ∧ context.decode siv token = .ok text) ∧
      (∀ token text, context.decode siv token = .ok text → profile.validatePlaintext text = .ok () →
        context.encode siv text = .ok token) ∧
      ∀ hkdf' profile' context', ContextOf serde hkdf' profile' context' →
        (profile.kid, profile.name, profile.input.context, context.subject) ≠
          (profile'.kid, profile'.name, profile'.input.context, context'.subject) →
        ∀ token text, context.decode siv token = .ok text → ∃ err, context'.decode siv token = .error err := by
  have hok := profileOk_of_validate hstate profile (List.mem_of_find?_eq_some hget)
  refine ⟨exists_context hok, fun context hcontext => ⟨?_, ?_, ?_⟩⟩
  · exact fun text => decode_encode hsiv hsized hok hcontext
  · exact fun token text => encode_decode hsiv hcontext
  · intro hkdf' profile' context' hcontext' hne token text h
    cases h' : context'.decode siv token with
    | error err => exact ⟨err, rfl⟩
    | ok text' =>
      obtain ⟨hkid, hname, hlabels, hsubject⟩ := decode_separated hcontext hcontext' h h'
      exact absurd (by rw [hkid, hname, hlabels, hsubject]) hne

end Tokens

/-! ## An example -/

/-- A tag of 16 bytes in front of the plaintext. -/
def exampleTag (key aad plaintext : List UInt8) : List UInt8 :=
  List.replicate 16 ((key ++ aad ++ plaintext).foldl (· + ·) 0)

def exampleSiv : Siv where
  encrypt key aad plaintext := .ok (exampleTag key aad plaintext ++ plaintext)
  decrypt key aad ciphertext :=
    if ciphertext.take 16 = exampleTag key aad (ciphertext.drop 16) then .ok (ciphertext.drop 16)
    else .error authenticationFailed

theorem exampleSiv_correct : exampleSiv.Correct := by
  have htag : ∀ key aad plaintext, (exampleTag key aad plaintext).length = 16 := fun _ _ _ => List.length_replicate
  refine ⟨fun key aad plaintext _ => ⟨_, rfl, ?_⟩, ?_, ?_⟩
  · rw [List.length_append, htag, Nat.add_comm]
  · rintro key aad plaintext ciphertext ⟨⟩
    have htake : (exampleTag key aad plaintext ++ plaintext).take 16 = exampleTag key aad plaintext :=
      List.take_left' (htag key aad plaintext)
    have hdrop : (exampleTag key aad plaintext ++ plaintext).drop 16 = plaintext :=
      List.drop_left' (htag key aad plaintext)
    simp only [exampleSiv, htake, hdrop, ↓reduceIte]
  · intro key aad ciphertext plaintext h
    obtain ⟨htake, h⟩ := Loop.check_eq_ok.mp h
    cases h
    refine ⟨ciphertext.drop 16, ?_⟩
    show Except.ok (exampleTag key aad (ciphertext.drop 16) ++ ciphertext.drop 16) = Except.ok ciphertext
    rw [← htake, List.take_append_drop]

def exampleHkdf : Hkdf := fun _ _ _ length => .ok (List.replicate length 1)

def exampleInput : DeterministicTokenProfileInput where
  name := "email-v1"
  kid := "aaaaaaaaaaaaaaaaaaaaaaaaaaaaaaaaaaaaaaaaaaaaaaaaaaaaaaaaaaaaaaaa"
  context := "tenant=acme;field=email;version=1"
  minPlaintextLen := 1
  maxPlaintextLen := 16384
  subjectMode := .none

theorem tokens_bijective_example : ∃ state profile context token,
    validateProfiles (fun _ => true) (fun _ => .ok (List.replicate 64 7)) [exampleInput] = .ok state ∧
    state.get "email-v1" = some profile ∧ DeterministicTokenContext.new .compact profile = .ok context ∧
    context.encode exampleSiv "hello" = .ok token ∧ context.decode exampleSiv token = .ok "hello" := by
  have hsized : Sized exampleHkdf := by
    rintro inputKey salt info length output ⟨⟩
    exact List.length_replicate
  obtain ⟨⟨hcontext, -⟩, htokens⟩ := @tokens_bijective .compact exampleHkdf exampleSiv _ exampleSiv_correct hsized
    (fun _ => true) (fun _ => .ok (List.replicate 64 7)) [exampleInput] _ rfl "email-v1" rfl
  obtain ⟨context, hcontext⟩ := hcontext rfl
  obtain ⟨htexts, -⟩ := htokens context (.new hcontext)
  obtain ⟨token, htoken⟩ := htexts "hello" rfl
  exact ⟨_, _, context, token, rfl, rfl, hcontext, htoken⟩

end Vectis.Core.DeterministicTokenization
